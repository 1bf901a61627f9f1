import Mathlib.Data.List.Nodup
import OpenIKED.Policy.Moves
import OpenIKED.Shared.Linked

set_option autoImplicit false

/-!
# Policies outlive the SAs that point to them

`Inv` is what the reference counting of `policy.c` and `config.c` is meant to keep: every SA
is on the list of the policy it points to and on no other (`Linked`), a counted policy
counts its list, an uncounted one is in `sc_policies`, and nothing freed is touched.  Each
SA event moves one SA from a policy to another (`Env.relink`), and `config_free_policy`
takes a policy out of `sc_policies` (`Env.retire`); both keep `Inv`.  Every event but the
reset keeps `DefaultListed` besides, so runs without a reset keep both.  `config_doreset`
keeps `Inv` and breaks `DefaultListed`: `sc_defaultcon` is left pointing to a policy it
released, which the next default policy frees again.
-/

namespace OpenIKED.Policy.Refcnt

open OpenIKED.Shared

/-! ## The invariant -/

-- A policy's count and place: a counted policy counts the SAs on its list, an uncounted one
-- is in `sc_policies` and counts nothing.
def PolOk (policies : List PolId) (p : PolId) (pol : PolicyRefs) : Prop :=
  (pol.polRefcntFlag = true → pol.polRefcnt = pol.polSapeers.length) ∧
    (pol.polRefcntFlag = false → pol.polRefcnt = 0 ∧ p ∈ policies)

structure Inv (env : Env) : Prop where
  safe : env.fault = false
  linked : Linked env.ptr env.peers
  pols : ∀ p pol, env.pols p = some pol → PolOk env.scPolicies p pol
  listed : ∀ p ∈ env.scPolicies, ∃ pol, env.pols p = some pol ∧ pol.polRefcntFlag = false
  nodup : env.scPolicies.Nodup
  freshPol : ∀ p, env.nextPol ≤ p → env.pols p = none
  freshSa : ∀ sa, env.nextSa ≤ sa → env.sas sa = none

-- `sc_defaultcon` is a policy of `sc_policies`.
def DefaultListed (env : Env) : Prop := ∀ p, env.scDefaultcon = some p → p ∈ env.scPolicies

section Inv

variable {env : Env}

theorem Inv.peers_of_pols (inv : Inv env) {p : PolId} {pol : PolicyRefs} (at_ : env.pols p = some pol)
    {sa : SaId} : sa ∈ pol.polSapeers ↔ env.ptr sa = some p := by
  have := inv.linked.mem_iff sa p
  simp only [Env.peers, at_, Option.map_some, Option.getD_some] at this
  exact this

theorem Inv.pols_of_ptr (inv : Inv env) {sa : SaId} {p : PolId} (points : env.ptr sa = some p) :
    ∃ pol, env.pols p = some pol ∧ sa ∈ pol.polSapeers := by
  have member := (inv.linked.mem_iff sa p).mpr points
  unfold Env.peers at member
  cases at_ : env.pols p with
  | none => simp [at_] at member
  | some pol => exact ⟨pol, rfl, by simpa [at_] using member⟩

/-- What the policy an SA points to is: alive, and either in `sc_policies` or counted with
at least this SA. -/
theorem Inv.live_of_ptr (inv : Inv env) {sa : SaId} {p : PolId} (points : env.ptr sa = some p) :
    ∃ pol, env.pols p = some pol ∧
      (p ∈ env.scPolicies ∨ pol.polRefcntFlag = true ∧ 1 ≤ pol.polRefcnt) := by
  obtain ⟨pol, at_, member⟩ := inv.pols_of_ptr points
  refine ⟨pol, at_, ?_⟩
  cases flag : pol.polRefcntFlag with
  | false => exact .inl ((inv.pols p pol at_).2 flag).2
  | true =>
    have count := (inv.pols p pol at_).1 flag
    have pos := List.length_pos_of_mem member
    exact .inr ⟨rfl, by omega⟩

theorem Inv.lt_of_pols (inv : Inv env) {p : PolId} {pol : PolicyRefs} (at_ : env.pols p = some pol) :
    p < env.nextPol := by
  by_contra late
  rw [inv.freshPol p (Nat.le_of_not_lt late)] at at_
  cases at_

theorem Inv.lt_of_sas (inv : Inv env) {sa : SaId} {s : IkedSa} (live : env.sas sa = some s) :
    sa < env.nextSa := by
  by_contra late
  rw [inv.freshSa sa (Nat.le_of_not_lt late)] at live
  cases live

end Inv

/-! ## The moves keep the invariant -/

section Update

variable {pols : PolId → Option PolicyRefs} {policies : List PolId} {p : PolId} {x : Option PolicyRefs}

-- A record written at `p` keeps the counts and places of the others.
theorem polOk_update (others : ∀ p' pol, pols p' = some pol → p' ≠ p → PolOk policies p' pol)
    (new : ∀ pol, x = some pol → PolOk policies p pol) :
    ∀ p' pol, Function.update pols p x p' = some pol → PolOk policies p' pol := by
  intro p' pol at_
  by_cases same : p' = p
  · subst same
    exact new pol (by simpa using at_)
  · exact others p' pol (by simpa [Function.update_of_ne same] using at_) same

theorem listed_update (others : ∀ p' ∈ policies, p' ≠ p → ∃ pol, pols p' = some pol ∧ pol.polRefcntFlag = false)
    (new : p ∈ policies → ∃ pol, x = some pol ∧ pol.polRefcntFlag = false) :
    ∀ p' ∈ policies, ∃ pol, Function.update pols p x p' = some pol ∧ pol.polRefcntFlag = false := by
  intro p' listed
  by_cases same : p' = p
  · subst same
    simpa using new listed
  · simpa [Function.update_of_ne same] using others p' listed same

theorem fresh_update {α : Type} {m : Nat → Option α} {next k : Nat} {y : Option α}
    (fresh : ∀ k, next ≤ k → m k = none) (lt : k < next) :
    ∀ k', next ≤ k' → Function.update m k y k' = none := by
  intro k' late
  rw [Function.update_of_ne (by omega)]
  exact fresh k' late

end Update

section Records

variable {policies : List PolId} {p : PolId} {pol : PolicyRefs} {sa : SaId}

theorem unrefCount_uncounted (uncounted : pol.polRefcntFlag = false) : unrefCount pol = some pol := by
  simp [unrefCount, uncounted]

theorem refCount_uncounted (uncounted : pol.polRefcntFlag = false) : refCount pol = pol := by
  simp [refCount, uncounted]

-- The list `policy_unref` leaves: the count follows the list, so a count that drops to
-- zero frees a policy whose list is empty.
theorem unrefCount_erasePeer_peers (ok : PolOk policies p pol) (mem : sa ∈ pol.polSapeers) :
    ((unrefCount (erasePeer sa pol)).map PolicyRefs.polSapeers).getD [] = pol.polSapeers.erase sa := by
  cases flag : pol.polRefcntFlag with
  | false => simp [unrefCount, erasePeer, flag]
  | true =>
    have count := ok.1 flag
    have shorter := List.length_erase_of_mem mem
    have pos := List.length_pos_of_mem mem
    by_cases last : pol.polRefcnt - 1 ≤ 0
    · have empty : (pol.polSapeers.erase sa).length = 0 := by omega
      simp [unrefCount, erasePeer, flag, last, List.eq_nil_of_length_eq_zero empty]
    · simp [unrefCount, erasePeer, flag, last]

theorem unrefCount_erasePeer_ok (ok : PolOk policies p pol) (mem : sa ∈ pol.polSapeers) :
    ∀ pol', unrefCount (erasePeer sa pol) = some pol' → PolOk policies p pol' := by
  intro pol' result
  cases flag : pol.polRefcntFlag with
  | false =>
    simp only [unrefCount, erasePeer, flag, Bool.not_false, if_true, Option.some.injEq] at result
    subst result
    exact ⟨by simp, fun _ => ok.2 flag⟩
  | true =>
    have count := ok.1 flag
    have shorter := List.length_erase_of_mem mem
    have pos := List.length_pos_of_mem mem
    by_cases last : pol.polRefcnt - 1 ≤ 0
    · simp [unrefCount, erasePeer, flag, last] at result
    · simp only [unrefCount, erasePeer, flag, last, Bool.not_true, Bool.false_eq_true, if_false,
        Option.some.injEq] at result
      subst result
      refine ⟨fun _ => ?_, by simp⟩
      simp only [shorter]
      omega

end Records

section Keep

variable {env : Env} {sa : SaId} {s : IkedSa}

theorem unlink_scPolicies (o : Option PolId) : (env.unlink sa o).scPolicies = env.scPolicies := by
  cases o <;> simp [Env.unlink]

theorem unlink_scDefaultcon (o : Option PolId) : (env.unlink sa o).scDefaultcon = env.scDefaultcon := by
  cases o <;> simp [Env.unlink]

theorem link_scPolicies (q : Option PolId) : (env.link sa q).scPolicies = env.scPolicies := by
  cases q <;> simp [Env.link]

theorem link_scDefaultcon (q : Option PolId) : (env.link sa q).scDefaultcon = env.scDefaultcon := by
  cases q <;> simp [Env.link]

theorem link_setSa (sa' : SaId) (x : Option IkedSa) (q : Option PolId) :
    (env.setSa sa' x).link sa q = (env.link sa q).setSa sa' x := by
  cases q with
  | none => rfl
  | some q => exact Env.modify_setSa _ sa' x

-- Unlinking an SA from its policy, with its pointer cleared.
theorem Inv.unlink (inv : Inv env) (live : env.sas sa = some s) :
    Inv ((env.unlink sa s.saPolicy).setSa sa (some ⟨none⟩)) := by
  cases old : s.saPolicy with
  | none =>
    have cleared : s = ⟨none⟩ := by
      cases s
      simp_all
    rw [Env.unlink, ← cleared, Env.setSa_of_eq live]
    exact inv
  | some p =>
    have points : env.ptr sa = some p := by simp [Env.ptr, live, old]
    obtain ⟨pol, at_, mem⟩ := inv.pols_of_ptr points
    have ok := inv.pols p pol at_
    rw [Env.unlink, Env.modify_of_some at_]
    refine ⟨by simpa using inv.safe, ?_, ?_, ?_, by simpa using inv.nodup, ?_, ?_⟩
    · rw [ptr_setSa, ptr_setPol, peers_setSa, peers_setPol, unrefCount_erasePeer_peers ok mem]
      have detached := inv.linked.detach points
      simpa [Env.peers, at_] using detached
    · simpa using polOk_update (fun p' pol' at' _ => inv.pols p' pol' at') (unrefCount_erasePeer_ok ok mem)
    · refine listed_update (fun p' listed _ => inv.listed p' listed) fun _ => ?_
      have uncounted : pol.polRefcntFlag = false := by
        obtain ⟨pol', at', uncounted⟩ := inv.listed p ‹_›
        rw [at_] at at'
        cases at'
        exact uncounted
      exact ⟨erasePeer sa pol, unrefCount_uncounted (by simpa [erasePeer] using uncounted),
        by simpa [erasePeer] using uncounted⟩
    · simpa using fresh_update inv.freshPol (inv.lt_of_pols at_)
    · simpa using fresh_update inv.freshSa (inv.lt_of_sas live)

-- Linking an SA that points nowhere to a policy of `sc_policies`.
theorem Inv.link (inv : Inv env) (live : env.sas sa = some ⟨none⟩) {q : Option PolId}
    (target : ∀ x, q = some x → x ∈ env.scPolicies) : Inv ((env.link sa q).setSa sa (some ⟨q⟩)) := by
  cases q with
  | none =>
    rw [Env.link, Env.setSa_of_eq live]
    exact inv
  | some x =>
    obtain ⟨pol, at_, uncounted⟩ := inv.listed x (target x rfl)
    have ok := inv.pols x pol at_
    have unset : env.ptr sa = none := by simp [Env.ptr, live]
    rw [Env.link, Env.modify_of_some at_, refCount_uncounted (by simpa [appendPeer] using uncounted)]
    refine ⟨by simpa using inv.safe, ?_, ?_, ?_, by simpa using inv.nodup, ?_, ?_⟩
    · rw [ptr_setSa, ptr_setPol, peers_setSa, peers_setPol]
      have attached := inv.linked.attach unset x
      simpa [Env.peers, at_, appendPeer] using attached
    · refine polOk_update (fun p' pol' at' _ => inv.pols p' pol' at') fun pol' new => ?_
      cases new
      exact ⟨by simp [appendPeer, uncounted], fun _ => ok.2 uncounted⟩
    · simpa using listed_update (fun p' listed _ => inv.listed p' listed)
        fun _ => ⟨appendPeer sa pol, rfl, by simpa [appendPeer] using uncounted⟩
    · simpa using fresh_update inv.freshPol (inv.lt_of_pols at_)
    · simpa using fresh_update inv.freshSa (inv.lt_of_sas live)

-- Freeing an SA that points nowhere.
theorem Inv.drop (inv : Inv env) (live : env.sas sa = some ⟨none⟩) : Inv (env.setSa sa none) := by
  have unset : env.ptr sa = none := by simp [Env.ptr, live]
  refine ⟨by simpa using inv.safe, ?_, by simpa using inv.pols, by simpa using inv.listed,
    by simpa using inv.nodup, by simpa using inv.freshPol, ?_⟩
  · rw [ptr_setSa, peers_setSa, Option.bind_none, ← unset, Function.update_eq_self]
    exact inv.linked
  · simpa using fresh_update inv.freshSa (inv.lt_of_sas live)

theorem Inv.addSa (inv : Inv env) : Inv env.addSa := by
  have unused := inv.freshSa env.nextSa (Nat.le_refl _)
  refine ⟨inv.safe, ?_, inv.pols, inv.listed, inv.nodup, inv.freshPol, ?_⟩
  · have same : env.addSa.ptr = env.ptr := by
      funext sa
      by_cases new : sa = env.nextSa
      · subst new
        simp [Env.addSa, Env.ptr, unused]
      · simp [Env.addSa, Env.ptr, Function.update_of_ne new]
    rw [same]
    exact inv.linked
  · intro sa late
    have after : env.nextSa < sa := Nat.lt_of_succ_le late
    simp only [Env.addSa]
    rw [Function.update_of_ne (Nat.ne_of_gt after)]
    exact inv.freshSa sa (Nat.le_of_lt after)

theorem Inv.relink (inv : Inv env) (live : env.sas sa = some s) {q : Option PolId}
    (target : ∀ x, q = some x → x ∈ env.scPolicies) : Inv (env.relink sa s.saPolicy q) := by
  have detached := inv.unlink live
  have cleared : ((env.unlink sa s.saPolicy).setSa sa (some ⟨none⟩)).sas sa = some ⟨none⟩ := by simp
  have moved := detached.link cleared (by simpa [unlink_scPolicies] using target)
  rwa [link_setSa, Env.setSa_setSa] at moved

theorem Inv.release (inv : Inv env) (live : env.sas sa = some s) : Inv (env.release sa s.saPolicy) := by
  have detached := inv.unlink live
  have cleared : ((env.unlink sa s.saPolicy).setSa sa (some ⟨none⟩)).sas sa = some ⟨none⟩ := by simp
  have dropped := detached.drop cleared
  rwa [Env.setSa_setSa] at dropped

end Keep

section Policies

variable {env : Env} {p : PolId}

theorem PolOk.mono {policies policies' : List PolId} {pol : PolicyRefs} (ok : PolOk policies p pol)
    (sub : p ∈ policies → p ∈ policies') : PolOk policies' p pol :=
  ⟨ok.1, fun uncounted => ⟨(ok.2 uncounted).1, sub (ok.2 uncounted).2⟩⟩

theorem Inv.setDefault (inv : Inv env) (c : Option PolId) : Inv { env with scDefaultcon := c } :=
  ⟨inv.safe, inv.linked, inv.pols, inv.listed, inv.nodup, inv.freshPol, inv.freshSa⟩

theorem Inv.addPolicy (inv : Inv env) (isDefault : Bool) : Inv (env.addPolicy isDefault) := by
  have unused := inv.freshPol env.nextPol (Nat.le_refl _)
  have unlisted : env.nextPol ∉ env.scPolicies := fun listed => by
    obtain ⟨pol, at_, _⟩ := inv.listed _ listed
    rw [unused] at at_
    cases at_
  refine ⟨inv.safe, ?_, ?_, ?_, ?_, ?_, inv.freshSa⟩
  · have same : (env.addPolicy isDefault).peers = env.peers := by
      funext p
      by_cases new : p = env.nextPol
      · subst new
        simp [Env.addPolicy, Env.peers, unused]
      · simp [Env.addPolicy, Env.peers, Function.update_of_ne new]
    rw [same]
    exact inv.linked
  · refine polOk_update (fun p' pol at_ _ => (inv.pols p' pol at_).mono ?_) fun pol new => ?_
    · simp [Env.addPolicy]
      exact Or.inl
    · cases new
      exact ⟨by simp, fun _ => ⟨rfl, by simp [Env.addPolicy]⟩⟩
  · refine listed_update (fun p' listed new => ?_) fun _ => ⟨_, rfl, rfl⟩
    simp only [Env.addPolicy, List.mem_append, List.mem_singleton, new, or_false] at listed
    exact inv.listed p' listed
  · rw [Env.addPolicy, ← List.concat_eq_append]
    exact inv.nodup.concat unlisted
  · intro p late
    have after : env.nextPol < p := Nat.lt_of_succ_le late
    simp only [Env.addPolicy]
    rw [Function.update_of_ne (Nat.ne_of_gt after)]
    exact inv.freshPol p (Nat.le_of_lt after)

theorem configFreePolicy_listed (inv : Inv env) (listed : p ∈ env.scPolicies) :
    configFreePolicy env p = env.retire p := by
  obtain ⟨pol, at_, uncounted⟩ := inv.listed p listed
  have zero := ((inv.pols p pol at_).2 uncounted).1
  let unlisted := (env.setPol p (some { pol with polRefcntFlag := true })).unlist p
  have flagged : unlisted.pols p = some { pol with polRefcntFlag := true } := by simp [unlisted]
  have counted := refLinked_counted pol.polSapeers unlisted _ flagged rfl (fun sa mem => by
    rw [ptr_unlist, ptr_setPol]
    exact (inv.peers_of_pols at_).mp mem)
  simp only [configFreePolicy, at_, uncounted, Bool.false_eq_true, if_false]
  rw [counted, setPol_pols_self, Env.retire, Env.modify_of_some (by simpa using at_)]
  dsimp only [unlisted]
  rw [Env.unlist_setPol, Env.setPol_setPol]
  by_cases empty : pol.polSapeers = []
  · simp [countRecord, empty, zero, Env.setPol_setPol]
  · simp [countRecord, empty, zero]

theorem Inv.retire (inv : Inv env) (listed : p ∈ env.scPolicies) : Inv (env.retire p) := by
  obtain ⟨pol, at_, uncounted⟩ := inv.listed p listed
  rw [Env.retire, Env.modify_of_some (by simpa using at_)]
  refine ⟨by simpa using inv.safe, ?_, ?_, ?_, by simpa using inv.nodup.erase p, ?_, by simpa using inv.freshSa⟩
  · -- the list stays, freed or not: no SA points to a policy with an empty list
    have same : ((env.unlist p).setPol p (countRecord pol)).peers = env.peers := by
      rw [peers_setPol, peers_unlist]
      funext p'
      by_cases here : p' = p
      · subst here
        by_cases empty : pol.polSapeers = [] <;> simp [countRecord, empty, Env.peers, at_]
      · simp [Function.update_of_ne here]
    rw [same, ptr_setPol, ptr_unlist]
    exact inv.linked
  · simp only [setPol_pols, setPol_scPolicies, unlist_pols, unlist_scPolicies]
    refine polOk_update (fun p' pol' at' other => (inv.pols p' pol' at').mono fun listed' =>
      (List.mem_erase_of_ne other).mpr listed') fun pol' new => ?_
    by_cases empty : pol.polSapeers = []
    · simp [countRecord, empty] at new
    · simp only [countRecord, empty, if_false, Option.some.injEq] at new
      subst new
      exact ⟨fun _ => rfl, by simp⟩
  · simp only [setPol_pols, setPol_scPolicies, unlist_pols, unlist_scPolicies]
    refine listed_update (fun p' listed' _ => inv.listed p' (List.mem_of_mem_erase listed')) fun listed' => ?_
    exact absurd listed' (inv.nodup.not_mem_erase)
  · simpa using fresh_update inv.freshPol (inv.lt_of_pols at_)

end Policies

/-! ## The reset -/

section Reset

variable {env : Env}

theorem retire_scPolicies (p : PolId) : (env.retire p).scPolicies = env.scPolicies.erase p := by
  simp [Env.retire]

theorem retire_pols_self (p : PolId) : (env.retire p).pols p = (env.pols p).bind countRecord := by
  cases at_ : env.pols p with
  | none => simpa [Env.retire, Env.modify_of_none (show (env.unlist p).pols p = none from at_)] using at_
  | some pol => simp [Env.retire, Env.modify_of_some (show (env.unlist p).pols p = some pol from at_)]

-- What every retirement keeps, the whole reset keeps.
theorem foldl_retire_keep {β : Type} (g : Env → β) (keep : ∀ env p, g (env.retire p) = g env)
    (L : List PolId) : ∀ env, g (L.foldl Env.retire env) = g env := by
  induction L with
  | nil => intro env; rfl
  | cons p rest ih =>
    intro env
    rw [List.foldl_cons, ih, keep]

theorem foldl_retire_scPolicies (L : List PolId) :
    ∀ env, (L.foldl Env.retire env).scPolicies = L.foldl List.erase env.scPolicies := by
  induction L with
  | nil => intro env; rfl
  | cons p rest ih =>
    intro env
    rw [List.foldl_cons, ih, retire_scPolicies, List.foldl_cons]

-- Erasing the entries of a list in its own order leaves nothing.
theorem foldl_erase_self (l : List PolId) : l.foldl List.erase l = [] := by
  induction l with
  | nil => rfl
  | cons p rest ih => rw [List.foldl_cons, List.erase_cons_head, ih]

theorem foldl_retire_pols_of_not_mem (L : List PolId) :
    ∀ env p, p ∉ L → (L.foldl Env.retire env).pols p = env.pols p := by
  induction L with
  | nil => intro env p _; rfl
  | cons p' rest ih =>
    intro env p absent
    have other : p ≠ p' := fun same => absent (same ▸ List.mem_cons_self)
    rw [List.foldl_cons, ih _ _ (fun mem => absent (List.mem_cons_of_mem p' mem)), Env.retire,
      modify_pols_of_ne _ other]
    rfl

theorem foldl_retire_pols (L : List PolId) :
    ∀ env p, L.Nodup → p ∈ L → (L.foldl Env.retire env).pols p = (env.pols p).bind countRecord := by
  induction L with
  | nil => intro env p _ mem; cases mem
  | cons p' rest ih =>
    intro env p nodup mem
    rw [List.foldl_cons]
    by_cases same : p = p'
    · subst same
      rw [foldl_retire_pols_of_not_mem rest _ p (List.nodup_cons.mp nodup).1, retire_pols_self]
    · rw [ih _ _ (List.nodup_cons.mp nodup).2 (List.mem_of_ne_of_mem same mem), Env.retire,
        modify_pols_of_ne _ same]
      rfl

-- `config_doreset` frees the policies of `sc_policies` in their order; each is still listed
-- when its turn comes, since the ones before only take themselves out.
theorem foldl_configFreePolicy (L : List PolId) :
    ∀ env, Inv env → L.Nodup → (∀ p ∈ L, p ∈ env.scPolicies) →
      L.foldl configFreePolicy env = L.foldl Env.retire env ∧ Inv (L.foldl Env.retire env) := by
  induction L with
  | nil =>
    intro env inv _ _
    exact ⟨rfl, inv⟩
  | cons p rest ih =>
    intro env inv nodup listed
    have here := listed p List.mem_cons_self
    have later : ∀ p' ∈ rest, p' ∈ (env.retire p).scPolicies := by
      intro p' mem
      have other : p' ≠ p := fun same => (List.nodup_cons.mp nodup).1 (same ▸ mem)
      rw [retire_scPolicies]
      exact (List.mem_erase_of_ne other).mpr (listed p' (List.mem_cons_of_mem p mem))
    rw [List.foldl_cons, List.foldl_cons, configFreePolicy_listed inv here]
    exact ih (env.retire p) (inv.retire here) (List.nodup_cons.mp nodup).2 later

theorem configDoreset_eq (inv : Inv env) : configDoreset env = env.scPolicies.foldl Env.retire env :=
  (foldl_configFreePolicy env.scPolicies env inv inv.nodup fun _ => id).1

theorem Inv.configDoreset (inv : Inv env) : Inv (configDoreset env) := by
  rw [configDoreset_eq inv]
  exact (foldl_configFreePolicy env.scPolicies env inv inv.nodup fun _ => id).2

end Reset

/-! ## Runs without a reset -/

section Step

variable {env : Env}

theorem DefaultListed.listed_of_found (dflt : DefaultListed env) {p : PolId} (found : Found env p = true) :
    p ∈ env.scPolicies := by
  simp only [Found, Bool.or_eq_true, decide_eq_true_eq, beq_iff_eq] at found
  rcases found with listed | isDefault
  · exact listed
  · exact dflt p isDefault

theorem exists_of_hasPolicy {sa : SaId} (has : HasPolicy env sa = true) :
    ∃ s o, env.sas sa = some s ∧ s.saPolicy = some o := by
  unfold HasPolicy at has
  cases live : env.sas sa with
  | none => simp [live] at has
  | some s =>
    obtain ⟨o, old⟩ := Option.isSome_iff_exists.mp (by simpa [live] using has)
    exact ⟨s, o, rfl, old⟩

theorem configGetcompile_of_inv (inv : Inv env) : configGetcompile env = env := by
  have live : (env.scPolicies.all fun p => (env.pols p).isSome) = true := by
    rw [List.all_eq_true]
    intro p listed
    obtain ⟨pol, at_, _⟩ := inv.listed p listed
    simp [at_]
  simp [configGetcompile, live]

-- An SA moved to a policy of `sc_policies` keeps both invariants.
theorem keeps_relink (inv : Inv env) (dflt : DefaultListed env) {sa : SaId} {s : IkedSa} {o q : Option PolId}
    (live : env.sas sa = some s) (old : s.saPolicy = o) (target : ∀ x, q = some x → x ∈ env.scPolicies) :
    Inv (env.relink sa o q) ∧ DefaultListed (env.relink sa o q) := by
  subst old
  refine ⟨inv.relink live target, fun p isDefault => ?_⟩
  simp only [Env.relink, setSa_scPolicies, setSa_scDefaultcon, link_scPolicies, link_scDefaultcon,
    unlink_scPolicies, unlink_scDefaultcon] at isDefault ⊢
  exact dflt p isDefault

theorem keeps_release (inv : Inv env) (dflt : DefaultListed env) {sa : SaId} {s : IkedSa}
    (live : env.sas sa = some s) : Inv (env.release sa s.saPolicy) ∧ DefaultListed (env.release sa s.saPolicy) := by
  refine ⟨inv.release live, fun p isDefault => ?_⟩
  simp only [Env.release, setSa_scPolicies, setSa_scDefaultcon, unlink_scPolicies,
    unlink_scDefaultcon] at isDefault ⊢
  exact dflt p isDefault

theorem keeps_getpolicy (inv : Inv env) (dflt : DefaultListed env) (isDefault : Bool) :
    Inv (configGetpolicy env isDefault) ∧ DefaultListed (configGetpolicy env isDefault) := by
  have added := inv.addPolicy isDefault
  cases isDefault with
  | false =>
    rw [configGetpolicy_false]
    refine ⟨added, fun p isDefault => ?_⟩
    simp only [Env.addPolicy, List.mem_append] at isDefault ⊢
    exact .inl (dflt p isDefault)
  | true =>
    cases dc : env.scDefaultcon with
    | none =>
      rw [configGetpolicy_first dc]
      refine ⟨added.setDefault _, fun p isDefault => ?_⟩
      cases isDefault
      simp [Env.addPolicy]
    | some old =>
      -- the old default leaves `sc_policies`, the new one is in it
      have listed : old ∈ (env.addPolicy true).scPolicies := by
        simp only [Env.addPolicy, List.mem_append]
        exact .inl (dflt old dc)
      have fresh : env.nextPol ≠ old := by
        obtain ⟨pol, at_, _⟩ := inv.listed old (dflt old dc)
        exact Nat.ne_of_gt (inv.lt_of_pols at_)
      rw [configGetpolicy_replace dc, configFreePolicy_listed added listed]
      refine ⟨(added.retire listed).setDefault _, fun p isDefault => ?_⟩
      cases isDefault
      rw [retire_scPolicies]
      exact (List.mem_erase_of_ne fresh).mpr (by simp [Env.addPolicy])

-- Every event but the reset keeps both invariants; the SA events through their moves.
theorem inv_step (inv : Inv env) (dflt : DefaultListed env) (e : Event) (kept : e ≠ .resetPolicy) :
    Inv (step env e) ∧ DefaultListed (step env e) := by
  cases e with
  | getpolicy isDefault => exact keeps_getpolicy inv dflt isDefault
  | getcompile =>
    rw [step, configGetcompile_of_inv inv]
    exact ⟨inv, dflt⟩
  | resetPolicy => exact absurd rfl kept
  | saNew p =>
    simp only [step]
    split
    · next found =>
      have listed := dflt.listed_of_found found
      have live : env.addSa.sas env.nextSa = some ⟨none⟩ := by simp [Env.addSa]
      rw [saNew_eq]
      exact keeps_relink inv.addSa (dflt : DefaultListed env.addSa) live rfl fun x chosen => by
        cases chosen
        exact listed
    · exact ⟨inv, dflt⟩
  | freeSa sa =>
    simp only [step]
    split
    · next isLive =>
      obtain ⟨s, live⟩ := Option.isSome_iff_exists.mp isLive
      rw [configFreeSa_eq live]
      exact keeps_release inv dflt live
    · exact ⟨inv, dflt⟩
  | saResponder sa found =>
    simp only [step]
    split
    · next guard =>
      obtain ⟨has, allFound⟩ := Bool.and_eq_true_iff.mp guard
      obtain ⟨s, o, live, old⟩ := exists_of_hasPolicy has
      cases found with
      | none =>
        simp only [ikev2SaResponder, live]
        exact ⟨inv, dflt⟩
      | some q =>
        have listed := dflt.listed_of_found (by simpa using allFound)
        obtain ⟨pol, at_, uncounted⟩ := inv.listed q listed
        rw [ikev2SaResponder_eq live old at_ uncounted]
        exact keeps_relink inv dflt live old fun x chosen => by
          cases chosen
          exact listed
    · exact ⟨inv, dflt⟩
  | authRecvResponder sa found =>
    simp only [step]
    split
    · next guard =>
      obtain ⟨has, allFound⟩ := Bool.and_eq_true_iff.mp guard
      obtain ⟨s, o, live, old⟩ := exists_of_hasPolicy has
      cases found with
      | none =>
        rw [ikev2IkeAuthRecvResponder_none live old]
        exact keeps_relink inv dflt live old fun x chosen => by cases chosen
      | some q =>
        by_cases same : q = o
        · subst same
          rw [ikev2IkeAuthRecvResponder_same live old]
          exact ⟨inv, dflt⟩
        · have listed := dflt.listed_of_found (by simpa using allFound)
          rw [ikev2IkeAuthRecvResponder_other live old same]
          exact keeps_relink inv dflt live old fun x chosen => by
            cases chosen
            exact listed
    · exact ⟨inv, dflt⟩
  | authRecvInitiator sa same =>
    simp only [step]
    split
    · next has =>
      obtain ⟨s, o, live, old⟩ := exists_of_hasPolicy has
      cases same with
      | false =>
        rw [ikev2IkeAuthRecvInitiator_other live old]
        exact keeps_relink inv dflt live old fun x chosen => by cases chosen
      | true =>
        simp only [ikev2IkeAuthRecvInitiator, live, if_true]
        exact ⟨inv, dflt⟩
    · exact ⟨inv, dflt⟩
  | reload sa found =>
    simp only [step]
    split
    · next guard =>
      obtain ⟨isLive, allListed⟩ := Bool.and_eq_true_iff.mp guard
      obtain ⟨s, live⟩ := Option.isSome_iff_exists.mp isLive
      cases old : s.saPolicy with
      | none =>
        simp only [reloadRelookup, live, old]
        exact ⟨inv, dflt⟩
      | some o =>
        obtain ⟨pol, at_, _⟩ := inv.pols_of_ptr (show env.ptr sa = some o by simp [Env.ptr, live, old])
        cases found with
        | none =>
          simp only [reloadRelookup, live, old, at_]
          exact ⟨inv, dflt⟩
        | some q =>
          by_cases same : o = q
          · subst same
            rw [reloadRelookup_same live old at_]
            exact ⟨inv, dflt⟩
          · rw [reloadRelookup_other live old at_ same]
            exact keeps_relink inv dflt live old fun x chosen => by
              cases chosen
              simpa using allListed
    · exact ⟨inv, dflt⟩

theorem inv_run (events : List Event) (noReset : Event.resetPolicy ∉ events) :
    ∀ env, Inv env → DefaultListed env → Inv (run env events) ∧ DefaultListed (run env events) := by
  induction events with
  | nil =>
    intro env inv dflt
    exact ⟨inv, dflt⟩
  | cons e rest ih =>
    intro env inv dflt
    have kept : e ≠ .resetPolicy := fun same => noReset (same ▸ List.mem_cons_self)
    obtain ⟨inv', dflt'⟩ := inv_step inv dflt e kept
    exact ih (fun mem => noReset (List.mem_cons_of_mem e mem)) (step env e) inv' dflt'

theorem inv_start : Inv start ∧ DefaultListed start := by
  refine ⟨⟨rfl, ⟨fun sa p => ?_, fun p => ?_⟩, fun p pol at_ => ?_, fun p listed => ?_, List.nodup_nil,
    fun _ _ => rfl, fun _ _ => rfl⟩, fun p isDefault => ?_⟩
  all_goals simp_all [start, Env.ptr, Env.peers]

end Step

/-! ## What holds, and what the reset breaks -/

/-- Without a reset, the three properties the reference counting is meant to keep hold in
every state a run reaches: each SA is listed by exactly the policy it points to, a counted
policy counts its list, and every policy an SA or `sc_defaultcon` points to is alive. -/
theorem run_lifetime (events : List Event) (noReset : Event.resetPolicy ∉ events) :
    (∀ sa p, sa ∈ (run start events).peers p ↔ (run start events).ptr sa = some p) ∧
      (∀ p pol, (run start events).pols p = some pol → pol.polRefcntFlag = true →
        pol.polRefcnt = pol.polSapeers.length) ∧
      ∀ p, ((∃ sa, (run start events).ptr sa = some p) ∨ (run start events).scDefaultcon = some p) →
        ∃ pol, (run start events).pols p = some pol ∧
          (p ∈ (run start events).scPolicies ∨ pol.polRefcntFlag = true ∧ 1 ≤ pol.polRefcnt) := by
  obtain ⟨inv, dflt⟩ := inv_run events noReset start inv_start.1 inv_start.2
  refine ⟨inv.linked.mem_iff, fun p pol at_ => (inv.pols p pol at_).1, fun p reached => ?_⟩
  rcases reached with ⟨sa, points⟩ | isDefault
  · exact inv.live_of_ptr points
  · obtain ⟨pol, at_, _⟩ := inv.listed p (dflt p isDefault)
    exact ⟨pol, at_, .inl (dflt p isDefault)⟩

-- A default policy arrives, an SA is made under policy 0, and the SA is freed.
def defaultPolicyRun : List Event := [.getpolicy true, .saNew 0, .freeSa 0]

theorem run_lifetime_of_default_policy_run :
    Event.resetPolicy ∉ defaultPolicyRun ∧
    ((∀ sa p, sa ∈ (run start defaultPolicyRun).peers p ↔
        (run start defaultPolicyRun).ptr sa = some p) ∧
      (∀ p pol, (run start defaultPolicyRun).pols p = some pol → pol.polRefcntFlag = true →
        pol.polRefcnt = pol.polSapeers.length) ∧
      ∀ p, ((∃ sa, (run start defaultPolicyRun).ptr sa = some p) ∨
          (run start defaultPolicyRun).scDefaultcon = some p) →
        ∃ pol, (run start defaultPolicyRun).pols p = some pol ∧
          (p ∈ (run start defaultPolicyRun).scPolicies ∨
            pol.polRefcntFlag = true ∧ 1 ≤ pol.polRefcnt)) :=
  ⟨by decide, run_lifetime defaultPolicyRun (by decide)⟩

/-- `config_doreset` frees every policy of `sc_policies`, the default one among them, and
leaves `sc_defaultcon` pointing to it.  A default no SA uses is freed at once: a lookup that
falls back to the default, and the next default policy, both touch the freed policy.  A
default that SAs use is counted, and the next default policy frees it while they still
point to it. -/
theorem configDoreset_leaves_defaultcon_dangling (env : Env) (inv : Inv env) (dflt : DefaultListed env)
    (p : PolId) (isDefault : env.scDefaultcon = some p) :
    (configDoreset env).scDefaultcon = some p ∧ p ∉ (configDoreset env).scPolicies ∧
      (env.peers p = [] →
        (configDoreset env).pols p = none ∧ (step (configDoreset env) (.saNew p)).fault = true ∧
          (configGetpolicy (configDoreset env) true).fault = true) ∧
      ∀ sa, env.ptr sa = some p →
        (configGetpolicy (configDoreset env) true).ptr sa = some p ∧
          (configGetpolicy (configDoreset env) true).pols p = none := by
  obtain ⟨pol, at_, _⟩ := inv.listed p (dflt p isDefault)
  have reset := configDoreset_eq inv
  have kept : (configDoreset env).scDefaultcon = some p := by
    rw [reset, foldl_retire_keep Env.scDefaultcon (fun env p => by simp [Env.retire]), isDefault]
  have emptied : (configDoreset env).scPolicies = [] := by
    rw [reset, foldl_retire_scPolicies, foldl_erase_self]
  have counted : (configDoreset env).pols p = countRecord pol := by
    rw [reset, foldl_retire_pols _ _ _ inv.nodup (dflt p isDefault), at_]
    rfl
  have numbered : (configDoreset env).nextPol = env.nextPol := by
    rw [reset, foldl_retire_keep Env.nextPol (fun env p => by simp [Env.retire])]
  have older : p ≠ (configDoreset env).nextPol := numbered ▸ Nat.ne_of_lt (inv.lt_of_pols at_)
  -- the next default policy releases the old default once more
  have replaced := configGetpolicy_replace kept
  refine ⟨kept, by simp [emptied], fun unused => ?_, fun sa points => ?_⟩
  · have empty : pol.polSapeers = [] := by simpa [Env.peers, at_] using unused
    have freed : (configDoreset env).pols p = none := by simp [counted, countRecord, empty]
    refine ⟨freed, ?_, ?_⟩
    · have found : Found (configDoreset env) p = true := by simp [Found, kept]
      have noPol : (configDoreset env).addSa.pols p = none := by simpa [Env.addSa] using freed
      simp only [step, found, if_true]
      rw [saNew_eq]
      simp only [Env.relink, Env.unlink, Env.link, Env.modify_of_none noPol, setSa_fault, crash_fault]
    · have gone : ((configDoreset env).addPolicy true).pols p = none := by
        simp [Env.addPolicy, Function.update_of_ne older, freed]
      rw [replaced]
      simp [configFreePolicy, gone]
  · have mem : sa ∈ pol.polSapeers := (inv.peers_of_pols at_).mpr points
    have live : ((configDoreset env).addPolicy true).pols p =
        some { pol with polRefcntFlag := true, polRefcnt := pol.polSapeers.length } := by
      simp [Env.addPolicy, Function.update_of_ne older, counted, countRecord, List.ne_nil_of_mem mem]
    have same : (configDoreset env).ptr = env.ptr := by
      rw [reset, foldl_retire_keep Env.ptr (fun env p => by rw [Env.retire, ptr_modify, ptr_unlist])]
    rw [replaced, configFreePolicy_counted _ _ live rfl]
    refine ⟨?_, by simp⟩
    show (configDoreset env).ptr sa = some p
    rw [same]
    exact points

theorem configDoreset_leaves_defaultcon_dangling_with_sa :
    Inv (run start [.getpolicy true, .saNew 0]) ∧ DefaultListed (run start [.getpolicy true, .saNew 0]) ∧
      (configGetpolicy (configDoreset (run start [.getpolicy true, .saNew 0])) true).ptr 0 = some 0 ∧
      (configGetpolicy (configDoreset (run start [.getpolicy true, .saNew 0])) true).pols 0 = none := by
  obtain ⟨inv, dflt⟩ := inv_run [.getpolicy true, .saNew 0] (by decide) start inv_start.1 inv_start.2
  exact ⟨inv, dflt, (configDoreset_leaves_defaultcon_dangling _ inv dflt 0 rfl).2.2.2 0 rfl⟩

end OpenIKED.Policy.Refcnt
