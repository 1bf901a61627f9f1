import OpenIKED.Policy.Refcnt

set_option autoImplicit false

/-!
# The functions of `policy.c` and `config.c` as moves

Every update these functions make to a policy is a rewrite of its record (`Env.modify`);
rewrites of one record compose and rewrites of two commute.  With that, each handler that
moves an SA between policies is one move, `Env.relink` (or `Env.release` when the SA is
freed), whatever order the code's `TAILQ_REMOVE`, `TAILQ_INSERT_TAIL`, `policy_unref` and
`policy_ref` come in, and `config_free_policy` on a policy of `sc_policies` is
`Env.retire`.
-/

namespace OpenIKED.Policy.Refcnt

/-! ## Rewriting one policy's record -/

-- The record of `p` rewritten by `h`, as every update of `policy.c` and `config.c` does it
-- on a policy it holds a pointer to; a freed policy is a fault.
def Env.modify (env : Env) (p : PolId) (h : PolicyRefs → Option PolicyRefs) : Env :=
  match env.pols p with
  | none => env.crash
  | some pol => env.setPol p (h pol)

section Modify

variable {env : Env} {p q : PolId}

@[simp] theorem crash_pols : env.crash.pols = env.pols := rfl
@[simp] theorem crash_sas : env.crash.sas = env.sas := rfl

theorem Env.crash_crash : env.crash.crash = env.crash := rfl

theorem Env.crash_setPol (x : Option PolicyRefs) : (env.setPol p x).crash = env.crash.setPol p x := rfl

theorem setPol_pols_self (x : Option PolicyRefs) : (env.setPol p x).pols p = x := by
  simp

theorem Env.setPol_of_eq {x : Option PolicyRefs} (at_ : env.pols p = x) : env.setPol p x = env := by
  subst at_
  simp [Env.setPol]

theorem Env.setPol_comm (ne : p ≠ q) (x y : Option PolicyRefs) :
    (env.setPol p x).setPol q y = (env.setPol q y).setPol p x := by
  simp [Env.setPol, Function.update_comm ne]

theorem Env.setPol_setSa (sa : SaId) (x : Option PolicyRefs) (s : Option IkedSa) :
    (env.setSa sa s).setPol p x = (env.setPol p x).setSa sa s := rfl

theorem Env.setSa_setSa (sa : SaId) (s t : Option IkedSa) : (env.setSa sa s).setSa sa t = env.setSa sa t := by
  simp [Env.setSa]

theorem Env.setSa_of_eq {sa : SaId} {s : Option IkedSa} (live : env.sas sa = s) : env.setSa sa s = env := by
  subst live
  simp [Env.setSa]

theorem Env.modify_of_some {pol : PolicyRefs} (at_ : env.pols p = some pol) (h : PolicyRefs → Option PolicyRefs) :
    env.modify p h = env.setPol p (h pol) := by
  simp [Env.modify, at_]

theorem Env.modify_of_none (at_ : env.pols p = none) (h : PolicyRefs → Option PolicyRefs) :
    env.modify p h = env.crash := by
  simp [Env.modify, at_]

variable (h h' : PolicyRefs → Option PolicyRefs)

@[simp] theorem modify_sas : (env.modify p h).sas = env.sas := by
  unfold Env.modify; split <;> rfl
@[simp] theorem modify_scPolicies : (env.modify p h).scPolicies = env.scPolicies := by
  unfold Env.modify; split <;> rfl
@[simp] theorem modify_scDefaultcon : (env.modify p h).scDefaultcon = env.scDefaultcon := by
  unfold Env.modify; split <;> rfl
@[simp] theorem modify_nextPol : (env.modify p h).nextPol = env.nextPol := by
  unfold Env.modify; split <;> rfl
@[simp] theorem modify_nextSa : (env.modify p h).nextSa = env.nextSa := by
  unfold Env.modify; split <;> rfl

theorem ptr_modify : (env.modify p h).ptr = env.ptr := by
  funext sa
  simp [Env.ptr]

theorem modify_pols_of_ne (ne : p ≠ q) : (env.modify q h).pols p = env.pols p := by
  unfold Env.modify; split
  · rfl
  · simp [Function.update_of_ne ne]

theorem Env.modify_crash : env.crash.modify p h = (env.modify p h).crash := by
  cases at_ : env.pols p with
  | none => rw [Env.modify_of_none at_, Env.modify_of_none (by simpa using at_)]
  | some pol => rw [Env.modify_of_some at_, Env.modify_of_some (by simpa using at_), Env.crash_setPol]

theorem Env.modify_setPol_of_ne (ne : p ≠ q) (x : Option PolicyRefs) :
    (env.setPol p x).modify q h = (env.modify q h).setPol p x := by
  cases at_ : env.pols q with
  | none => rw [Env.modify_of_none at_, Env.modify_of_none (by simpa [Function.update_of_ne ne.symm] using at_),
      Env.crash_setPol]
  | some pol => rw [Env.modify_of_some at_, Env.modify_of_some (by simpa [Function.update_of_ne ne.symm] using at_),
      Env.setPol_comm ne]

-- Two rewrites of one record are one, when the first leaves the policy alive.
theorem Env.modify_modify (g : PolicyRefs → PolicyRefs) :
    (env.modify p fun pol => some (g pol)).modify p h = env.modify p fun pol => h (g pol) := by
  cases at_ : env.pols p with
  | none => rw [Env.modify_of_none at_, Env.modify_crash, Env.modify_of_none at_, Env.modify_of_none at_,
      Env.crash_crash]
  | some pol =>
    rw [Env.modify_of_some at_, Env.modify_of_some at_, Env.modify_of_some (setPol_pols_self (some (g pol))),
      Env.setPol_setPol]

-- Rewrites of two policies commute.
theorem Env.modify_comm (ne : p ≠ q) : (env.modify p h).modify q h' = (env.modify q h').modify p h := by
  have before : (env.modify q h').pols p = env.pols p := modify_pols_of_ne h' ne
  cases atp : env.pols p with
  | none => rw [Env.modify_of_none atp, Env.modify_crash, Env.modify_of_none (before.trans atp)]
  | some polp =>
    rw [Env.modify_of_some atp, Env.modify_setPol_of_ne h' ne, Env.modify_of_some (before.trans atp)]

theorem Env.modify_setPol_self (pol : PolicyRefs) :
    (env.setPol p (some pol)).modify p h = env.setPol p (h pol) := by
  rw [Env.modify_of_some (setPol_pols_self (some pol)), Env.setPol_setPol]

theorem Env.modify_setSa (sa : SaId) (s : Option IkedSa) :
    (env.setSa sa s).modify p h = (env.modify p h).setSa sa s := by
  cases at_ : env.pols p with
  | none => rw [Env.modify_of_none (by simpa using at_), Env.modify_of_none at_]; rfl
  | some pol => rw [Env.modify_of_some (by simpa using at_), Env.modify_of_some at_, Env.setPol_setSa]

end Modify

/-! ## What the list operations and the counting do to a record -/

-- `TAILQ_REMOVE` and `TAILQ_INSERT_TAIL` on `pol_sapeers`.
def erasePeer (sa : SaId) (pol : PolicyRefs) : PolicyRefs := { pol with polSapeers := pol.polSapeers.erase sa }

def appendPeer (sa : SaId) (pol : PolicyRefs) : PolicyRefs := { pol with polSapeers := pol.polSapeers ++ [sa] }

-- `policy_ref` and `policy_unref`: only a counted policy counts, and its last reference
-- frees it.
def refCount (pol : PolicyRefs) : PolicyRefs :=
  if pol.polRefcntFlag then { pol with polRefcnt := pol.polRefcnt + 1 } else pol

def unrefCount (pol : PolicyRefs) : Option PolicyRefs :=
  if !pol.polRefcntFlag then some pol
  else if pol.polRefcnt - 1 ≤ 0 then none
  else some { pol with polRefcnt := pol.polRefcnt - 1 }

theorem refCount_appendPeer (sa : SaId) (pol : PolicyRefs) :
    refCount (appendPeer sa pol) = appendPeer sa (refCount pol) := by
  unfold refCount appendPeer
  split <;> rfl

section Primitives

variable (env : Env) (p : PolId) (sa : SaId)

theorem removePeer_some : removePeer env (some p) sa = env.modify p fun pol => some (erasePeer sa pol) := rfl

theorem insertPeer_eq : insertPeer env p sa = env.modify p fun pol => some (appendPeer sa pol) := rfl

theorem policyRef_eq : policyRef env p = env.modify p fun pol => some (refCount pol) := by
  cases at_ : env.pols p with
  | none => simp [policyRef, Env.modify_of_none at_, at_]
  | some pol =>
    rw [Env.modify_of_some at_]
    cases flag : pol.polRefcntFlag
    · simp [policyRef, refCount, at_, flag, Env.setPol_of_eq at_]
    · simp [policyRef, refCount, at_, flag]

theorem configFreePolicy_counted {pol : PolicyRefs} (at_ : env.pols p = some pol)
    (flag : pol.polRefcntFlag = true) : configFreePolicy env p = env.setPol p none := by
  simp [configFreePolicy, at_, flag]

theorem policyUnref_some : policyUnref env (some p) = env.modify p unrefCount := by
  cases at_ : env.pols p with
  | none => simp [policyUnref, Env.modify_of_none at_, at_]
  | some pol =>
    rw [Env.modify_of_some at_]
    cases flag : pol.polRefcntFlag
    · simp [policyUnref, unrefCount, at_, flag, Env.setPol_of_eq at_]
    · simp only [policyUnref, unrefCount, at_, flag, Bool.not_true, Bool.false_eq_true, if_false]
      split
      · rw [configFreePolicy_counted _ _ (setPol_pols_self _) rfl, Env.setPol_setPol]
      · rfl

end Primitives

/-! ## An SA moving between policies -/

-- `TAILQ_REMOVE` from the list of the SA's old policy, and `policy_unref` of it.
def Env.unlink (env : Env) (sa : SaId) : Option PolId → Env
  | none => env
  | some p => env.modify p fun pol => unrefCount (erasePeer sa pol)

-- `TAILQ_INSERT_TAIL` on the list of its new policy, and `policy_ref` of it.
def Env.link (env : Env) (sa : SaId) : Option PolId → Env
  | none => env
  | some q => env.modify q fun pol => some (refCount (appendPeer sa pol))

-- The SA moved from the policy `o` to `q`.
def Env.relink (env : Env) (sa : SaId) (o q : Option PolId) : Env :=
  ((env.unlink sa o).link sa q).setSa sa (some ⟨q⟩)

-- The SA freed, unlinked from its policy `o`.
def Env.release (env : Env) (sa : SaId) (o : Option PolId) : Env :=
  (env.unlink sa o).setSa sa none

-- The SA that `sa_new` allocates, pointing to no policy yet.
def Env.addSa (env : Env) : Env :=
  { env with sas := Function.update env.sas env.nextSa (some ⟨none⟩), nextSa := env.nextSa + 1 }

section Moves

variable {env : Env} {sa : SaId} {s : IkedSa}

theorem policyUnref_removePeer (env : Env) (p : PolId) (sa : SaId) :
    policyUnref (removePeer env (some p) sa) (some p) = env.unlink sa (some p) := by
  rw [removePeer_some, policyUnref_some, Env.modify_modify]
  rfl

theorem insertPeer_policyRef (env : Env) (q : PolId) (sa : SaId) :
    insertPeer (policyRef env q) q sa = env.link sa (some q) := by
  rw [policyRef_eq, insertPeer_eq, Env.modify_modify]
  simp only [Env.link, refCount_appendPeer]

theorem setSaPolicy_of_live (live : env.sas sa = some s) (p : Option PolId) :
    setSaPolicy env sa p = env.setSa sa (some ⟨p⟩) := by
  simp [setSaPolicy, live]

theorem setSaPolicy_setSa (t : IkedSa) (p : Option PolId) :
    setSaPolicy (env.setSa sa (some t)) sa p = env.setSa sa (some ⟨p⟩) := by
  have live : (env.setSa sa (some t)).sas sa = some t := by simp
  rw [setSaPolicy_of_live live, Env.setSa_setSa]

-- The operations on policies leave the SAs alone.
theorem removePeer_setSa (o : PolId) (x : Option IkedSa) :
    removePeer (env.setSa sa x) (some o) sa = (removePeer env (some o) sa).setSa sa x := by
  rw [removePeer_some, removePeer_some, Env.modify_setSa]

theorem insertPeer_setSa (q : PolId) (x : Option IkedSa) :
    insertPeer (env.setSa sa x) q sa = (insertPeer env q sa).setSa sa x := by
  rw [insertPeer_eq, insertPeer_eq, Env.modify_setSa]

theorem policyRef_setSa (q : PolId) (x : Option IkedSa) :
    policyRef (env.setSa sa x) q = (policyRef env q).setSa sa x := by
  rw [policyRef_eq, policyRef_eq, Env.modify_setSa]

theorem policyUnref_setSa (o : PolId) (x : Option IkedSa) :
    policyUnref (env.setSa sa x) (some o) = (policyUnref env (some o)).setSa sa x := by
  rw [policyUnref_some, policyUnref_some, Env.modify_setSa]

theorem configFreeSa_eq (live : env.sas sa = some s) : configFreeSa env sa = env.release sa s.saPolicy := by
  unfold configFreeSa Env.release
  cases old : s.saPolicy with
  | none => simp [live, old, Env.unlink]
  | some p => simp [live, old, policyUnref_removePeer]

theorem saNew_eq (p : PolId) : saNew env p = env.addSa.relink env.nextSa none (some p) := by
  have live : (policyRef env.addSa p).sas env.nextSa = some ⟨none⟩ := by
    simp [policyRef_eq, Env.addSa]
  show insertPeer (setSaPolicy (policyRef env.addSa p) env.nextSa (some p)) p env.nextSa = _
  rw [setSaPolicy_of_live live, insertPeer_setSa, insertPeer_policyRef]
  rfl

-- `ikev2_sa_responder` inserts the SA into the new list before it unreferences the old
-- policy; the two commute unless the policies are one, which the lookup leaves uncounted.
theorem ikev2SaResponder_eq (live : env.sas sa = some s) {o q : PolId} (old : s.saPolicy = some o)
    {pol : PolicyRefs} (at_ : env.pols q = some pol) (uncounted : pol.polRefcntFlag = false) :
    ikev2SaResponder env sa (some q) = env.relink sa (some o) (some q) := by
  simp only [ikev2SaResponder, live, old]
  rw [setSaPolicy_of_live live, removePeer_setSa, insertPeer_setSa, policyUnref_setSa, policyRef_setSa]
  unfold Env.relink Env.unlink Env.link
  congr 1
  rw [removePeer_some, insertPeer_eq, policyUnref_some, policyRef_eq]
  by_cases same : o = q
  · subst same
    simp [Env.modify_of_some at_, Env.modify_setPol_self, unrefCount, refCount, erasePeer, appendPeer,
      uncounted]
  · rw [Env.modify_comm _ _ (Ne.symm same), Env.modify_modify, Env.modify_modify]

theorem ikev2IkeAuthRecvResponder_none (live : env.sas sa = some s) {o : PolId} (old : s.saPolicy = some o) :
    ikev2IkeAuthRecvResponder env sa none = env.relink sa (some o) none := by
  simp only [ikev2IkeAuthRecvResponder, live, old]
  rw [setSaPolicy_of_live live, removePeer_setSa, policyUnref_setSa, policyUnref_removePeer]
  rfl

-- A policy other than the SA's own: the SA leaves its policy and joins the new one.
theorem ikev2IkeAuthRecvResponder_other (live : env.sas sa = some s) {o q : PolId}
    (old : s.saPolicy = some o) (other : q ≠ o) :
    ikev2IkeAuthRecvResponder env sa (some q) = env.relink sa (some o) (some q) := by
  simp only [ikev2IkeAuthRecvResponder, live, old, ne_eq, Option.some.injEq, other, not_false_eq_true,
    if_true]
  rw [setSaPolicy_of_live live, removePeer_setSa, policyUnref_setSa, policyRef_setSa, setSaPolicy_setSa,
    insertPeer_setSa, policyUnref_removePeer, insertPeer_policyRef]
  rfl

theorem ikev2IkeAuthRecvResponder_same (live : env.sas sa = some s) {o : PolId} (old : s.saPolicy = some o) :
    ikev2IkeAuthRecvResponder env sa (some o) = env := by
  simp only [ikev2IkeAuthRecvResponder, live, old, ne_eq, not_true_eq_false, if_false]
  rw [setSaPolicy_of_live live, setSaPolicy_setSa, ← old]
  exact Env.setSa_of_eq live

theorem ikev2IkeAuthRecvInitiator_other (live : env.sas sa = some s) {o : PolId} (old : s.saPolicy = some o) :
    ikev2IkeAuthRecvInitiator env sa false = env.relink sa (some o) none := by
  simp only [ikev2IkeAuthRecvInitiator, live, old, Bool.false_eq_true, if_false]
  rw [setSaPolicy_of_live live, removePeer_setSa, policyUnref_setSa, policyUnref_removePeer]
  rfl

theorem reloadRelookup_other (live : env.sas sa = some s) {o q : PolId} (old : s.saPolicy = some o)
    {pol : PolicyRefs} (at_ : env.pols o = some pol) (other : o ≠ q) :
    reloadRelookup env sa (some q) = env.relink sa (some o) (some q) := by
  simp only [reloadRelookup, live, old, at_, ne_eq, other, not_false_eq_true, if_true]
  rw [setSaPolicy_of_live live, removePeer_setSa, policyUnref_setSa, policyRef_setSa, insertPeer_setSa,
    policyUnref_removePeer, insertPeer_policyRef]
  rfl

theorem reloadRelookup_same (live : env.sas sa = some s) {o : PolId} (old : s.saPolicy = some o)
    {pol : PolicyRefs} (at_ : env.pols o = some pol) : reloadRelookup env sa (some o) = env := by
  simp only [reloadRelookup, live, old, at_, ne_eq, not_true_eq_false, if_false]
  rw [setSaPolicy_of_live live, ← old]
  exact Env.setSa_of_eq live

end Moves

/-! ## Policies from the parent and their release -/

-- The policy `config_getpolicy` appends to `sc_policies`.
def Env.addPolicy (env : Env) (isDefault : Bool) : Env :=
  { env with
    pols := Function.update env.pols env.nextPol (some ⟨isDefault, false, 0, []⟩)
    nextPol := env.nextPol + 1
    scPolicies := env.scPolicies ++ [env.nextPol] }

-- `config_free_policy` on a policy of `sc_policies`: counted from now on, or freed when no
-- SA points to it.
def countRecord (pol : PolicyRefs) : Option PolicyRefs :=
  if pol.polSapeers = [] then none
  else some { pol with polRefcntFlag := true, polRefcnt := pol.polSapeers.length }

def Env.retire (env : Env) (p : PolId) : Env := (env.unlist p).modify p countRecord

section Policies

variable {env : Env} {p : PolId}

theorem configGetpolicy_false (env : Env) : configGetpolicy env false = env.addPolicy false := rfl

theorem configGetpolicy_first (none : env.scDefaultcon = none) :
    configGetpolicy env true = { env.addPolicy true with scDefaultcon := some env.nextPol } := by
  simp [configGetpolicy, Env.addPolicy, none]

-- A second default policy: the old one is released.
theorem configGetpolicy_replace {old : PolId} (isDefault : env.scDefaultcon = some old) :
    configGetpolicy env true =
      { configFreePolicy (env.addPolicy true) old with scDefaultcon := some env.nextPol } := by
  simp [configGetpolicy, Env.addPolicy, isDefault]

-- The loop of `config_free_policy` counts every SA on the list, each of which points back.
theorem refLinked_counted (L : List SaId) :
    ∀ (env : Env) (pol : PolicyRefs), env.pols p = some pol → pol.polRefcntFlag = true →
      (∀ sa ∈ L, env.ptr sa = some p) →
      refLinked p env L = env.setPol p (some { pol with polRefcnt := pol.polRefcnt + L.length }) := by
  induction L with
  | nil =>
    intro env pol at_ _ _
    simp [refLinked, Env.setPol_of_eq at_]
  | cons sa rest ih =>
    intro env pol at_ counted points
    obtain ⟨s, live, old⟩ := Option.bind_eq_some_iff.mp (points sa List.mem_cons_self)
    have next := ih (env.setPol p (some (refCount pol))) (refCount pol) (setPol_pols_self _)
      (by simp [refCount, counted]) (fun sa' mem => by
        rw [ptr_setPol]
        exact points sa' (List.mem_cons_of_mem sa mem))
    have sum : pol.polRefcnt + 1 + (rest.length : Int) = pol.polRefcnt + ((rest.length + 1 : Nat) : Int) := by
      omega
    simp only [refLinked, live, old, if_true]
    rw [policyRef_eq, Env.modify_of_some at_, next, Env.setPol_setPol]
    simp only [refCount, counted, if_true, List.length_cons, sum]

end Policies

end OpenIKED.Policy.Refcnt
