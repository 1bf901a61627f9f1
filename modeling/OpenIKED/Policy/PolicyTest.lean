import OpenIKED.Shared.SkipScan
import OpenIKED.Util.Sockaddr

set_option autoImplicit false

/-!
# Policy lookup

`policy_calc_skip_steps`, run by `config_getcompile` once the policies are loaded, and
the lookup loop of `policy_test` from `policy.c`.  A policy is named by its position in
`sc_policies`; a skip pointer or a result of NULL is the position past the last policy.
The loop of `policy_test` is the skipping search of `Shared.SkipScan`, and the search
`iked.conf(5)` documents is its plain search.
-/

namespace OpenIKED.Policy

open OpenIKED.Shared OpenIKED.Util

def ikedPolicyDefault : UInt32 := 0x001
def ikedPolicyQuick : UInt32 := 0x008
def ikedPolicySkip : UInt32 := 0x010
def ikedPolicyTransport : UInt32 := 0x040

structure IkedAddr where
  addr : Sockaddr
  addrMask : UInt8
deriving DecidableEq, Repr

structure IkedStaticId where
  idType : UInt8
  idData : List UInt8
deriving DecidableEq, Repr

-- The fields of `struct iked_policy` that the lookup reads.
structure IkedPolicy (Flow Proposal : Type) where
  polFlags : UInt32
  polAf : Nat
  polPeer : IkedAddr
  polPeerid : IkedStaticId
  polLocal : IkedAddr
  polLocalid : IkedStaticId
  polProposals : List Proposal
  polFlows : List Flow
  polNflows : Nat

-- `flow_cmp` and `proposals_negotiate` (called with no result list), which
-- `policy_test` calls out to.
structure Matchers (Flow Proposal : Type) where
  flowCmp : Flow → Flow → Int
  proposalsNegotiate : List Proposal → List Proposal → Int

-- The tests that have skip pointers: `IKED_SKIP_FLAGS`, `_AF`, `_SRC_ADDR`, `_DST_ADDR`.
inductive SkipKind where
  | flags
  | af
  | srcAddr
  | dstAddr
deriving DecidableEq, Repr

section Lookup

variable {Flow Proposal : Type}

-- `policy_test_flows`: every flow of the key has one that `flow_cmp` puts equal among
-- the policy's flows (what `RB_FIND` finds in the policy's tree).
def policyTestFlows (m : Matchers Flow Proposal) (key p : IkedPolicy Flow Proposal) : Int :=
  if key.polFlows.all (fun f => p.polFlows.any (fun g => m.flowCmp f g == 0)) then 0 else -1

-- The ID test of `policy_test`, the same for the peer and the local ID: both set, and
-- different in type or in the `IKED_ID_SIZE` data bytes `memcmp` compares.
def idMismatch (key p : IkedStaticId) : Bool :=
  key.idType ≠ 0 && p.idType ≠ 0 && (key.idType ≠ p.idType || key.idData ≠ p.idData)

-- The four tests of `policy_test` that follow a skip pointer when they fail.
def skipTestFails (k : SkipKind) (key p : IkedPolicy Flow Proposal) : Bool :=
  match k with
  | .flags => p.polFlags &&& ikedPolicySkip ≠ 0
  | .af => key.polAf ≠ 0 && p.polAf ≠ 0 && key.polAf ≠ p.polAf
  | .dstAddr => sockaddrCmp key.polPeer.addr p.polPeer.addr p.polPeer.addrMask.toNat ≠ 0
  | .srcAddr => sockaddrCmp key.polLocal.addr p.polLocal.addr p.polLocal.addrMask.toNat ≠ 0

-- One pass of the loop body of `policy_test` on policy `p`, in the source's order.
def policyVerdict (m : Matchers Flow Proposal) (key p : IkedPolicy Flow Proposal) :
    Verdict SkipKind :=
  if skipTestFails .flags key p then .skipped .flags
  else if skipTestFails .af key p then .skipped .af
  else if skipTestFails .dstAddr key p then .skipped .dstAddr
  else if skipTestFails .srcAddr key p then .skipped .srcAddr
  -- the tests without skip pointers go on to TAILQ_NEXT
  else if key.polNflows ≠ 0 ∧ policyTestFlows m key p ≠ 0 then .rejected
  else if idMismatch key.polPeerid p.polPeerid then .rejected
  else if idMismatch key.polLocalid p.polLocalid then .rejected
  else if key.polFlags &&& ikedPolicyTransport ≠ 0 ∧ p.polFlags &&& ikedPolicyTransport = 0 then
    .rejected
  else if key.polProposals.isEmpty = false ∧
      m.proposalsNegotiate p.polProposals key.polProposals = -1 then .rejected
  else .accepted

def verdictAt (m : Matchers Flow Proposal) (key : IkedPolicy Flow Proposal)
    (pols : List (IkedPolicy Flow Proposal)) (i : Nat) : Verdict SkipKind :=
  match pols[i]? with
  | some p => policyVerdict m key p
  | none => .rejected

def quickAt (pols : List (IkedPolicy Flow Proposal)) (i : Nat) : Bool :=
  match pols[i]? with
  | some p => p.polFlags &&& ikedPolicyQuick ≠ 0
  | none => false

def ikedAddrNeq (a b : IkedAddr) : Bool :=
  a.addrMask ≠ b.addrMask || sockaddrCmp a.addr b.addr a.addrMask.toNat ≠ 0

-- The test of `policy_calc_skip_steps` that ends the block of kind `k` at `cur`.
def skipBoundary (k : SkipKind) (cur prev : IkedPolicy Flow Proposal) : Bool :=
  match k with
  | .flags => cur.polFlags &&& ikedPolicySkip ≠ 0
  | .af => cur.polAf ≠ afUnspec && prev.polAf ≠ afUnspec && cur.polAf ≠ prev.polAf
  | .srcAddr => ikedAddrNeq cur.polLocal prev.polLocal
  | .dstAddr => ikedAddrNeq cur.polPeer prev.polPeer

-- The boundary test at position `cur`, against the policy before it (on the first
-- round `prev` is the first policy itself).
def boundaryAt (pols : List (IkedPolicy Flow Proposal)) (k : SkipKind) (cur : Nat) : Bool :=
  match pols[cur]?, pols[cur - 1]? with
  | some c, some prev => skipBoundary k c prev
  | _, _ => false

-- `head[]` and the `pol_skip[]` pointers of every policy.
structure SkipSteps where
  head : SkipKind → Nat
  polSkip : Nat → SkipKind → Nat

-- `IKED_SET_SKIP_STEPS(k)` for every kind `k` with `ends k`: each policy from `head[k]`
-- up to `cur` gets `cur` as its pointer, and `head[k]` moves to `cur`.  The kinds touch
-- disjoint fields, so the order of the statements in the source does not matter.
def setSkipStepsFor (ends : SkipKind → Bool) (st : SkipSteps) (cur : Nat) : SkipSteps where
  head k := if ends k then cur else st.head k
  polSkip i k := if ends k ∧ st.head k ≤ i ∧ i < cur then cur else st.polSkip i k

-- One round of the `while (cur != NULL)` loop.
def calcSkipStep (pols : List (IkedPolicy Flow Proposal)) (st : SkipSteps) (cur : Nat) :
    SkipSteps :=
  setSkipStepsFor (fun k => boundaryAt pols k cur) st cur

-- All of `policy_calc_skip_steps`: the loop over the policies, then
-- `IKED_SET_SKIP_STEPS(i)` for every kind with `cur` NULL.  The pointers start as whatever
-- the policy was received with; all of them are overwritten.
def policyCalcSkipSteps (pols : List (IkedPolicy Flow Proposal)) : SkipSteps :=
  let st := (List.range pols.length).foldl (calcSkipStep pols) ⟨fun _ => 0, fun _ _ => 0⟩
  setSkipStepsFor (fun _ => true) st pols.length

-- The first position from `j` on where a block of kind `k` ends, or the end.
def nextBoundaryFrom (pols : List (IkedPolicy Flow Proposal)) (k : SkipKind) (j : Nat) : Nat :=
  if j < pols.length then
    if boundaryAt pols k j then j else nextBoundaryFrom pols k (j + 1)
  else pols.length
termination_by pols.length - j

theorem nextBoundaryFrom_eq (pols : List (IkedPolicy Flow Proposal)) (k : SkipKind) (j b : Nat)
    (le : j ≤ b) (bound : b ≤ pols.length)
    (clear : ∀ j', j ≤ j' → j' < b → boundaryAt pols k j' = false)
    (ends : b < pols.length → boundaryAt pols k b = true) :
    nextBoundaryFrom pols k j = b := by
  rw [nextBoundaryFrom]
  by_cases inside : j < pols.length
  · rw [if_pos inside]
    rcases Nat.eq_or_lt_of_le le with rfl | before
    · rw [if_pos (ends inside)]
    · rw [if_neg (by simp [clear j (Nat.le_refl j) before])]
      exact nextBoundaryFrom_eq pols k (j + 1) b before bound
        (fun j' low high => clear j' (by omega) high) ends
  · rw [if_neg inside]
    omega
termination_by b - j

theorem le_nextBoundaryFrom (pols : List (IkedPolicy Flow Proposal)) (k : SkipKind) (j : Nat)
    (bound : j ≤ pols.length) : j ≤ nextBoundaryFrom pols k j := by
  rw [nextBoundaryFrom]
  split
  · split
    · exact Nat.le_refl j
    · have := le_nextBoundaryFrom pols k (j + 1) (by omega)
      omega
  · exact bound
termination_by pols.length - j

theorem boundaryAt_of_lt_nextBoundaryFrom (pols : List (IkedPolicy Flow Proposal)) (k : SkipKind)
    (j j' : Nat) (low : j ≤ j') (high : j' < nextBoundaryFrom pols k j) :
    boundaryAt pols k j' = false := by
  rw [nextBoundaryFrom] at high
  split at high
  · split at high
    · omega
    · rename_i notEnd
      rcases Nat.eq_or_lt_of_le low with rfl | later
      · simpa using notEnd
      · exact boundaryAt_of_lt_nextBoundaryFrom pols k (j + 1) j' later high
  · rename_i past
    -- past the end there is no policy, hence no boundary
    simp [boundaryAt, List.getElem?_eq_none (show pols.length ≤ j' by omega)]
termination_by pols.length - j

-- Where the pointer of kind `k` of policy `i` should point: the next block boundary.
def nextBoundary (pols : List (IkedPolicy Flow Proposal)) (k : SkipKind) (i : Nat) : Nat :=
  nextBoundaryFrom pols k (i + 1)

-- What the loop of `policy_calc_skip_steps` has established before round `c`: for
-- each kind no boundary lies strictly between `head[k]` and `c`, and every policy before
-- `head[k]` already points at its next boundary.
def StepsSoFar (pols : List (IkedPolicy Flow Proposal)) (c : Nat) (st : SkipSteps) : Prop :=
  ∀ k, st.head k ≤ c ∧ (∀ j, st.head k < j → j < c → boundaryAt pols k j = false) ∧
    ∀ i < st.head k, st.polSkip i k = nextBoundary pols k i

theorem stepsSoFar_start (pols : List (IkedPolicy Flow Proposal)) :
    StepsSoFar pols 0 ⟨fun _ => 0, fun _ _ => 0⟩ := by
  intro k
  exact ⟨Nat.le_refl 0, fun j _ high => absurd high (Nat.not_lt_zero j),
    fun i below => absurd below (Nat.not_lt_zero i)⟩

theorem stepsSoFar_step (pols : List (IkedPolicy Flow Proposal)) (c : Nat) (st : SkipSteps)
    (inside : c < pols.length) (sofar : StepsSoFar pols c st) :
    StepsSoFar pols (c + 1) (calcSkipStep pols st c) := by
  intro k
  obtain ⟨headLe, clear, done⟩ := sofar k
  by_cases ends : boundaryAt pols k c
  · -- the block of kind k ends at c: every policy from head[k] on now points at c
    simp only [calcSkipStep, setSkipStepsFor, ends, true_and, if_true]
    refine ⟨Nat.le_succ c, fun j low high => by omega, fun i below => ?_⟩
    split
    · rename_i fresh
      exact (nextBoundaryFrom_eq pols k (i + 1) c (by omega) (Nat.le_of_lt inside)
        (fun j' low high => clear j' (by omega) high) (fun _ => ends)).symm
    · exact done i (by omega)
  · simp only [calcSkipStep, setSkipStepsFor, ends, Bool.false_eq_true, false_and, if_false]
    refine ⟨by omega, fun j low high => ?_, done⟩
    rcases Nat.lt_succ_iff_lt_or_eq.mp high with before | rfl
    · exact clear j low before
    · simpa using ends

theorem stepsSoFar_loop (pols : List (IkedPolicy Flow Proposal)) (c : Nat)
    (bound : c ≤ pols.length) :
    StepsSoFar pols c ((List.range c).foldl (calcSkipStep pols) ⟨fun _ => 0, fun _ _ => 0⟩) := by
  induction c with
  | zero => exact stepsSoFar_start pols
  | succ c ih =>
    rw [List.range_succ, List.foldl_append, List.foldl_cons, List.foldl_nil]
    exact stepsSoFar_step pols c _ (by omega) (ih (by omega))

/-- After `policy_calc_skip_steps` every pointer of every policy points at the next
boundary of its kind, or at the end. -/
theorem policyCalcSkipSteps_polSkip (pols : List (IkedPolicy Flow Proposal)) (i : Nat)
    (k : SkipKind) (inside : i < pols.length) :
    (policyCalcSkipSteps pols).polSkip i k = nextBoundary pols k i := by
  obtain ⟨headLe, clear, done⟩ := stepsSoFar_loop pols pols.length (Nat.le_refl _) k
  simp only [policyCalcSkipSteps, setSkipStepsFor, true_and]
  split
  · -- the last block runs to the end of the list
    rename_i last
    exact (nextBoundaryFrom_eq pols k (i + 1) pols.length (by omega) (Nat.le_refl _)
      (fun j' low high => clear j' (by omega) high) (fun past => absurd past (Nat.lt_irrefl _))).symm
  · exact done i (by omega)

theorem lt_nextBoundary (pols : List (IkedPolicy Flow Proposal)) (k : SkipKind) (i : Nat)
    (inside : i < pols.length) : i < nextBoundary pols k i :=
  Nat.lt_of_lt_of_le (Nat.lt_succ_self i) (le_nextBoundaryFrom pols k (i + 1) inside)

-- The pointers `policy_calc_skip_steps` leaves, as a table that points forward.
def policySkipTable (pols : List (IkedPolicy Flow Proposal)) : SkipTable SkipKind where
  next i k := if i < pols.length then (policyCalcSkipSteps pols).polSkip i k else i + 1
  forward i k := by
    split
    · rename_i inside
      rw [policyCalcSkipSteps_polSkip pols i k inside]
      exact lt_nextBoundary pols k i inside
    · exact Nat.lt_succ_self i

-- `policy_test`: the position of the policy found, `none` for NULL.
def policyTest (m : Matchers Flow Proposal) (pols : List (IkedPolicy Flow Proposal))
    (key : IkedPolicy Flow Proposal) : Option Nat :=
  skipScan pols.length (verdictAt m key pols) (quickAt pols) (policySkipTable pols) 0 none

-- The evaluation `iked.conf(5)` documents: every policy in order with the same tests, a
-- `skip` policy never matching, the first matching `quick` policy, else the last match.
def policyScan (m : Matchers Flow Proposal) (pols : List (IkedPolicy Flow Proposal))
    (key : IkedPolicy Flow Proposal) : Option Nat :=
  plainScan pols.length (verdictAt m key pols) (quickAt pols) 0 none

theorem verdictAt_of_lt (m : Matchers Flow Proposal) (key : IkedPolicy Flow Proposal)
    (pols : List (IkedPolicy Flow Proposal)) (i : Nat) (inside : i < pols.length) :
    verdictAt m key pols i = policyVerdict m key pols[i] := by
  simp [verdictAt, List.getElem?_eq_getElem inside]

theorem boundaryAt_of_pos (pols : List (IkedPolicy Flow Proposal)) (k : SkipKind) (j : Nat)
    (pos : 0 < j) (inside : j < pols.length) :
    boundaryAt pols k j = skipBoundary k pols[j] pols[j - 1] := by
  simp [boundaryAt, List.getElem?_eq_getElem inside,
    List.getElem?_eq_getElem (show j - 1 < pols.length by omega)]

theorem skipTestFails_of_skipped (m : Matchers Flow Proposal) (key p : IkedPolicy Flow Proposal)
    (k : SkipKind) (skipped : policyVerdict m key p = .skipped k) :
    skipTestFails k key p = true := by
  unfold policyVerdict at skipped
  split_ifs at skipped <;> cases skipped <;> assumption

theorem skipTestFails_of_accepts (m : Matchers Flow Proposal) (key p : IkedPolicy Flow Proposal)
    (accepted : (policyVerdict m key p).accepts = true) (k : SkipKind) :
    skipTestFails k key p = false := by
  unfold policyVerdict at accepted
  split_ifs at accepted with flagsFail afFail dstFail srcFail
  -- every branch but the last is a skip or a rejection
  all_goals simp only [Verdict.accepts_skipped, Verdict.accepts_rejected,
    Verdict.accepts_accepted, Bool.false_eq_true] at accepted
  cases k
  · simpa using flagsFail
  · simpa using afFail
  · simpa using srcFail
  · simpa using dstFail

theorem accepts_eq_false_of_fails (m : Matchers Flow Proposal) (key p : IkedPolicy Flow Proposal)
    (k : SkipKind) (fails : skipTestFails k key p = true) :
    (policyVerdict m key p).accepts = false := by
  cases accepted : (policyVerdict m key p).accepts
  · rfl
  · rw [skipTestFails_of_accepts m key p accepted k] at fails
    cases fails

-- A key with no flows, IDs, transport flag or proposals, as `ikev2_recv` builds for a
-- message that belongs to no SA yet, is matched by every policy that passes the four tests
-- with skip pointers.
theorem policyVerdict_bare_key (m : Matchers Flow Proposal) (key p : IkedPolicy Flow Proposal)
    (noFlows : key.polNflows = 0) (noPeerid : key.polPeerid.idType = 0)
    (noLocalid : key.polLocalid.idType = 0) (noTransport : key.polFlags &&& ikedPolicyTransport = 0)
    (noProposals : key.polProposals = []) (passes : ∀ k, skipTestFails k key p = false) :
    policyVerdict m key p = .accepted := by
  simp [policyVerdict, passes, noFlows, idMismatch, noPeerid, noLocalid, noTransport, noProposals]

theorem ikedAddrNeq_eq_false_iff (a b : IkedAddr) :
    ikedAddrNeq a b = false ↔
      a.addrMask = b.addrMask ∧ sockaddrCmp a.addr b.addr a.addrMask.toNat = 0 := by
  simp [ikedAddrNeq]

theorem ikedAddrNeq_self (a : IkedAddr) : ikedAddrNeq a a = false :=
  (ikedAddrNeq_eq_false_iff a a).mpr ⟨rfl, sockaddrCmp_self a.addr _⟩

theorem ikedAddrNeq_trans (a b c : IkedAddr) (middle : b.addr.family ≠ afUnspec)
    (first : ikedAddrNeq a b = false) (second : ikedAddrNeq b c = false) :
    ikedAddrNeq a c = false := by
  obtain ⟨maskAB, cmpAB⟩ := (ikedAddrNeq_eq_false_iff a b).mp first
  obtain ⟨maskBC, cmpBC⟩ := (ikedAddrNeq_eq_false_iff b c).mp second
  rw [← maskAB] at cmpBC
  exact (ikedAddrNeq_eq_false_iff a c).mpr
    ⟨maskAB.trans maskBC, sockaddrCmp_trans a.addr b.addr c.addr _ middle cmpAB cmpBC⟩

-- An address test that fails against one policy of a block fails against every
-- specified address of the block: all of them compare equal under the block's mask.
theorem sockaddrCmp_ne_of_same_block (key : Sockaddr) (a b : IkedAddr)
    (specified : a.addr.family ≠ afUnspec) (same : ikedAddrNeq a b = false)
    (fails : sockaddrCmp key b.addr b.addrMask.toNat ≠ 0) :
    sockaddrCmp key a.addr a.addrMask.toNat ≠ 0 := by
  intro agrees
  obtain ⟨mask, cmpAB⟩ := (ikedAddrNeq_eq_false_iff a b).mp same
  apply fails
  rw [← mask]
  exact sockaddrCmp_trans key a.addr b.addr _ specified agrees cmpAB

-- A relation that links each policy of a block to the one before it links every
-- policy of the block to the first.
theorem chain_of_clear (pols : List (IkedPolicy Flow Proposal)) (k : SkipKind)
    (R : IkedPolicy Flow Proposal → IkedPolicy Flow Proposal → Prop)
    (refl : ∀ q, R q q) (trans : ∀ a b c, b ∈ pols → R a b → R b c → R a c)
    (link : ∀ j (inside : j < pols.length), 0 < j → boundaryAt pols k j = false →
      R pols[j] pols[j - 1])
    (i j : Nat) (le : i ≤ j) (inside : j < pols.length)
    (clear : ∀ j', i < j' → j' ≤ j → boundaryAt pols k j' = false) :
    R pols[j] pols[i] := by
  induction j with
  | zero =>
    obtain rfl : i = 0 := by omega
    exact refl _
  | succ j ih =>
    rcases Nat.eq_or_lt_of_le le with rfl | before
    · exact refl _
    have step := link (j + 1) inside (by omega) (clear (j + 1) before (Nat.le_refl _))
    have earlier := ih (by omega) (by omega) (fun j' low high => clear j' low (by omega))
    simp only [Nat.add_sub_cancel] at step
    exact trans _ _ _ (List.getElem_mem _) step earlier

-- Policy lists on which the skip steps are sound: no `skip` policy, and every policy
-- gives its address family and both of its addresses.
def PlainPolicies (pols : List (IkedPolicy Flow Proposal)) : Prop :=
  ∀ p ∈ pols, p.polFlags &&& ikedPolicySkip = 0 ∧ p.polAf ≠ afUnspec ∧
    p.polPeer.addr.family ≠ afUnspec ∧ p.polLocal.addr.family ≠ afUnspec

theorem addr_fails_in_block (pols : List (IkedPolicy Flow Proposal)) (k : SkipKind)
    (sel : IkedPolicy Flow Proposal → IkedAddr) (keyAddr : Sockaddr)
    (boundary : ∀ c prev, skipBoundary k c prev = ikedAddrNeq (sel c) (sel prev))
    (specified : ∀ p ∈ pols, (sel p).addr.family ≠ afUnspec)
    (i j : Nat) (le : i ≤ j) (inside : j < pols.length)
    (clear : ∀ j', i < j' → j' ≤ j → boundaryAt pols k j' = false)
    (fails : sockaddrCmp keyAddr (sel pols[i]).addr (sel pols[i]).addrMask.toNat ≠ 0) :
    sockaddrCmp keyAddr (sel pols[j]).addr (sel pols[j]).addrMask.toNat ≠ 0 := by
  have same : ikedAddrNeq (sel pols[j]) (sel pols[i]) = false := by
    refine chain_of_clear pols k (fun a b => ikedAddrNeq (sel a) (sel b) = false)
      (fun q => ikedAddrNeq_self (sel q))
      (fun a b c member => ikedAddrNeq_trans (sel a) (sel b) (sel c) (specified b member))
      (fun j' inside' pos ends => ?_) i j le inside clear
    rw [boundaryAt_of_pos pols k j' pos inside', boundary] at ends
    exact ends
  exact sockaddrCmp_ne_of_same_block keyAddr _ _ (specified _ (List.getElem_mem _)) same fails

-- On a plain policy list, a test that fails against the policy a pointer starts from
-- fails against every policy the pointer jumps over.
theorem skipTestFails_in_block (pols : List (IkedPolicy Flow Proposal))
    (plain : PlainPolicies pols) (key : IkedPolicy Flow Proposal) (k : SkipKind)
    (i j : Nat) (le : i ≤ j) (inside : j < pols.length)
    (clear : ∀ j', i < j' → j' ≤ j → boundaryAt pols k j' = false)
    (fails : skipTestFails k key pols[i] = true) : skipTestFails k key pols[j] = true := by
  cases k with
  | flags =>
    have noSkip := (plain _ (List.getElem_mem (show i < pols.length by omega))).1
    simp [skipTestFails, noSkip] at fails
  | af =>
    -- with every family given, a block of kind af is a run of one family
    have same : pols[j].polAf = pols[i].polAf := by
      refine chain_of_clear pols .af (fun a b => a.polAf = b.polAf) (fun _ => rfl)
        (fun _ _ _ _ first second => first.trans second) (fun j' inside' pos ends => ?_)
        i j le inside clear
      have here := (plain _ (List.getElem_mem inside')).2.1
      have before := (plain _ (List.getElem_mem (show j' - 1 < pols.length by omega))).2.1
      rw [boundaryAt_of_pos pols .af j' pos inside'] at ends
      simpa [skipBoundary, here, before] using ends
    simp only [skipTestFails] at fails ⊢
    rw [same]
    exact fails
  | srcAddr =>
    simp only [skipTestFails, ne_eq, decide_eq_true_eq] at fails ⊢
    exact addr_fails_in_block pols .srcAddr (fun p => p.polLocal) key.polLocal.addr
      (fun _ _ => rfl) (fun p member => (plain p member).2.2.2) i j le inside clear fails
  | dstAddr =>
    simp only [skipTestFails, ne_eq, decide_eq_true_eq] at fails ⊢
    exact addr_fails_in_block pols .dstAddr (fun p => p.polPeer) key.polPeer.addr
      (fun _ _ => rfl) (fun p member => (plain p member).2.2.1) i j le inside clear fails

theorem policySkipTable_next (pols : List (IkedPolicy Flow Proposal)) (i : Nat) (k : SkipKind)
    (inside : i < pols.length) : (policySkipTable pols).next i k = nextBoundary pols k i := by
  simp only [policySkipTable, if_pos inside]
  exact policyCalcSkipSteps_polSkip pols i k inside

/-- On a plain policy list the pointers `policy_calc_skip_steps` computes are sound for
every lookup key. -/
theorem policySkipTable_sound (m : Matchers Flow Proposal) (pols : List (IkedPolicy Flow Proposal))
    (plain : PlainPolicies pols) (key : IkedPolicy Flow Proposal) :
    SkipSound pols.length (verdictAt m key pols) (policySkipTable pols) := by
  intro i k inside skipped j after below bound
  rw [policySkipTable_next pols i k inside] at below
  have clear : ∀ j', i < j' → j' ≤ j → boundaryAt pols k j' = false := fun j' low high =>
    boundaryAt_of_lt_nextBoundaryFrom pols k (i + 1) j' low (by unfold nextBoundary at below; omega)
  rw [verdictAt_of_lt m key pols i inside] at skipped
  rw [verdictAt_of_lt m key pols j bound]
  exact accepts_eq_false_of_fails m key pols[j] k
    (skipTestFails_in_block pols plain key k i j (Nat.le_of_lt after) bound clear
      (skipTestFails_of_skipped m key pols[i] k skipped))

/-- On a plain policy list `policy_test` returns what the documented scan returns. -/
theorem policyTest_eq_policyScan (m : Matchers Flow Proposal)
    (pols : List (IkedPolicy Flow Proposal)) (plain : PlainPolicies pols)
    (key : IkedPolicy Flow Proposal) : policyTest m pols key = policyScan m pols key :=
  skipScan_eq_plainScan _ _ _ _ (policySkipTable_sound m pols plain key) 0 none

-- The address `any` stands for: no family and no mask (`host_any` in `parse.y`).
def anyAddr : IkedAddr := ⟨⟨afUnspec, []⟩, 0⟩

def noId : IkedStaticId := ⟨0, []⟩

-- `ikev2 "roadwarrior" esp from any to any`: with no peer `parse.y` makes it
-- `IKED_POLICY_DEFAULT | IKED_POLICY_SKIP`.
def roadwarriorPolicy : IkedPolicy Flow Proposal where
  polFlags := ikedPolicyDefault ||| ikedPolicySkip
  polAf := afUnspec
  polPeer := anyAddr
  polPeerid := noId
  polLocal := anyAddr
  polLocalid := noId
  polProposals := []
  polFlows := []
  polNflows := 0

-- `ikev2 "site" inet esp from any to any peer 192.0.2.1`.
def sitePolicy : IkedPolicy Flow Proposal where
  polFlags := 0
  polAf := afInet
  polPeer := ⟨⟨afInet, [192, 0, 2, 1]⟩, 32⟩
  polPeerid := noId
  polLocal := anyAddr
  polLocalid := noId
  polProposals := []
  polFlows := []
  polNflows := 0

-- The key `policy_lookup` builds in `ikev2_recv` for a message from 192.0.2.1 to
-- 198.51.100.1 that belongs to no SA yet: no proposals, flows or IDs.
def siteLookup : IkedPolicy Flow Proposal where
  polFlags := 0
  polAf := afInet
  polPeer := ⟨⟨afInet, [192, 0, 2, 1]⟩, 0⟩
  polPeerid := noId
  polLocal := ⟨⟨afInet, [198, 51, 100, 1]⟩, 0⟩
  polLocalid := noId
  polProposals := []
  polFlows := []
  polNflows := 0

-- `ikev2 "tunnel" inet esp local 198.51.100.1 peer 192.0.2.1`.
def tunnelPolicy : IkedPolicy Flow Proposal where
  polFlags := 0
  polAf := afInet
  polPeer := ⟨⟨afInet, [192, 0, 2, 1]⟩, 32⟩
  polPeerid := noId
  polLocal := ⟨⟨afInet, [198, 51, 100, 1]⟩, 32⟩
  polLocalid := noId
  polProposals := []
  polFlows := []
  polNflows := 0

-- Flows and proposals that always compare equal.
def unitMatchers : Matchers Unit Unit := ⟨fun _ _ => 0, fun _ _ => 0⟩

/-- On a plain policy list `policy_test` returns the policy `iked.conf(5)` says decides:
the first matching `quick` policy, else the last matching one. -/
theorem policyTest_eq_some_iff (m : Matchers Flow Proposal)
    (pols : List (IkedPolicy Flow Proposal)) (plain : PlainPolicies pols)
    (key : IkedPolicy Flow Proposal) (i : Nat) :
    policyTest m pols key = some i ↔ Picks pols.length (verdictAt m key pols) (quickAt pols) i := by
  rw [policyTest_eq_policyScan m pols plain key]
  exact plainScan_eq_some_iff _ _ _ i

theorem policyTest_eq_some_iff_of_tunnel :
    PlainPolicies [(tunnelPolicy : IkedPolicy Unit Unit)] ∧
    (policyTest unitMatchers [tunnelPolicy] siteLookup = some 0 ↔
      Picks 1 (verdictAt unitMatchers siteLookup [tunnelPolicy])
        (quickAt [(tunnelPolicy : IkedPolicy Unit Unit)]) 0) :=
  have plain : PlainPolicies [(tunnelPolicy : IkedPolicy Unit Unit)] := by
    simp only [PlainPolicies, List.mem_singleton, forall_eq]
    decide
  ⟨plain, policyTest_eq_some_iff unitMatchers [tunnelPolicy] plain siteLookup 0⟩

/-- A `skip` policy's flags pointer runs to the next `skip` policy, so when the first
policy is the only `skip` policy, `policy_test` tests no other policy at all. -/
theorem policyTest_eq_none_of_skip_first (m : Matchers Flow Proposal)
    (pols : List (IkedPolicy Flow Proposal)) (key : IkedPolicy Flow Proposal)
    (nonempty : 0 < pols.length) (first : pols[0].polFlags &&& ikedPolicySkip ≠ 0)
    (rest : ∀ j (inside : j < pols.length), 0 < j → pols[j].polFlags &&& ikedPolicySkip = 0) :
    policyTest m pols key = none := by
  have skipped : verdictAt m key pols 0 = .skipped .flags := by
    rw [verdictAt_of_lt m key pols 0 nonempty, policyVerdict,
      if_pos (by simpa [skipTestFails] using first)]
  have jump : (policySkipTable pols).next 0 .flags = pols.length := by
    rw [policySkipTable_next pols 0 .flags nonempty, nextBoundary]
    -- no later policy starts a block of kind flags
    refine nextBoundaryFrom_eq pols .flags 1 pols.length nonempty (Nat.le_refl _)
      (fun j low high => ?_) (fun past => absurd past (Nat.lt_irrefl _))
    rw [boundaryAt_of_pos pols .flags j (by omega) high]
    simp [skipBoundary, rest j high (by omega)]
  unfold policyTest
  rw [skipScan, dif_pos nonempty]
  simp only [skipped]
  rw [jump, skipScan, dif_neg (Nat.lt_irrefl _)]

theorem policyTest_misses_policy_after_skip (m : Matchers Flow Proposal) :
    policyTest m [roadwarriorPolicy, sitePolicy] siteLookup = none ∧
      policyScan m [roadwarriorPolicy, sitePolicy] siteLookup = some 1 := by
  have skipFlag : (roadwarriorPolicy : IkedPolicy Flow Proposal).polFlags &&& ikedPolicySkip ≠ 0 := by
    simp only [roadwarriorPolicy]
    decide
  refine ⟨policyTest_eq_none_of_skip_first m _ siteLookup (by simp) skipFlag ?_, ?_⟩
  · intro j inside pos
    obtain rfl : j = 1 := by
      simp only [List.length_cons, List.length_nil] at inside
      omega
    simp [sitePolicy]
  · -- the documented scan passes over the skip policy and matches the site policy
    have first : (verdictAt m siteLookup [roadwarriorPolicy, sitePolicy] 0).accepts = false := by
      rw [verdictAt_of_lt m _ _ 0 (by simp)]
      exact accepts_eq_false_of_fails m _ _ .flags (by simpa [skipTestFails] using skipFlag)
    have second : verdictAt m siteLookup [roadwarriorPolicy, sitePolicy] 1 = .accepted := by
      rw [verdictAt_of_lt m _ _ 1 (by simp)]
      refine policyVerdict_bare_key m _ _ rfl rfl rfl (by simp [siteLookup]) rfl (fun k => ?_)
      -- the site policy's own address, and `any` for the local one
      cases k <;> simp [skipTestFails, siteLookup, sitePolicy, anyAddr, sockaddrCmp_self]
    have slow : quickAt ([roadwarriorPolicy, sitePolicy] : List (IkedPolicy Flow Proposal)) 1 =
        false := by
      simp [quickAt, sitePolicy]
    unfold policyScan
    rw [plainScan_of_lt _ _ _ 0 none (by simp), first, if_neg Bool.false_ne_true,
      plainScan_of_lt _ _ _ 1 none (by simp), second, Verdict.accepts_accepted, if_pos rfl, slow,
      if_neg Bool.false_ne_true, plainScan_of_le _ _ _ 2 (some 1) (by simp)]

end Lookup

end OpenIKED.Policy
