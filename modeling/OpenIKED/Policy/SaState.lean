import Mathlib.Tactic.Common

set_option autoImplicit false

/-!
# IKE SA states and their requirement flags

`sa_state`, `sa_stateflags` and `sa_stateok` from `policy.c`, and the requirement masks
`sa_new` derives from the policy and the role.  A state change is refused only on the
way into `SA_INIT`, `VALID` and `EAP_VALID`, and only when the flags gathered so far
lack one that the SA requires.
-/

namespace OpenIKED.Policy

def ikev2StateInit : Nat := 0
def ikev2StateCookie : Nat := 1
def ikev2StateSaInit : Nat := 2
def ikev2StateEap : Nat := 3
def ikev2StateEapSuccess : Nat := 4
def ikev2StateAuthRequest : Nat := 5
def ikev2StateAuthSuccess : Nat := 6
def ikev2StateValid : Nat := 7
def ikev2StateEapValid : Nat := 8
def ikev2StateEstablished : Nat := 9
def ikev2StateClosing : Nat := 10
def ikev2StateClosed : Nat := 11

def ikedReqCert : Nat := 0x0001
def ikedReqCertvalid : Nat := 0x0002
def ikedReqCertreq : Nat := 0x0004
def ikedReqAuth : Nat := 0x0008
def ikedReqAuthvalid : Nat := 0x0010
def ikedReqSa : Nat := 0x0020
def ikedReqEapvalid : Nat := 0x0040
def ikedReqChildsa : Nat := 0x0080
def ikedReqInf : Nat := 0x0100

def ikev2AuthSharedKeyMic : Nat := 2

-- The fields of `struct iked_sa` that the state functions read and write.
structure SaStatus where
  saState : Nat
  saStateflags : Nat
  saStateinit : Nat
  saStatevalid : Nat
deriving DecidableEq, Repr

-- Every bit of `require` is set in `flags`.
def HasFlags (flags require : Nat) : Prop := flags &&& require = require

instance (flags require : Nat) : Decidable (HasFlags flags require) :=
  inferInstanceAs (Decidable (_ = _))

theorem hasFlags_iff_testBit (flags require : Nat) :
    HasFlags flags require ↔ ∀ i, require.testBit i = true → flags.testBit i = true := by
  constructor
  · intro has i bit
    have atBit := congrArg (fun x => x.testBit i) has
    simp only [Nat.testBit_and] at atBit
    rw [bit] at atBit
    simpa using atBit
  · intro bits
    apply Nat.eq_of_testBit_eq
    intro i
    rw [Nat.testBit_and]
    cases bit : require.testBit i
    · simp
    · simp [bits i bit]

theorem HasFlags.trans {flags require part : Nat} (all : HasFlags flags require)
    (within : HasFlags require part) : HasFlags flags part := by
  rw [hasFlags_iff_testBit] at *
  exact fun i bit => all i (within i bit)

theorem HasFlags.or_left {flags require : Nat} (more : Nat) (has : HasFlags flags require) :
    HasFlags (flags ||| more) require := by
  rw [hasFlags_iff_testBit] at *
  intro i bit
  simp [Nat.testBit_or, has i bit]

theorem HasFlags.of_or {flags more require : Nat} (apart : more &&& require = 0)
    (has : HasFlags (flags ||| more) require) : HasFlags flags require := by
  rw [hasFlags_iff_testBit] at *
  intro i bit
  have clear : (more &&& require).testBit i = false := by rw [apart, Nat.zero_testBit]
  rw [Nat.testBit_and, bit, Bool.and_true] at clear
  simpa [Nat.testBit_or, clear] using has i bit

theorem HasFlags.of_and {flags mask require : Nat} (has : HasFlags (flags &&& mask) require) :
    HasFlags flags require := by
  rw [hasFlags_iff_testBit] at *
  intro i bit
  have both := has i bit
  rw [Nat.testBit_and, Bool.and_eq_true] at both
  exact both.1

def saStateok (sa : SaStatus) (state : Nat) : Bool :=
  if sa.saState < state then false
  else
    let require := if state = ikev2StateSaInit then sa.saStateinit else sa.saStatevalid
    if state = ikev2StateSaInit ∨ state = ikev2StateValid ∨ state = ikev2StateEapValid then
      decide (HasFlags sa.saStateflags require)
    else true

def saState (sa : SaStatus) (state : Nat) : SaStatus :=
  let moved := { sa with saState := state }
  -- the first change out of INIT is never refused
  if sa.saState ≠ ikev2StateInit ∧ saStateok moved state = false then sa else moved

def saStateflags (sa : SaStatus) (flags : Nat) : SaStatus :=
  { sa with saStateflags := sa.saStateflags ||| flags }

-- `sa_statevalid` and `sa_stateinit` as `sa_new` sets them from the policy's EAP type
-- and authentication method: the initiator checks the peer's half of the requirements
-- once it is valid and the rest already at SA_INIT.
def saNewRequirements (initiator : Bool) (authEap authMethod : Nat) : Nat × Nat :=
  let valid := ikedReqAuth ||| ikedReqAuthvalid ||| ikedReqSa
  let valid :=
    if authEap ≠ 0 then valid ||| ikedReqCert ||| ikedReqEapvalid
    else if authMethod ≠ ikev2AuthSharedKeyMic then valid ||| ikedReqCertvalid ||| ikedReqCert
    else valid
  if initiator then
    let diff := ikedReqCertvalid ||| ikedReqAuthvalid ||| ikedReqSa ||| ikedReqEapvalid
    -- `~diff` on an unsigned int
    (valid &&& (0xffffffff ^^^ diff), valid &&& diff)
  else (0, valid)

-- A fresh SA as `sa_new` leaves it: `calloc` puts it in INIT with no flags gathered.
def saNewStatus (initiator : Bool) (authEap authMethod : Nat) : SaStatus :=
  { saState := ikev2StateInit, saStateflags := 0,
    saStateinit := (saNewRequirements initiator authEap authMethod).1,
    saStatevalid := (saNewRequirements initiator authEap authMethod).2 }

theorem saStateok_eq_true_iff (sa : SaStatus) (state : Nat) :
    saStateok sa state = true ↔ state ≤ sa.saState ∧
      ((state = ikev2StateSaInit → HasFlags sa.saStateflags sa.saStateinit) ∧
       (state = ikev2StateValid ∨ state = ikev2StateEapValid →
          HasFlags sa.saStateflags sa.saStatevalid)) := by
  unfold saStateok
  by_cases low : sa.saState < state
  · rw [if_pos low]
    constructor
    · intro refused
      cases refused
    · intro ⟨high, _⟩
      omega
  rw [if_neg low]
  dsimp only
  by_cases initState : state = ikev2StateSaInit
  · -- SA_INIT checks the initiator's early requirements
    have notValid : ¬ (state = ikev2StateValid ∨ state = ikev2StateEapValid) := by
      rw [initState]
      decide
    rw [if_pos (Or.inl initState), if_pos initState, decide_eq_true_iff]
    exact ⟨fun flags => ⟨by omega, fun _ => flags, fun valid => absurd valid notValid⟩,
      fun ⟨_, flags, _⟩ => flags initState⟩
  rw [if_neg initState]
  by_cases checked : state = ikev2StateValid ∨ state = ikev2StateEapValid
  · rw [if_pos (Or.inr checked), decide_eq_true_iff]
    exact ⟨fun flags => ⟨by omega, fun init => absurd init initState, fun _ => flags⟩,
      fun ⟨_, _, flags⟩ => flags checked⟩
  · rw [if_neg (by tauto)]
    exact ⟨fun _ => ⟨by omega, fun init => absurd init initState,
      fun valid => absurd valid checked⟩, fun _ => rfl⟩

theorem saStateok_of_unchecked (sa : SaStatus) (state : Nat) (reached : state ≤ sa.saState)
    (unchecked : state ≠ ikev2StateSaInit ∧ state ≠ ikev2StateValid ∧ state ≠ ikev2StateEapValid) :
    saStateok sa state = true := by
  rw [saStateok_eq_true_iff]
  refine ⟨reached, fun initState => absurd initState unchecked.1, ?_⟩
  rintro (valid | eapValid)
  · exact absurd valid unchecked.2.1
  · exact absurd eapValid unchecked.2.2

/-- What `sa_state` can do: leave the SA as it was, or move it to the state asked for,
which then passes `sa_stateok` unless the SA was still in INIT. -/
theorem saState_cases (sa : SaStatus) (state : Nat) :
    saState sa state = sa ∨
      (saState sa state = { sa with saState := state } ∧
        (sa.saState = ikev2StateInit ∨ saStateok { sa with saState := state } state = true)) := by
  unfold saState
  dsimp only
  split
  · exact Or.inl rfl
  · rename_i allowed
    refine Or.inr ⟨rfl, ?_⟩
    by_cases fromInit : sa.saState = ikev2StateInit
    · exact Or.inl fromInit
    · right
      simpa [fromInit] using allowed

theorem saState_saState (sa : SaStatus) (state : Nat) :
    (saState sa state).saState = sa.saState ∨ (saState sa state).saState = state := by
  rcases saState_cases sa state with kept | ⟨moved, _⟩
  · exact Or.inl (by rw [kept])
  · exact Or.inr (by rw [moved])

theorem saState_of_unchecked (sa : SaStatus) (state : Nat)
    (unchecked : state ≠ ikev2StateSaInit ∧ state ≠ ikev2StateValid ∧ state ≠ ikev2StateEapValid) :
    saState sa state = { sa with saState := state } := by
  unfold saState
  dsimp only
  rw [if_neg]
  intro ⟨_, refused⟩
  rw [saStateok_of_unchecked _ state (Nat.le_refl _) unchecked] at refused
  cases refused

@[simp] theorem saState_saStateflags (sa : SaStatus) (state : Nat) :
    (saState sa state).saStateflags = sa.saStateflags := by
  unfold saState
  dsimp only
  split <;> rfl

@[simp] theorem saState_saStatevalid (sa : SaStatus) (state : Nat) :
    (saState sa state).saStatevalid = sa.saStatevalid := by
  unfold saState
  dsimp only
  split <;> rfl

@[simp] theorem saState_saStateinit (sa : SaStatus) (state : Nat) :
    (saState sa state).saStateinit = sa.saStateinit := by
  unfold saState
  dsimp only
  split <;> rfl

@[simp] theorem saStateflags_saState (sa : SaStatus) (flags : Nat) :
    (saStateflags sa flags).saState = sa.saState := rfl

@[simp] theorem saStateflags_saStatevalid (sa : SaStatus) (flags : Nat) :
    (saStateflags sa flags).saStatevalid = sa.saStatevalid := rfl

end OpenIKED.Policy
