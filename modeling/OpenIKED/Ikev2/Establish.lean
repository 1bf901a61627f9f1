import OpenIKED.Policy.SaState

set_option autoImplicit false

/-!
# Establishing an IKE SA

What the IKEv2 process does to the state and the requirement flags of one IKE SA that
is negotiated through IKE_SA_INIT and IKE_AUTH, as events in any order: the peer's
messages and the CA process's replies decide which handler runs next, and each handler
runs to its end before the next.  Only `ikev2_init_done` and `ikev2_resp_ike_auth` move
the SA to ESTABLISHED, both behind `sa_stateok(sa, IKEV2_STATE_VALID)`.
-/

namespace OpenIKED.Ikev2.Establish

open OpenIKED.Policy

-- The states the other handlers ask `sa_state` for, and the flags they set or clear,
-- AUTHVALID and EAPVALID apart.
def movedStates : List Nat :=
  [ikev2StateInit, ikev2StateSaInit, ikev2StateEap, ikev2StateAuthRequest,
    ikev2StateAuthSuccess, ikev2StateValid, ikev2StateEapValid, ikev2StateClosing,
    ikev2StateClosed]

def gatheredFlags : List Nat :=
  [ikedReqCert, ikedReqCertvalid, ikedReqCertreq, ikedReqAuth, ikedReqSa, ikedReqInf,
    ikedReqChildsa]

def clearedFlags : List Nat := [ikedReqCertvalid, ikedReqInf, ikedReqChildsa]

-- One handler's effect on the SA.  `authverify` is the verdict of
-- `ikev2_msg_authverify` on the peer's AUTH payload; `eapAuthVerify` is
-- `ikev2_auth_verify` with an EAP MSK, whose second step is `ikev2_msg_authsign`.
inductive Event where
  | move (target : Nat) (listed : target ∈ movedStates)
  | gather (flag : Nat) (listed : flag ∈ gatheredFlags)
  | clear (flag : Nat) (listed : flag ∈ clearedFlags)
  | authverify (accepted : Bool)
  | eapAuthVerify (accepted signed : Bool)
  | requireCert
  | renew (initiator : Bool) (authEap authMethod : Nat)
  | initDone (enabled : Bool)
  | respIkeAuth (localauth sent : Bool)

-- The SA's status, and whether `ikev2_msg_authverify` has accepted the peer's AUTH
-- payload on it.
structure IkeSa where
  status : SaStatus
  verified : Bool

def fresh (initiator : Bool) (authEap authMethod : Nat) : IkeSa :=
  ⟨saNewStatus initiator authEap authMethod, false⟩

-- `ikev2_msg_authverify` on a verdict.
def authverify (sa : IkeSa) (accepted : Bool) : IkeSa :=
  if accepted then ⟨saStateflags (saState sa.status ikev2StateAuthSuccess) ikedReqAuthvalid, true⟩
  else { sa with status := saState sa.status ikev2StateAuthRequest }

def ikev2InitDone (sa : IkeSa) (enabled : Bool) : IkeSa :=
  if !saStateok sa.status ikev2StateValid then sa
  -- `ikev2_childsa_negotiate` and `ikev2_childsa_enable` succeeded
  else if enabled then { sa with status := saState sa.status ikev2StateEstablished }
  else sa

def ikev2RespIkeAuth (sa : IkeSa) (localauth sent : Bool) : IkeSa :=
  -- in EAP the responder only sends the identity request
  if sa.status.saState = ikev2StateEap then sa
  else if !saStateok sa.status ikev2StateValid then sa
  else
    -- "Downgrade the state" without a local AUTH
    let status := if localauth then sa.status else saState sa.status ikev2StateAuthSuccess
    if sent then { sa with status := saState status ikev2StateEstablished }
    else { sa with status := status }

def step (sa : IkeSa) : Event → IkeSa
  | .move target _ => { sa with status := saState sa.status target }
  | .gather flag _ => { sa with status := saStateflags sa.status flag }
  | .clear flag _ =>
    -- `&= ~flag` on an unsigned int
    { sa with status := { sa.status with
        saStateflags := sa.status.saStateflags &&& (0xffffffff ^^^ flag) } }
  | .authverify accepted => authverify sa accepted
  | .eapAuthVerify accepted signed =>
    let sa := authverify sa accepted
    if accepted ∧ signed then
      { sa with status := saState (saStateflags (saStateflags sa.status ikedReqAuthvalid)
          ikedReqEapvalid) ikev2StateEapSuccess }
    else sa
  | .requireCert =>
    { sa with status := { sa.status with
        saStateinit := sa.status.saStateinit ||| ikedReqCert,
        saStatevalid := sa.status.saStatevalid ||| ikedReqCert } }
  | .renew initiator authEap authMethod =>
    { sa with status := { sa.status with
        saStateinit := (saNewRequirements initiator authEap authMethod).1,
        saStatevalid := (saNewRequirements initiator authEap authMethod).2 } }
  | .initDone enabled => ikev2InitDone sa enabled
  | .respIkeAuth localauth sent => ikev2RespIkeAuth sa localauth sent

def run (sa : IkeSa) (events : List Event) : IkeSa := events.foldl step sa

/-- What every reachable SA keeps: VALID requires AUTHVALID, and AUTHVALID is set only
on an SA whose peer's AUTH payload was accepted. -/
structure Inv (sa : IkeSa) : Prop where
  required : HasFlags sa.status.saStatevalid ikedReqAuthvalid
  verified : HasFlags sa.status.saStateflags ikedReqAuthvalid → sa.verified = true

theorem saNewRequirements_authvalid (initiator : Bool) (authEap authMethod : Nat) :
    HasFlags (saNewRequirements initiator authEap authMethod).2 ikedReqAuthvalid := by
  unfold saNewRequirements
  dsimp only
  -- the initiator keeps the bits of `diff`, AUTHVALID among them
  by_cases eap : authEap ≠ 0
  · rw [if_pos eap]
    cases initiator <;> decide
  · rw [if_neg eap]
    by_cases method : authMethod ≠ ikev2AuthSharedKeyMic
    · rw [if_pos method]
      cases initiator <;> decide
    · rw [if_neg method]
      cases initiator <;> decide

theorem inv_fresh (initiator : Bool) (authEap authMethod : Nat) :
    Inv (fresh initiator authEap authMethod) :=
  ⟨saNewRequirements_authvalid initiator authEap authMethod, fun unset => by
    have none : (fresh initiator authEap authMethod).status.saStateflags = 0 := rfl
    rw [none] at unset
    exact absurd unset (by decide)⟩

theorem gatheredFlags_apart (flag : Nat) (listed : flag ∈ gatheredFlags) :
    flag &&& ikedReqAuthvalid = 0 := by
  simp only [gatheredFlags, List.mem_cons, List.not_mem_nil, or_false] at listed
  rcases listed with rfl | rfl | rfl | rfl | rfl | rfl | rfl <;> decide

theorem establishedState_not_moved (target : Nat) (listed : target ∈ movedStates) :
    target ≠ ikev2StateEstablished := by
  simp only [movedStates, List.mem_cons, List.not_mem_nil, or_false] at listed
  rcases listed with rfl | rfl | rfl | rfl | rfl | rfl | rfl | rfl | rfl <;> decide

@[simp] theorem authverify_verified (sa : IkeSa) (accepted : Bool) :
    (authverify sa accepted).verified = (accepted || sa.verified) := by
  unfold authverify
  cases accepted <;> rfl

theorem authverify_inv (sa : IkeSa) (accepted : Bool) (inv : Inv sa) : Inv (authverify sa accepted) := by
  unfold authverify
  cases accepted
  · exact ⟨by simpa using inv.required, fun has => inv.verified (by simpa using has)⟩
  · exact ⟨by simpa [saStateflags] using inv.required, fun _ => rfl⟩

theorem authverify_saState (sa : IkeSa) (accepted : Bool) :
    (authverify sa accepted).status.saState = sa.status.saState ∨
      (authverify sa accepted).status.saState = ikev2StateAuthSuccess ∨
      (authverify sa accepted).status.saState = ikev2StateAuthRequest := by
  unfold authverify
  cases accepted
  · rcases saState_saState sa.status ikev2StateAuthRequest with kept | moved
    · exact Or.inl kept
    · exact Or.inr (Or.inr moved)
  · rcases saState_saState sa.status ikev2StateAuthSuccess with kept | moved
    · exact Or.inl kept
    · exact Or.inr (Or.inl moved)

theorem inv_step (sa : IkeSa) (event : Event) (inv : Inv sa) : Inv (step sa event) := by
  cases event with
  | move target _ =>
    exact ⟨by simpa [step] using inv.required, fun has => inv.verified (by simpa [step] using has)⟩
  | gather flag listed =>
    exact ⟨inv.required, fun has => inv.verified (HasFlags.of_or (gatheredFlags_apart flag listed) has)⟩
  | clear flag _ =>
    exact ⟨inv.required, fun has => inv.verified (HasFlags.of_and has)⟩
  | authverify accepted => exact authverify_inv sa accepted inv
  | eapAuthVerify accepted signed =>
    have checked := authverify_inv sa accepted inv
    simp only [step]
    split
    · -- the second AUTH step sets AUTHVALID only after the first accepted
      rename_i both
      have verified : (authverify sa accepted).verified = true := by simp [both.1]
      exact ⟨by simpa [saStateflags] using checked.required, fun _ => verified⟩
    · exact checked
  | requireCert =>
    exact ⟨HasFlags.or_left ikedReqCert inv.required, inv.verified⟩
  | renew initiator authEap authMethod =>
    exact ⟨saNewRequirements_authvalid initiator authEap authMethod, inv.verified⟩
  | initDone enabled =>
    simp only [step, ikev2InitDone]
    split_ifs
    · exact inv
    · exact ⟨by simpa using inv.required, fun has => inv.verified (by simpa using has)⟩
    · exact inv
  | respIkeAuth localauth sent =>
    simp only [step, ikev2RespIkeAuth]
    split_ifs
    · exact inv
    · exact inv
    all_goals exact ⟨by simpa using inv.required, fun has => inv.verified (by simpa using has)⟩

theorem inv_run (sa : IkeSa) (events : List Event) (inv : Inv sa) : Inv (run sa events) := by
  induction events generalizing sa with
  | nil => exact inv
  | cons event events ih => exact ih (step sa event) (inv_step sa event inv)

theorem verified_of_stateok (sa : IkeSa) (inv : Inv sa)
    (ok : saStateok sa.status ikev2StateValid = true) :
    HasFlags sa.status.saStateflags sa.status.saStatevalid ∧
      HasFlags sa.status.saStateflags ikedReqAuthvalid ∧ sa.verified = true := by
  have flags := ((saStateok_eq_true_iff sa.status ikev2StateValid).mp ok).2.2 (Or.inl rfl)
  have authvalid := flags.trans inv.required
  exact ⟨flags, authvalid, inv.verified authvalid⟩

/-- The handler that moves an SA to ESTABLISHED is `ikev2_init_done` or
`ikev2_resp_ike_auth`, past its check of the flags VALID requires; the flags, the
requirements and the verdict are those it checked. -/
theorem step_establishes (sa : IkeSa) (event : Event) (inv : Inv sa)
    (before : sa.status.saState ≠ ikev2StateEstablished)
    (after : (step sa event).status.saState = ikev2StateEstablished) :
    HasFlags (step sa event).status.saStateflags (step sa event).status.saStatevalid ∧
      HasFlags (step sa event).status.saStateflags ikedReqAuthvalid ∧
      (step sa event).verified = true := by
  cases event with
  | move target listed =>
    rcases saState_saState sa.status target with kept | moved
    · exact absurd (kept ▸ after) before
    · exact absurd (moved ▸ after) (establishedState_not_moved target listed)
  | gather flag _ => exact absurd after before
  | clear flag _ => exact absurd after before
  | authverify accepted =>
    rcases authverify_saState sa accepted with kept | success | request
    · exact absurd (kept ▸ after) before
    · exact absurd (success ▸ after) (by decide)
    · exact absurd (request ▸ after) (by decide)
  | eapAuthVerify accepted signed =>
    simp only [step] at after
    split at after
    · rcases saState_saState (saStateflags (saStateflags (authverify sa accepted).status
        ikedReqAuthvalid) ikedReqEapvalid) ikev2StateEapSuccess with kept | moved
      · rw [kept, saStateflags_saState, saStateflags_saState] at after
        rcases authverify_saState sa accepted with kept' | success | request
        · rw [kept'] at after
          exact absurd after before
        · rw [success] at after
          exact absurd after (by decide)
        · rw [request] at after
          exact absurd after (by decide)
      · rw [moved] at after
        exact absurd after (by decide)
    · rcases authverify_saState sa accepted with kept | success | request
      · exact absurd (kept ▸ after) before
      · exact absurd (success ▸ after) (by decide)
      · exact absurd (request ▸ after) (by decide)
  | requireCert => exact absurd after before
  | renew initiator authEap authMethod => exact absurd after before
  | initDone enabled =>
    by_cases ok : saStateok sa.status ikev2StateValid = true
    · -- past the check only the state changes
      have checked := verified_of_stateok sa inv ok
      simp only [step, ikev2InitDone, ok, Bool.not_true, Bool.false_eq_true, if_false]
      split_ifs <;> simpa using checked
    · simp only [step, ikev2InitDone, ok, Bool.not_false, if_true] at after
      exact absurd after before
  | respIkeAuth localauth sent =>
    by_cases inEap : sa.status.saState = ikev2StateEap
    · simp only [step, ikev2RespIkeAuth, if_pos inEap] at after
      exact absurd after before
    by_cases ok : saStateok sa.status ikev2StateValid = true
    · have checked := verified_of_stateok sa inv ok
      simp only [step, ikev2RespIkeAuth, if_neg inEap, ok, Bool.not_true, Bool.false_eq_true,
        if_false]
      split_ifs <;> simpa using checked
    · simp only [step, ikev2RespIkeAuth, if_neg inEap, ok, Bool.not_false, if_true] at after
      exact absurd after before

theorem run_append_singleton (sa : IkeSa) (events : List Event) (event : Event) :
    run sa (events ++ [event]) = step (run sa events) event := by
  simp [run]

/-- Across every run from a fresh SA, with the peer's messages and the CA process's
replies in any order, the handler that moves the SA to ESTABLISHED finds every flag that
VALID requires set, AUTHVALID among them, and the peer's AUTH payload accepted. -/
theorem run_establishes_only_verified (initiator : Bool) (authEap authMethod : Nat)
    (events : List Event) (event : Event)
    (before : (run (fresh initiator authEap authMethod) events).status.saState ≠
      ikev2StateEstablished)
    (after : (run (fresh initiator authEap authMethod) (events ++ [event])).status.saState =
      ikev2StateEstablished) :
    HasFlags (run (fresh initiator authEap authMethod) (events ++ [event])).status.saStateflags
        (run (fresh initiator authEap authMethod) (events ++ [event])).status.saStatevalid ∧
      HasFlags (run (fresh initiator authEap authMethod) (events ++ [event])).status.saStateflags
        ikedReqAuthvalid ∧
      (run (fresh initiator authEap authMethod) (events ++ [event])).verified = true := by
  rw [run_append_singleton] at after ⊢
  exact step_establishes _ event (inv_run _ events (inv_fresh initiator authEap authMethod)) before
    after

-- A responder with a pre-shared key: IKE_SA_INIT, the proposal and the peer's AUTH
-- payload accepted, the move to VALID, and the reply that establishes the SA.
def pskResponderRun : List Event :=
  [.move ikev2StateSaInit (by decide), .gather ikedReqSa (by decide),
    .gather ikedReqAuth (by decide), .authverify true, .move ikev2StateValid (by decide)]

theorem run_establishes_psk_responder :
    (run (fresh false 0 ikev2AuthSharedKeyMic) pskResponderRun).status.saState ≠
        ikev2StateEstablished ∧
      (run (fresh false 0 ikev2AuthSharedKeyMic)
        (pskResponderRun ++ [.respIkeAuth true true])).status.saState = ikev2StateEstablished ∧
      (HasFlags (run (fresh false 0 ikev2AuthSharedKeyMic)
          (pskResponderRun ++ [.respIkeAuth true true])).status.saStateflags
          (run (fresh false 0 ikev2AuthSharedKeyMic)
            (pskResponderRun ++ [.respIkeAuth true true])).status.saStatevalid ∧
        HasFlags (run (fresh false 0 ikev2AuthSharedKeyMic)
          (pskResponderRun ++ [.respIkeAuth true true])).status.saStateflags ikedReqAuthvalid ∧
        (run (fresh false 0 ikev2AuthSharedKeyMic)
          (pskResponderRun ++ [.respIkeAuth true true])).verified = true) :=
  ⟨by decide, by decide, run_establishes_only_verified false 0 ikev2AuthSharedKeyMic
    pskResponderRun (.respIkeAuth true true) (by decide) (by decide)⟩

theorem step_verified (sa : IkeSa) (event : Event) (verified : sa.verified = true) :
    (step sa event).verified = true := by
  cases event with
  | authverify accepted => simp [step, verified]
  | eapAuthVerify accepted signed =>
    simp only [step]
    split <;> simp [verified]
  | initDone enabled =>
    simp only [step, ikev2InitDone]
    split_ifs <;> exact verified
  | respIkeAuth localauth sent =>
    simp only [step, ikev2RespIkeAuth]
    split_ifs <;> exact verified
  | _ => exact verified

/-- No run reaches an ESTABLISHED SA whose peer's AUTH payload was not accepted. -/
theorem run_established_verified (initiator : Bool) (authEap authMethod : Nat)
    (events : List Event) :
    (run (fresh initiator authEap authMethod) events).status.saState = ikev2StateEstablished →
      (run (fresh initiator authEap authMethod) events).verified = true := by
  -- carried forward from any reachable SA, by induction on the events still to run
  suffices safe : ∀ sa, Inv sa → (sa.status.saState = ikev2StateEstablished → sa.verified = true) →
      (run sa events).status.saState = ikev2StateEstablished → (run sa events).verified = true from
    safe _ (inv_fresh initiator authEap authMethod) (fun initial => absurd initial (by
      show ikev2StateInit ≠ ikev2StateEstablished
      decide))
  induction events with
  | nil => exact fun _ _ safe => safe
  | cons event events ih =>
    intro sa inv safe
    apply ih (step sa event) (inv_step sa event inv)
    intro established
    by_cases before : sa.status.saState = ikev2StateEstablished
    · exact step_verified sa event (safe before)
    · exact (step_establishes sa event inv before established).2.2

end OpenIKED.Ikev2.Establish
