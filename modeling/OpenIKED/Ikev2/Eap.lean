import OpenIKED.Ikev2.PldParse
import OpenIKED.Policy.SaState

set_option autoImplicit false

/-!
# EAP-MSCHAPv2 on the responder

`ikev2_pld_eap`, `eap_parse` and `eap_mschap` turn the EAP payload of an IKE_AUTH
request into a `struct eap_msg`; `ikev2_resp_recv` hands that to `ikev2_resp_ike_eap`
and `ikev2_resp_ike_eap_mschap`, which send the challenge, check the NT-Response
against it and derive the MSK.  The sub-protocol keeps no state of its own: what a
message does depends only on the message and on the SA's `sa_eapid`, `sa_eap.id_buf`
(the stored challenge) and `sa_state`.

MSCHAPv2 itself (`mschap_nt_response`, `mschap_msk`) is a parameter.  A handler either
returns or dereferences a NULL `sa_eap.id_buf`, which kills the IKEv2 process.
-/

namespace OpenIKED.Ikev2.Eap

open OpenIKED.Policy
open OpenIKED.Ikev2.PldParse (byteAt be16)

def eapCodeRequest : Nat := 1
def eapCodeResponse : Nat := 2
def eapCodeSuccess : Nat := 3
def eapCodeFailure : Nat := 4

def eapTypeIdentity : Nat := 1
def eapTypeMschapV2 : Nat := 26

def eapMsopcodeChallenge : Nat := 1
def eapMsopcodeResponse : Nat := 2
def eapMsopcodeSuccess : Nat := 3
def eapMsopcodeFailure : Nat := 4

def eapStateIdentity : Nat := 1
def eapStateMschapv2Challenge : Nat := 2
def eapStateMschapv2Success : Nat := 3
def eapStateSuccess : Nat := 4

-- sizeof of the packed EAP structures
def eapHeaderSize : Nat := 4
def eapMessageSize : Nat := 5
def eapMschapSize : Nat := 1
def eapMschapChallengeSize : Nat := 21
def eapMschapResponseSize : Nat := 54
def eapMschapSuccessSize : Nat := 4
def eapMschapFailureSize : Nat := 4

-- glibc's value; the compat header falls back to 9 where the system has none
def loginNameMax : Nat := 256

-- The fields of `struct eap_msg` that the responder reads back.
structure EapMsg where
  eamIdentity : Option (List UInt8) := none
  eamUser : Option (List UInt8) := none
  eamId : Nat := 0
  eamMsrid : Nat := 0
  eamFound : Bool := false
  eamChallenge : List UInt8 := []
  eamNtresponse : List UInt8 := []
  eamState : Nat := 0
deriving DecidableEq, Repr

-- The EAP part of `struct iked_sa`, with the policy's `auth_eap`.
structure EapSa where
  status : SaStatus
  saInitiator : Bool
  polAuthEap : Nat
  saEapid : Option (List UInt8)
  -- `sa_eap.id_buf`: the challenge `eap_challenge_request` sent
  saEap : Option (List UInt8)
  saEapmsk : Option (List UInt8)
deriving DecidableEq, Repr

structure IkedUser where
  usrName : List UInt8
  usrPass : List UInt8
deriving DecidableEq, Repr

-- The part of `struct iked` that the handlers read: the `sc_users` tree.
structure Iked where
  scUsers : List IkedUser

-- `mschap_nt_response` and `mschap_msk`.
structure MschapCrypto where
  ntResponse : (authChallenge peerChallenge user pass : List UInt8) → List UInt8
  msk : (pass ntresponse : List UInt8) → List UInt8

def isprint (c : UInt8) : Bool := 0x20 ≤ c && c ≤ 0x7e

-- `get_string(ptr, len)`: the printable prefix of the `len` bytes at `off`.
def getString (data : List UInt8) (off len : Nat) : List UInt8 :=
  ((data.drop off).take len).takeWhile isprint

def slice (data : List UInt8) (off len : Nat) : List UInt8 := (data.drop off).take len

def string2unicode (ascii : List UInt8) : List UInt8 := ascii.flatMap fun c => [c, 0]

-- `user_lookup`: a name that does not fit `usr_name` is never found.
def userLookup (env : Iked) (user : List UInt8) : Option IkedUser :=
  if loginNameMax ≤ user.length then none else env.scUsers.find? (·.usrName == user)

def eapValidateIdResponse (data : List UInt8) : List UInt8 :=
  let len := be16 data 2 - eapMessageSize
  if len = 0 then [] else getString data eapMessageSize len

def eapMschap (sa : EapSa) (msg : EapMsg) (data : List UInt8) : Int × EapMsg :=
  let length := be16 data 2
  if saStateok sa.status ikev2StateEap = false then (0, msg)
  else if sa.saInitiator then (-1, msg)
  else if byteAt data 4 ≠ eapTypeMschapV2 then (-1, msg)
  else if length < eapMessageSize + eapMschapSize then (-1, msg)
  else
    let opcode := byteAt data 5
    if opcode = eapMsopcodeResponse then
      if length < eapMessageSize + eapMschapResponseSize then (-1, msg)
      else
        let ptr := eapMessageSize + eapMschapResponseSize
        let len := length - eapMessageSize - eapMschapResponseSize
        let msg := if len ≠ 0 then { msg with eamUser := some (getString data ptr len) } else msg
        -- msr_id, then msp_challenge and msp_ntresponse of msr_response.resp_peer
        (0, { msg with eamMsrid := byteAt data 6, eamChallenge := slice data 10 16,
                       eamNtresponse := slice data 34 24, eamState := eapStateMschapv2Challenge })
    else if opcode = eapMsopcodeSuccess then (0, { msg with eamState := eapStateMschapv2Success })
    else (-1, msg)

-- The opcode switch of `eap_parse` for MSCHAPv2: `some` where it returns, `none`
-- where it breaks out to `eap_mschap`.
def eapParseMschapOpcode (msg : EapMsg) (code opcode len : Nat) (response : Bool) :
    Option (Int × EapMsg) :=
  if opcode = eapMsopcodeChallenge then
    if len < eapMschapChallengeSize then some (-1, msg) else none
  else if opcode = eapMsopcodeResponse then
    if len < eapMschapResponseSize then some (-1, msg) else none
  else if opcode = eapMsopcodeSuccess then
    if code = eapCodeRequest then
      if len < eapMschapSuccessSize then some (-1, msg) else none
    else if len < eapMschapSize then some (-1, msg)
    else if response then none
    else some (0, { msg with eamState := eapStateSuccess })
  else if opcode = eapMsopcodeFailure then
    if len < eapMschapFailureSize then some (-1, msg) else none
  else some (-1, msg)

def eapParse (sa : EapSa) (msg : EapMsg) (data : List UInt8) (response : Bool) :
    Int × EapMsg :=
  let len := be16 data 2
  if len < eapMessageSize then (-1, msg)
  else
    let len := len - eapMessageSize
    let code := byteAt data 0
    if code = eapCodeRequest ∨ code = eapCodeResponse then
      let msg := { msg with eamId := byteAt data 1 }
      let type := byteAt data 4
      if type = eapTypeIdentity then
        if code = eapCodeRequest ∨ response then (0, msg)
        -- a second identity is ignored once `sa_eapid` is known
        else if sa.saEapid.isSome then (0, msg)
        else (0, { msg with eamIdentity := some (eapValidateIdResponse data),
                            eamState := eapStateIdentity })
      else if type = eapTypeMschapV2 then
        if len < eapMschapSize then (-1, msg)
        else
          match eapParseMschapOpcode msg code (byteAt data 5) len response with
          | some result => result
          | none => if response then (0, msg) else eapMschap sa msg data
      else (-1, msg)
    else if code = eapCodeSuccess then (0, msg)
    else if code = eapCodeFailure then (if response then 0 else -1, msg)
    else (-1, msg)

-- `ikev2_pld_eap` on the payload body `data` (its `left` bytes).
def ikev2PldEap (sa : EapSa) (msg : EapMsg) (data : List UInt8) (response : Bool) :
    Int × EapMsg :=
  if data.length < eapHeaderSize then (-1, msg)
  else
    let eapLen := be16 data 2
    if data.length ≠ eapLen then (-1, msg)
    -- a bare header is logged and not parsed
    else if eapLen < eapMessageSize then (0, msg)
    else
      let parsed := eapParse sa msg data response
      if parsed.1 = -1 then (-1, parsed.2) else (0, { parsed.2 with eamFound := true })

-- `eap_challenge_request`: the challenge is stored before the request is sent, so it
-- stays stored whatever `ikev2_send_ike_e` returns.
def eapChallengeRequest (sa : EapSa) (challenge : Vector UInt8 16) (sent : Int) :
    Int × EapSa :=
  if sa.polAuthEap = eapTypeMschapV2 then (sent, { sa with saEap := some challenge.toList })
  else (-1, sa)

-- How a handler ends: it returns, or it dereferences a NULL pointer.
inductive Outcome where
  | returned (ret : Int) (sa : EapSa)
  | nullDeref
deriving DecidableEq, Repr

-- `ikev2_resp_ike_eap_mschap`.  `challenge` is what `arc4random_buf` draws and `sent`
-- what `ikev2_send_ike_e` returns for the one message the handler sends.
def ikev2RespIkeEapMschap (crypto : MschapCrypto) (env : Iked) (sa : EapSa) (msg : EapMsg)
    (challenge : Vector UInt8 16) (sent : Int) : Outcome :=
  if msg.eamState = eapStateIdentity then
    let result := eapChallengeRequest { sa with saEapid := msg.eamIdentity } challenge sent
    .returned result.1 result.2
  else if msg.eamState = eapStateMschapv2Challenge then
    match msg.eamUser.or sa.saEapid with
    | none => .returned (-1) sa
    | some name =>
      match userLookup env name with
      | none => .returned (-1) sa
      | some usr =>
        let pass := string2unicode usr.usrPass
        -- `mschap_nt_response(ibuf_data(sa->sa_eap.id_buf), ...)`
        match sa.saEap with
        | none => .nullDeref
        | some stored =>
          let ntresponse := crypto.ntResponse stored msg.eamChallenge usr.usrName pass
          if ntresponse ≠ msg.eamNtresponse then .returned (-1) sa
          else
            let sa := { sa with saEapmsk := some (crypto.msk pass ntresponse) }
            -- the handler returns 0 whether or not the success request went out
            if sent = 0 then .returned 0 { sa with status := saState sa.status ikev2StateAuthSuccess }
            else .returned 0 sa
  else if msg.eamState = eapStateMschapv2Success then .returned sent sa
  else if msg.eamState = eapStateSuccess then
    if saStateok sa.status ikev2StateAuthSuccess = false then .returned (-1) sa
    else .returned sent sa
  else .returned 0 sa

def ikev2RespIkeEap (crypto : MschapCrypto) (env : Iked) (sa : EapSa) (msg : EapMsg)
    (challenge : Vector UInt8 16) (sent : Int) : Outcome :=
  if saStateok sa.status ikev2StateEap = false then .returned (-1) sa
  else if sa.polAuthEap = eapTypeMschapV2 then
    ikev2RespIkeEapMschap crypto env sa msg challenge sent
  else .returned (-1) sa

-- `sa_state(env, sa, IKEV2_STATE_CLOSED)`.
def closeSa (sa : EapSa) : EapSa := { sa with status := saState sa.status ikev2StateClosed }

-- The first statements of `ikev2_ike_auth_recv`: the responder of an EAP policy moves
-- to EAP when the request carries no AUTH payload.  The rest of the function neither
-- reads nor writes the EAP fields.
def ikev2IkeAuthRecv (sa : EapSa) (authPresent : Bool) : EapSa :=
  let sa :=
    if authPresent ∧ saStateok sa.status ikev2StateEap = false then
      { sa with status := saState sa.status ikev2StateAuthRequest }
    else sa
  if !sa.saInitiator ∧ saStateok sa.status ikev2StateAuthRequest = false ∧ sa.polAuthEap ≠ 0 then
    { sa with status := saState sa.status ikev2StateEap }
  else sa

-- An IKE_AUTH request whose payload is EAP, with what the responder draws and sends
-- while it handles it.
structure EapRequest where
  eapPayload : List UInt8
  challenge : Vector UInt8 16
  sent : Int

inductive Received where
  -- the payload does not parse and `ikev2_recv` drops the message
  | dropped
  | handled (sa : EapSa)
  -- no EAP message was found: the request goes on to `ikev2_ike_auth_recv`
  | authRecv
  | nullDeref
deriving DecidableEq, Repr

-- The IKE_AUTH case of `ikev2_resp_recv`, after the payloads were parsed into `msg`.
def ikev2RespRecv (crypto : MschapCrypto) (env : Iked) (sa : EapSa) (msg : EapMsg)
    (challenge : Vector UInt8 16) (sent : Int) : Received :=
  if saStateok sa.status ikev2StateSaInit = false then .handled (closeSa sa)
  else if !msg.eamFound then .authRecv
  else
    match ikev2RespIkeEap crypto env sa msg challenge sent with
    | .nullDeref => .nullDeref
    | .returned ret sa => if ret ≠ 0 then .handled (closeSa sa) else .handled sa

-- `ikev2_recv` for a request whose only payload is EAP.
def ikev2Recv (crypto : MschapCrypto) (env : Iked) (sa : EapSa) (req : EapRequest) : Received :=
  let parsed := ikev2PldEap sa {} req.eapPayload false
  if parsed.1 ≠ 0 then .dropped
  else ikev2RespRecv crypto env sa parsed.2 req.challenge req.sent

-- The responder handling requests one after the other, until one reaches
-- `ikev2_ike_auth_recv` or crashes.
def eapRun (crypto : MschapCrypto) (env : Iked) : EapSa → List EapRequest → Received
  | sa, [] => .handled sa
  | sa, req :: rest =>
    match ikev2Recv crypto env sa req with
    | .dropped => eapRun crypto env sa rest
    | .handled sa' => eapRun crypto env sa' rest
    | .authRecv => .authRecv
    | .nullDeref => .nullDeref

/-! ## What one request can do -/

-- An identity in a parsed message is one `eap_parse` accepted: it is there, and the
-- SA had none yet.
def IdentityFresh (sa : EapSa) (msg : EapMsg) : Prop :=
  msg.eamState = eapStateIdentity → sa.saEapid = none ∧ msg.eamIdentity.isSome

theorem identityFresh_empty (sa : EapSa) : IdentityFresh sa {} := by
  intro identity
  cases identity

theorem eapMschap_identityFresh (sa : EapSa) (msg : EapMsg) (data : List UInt8)
    (fresh : IdentityFresh sa msg) : IdentityFresh sa (eapMschap sa msg data).2 := by
  unfold eapMschap
  dsimp only
  -- every branch leaves `msg` alone or sets an MSCHAPv2 state
  split_ifs <;> first
    | exact fresh
    | (intro identity; simp [eapStateIdentity, eapStateMschapv2Challenge,
        eapStateMschapv2Success] at identity)

theorem eapParseMschapOpcode_identityFresh (sa : EapSa) (msg : EapMsg) (code opcode len : Nat)
    (response : Bool) (result : Int × EapMsg)
    (returned : eapParseMschapOpcode msg code opcode len response = some result)
    (fresh : IdentityFresh sa msg) : IdentityFresh sa result.2 := by
  unfold eapParseMschapOpcode at returned
  split_ifs at returned <;> cases returned
  all_goals first
    | exact fresh
    | (intro identity; simp [eapStateIdentity, eapStateSuccess] at identity)

theorem eapParse_identityFresh (sa : EapSa) (msg : EapMsg) (data : List UInt8) (response : Bool)
    (fresh : IdentityFresh sa msg) : IdentityFresh sa (eapParse sa msg data response).2 := by
  -- setting `eam_id` keeps the state and the identity
  have withId : ∀ id, IdentityFresh sa { msg with eamId := id } := fun _ => fresh
  unfold eapParse
  dsimp only
  split_ifs
  · exact fresh
  · exact withId _
  · exact withId _
  · -- the one branch that accepts an identity
    rename_i known
    intro _
    exact ⟨Option.not_isSome_iff_eq_none.mp known, rfl⟩
  · exact withId _
  all_goals try split
  · exact eapParseMschapOpcode_identityFresh sa _ _ _ _ _ _ ‹_› (withId _)
  · exact withId _
  · exact eapParseMschapOpcode_identityFresh sa _ _ _ _ _ _ ‹_› (withId _)
  · exact eapMschap_identityFresh sa _ data (withId _)
  · exact withId _
  all_goals exact fresh

theorem ikev2PldEap_identityFresh (sa : EapSa) (data : List UInt8) (response : Bool) :
    IdentityFresh sa (ikev2PldEap sa {} data response).2 := by
  have parsed := eapParse_identityFresh sa {} data response (identityFresh_empty sa)
  unfold ikev2PldEap
  dsimp only
  split_ifs
  · exact identityFresh_empty sa
  · exact identityFresh_empty sa
  · exact identityFresh_empty sa
  · exact parsed
  · exact parsed

-- The MSCHAPv2 check of `ikev2_resp_ike_eap_mschap` passed: the response names a
-- configured user and carries the NT-Response computed from the stored challenge.
structure Verified (crypto : MschapCrypto) (env : Iked) (sa : EapSa) (msg : EapMsg)
    (usr : IkedUser) (stored : List UInt8) : Prop where
  named : ∃ name, msg.eamUser.or sa.saEapid = some name ∧ userLookup env name = some usr
  challenge : sa.saEap = some stored
  answered : crypto.ntResponse stored msg.eamChallenge usr.usrName (string2unicode usr.usrPass) =
    msg.eamNtresponse

-- The SA after a passed check: the MSK derived from the response, and AUTH_SUCCESS
-- once the success request went out.
def authenticated (crypto : MschapCrypto) (sa : EapSa) (usr : IkedUser) (stored : List UInt8)
    (msg : EapMsg) (sent : Int) : EapSa :=
  let pass := string2unicode usr.usrPass
  let sa := { sa with
    saEapmsk := some (crypto.msk pass (crypto.ntResponse stored msg.eamChallenge usr.usrName pass)) }
  if sent = 0 then { sa with status := saState sa.status ikev2StateAuthSuccess } else sa

/-- Everything `ikev2_resp_ike_eap_mschap` can do: return with the SA untouched, store a
challenge for a new identity, crash on a response that names a user while no challenge is
stored, or authenticate a verified response. -/
theorem ikev2RespIkeEapMschap_cases (crypto : MschapCrypto) (env : Iked) (sa : EapSa)
    (msg : EapMsg) (challenge : Vector UInt8 16) (sent : Int) :
    (∃ ret, ikev2RespIkeEapMschap crypto env sa msg challenge sent = .returned ret sa) ∨
    (msg.eamState = eapStateIdentity ∧
      ikev2RespIkeEapMschap crypto env sa msg challenge sent =
        .returned (eapChallengeRequest { sa with saEapid := msg.eamIdentity } challenge sent).1
          (eapChallengeRequest { sa with saEapid := msg.eamIdentity } challenge sent).2) ∨
    (msg.eamState = eapStateMschapv2Challenge ∧
      (∃ name usr, msg.eamUser.or sa.saEapid = some name ∧ userLookup env name = some usr) ∧
      sa.saEap = none ∧ ikev2RespIkeEapMschap crypto env sa msg challenge sent = .nullDeref) ∨
    (∃ usr stored, Verified crypto env sa msg usr stored ∧
      ikev2RespIkeEapMschap crypto env sa msg challenge sent =
        .returned 0 (authenticated crypto sa usr stored msg sent)) := by
  unfold ikev2RespIkeEapMschap
  by_cases identity : msg.eamState = eapStateIdentity
  · exact Or.inr (Or.inl ⟨identity, by rw [if_pos identity]⟩)
  rw [if_neg identity]
  by_cases response : msg.eamState = eapStateMschapv2Challenge
  · rw [if_pos response]
    -- follow the handler: the name, the user, the stored challenge, the NT-Response
    -- (`rcases` also rewrites the name, the user and the challenge in the statement)
    rcases named : msg.eamUser.or sa.saEapid with _ | name
    · exact Or.inl ⟨-1, rfl⟩
    dsimp only
    rcases found : userLookup env name with _ | usr
    · exact Or.inl ⟨-1, rfl⟩
    dsimp only
    rcases kept : sa.saEap with _ | stored
    · exact Or.inr (Or.inr (Or.inl ⟨response, ⟨name, usr, rfl, found⟩, rfl, rfl⟩))
    dsimp only
    by_cases answered : crypto.ntResponse stored msg.eamChallenge usr.usrName
        (string2unicode usr.usrPass) = msg.eamNtresponse
    · refine Or.inr (Or.inr (Or.inr ⟨usr, stored, ⟨⟨name, named, found⟩, kept, answered⟩, ?_⟩))
      rw [if_neg (not_not.mpr answered)]
      unfold authenticated
      dsimp only
      split_ifs <;> rw [kept]
    · exact Or.inl ⟨-1, by rw [if_pos answered]⟩
  rw [if_neg response]
  left
  split_ifs
  · exact ⟨sent, rfl⟩
  · exact ⟨-1, rfl⟩
  · exact ⟨sent, rfl⟩
  · exact ⟨0, rfl⟩

/-- The handler crashes exactly on a response that names a configured user while no
challenge is stored. -/
theorem ikev2RespIkeEapMschap_eq_nullDeref_iff (crypto : MschapCrypto) (env : Iked) (sa : EapSa)
    (msg : EapMsg) (challenge : Vector UInt8 16) (sent : Int) :
    ikev2RespIkeEapMschap crypto env sa msg challenge sent = .nullDeref ↔
      msg.eamState = eapStateMschapv2Challenge ∧
      (∃ name usr, msg.eamUser.or sa.saEapid = some name ∧ userLookup env name = some usr) ∧
      sa.saEap = none := by
  constructor
  · intro crashed
    rcases ikev2RespIkeEapMschap_cases crypto env sa msg challenge sent with
      ⟨ret, returned⟩ | ⟨-, returned⟩ | ⟨response, named, missing, -⟩ | ⟨usr, stored, -, returned⟩
    · exact absurd (crashed.symm.trans returned) nofun
    · exact absurd (crashed.symm.trans returned) nofun
    · exact ⟨response, named, missing⟩
    · exact absurd (crashed.symm.trans returned) nofun
  · rintro ⟨response, ⟨name, usr, named, found⟩, missing⟩
    have notIdentity : msg.eamState ≠ eapStateIdentity := by
      rw [response]
      decide
    rw [ikev2RespIkeEapMschap, if_neg notIdentity, if_pos response]
    simp only [named, found, missing]

theorem ikev2RespIkeEap_cases (crypto : MschapCrypto) (env : Iked) (sa : EapSa) (msg : EapMsg)
    (challenge : Vector UInt8 16) (sent : Int) :
    ikev2RespIkeEap crypto env sa msg challenge sent = .returned (-1) sa ∨
    (saStateok sa.status ikev2StateEap = true ∧ sa.polAuthEap = eapTypeMschapV2 ∧
      ikev2RespIkeEap crypto env sa msg challenge sent =
        ikev2RespIkeEapMschap crypto env sa msg challenge sent) := by
  unfold ikev2RespIkeEap
  split_ifs with refused mschap
  · exact Or.inl rfl
  · exact Or.inr ⟨Bool.not_eq_false _ ▸ refused, mschap, rfl⟩
  · exact Or.inl rfl

-- A request that `ikev2_resp_recv` handles leaves the SA as it was or as the MSCHAPv2
-- handler left it, closed when the handler failed.
theorem ikev2RespRecv_handled (crypto : MschapCrypto) (env : Iked) (sa sa' : EapSa)
    (msg : EapMsg) (challenge : Vector UInt8 16) (sent : Int)
    (handled : ikev2RespRecv crypto env sa msg challenge sent = .handled sa') :
    ∃ sa1, (sa1 = sa ∨ ∃ ret, ikev2RespIkeEapMschap crypto env sa msg challenge sent = .returned ret sa1) ∧
      (sa' = sa1 ∨ sa' = closeSa sa1) := by
  unfold ikev2RespRecv at handled
  split_ifs at handled
  · cases handled
    exact ⟨sa, Or.inl rfl, Or.inr rfl⟩
  rcases ikev2RespIkeEap_cases crypto env sa msg challenge sent with refused | ⟨-, -, viaMschap⟩
  · rw [refused] at handled
    simp only [ne_eq, Int.reduceNeg, reduceCtorEq, not_false_eq_true, if_true,
      Received.handled.injEq] at handled
    exact ⟨sa, Or.inl rfl, Or.inr handled.symm⟩
  rw [viaMschap] at handled
  split at handled
  · cases handled
  · rename_i ret sa1 returned
    refine ⟨sa1, Or.inr ⟨ret, returned⟩, ?_⟩
    split_ifs at handled <;> cases handled
    · exact Or.inr rfl
    · exact Or.inl rfl

theorem ikev2RespRecv_eq_nullDeref_iff (crypto : MschapCrypto) (env : Iked) (sa : EapSa)
    (msg : EapMsg) (challenge : Vector UInt8 16) (sent : Int) :
    ikev2RespRecv crypto env sa msg challenge sent = .nullDeref ↔
      saStateok sa.status ikev2StateSaInit = true ∧ msg.eamFound = true ∧
      saStateok sa.status ikev2StateEap = true ∧ sa.polAuthEap = eapTypeMschapV2 ∧
      ikev2RespIkeEapMschap crypto env sa msg challenge sent = .nullDeref := by
  unfold ikev2RespRecv
  by_cases mismatch : saStateok sa.status ikev2StateSaInit = false
  · rw [if_pos mismatch]
    simp [mismatch]
  rw [if_neg mismatch]
  by_cases found : msg.eamFound = true
  · rw [if_neg (by simp [found])]
    rcases ikev2RespIkeEap_cases crypto env sa msg challenge sent with refused | ⟨eapOk, mschap, viaMschap⟩
    · -- `ikev2_resp_ike_eap` refused the message before the handler ran
      rw [refused]
      simp only [ne_eq, Int.reduceNeg, reduceCtorEq, not_false_eq_true, if_true, false_iff]
      rintro ⟨-, -, eapOk, mschap, crashed⟩
      rw [ikev2RespIkeEap, if_neg (by simp [eapOk]), if_pos mschap, crashed] at refused
      cases refused
    · rw [viaMschap]
      constructor
      · intro crashed
        refine ⟨Bool.not_eq_false _ ▸ mismatch, found, eapOk, mschap, ?_⟩
        split at crashed
        · assumption
        · split_ifs at crashed
      · rintro ⟨-, -, -, -, crashed⟩
        rw [crashed]
  · rw [if_pos (by simp [found])]
    simp [found]

theorem ikev2Recv_cases (crypto : MschapCrypto) (env : Iked) (sa : EapSa) (req : EapRequest) :
    ikev2Recv crypto env sa req = .dropped ∨
    (ikev2PldEap sa {} req.eapPayload false).1 = 0 ∧
      ikev2Recv crypto env sa req = ikev2RespRecv crypto env sa
        (ikev2PldEap sa {} req.eapPayload false).2 req.challenge req.sent := by
  unfold ikev2Recv
  dsimp only
  split_ifs with parsed
  · exact Or.inl rfl
  · exact Or.inr ⟨not_not.mp parsed, rfl⟩

theorem ikev2Recv_handled (crypto : MschapCrypto) (env : Iked) (sa sa' : EapSa) (req : EapRequest)
    (handled : ikev2Recv crypto env sa req = .handled sa') :
    ∃ sa1, (sa1 = sa ∨ ∃ msg ret, IdentityFresh sa msg ∧
        ikev2RespIkeEapMschap crypto env sa msg req.challenge req.sent = .returned ret sa1) ∧
      (sa' = sa1 ∨ sa' = closeSa sa1) := by
  rcases ikev2Recv_cases crypto env sa req with dropped | ⟨-, viaRespRecv⟩
  · rw [dropped] at handled
    cases handled
  rw [viaRespRecv] at handled
  obtain ⟨sa1, source, closed⟩ := ikev2RespRecv_handled crypto env sa sa' _ _ _ handled
  refine ⟨sa1, ?_, closed⟩
  rcases source with unchanged | ⟨ret, returned⟩
  · exact Or.inl unchanged
  · exact Or.inr ⟨_, ret, ikev2PldEap_identityFresh sa req.eapPayload false, returned⟩

theorem ikev2Recv_eq_nullDeref_iff (crypto : MschapCrypto) (env : Iked) (sa : EapSa)
    (req : EapRequest) :
    ikev2Recv crypto env sa req = .nullDeref ↔
      (ikev2PldEap sa {} req.eapPayload false).1 = 0 ∧
      ikev2RespRecv crypto env sa (ikev2PldEap sa {} req.eapPayload false).2
        req.challenge req.sent = .nullDeref := by
  rcases ikev2Recv_cases crypto env sa req with dropped | ⟨parsed, viaRespRecv⟩
  · rw [dropped]
    simp only [reduceCtorEq, false_iff, not_and]
    intro parsed
    rw [ikev2Recv, if_neg (not_not.mpr parsed)] at dropped
    rw [dropped]
    nofun
  · rw [viaRespRecv]
    exact ⟨fun crashed => ⟨parsed, crashed⟩, fun ⟨_, crashed⟩ => crashed⟩

/-! ## Runs: the stored challenge, the MSK and AUTH_SUCCESS -/

@[simp] theorem closeSa_saState (sa : EapSa) : (closeSa sa).status.saState = ikev2StateClosed := by
  rw [closeSa, saState_of_unchecked _ _ (by decide)]

@[simp] theorem closeSa_saEap (sa : EapSa) : (closeSa sa).saEap = sa.saEap := rfl

@[simp] theorem closeSa_saEapid (sa : EapSa) : (closeSa sa).saEapid = sa.saEapid := rfl

@[simp] theorem closeSa_saEapmsk (sa : EapSa) : (closeSa sa).saEapmsk = sa.saEapmsk := rfl

theorem eapChallengeRequest_stores (sa : EapSa) (challenge : Vector UInt8 16) (sent : Int) :
    (eapChallengeRequest sa challenge sent).2 = { sa with saEap := some challenge.toList } ∨
      (eapChallengeRequest sa challenge sent).2 = sa := by
  unfold eapChallengeRequest
  split_ifs
  · exact Or.inl rfl
  · exact Or.inr rfl

@[simp] theorem authenticated_saEap (crypto : MschapCrypto) (sa : EapSa) (usr : IkedUser)
    (stored : List UInt8) (msg : EapMsg) (sent : Int) :
    (authenticated crypto sa usr stored msg sent).saEap = sa.saEap := by
  unfold authenticated
  split_ifs <;> rfl

@[simp] theorem authenticated_saEapid (crypto : MschapCrypto) (sa : EapSa) (usr : IkedUser)
    (stored : List UInt8) (msg : EapMsg) (sent : Int) :
    (authenticated crypto sa usr stored msg sent).saEapid = sa.saEapid := by
  unfold authenticated
  split_ifs <;> rfl

@[simp] theorem authenticated_saEapmsk (crypto : MschapCrypto) (sa : EapSa) (usr : IkedUser)
    (stored : List UInt8) (msg : EapMsg) (sent : Int) :
    (authenticated crypto sa usr stored msg sent).saEapmsk =
      some (crypto.msk (string2unicode usr.usrPass)
        (crypto.ntResponse stored msg.eamChallenge usr.usrName (string2unicode usr.usrPass))) := by
  unfold authenticated
  split_ifs <;> rfl

theorem eapChallengeRequest_status (sa : EapSa) (challenge : Vector UInt8 16) (sent : Int) :
    (eapChallengeRequest sa challenge sent).2.status = sa.status := by
  rcases eapChallengeRequest_stores sa challenge sent with drawn | kept
  · rw [drawn]
  · rw [kept]

theorem userLookup_head (usr : IkedUser) (others : List IkedUser)
    (short : usr.usrName.length < loginNameMax) :
    userLookup ⟨usr :: others⟩ usr.usrName = some usr := by
  unfold userLookup
  rw [if_neg (Nat.not_le.mpr short)]
  simp

theorem userLookup_mem (env : Iked) (name : List UInt8) (usr : IkedUser)
    (found : userLookup env name = some usr) : usr ∈ env.scUsers := by
  unfold userLookup at found
  split_ifs at found
  exact List.mem_of_find?_eq_some found

theorem ikev2Recv_saEap (crypto : MschapCrypto) (env : Iked) (sa sa' : EapSa) (req : EapRequest)
    (handled : ikev2Recv crypto env sa req = .handled sa') :
    sa'.saEap = sa.saEap ∨ (sa.saEapid = none ∧ sa'.saEap = some req.challenge.toList) := by
  obtain ⟨sa1, source, closed⟩ := ikev2Recv_handled crypto env sa sa' req handled
  -- closing the SA keeps the challenge, so only the handler's part matters
  have closedKeeps : sa'.saEap = sa1.saEap := by
    rcases closed with rfl | rfl <;> rfl
  rw [closedKeeps]
  rcases source with rfl | ⟨msg, ret, fresh, returned⟩
  · exact Or.inl rfl
  rcases ikev2RespIkeEapMschap_cases crypto env sa msg req.challenge req.sent with
    ⟨ret', same⟩ | ⟨identity, asked⟩ | ⟨-, -, -, crashed⟩ | ⟨usr, stored, -, accepted⟩
  · rw [same] at returned
    cases returned
    exact Or.inl rfl
  · rw [asked] at returned
    cases returned
    rcases eapChallengeRequest_stores { sa with saEapid := msg.eamIdentity } req.challenge req.sent
      with drawn | kept
    · exact Or.inr ⟨(fresh identity).1, by rw [drawn]⟩
    · exact Or.inl (by rw [kept])
  · rw [crashed] at returned
    cases returned
  · rw [accepted] at returned
    cases returned
    exact Or.inl (authenticated_saEap ..)

-- A request takes the SA into AUTH_SUCCESS only through a passed MSCHAPv2 check, and
-- then leaves the MSK that check derives.
theorem ikev2Recv_authSuccess (crypto : MschapCrypto) (env : Iked) (sa sa' : EapSa)
    (req : EapRequest) (handled : ikev2Recv crypto env sa req = .handled sa')
    (notYet : sa.status.saState ≠ ikev2StateAuthSuccess)
    (success : sa'.status.saState = ikev2StateAuthSuccess) :
    ∃ msg usr stored, Verified crypto env sa msg usr stored ∧
      sa' = authenticated crypto sa usr stored msg req.sent := by
  obtain ⟨sa1, source, closed⟩ := ikev2Recv_handled crypto env sa sa' req handled
  -- a closed SA is not in AUTH_SUCCESS
  obtain rfl : sa' = sa1 := by
    rcases closed with kept | rfl
    · exact kept
    · rw [closeSa_saState] at success
      cases success
  rcases source with rfl | ⟨msg, ret, -, returned⟩
  · exact absurd success notYet
  rcases ikev2RespIkeEapMschap_cases crypto env sa msg req.challenge req.sent with
    ⟨ret', same⟩ | ⟨-, asked⟩ | ⟨-, -, -, crashed⟩ | ⟨usr, stored, check, accepted⟩
  · rw [same] at returned
    cases returned
    exact absurd success notYet
  · rw [asked] at returned
    cases returned
    rw [eapChallengeRequest_status] at success
    exact absurd success notYet
  · rw [crashed] at returned
    cases returned
  · rw [accepted] at returned
    cases returned
    exact ⟨msg, usr, stored, check, rfl⟩

theorem ikev2Recv_ne_nullDeref (crypto : MschapCrypto) (env : Iked) (sa : EapSa) (req : EapRequest)
    (stored : sa.saEap.isSome) : ikev2Recv crypto env sa req ≠ .nullDeref := by
  intro crashed
  obtain ⟨-, viaRespRecv⟩ := (ikev2Recv_eq_nullDeref_iff crypto env sa req).mp crashed
  obtain ⟨-, -, -, -, handler⟩ := (ikev2RespRecv_eq_nullDeref_iff ..).mp viaRespRecv
  obtain ⟨-, -, missing⟩ := (ikev2RespIkeEapMschap_eq_nullDeref_iff ..).mp handler
  rw [missing] at stored
  cases stored

-- `sa_eapmsk` was derived from the challenge stored on the SA and a configured
-- user's password, as the MSCHAPv2 check computes it.
def MskVerified (crypto : MschapCrypto) (env : Iked) (sa : EapSa) : Prop :=
  ∃ usr stored peerChallenge, usr ∈ env.scUsers ∧ sa.saEap = some stored ∧
    sa.saEapmsk = some (crypto.msk (string2unicode usr.usrPass)
      (crypto.ntResponse stored peerChallenge usr.usrName (string2unicode usr.usrPass)))

/-- What holds of the responder's SA between EAP requests: a challenge is only stored
once the EAP identity is known, and AUTH_SUCCESS carries a verified MSK. -/
structure EapInv (crypto : MschapCrypto) (env : Iked) (sa : EapSa) : Prop where
  identified : sa.saEap.isSome → sa.saEapid.isSome
  verified : sa.status.saState = ikev2StateAuthSuccess → MskVerified crypto env sa

theorem eapInv_of_fresh (crypto : MschapCrypto) (env : Iked) (sa : EapSa)
    (noChallenge : sa.saEap = none) (notYet : sa.status.saState ≠ ikev2StateAuthSuccess) :
    EapInv crypto env sa where
  identified stored := by
    rw [noChallenge] at stored
    cases stored
  verified success := absurd success notYet

theorem closeSa_eapInv (crypto : MschapCrypto) (env : Iked) (sa : EapSa)
    (inv : EapInv crypto env sa) : EapInv crypto env (closeSa sa) where
  identified := inv.identified
  verified success := by
    rw [closeSa_saState] at success
    cases success

theorem authenticated_eapInv (crypto : MschapCrypto) (env : Iked) (sa : EapSa) (msg : EapMsg)
    (usr : IkedUser) (stored : List UInt8) (sent : Int) (check : Verified crypto env sa msg usr stored)
    (inv : EapInv crypto env sa) : EapInv crypto env (authenticated crypto sa usr stored msg sent) where
  identified := by
    simpa only [authenticated_saEap, authenticated_saEapid] using inv.identified
  verified _ := by
    obtain ⟨name, -, found⟩ := check.named
    refine ⟨usr, stored, msg.eamChallenge, userLookup_mem env name usr found, ?_, ?_⟩
    · rw [authenticated_saEap, check.challenge]
    · rw [authenticated_saEapmsk]

-- A new identity only arrives while no challenge is stored, so the SA it reaches is
-- not in AUTH_SUCCESS.
theorem eapChallengeRequest_eapInv (crypto : MschapCrypto) (env : Iked) (sa : EapSa) (msg : EapMsg)
    (challenge : Vector UInt8 16) (sent : Int) (fresh : IdentityFresh sa msg)
    (identity : msg.eamState = eapStateIdentity) (inv : EapInv crypto env sa) :
    EapInv crypto env (eapChallengeRequest { sa with saEapid := msg.eamIdentity } challenge sent).2 := by
  obtain ⟨anonymous, named⟩ := fresh identity
  have notYet : sa.status.saState ≠ ikev2StateAuthSuccess := by
    intro success
    obtain ⟨_, _, _, _, stored, _⟩ := inv.verified success
    have known := inv.identified (by rw [stored]; rfl)
    rw [anonymous] at known
    cases known
  rcases eapChallengeRequest_stores { sa with saEapid := msg.eamIdentity } challenge sent
    with drawn | kept
  · rw [drawn]
    exact ⟨fun _ => named, fun success => absurd success notYet⟩
  · rw [kept]
    exact ⟨fun _ => named, fun success => absurd success notYet⟩

theorem ikev2Recv_eapInv (crypto : MschapCrypto) (env : Iked) (sa sa' : EapSa) (req : EapRequest)
    (inv : EapInv crypto env sa) (handled : ikev2Recv crypto env sa req = .handled sa') :
    EapInv crypto env sa' := by
  obtain ⟨sa1, source, closed⟩ := ikev2Recv_handled crypto env sa sa' req handled
  have handler : EapInv crypto env sa1 := by
    rcases source with rfl | ⟨msg, ret, fresh, returned⟩
    · exact inv
    rcases ikev2RespIkeEapMschap_cases crypto env sa msg req.challenge req.sent with
      ⟨ret', same⟩ | ⟨identity, asked⟩ | ⟨-, -, -, crashed⟩ | ⟨usr, stored, check, accepted⟩
    · rw [same] at returned
      cases returned
      exact inv
    · rw [asked] at returned
      cases returned
      exact eapChallengeRequest_eapInv crypto env sa msg req.challenge req.sent fresh identity inv
    · rw [crashed] at returned
      cases returned
    · rw [accepted] at returned
      cases returned
      exact authenticated_eapInv crypto env sa msg usr stored req.sent check inv
  rcases closed with rfl | rfl
  · exact handler
  · exact closeSa_eapInv crypto env sa1 handler

/-- The invariant holds after every run of EAP requests that ends with the SA handled. -/
theorem eapRun_eapInv (crypto : MschapCrypto) (env : Iked) (reqs : List EapRequest)
    (sa sa' : EapSa) (inv : EapInv crypto env sa)
    (finished : eapRun crypto env sa reqs = .handled sa') : EapInv crypto env sa' := by
  induction reqs generalizing sa with
  | nil =>
    cases finished
    exact inv
  | cons req rest ih =>
    unfold eapRun at finished
    split at finished
    · exact ih sa inv finished
    · rename_i next handled
      exact ih next (ikev2Recv_eapInv crypto env sa next req inv handled) finished
    · cases finished
    · cases finished

theorem eapRun_saEap (crypto : MschapCrypto) (env : Iked) (reqs : List EapRequest)
    (sa sa' : EapSa) (stored : List UInt8) (inv : EapInv crypto env sa)
    (kept : sa.saEap = some stored) (finished : eapRun crypto env sa reqs = .handled sa') :
    sa'.saEap = some stored := by
  induction reqs generalizing sa with
  | nil =>
    cases finished
    exact kept
  | cons req rest ih =>
    unfold eapRun at finished
    split at finished
    · exact ih sa inv kept finished
    · rename_i next handled
      refine ih next (ikev2Recv_eapInv crypto env sa next req inv handled) ?_ finished
      rcases ikev2Recv_saEap crypto env sa next req handled with same | ⟨anonymous, -⟩
      · rw [same, kept]
      · -- a second challenge would need the SA to have no identity
        have known := inv.identified (by rw [kept]; rfl)
        rw [anonymous] at known
        cases known
    · cases finished
    · cases finished

-- A responder SA of a policy with `eap "MSCHAP-V2"`, whose authentication method
-- `parse.y` sets to `IKEV2_AUTH_SIG_ANY`, once IKE_SA_INIT is done.
def eapResponderAfterSaInit : EapSa :=
  { status := saState (saNewStatus false eapTypeMschapV2 255) ikev2StateSaInit,
    saInitiator := false, polAuthEap := eapTypeMschapV2,
    saEapid := none, saEap := none, saEapmsk := none }

def aliceName : List UInt8 := [97, 108, 105, 99, 101]

-- An EAP Response carrying an MSCHAPv2 Response for user "alice", with zeroed peer
-- challenge and NT-Response, sent before any Identity Response.
def earlyMschapResponse : List UInt8 :=
  [2, 1, 0, 64, 26, 2, 1, 0, 59, 49] ++ List.replicate 49 0 ++ aliceName

-- The identity Response "alice" that opens the exchange.
def aliceIdentityResponse : List UInt8 := [2, 0, 0, 10, 1] ++ aliceName

def aliceUsers : Iked := ⟨[⟨aliceName, [1]⟩]⟩

-- MSCHAPv2 with an all-zero NT-Response, which the zeroed response of
-- `earlyMschapResponse` then matches.
def zeroNtCrypto : MschapCrypto := ⟨fun _ _ _ _ => List.replicate 24 0, fun _ _ => []⟩

-- The identity Response, then the MSCHAPv2 Response, each answered with a sent request.
def aliceRun : List EapRequest :=
  [⟨aliceIdentityResponse, Vector.replicate 16 7, 0⟩, ⟨earlyMschapResponse, Vector.replicate 16 7, 0⟩]

def aliceChallenged : EapSa :=
  { ikev2IkeAuthRecv eapResponderAfterSaInit false with
    saEapid := some aliceName, saEap := some (List.replicate 16 7) }

def aliceAuthenticated : EapSa :=
  { aliceChallenged with
    status := saState aliceChallenged.status ikev2StateAuthSuccess, saEapmsk := some [] }

theorem eapRun_ne_nullDeref (crypto : MschapCrypto) (env : Iked) (reqs : List EapRequest)
    (sa : EapSa) (stored : sa.saEap.isSome) : eapRun crypto env sa reqs ≠ .nullDeref := by
  induction reqs generalizing sa with
  | nil => nofun
  | cons req rest ih =>
    unfold eapRun
    split
    · exact ih sa stored
    · rename_i next handled
      apply ih next
      rcases ikev2Recv_saEap crypto env sa next req handled with same | ⟨-, drawn⟩
      · rwa [same]
      · rw [drawn]
        rfl
    · nofun
    · rename_i crashed
      exact absurd crashed (ikev2Recv_ne_nullDeref crypto env sa req stored)

-- The MSCHAPv2 Response that crashes the responder before the challenge does not once
-- the challenge is stored.
theorem eapRun_ne_nullDeref_of_challenged :
    aliceChallenged.saEap.isSome ∧
      eapRun zeroNtCrypto aliceUsers aliceChallenged [aliceRun[1]] ≠ .nullDeref :=
  ⟨rfl, eapRun_ne_nullDeref zeroNtCrypto aliceUsers [aliceRun[1]] aliceChallenged rfl⟩

theorem eapRun_challenge_drawn (crypto : MschapCrypto) (env : Iked) (reqs : List EapRequest)
    (sa sa' : EapSa) (inv : EapInv crypto env sa) (noChallenge : sa.saEap = none)
    (finished : eapRun crypto env sa reqs = .handled sa') :
    sa'.saEap = none ∨ ∃ req ∈ reqs, sa'.saEap = some req.challenge.toList := by
  induction reqs generalizing sa with
  | nil =>
    cases finished
    exact Or.inl noChallenge
  | cons req rest ih =>
    unfold eapRun at finished
    split at finished
    · rcases ih sa inv noChallenge finished with none | ⟨r, member, drawn⟩
      · exact Or.inl none
      · exact Or.inr ⟨r, List.mem_cons_of_mem req member, drawn⟩
    · rename_i next handled
      have nextInv := ikev2Recv_eapInv crypto env sa next req inv handled
      rcases ikev2Recv_saEap crypto env sa next req handled with same | ⟨-, drawn⟩
      · rcases ih next nextInv (same.trans noChallenge) finished with none | ⟨r, member, drawn⟩
        · exact Or.inl none
        · exact Or.inr ⟨r, List.mem_cons_of_mem req member, drawn⟩
      · -- this request drew the challenge, and the rest of the run keeps it
        exact Or.inr ⟨req, List.mem_cons_self, eapRun_saEap crypto env rest next sa' _ nextInv drawn finished⟩
    · cases finished
    · cases finished

/-- On every run from an SA without a challenge, AUTH_SUCCESS is only ever reached with
an MSK derived from the stored challenge. -/
theorem eapRun_authSuccess (crypto : MschapCrypto) (env : Iked) (reqs : List EapRequest)
    (sa sa' : EapSa) (noChallenge : sa.saEap = none)
    (notYet : sa.status.saState ≠ ikev2StateAuthSuccess)
    (finished : eapRun crypto env sa reqs = .handled sa')
    (success : sa'.status.saState = ikev2StateAuthSuccess) : MskVerified crypto env sa' :=
  (eapRun_eapInv crypto env reqs sa sa' (eapInv_of_fresh crypto env sa noChallenge notYet)
    finished).verified success

theorem eapRun_authSuccess_of_alice :
    (ikev2IkeAuthRecv eapResponderAfterSaInit false).saEap = none ∧
    (ikev2IkeAuthRecv eapResponderAfterSaInit false).status.saState ≠ ikev2StateAuthSuccess ∧
    eapRun zeroNtCrypto aliceUsers (ikev2IkeAuthRecv eapResponderAfterSaInit false) aliceRun =
      .handled aliceAuthenticated ∧
    aliceAuthenticated.status.saState = ikev2StateAuthSuccess ∧
    MskVerified zeroNtCrypto aliceUsers aliceAuthenticated :=
  have noChallenge : (ikev2IkeAuthRecv eapResponderAfterSaInit false).saEap = none := by decide
  have notYet : (ikev2IkeAuthRecv eapResponderAfterSaInit false).status.saState ≠
      ikev2StateAuthSuccess := by decide
  have finished : eapRun zeroNtCrypto aliceUsers (ikev2IkeAuthRecv eapResponderAfterSaInit false)
      aliceRun = .handled aliceAuthenticated := by decide +kernel
  have success : aliceAuthenticated.status.saState = ikev2StateAuthSuccess := by decide
  ⟨noChallenge, notYet, finished, success, eapRun_authSuccess zeroNtCrypto aliceUsers aliceRun _ _
    noChallenge notYet finished success⟩

theorem ikev2IkeAuthRecv_eap (sa : EapSa) (responder : sa.saInitiator = false)
    (eap : sa.polAuthEap ≠ 0) (early : sa.status.saState < ikev2StateAuthRequest) :
    ikev2IkeAuthRecv sa false = { sa with status := saState sa.status ikev2StateEap } := by
  have notReached : saStateok sa.status ikev2StateAuthRequest = false := by
    cases reached : saStateok sa.status ikev2StateAuthRequest
    · rfl
    · exact absurd ((saStateok_eq_true_iff _ _).mp reached).1 (by omega)
  unfold ikev2IkeAuthRecv
  simp only [Bool.false_eq_true, false_and, if_false]
  rw [if_pos ⟨by simp [responder], notReached, eap⟩]

theorem ikev2Recv_crashes_before_challenge (crypto : MschapCrypto) (pass : List UInt8)
    (others : List IkedUser) (challenge : Vector UInt8 16) (sent : Int) :
    (ikev2IkeAuthRecv eapResponderAfterSaInit false).status.saState = ikev2StateEap ∧
    (ikev2IkeAuthRecv eapResponderAfterSaInit false).saEap = none ∧
    ikev2Recv crypto ⟨⟨aliceName, pass⟩ :: others⟩ (ikev2IkeAuthRecv eapResponderAfterSaInit false)
      ⟨earlyMschapResponse, challenge, sent⟩ = .nullDeref := by
  refine ⟨by decide, by decide, ?_⟩
  rw [ikev2Recv_eq_nullDeref_iff, ikev2RespRecv_eq_nullDeref_iff,
    ikev2RespIkeEapMschap_eq_nullDeref_iff]
  dsimp only
  -- the payload parses into an MSCHAPv2 response naming alice, and the SA in EAP takes it
  refine ⟨by decide, by decide, by decide, by decide, by decide, by decide,
    ⟨aliceName, ⟨aliceName, pass⟩, by decide, ?_⟩, by decide⟩
  exact userLookup_head ⟨aliceName, pass⟩ others (by decide : aliceName.length < loginNameMax)

end OpenIKED.Ikev2.Eap
