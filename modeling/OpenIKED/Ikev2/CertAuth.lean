import OpenIKED.Ikev2.Establish
import OpenIKED.Shared.Run

set_option autoImplicit false

/-!
# Certificate and raw-key authentication of the initiator

The responder's side of IKE_AUTH when its policy authenticates the peer with a
certificate or a raw public key.  `ikev2_ike_auth_recv` stores the peer's ID and AUTH
payload and asks the CA process with `ca_setcert` for a key checked against that ID;
`ca_getcert` answers with IMSG_CERTVALID or IMSG_CERTINVALID and the key, and
`ikev2_dispatch_cert` verifies the stored AUTH payload with it.  The CA process answers
in request order, but the peer may send its next IKE_AUTH request before the answer to
the previous one has come back.
-/

namespace OpenIKED.Ikev2.CertAuth

open OpenIKED.Policy OpenIKED.Shared
open Establish (IkeSa)

-- The peer's credential as `ca_getcert` receives it: an X.509 certificate with the
-- intermediate ones of a CERT bundle, a raw RSA or ECDSA key, or no CERT payload.
inductive Credential (Cert Key : Type) where
  | x509 (leaf : Cert) (untrusted : List Cert)
  | publicKey (key : Key)
  | none
deriving DecidableEq, Repr

structure CaStore (Id Cert Key : Type) where
  -- the serialized key of a local certificate whose subjectAltName is the ID
  caBySubjectaltname : Id → Option Key
  caValidateCert : Id → Cert → List Cert → Bool
  caValidatePubkey : Id → Key → Bool
  pubkeyFile : Id → Option Key
  -- the public key `dsa_setkey` reads from a DER certificate
  certKey : Cert → Key
  -- `sc_ocsp_url` is set
  ocsp : Bool
  -- `ocsp_validate_cert`: none when the request could not be sent, otherwise whether
  -- `ocsp_parse_response` found the status good
  ocspValidateCert : Cert → Option Bool

-- IMSG_CERTVALID or IMSG_CERTINVALID, with the key data after the SA header and the type.
structure CertReply (Key : Type) where
  valid : Bool
  key : Option Key
deriving DecidableEq, Repr

-- What the IKEv2 process consults: `ikev2_msg_authverify` of an AUTH payload with a key
-- over the AUTH octets `ikev2_msg_auth` builds from the peer ID (the check of the AUTH
-- method by `ikev2_ike_auth_compatible` included), and `policy_lookup` by the peer ID.
structure Env (Id Cert Key Sig Pol : Type) where
  store : CaStore Id Cert Key
  verify : Key → Id → Sig → Bool
  policyLookup : Id → Option Pol

structure AuthRequest (Id Cert Key Sig : Type) where
  msgid : Nat
  peerid : Option Id
  cert : Credential Cert Key
  auth : Option Sig
  -- none without an SA payload, otherwise whether `proposals_negotiate` chose one
  proposals : Option Bool

structure Responder (Id Cert Key Sig Pol : Type) where
  sa : IkeSa
  saPolicy : Pol
  saIid : Option Id
  saPeerauth : Option Sig
  saIcert : Option Key
  saLocalauth : Bool
  saMsgid : Nat
  saMsgidSet : Bool
  -- the `ca_setcert` requests the CA process has not answered yet, oldest first
  pending : List (Id × Credential Cert Key)
  -- not in the source: for each AUTH payload accepted with a key from the CA process, the
  -- ID the CA process checked the key against and the ID hashed into the AUTH octets
  verdicts : List (Id × Option Id)

inductive Imsg where
  | certReply
  | cert
  | auth
deriving DecidableEq, Repr

inductive Event (Id Cert Key Sig : Type) where
  | request (msg : AuthRequest Id Cert Key Sig)
  | imsg (imsg : Imsg)

section Model

variable {Id Cert Key Sig Pol : Type}

def caGetcert (store : CaStore Id Cert Key) (id : Id) : Credential Cert Key → CertReply Key
  | .x509 leaf untrusted =>
    -- "Look in local cert storage first"
    match store.caBySubjectaltname id with
    | some key => ⟨true, some key⟩
    | none =>
      if !store.ocsp then ⟨store.caValidateCert id leaf untrusted, some (store.certKey leaf)⟩
      else if store.caValidateCert id leaf untrusted then
        match store.ocspValidateCert leaf with
        -- `ocsp_validate_finish` answers later with the SA header and the type only
        | some good => ⟨good, none⟩
        | none => ⟨false, some (store.certKey leaf)⟩
      else ⟨false, some (store.certKey leaf)⟩
  | .publicKey key => ⟨store.caValidatePubkey id key, some key⟩
  | .none =>
    -- "Fallback to public key"
    match store.pubkeyFile id with
    | some key => ⟨true, some key⟩
    | none => ⟨false, none⟩

-- `ca_setcert`; `ca_getcert` drops a request without an ID and never answers it.
def caSetcert (iid : Option Id) (cert : Credential Cert Key) : List (Id × Credential Cert Key) :=
  match iid with
  | some id => [(id, cert)]
  | none => []

def Responder.setStatus (r : Responder Id Cert Key Sig Pol) (status : SaStatus) :
    Responder Id Cert Key Sig Pol :=
  { r with sa := { r.sa with status := status } }

def ikev2SendAuthFailed (r : Responder Id Cert Key Sig Pol) : Responder Id Cert Key Sig Pol :=
  r.setStatus (saState r.sa.status ikev2StateClosing)

def ikev2IkeAuth (r : Responder Id Cert Key Sig Pol) : Responder Id Cert Key Sig Pol :=
  let status :=
    if r.sa.status.saState = ikev2StateEapSuccess then saState r.sa.status ikev2StateEapValid
    else if r.sa.status.saState = ikev2StateAuthSuccess then saState r.sa.status ikev2StateValid
    else r.sa.status
  -- building and sending the response is not modelled to fail
  { r with sa := Establish.ikev2RespIkeAuth { r.sa with status := status } r.saLocalauth true }

-- The end of `ikev2_ike_auth_recv` for a policy that authenticates the peer by a
-- certificate or a raw key.
def ikev2IkeAuthSetcert (r : Responder Id Cert Key Sig Pol) (auth : Sig)
    (cert : Credential Cert Key) : Responder Id Cert Key Sig Pol :=
  let r := { r with saPeerauth := some auth }
  let r := r.setStatus { r.sa.status with
    saStateflags := r.sa.status.saStateflags &&& (0xffffffff ^^^ ikedReqCertvalid) }
  ikev2IkeAuth { r with pending := r.pending ++ caSetcert r.saIid cert }

-- The part of `ikev2_ike_auth_recv` past the policy lookup.
def ikev2IkeAuthStore (r : Responder Id Cert Key Sig Pol) (msg : AuthRequest Id Cert Key Sig) :
    Responder Id Cert Key Sig Pol × Bool :=
  let r := { r with saIid := msg.peerid.or r.saIid }
  match msg.auth, msg.proposals with
  -- "AUTH payload is required for non-EAP"
  | none, _ => (ikev2SendAuthFailed r, false)
  -- "no proposal chosen"
  | some _, some false => (r, false)
  | some auth, some true =>
    (ikev2IkeAuthSetcert (r.setStatus (saStateflags r.sa.status ikedReqSa)) auth msg.cert, true)
  | some auth, none => (ikev2IkeAuthSetcert r auth msg.cert, true)

def ikev2IkeAuthRecv (env : Env Id Cert Key Sig Pol) (r : Responder Id Cert Key Sig Pol)
    (msg : AuthRequest Id Cert Key Sig) : Responder Id Cert Key Sig Pol × Bool :=
  -- "The AUTH payload indicates if the responder wants EAP or not"; the policy has no
  -- EAP, so the move to EAP is never taken
  let r := if msg.auth.isSome && !saStateok r.sa.status ikev2StateEap then
      r.setStatus (saState r.sa.status ikev2StateAuthRequest)
    else r
  match msg.peerid with
  | none => ikev2IkeAuthStore r msg
  | some peer =>
    -- "try to relookup the policy based on the peerid"
    match env.policyLookup peer with
    | none => (ikev2SendAuthFailed r, false)
    | some pol => ikev2IkeAuthStore { r with saPolicy := pol } msg

-- The IKE_AUTH branch of `ikev2_resp_recv`, past its check for an authenticated SA.
def ikev2RespRecv (env : Env Id Cert Key Sig Pol) (r : Responder Id Cert Key Sig Pol)
    (msg : AuthRequest Id Cert Key Sig) : Responder Id Cert Key Sig Pol :=
  if !saStateok r.sa.status ikev2StateSaInit then r.setStatus (saState r.sa.status ikev2StateClosed)
  else
    match ikev2IkeAuthRecv env r msg with
    | (r, true) => r
    | (r, false) => r.setStatus (saState r.sa.status ikev2StateClosed)

def ikev2Recv (env : Env Id Cert Key Sig Pol) (r : Responder Id Cert Key Sig Pol)
    (msg : AuthRequest Id Cert Key Sig) : Responder Id Cert Key Sig Pol :=
  -- a retransmission, or "Response is being worked on"
  if msg.msgid < r.saMsgid ∨ (r.saMsgidSet = true ∧ msg.msgid = r.saMsgid) then r
  -- "already authenticated": the message is not valid and the message ID stays
  else if saStateok r.sa.status ikev2StateValid then r
  else { ikev2RespRecv env r msg with saMsgid := msg.msgid, saMsgidSet := true }

-- `ikev2_auth_verify` for a policy without EAP.
def ikev2AuthVerify (env : Env Id Cert Key Sig Pol) (r : Responder Id Cert Key Sig Pol)
    (auth : Sig) : Responder Id Cert Key Sig Pol × Bool :=
  match r.saIid, r.saIcert with
  -- `ikev2_msg_auth` has no peer ID to hash
  | none, _ => (ikev2SendAuthFailed r, false)
  -- "no cert found"
  | some _, none => (ikev2SendAuthFailed r, false)
  | some iid, some key =>
    if env.verify key iid auth then ({ r with sa := Establish.authverify r.sa true }, true)
    else (ikev2SendAuthFailed { r with sa := Establish.authverify r.sa false }, false)

def certValid (r : Responder Id Cert Key Sig Pol) : Responder Id Cert Key Sig Pol :=
  ikev2IkeAuth (r.setStatus (saStateflags r.sa.status ikedReqCertvalid))

def ikev2DispatchCert (env : Env Id Cert Key Sig Pol) (r : Responder Id Cert Key Sig Pol) :
    Imsg → Responder Id Cert Key Sig Pol
  | .certReply =>
    match r.pending with
    | [] => r
    | (id, cert) :: rest =>
      let reply := caGetcert env.store id cert
      let r := { r with pending := rest }
      -- "Ignore invalid or unauthenticated SAs"
      if r.sa.status.saState < ikev2StateEap then r
      else
        let r := { r with saIcert := reply.key }
        if !reply.valid then ikev2SendAuthFailed r
        else
          match r.saPeerauth with
          | none => certValid r
          | some auth =>
            match ikev2AuthVerify env r auth with
            | (r, false) => r
            | (r, true) => certValid { r with verdicts := r.verdicts ++ [(id, r.saIid)] }
  | .cert =>
    -- "Ignore the message if we already got a valid certificate"
    if r.sa.status.saStateflags &&& ikedReqCert ≠ 0 then r
    else ikev2IkeAuth (r.setStatus (saStateflags r.sa.status ikedReqCert))
  | .auth =>
    if saStateok r.sa.status ikev2StateValid then r
    else ikev2IkeAuth (Responder.setStatus { r with saLocalauth := true }
      (saStateflags r.sa.status ikedReqAuth))

def Event.isRequest : Event Id Cert Key Sig → Bool
  | .request _ => true
  | .imsg _ => false

def step (env : Env Id Cert Key Sig Pol) (r : Responder Id Cert Key Sig Pol) :
    Event Id Cert Key Sig → Responder Id Cert Key Sig Pol
  | .request msg => ikev2Recv env r msg
  | .imsg imsg => ikev2DispatchCert env r imsg

def run (env : Env Id Cert Key Sig Pol) (r : Responder Id Cert Key Sig Pol)
    (events : List (Event Id Cert Key Sig)) : Responder Id Cert Key Sig Pol :=
  events.foldl (step env) r

-- The responder after IKE_SA_INIT, with a policy that authenticates the peer by
-- `authMethod`.
def start (pol : Pol) (authMethod : Nat) : Responder Id Cert Key Sig Pol :=
  { sa := ⟨saState (saNewStatus false 0 authMethod) ikev2StateSaInit, false⟩
    saPolicy := pol, saIid := none, saPeerauth := none, saIcert := none,
    saLocalauth := false, saMsgid := 0, saMsgidSet := false, pending := [], verdicts := [] }

-- A CA process that knows one certificate, 10, issued to the ID 1 for the key 100, and
-- signatures that name the key and the ID of the AUTH octets they were made over.
def exampleEnv (ocsp : Bool) : Env Nat Nat Nat (Nat × Nat) Unit where
  store :=
    { caBySubjectaltname := fun _ => none
      caValidateCert := fun id leaf _ => id == 1 && leaf == 10
      caValidatePubkey := fun _ _ => false
      pubkeyFile := fun _ => none
      certKey := fun leaf => leaf * 10
      ocsp := ocsp
      ocspValidateCert := fun _ => some true }
  verify := fun key id sig => sig == (key, id)
  policyLookup := fun _ => some ()

-- IMSG_CERT, an IKE_AUTH request from the ID 1 with its certificate and a signature
-- made with its key, IMSG_AUTH, and the CA process's answer.
def honestRun : List (Event Nat Nat Nat (Nat × Nat)) :=
  [.imsg .cert, .request ⟨1, some 1, .x509 10 [], some (100, 1), some true⟩, .imsg .auth,
    .imsg .certReply]

end Model

section Refinement

variable {Id Cert Key Sig Pol : Type} {sa : IkeSa}

-- Each handler changes the SA's status only by steps of `Establish`.  The lemmas extend
-- a run that reached the handler's input, so that the handler's result fixes the
-- responders in between.

theorem steps_setStatus_move (r : Responder Id Cert Key Sig Pol) (target : Nat)
    (listed : target ∈ Establish.movedStates) (reached : Steps Establish.step sa r.sa) :
    Steps Establish.step sa (r.setStatus (saState r.sa.status target)).sa :=
  reached.tail ⟨.move target listed, rfl⟩

theorem steps_setStatus_gather (r : Responder Id Cert Key Sig Pol) (flag : Nat)
    (listed : flag ∈ Establish.gatheredFlags) (reached : Steps Establish.step sa r.sa) :
    Steps Establish.step sa (r.setStatus (saStateflags r.sa.status flag)).sa :=
  reached.tail ⟨.gather flag listed, rfl⟩

theorem steps_ikev2SendAuthFailed (r : Responder Id Cert Key Sig Pol)
    (reached : Steps Establish.step sa r.sa) : Steps Establish.step sa (ikev2SendAuthFailed r).sa :=
  steps_setStatus_move r ikev2StateClosing (by decide) reached

theorem steps_ikev2IkeAuth (r : Responder Id Cert Key Sig Pol)
    (reached : Steps Establish.step sa r.sa) : Steps Establish.step sa (ikev2IkeAuth r).sa := by
  unfold ikev2IkeAuth
  -- the move out of EAP_SUCCESS or AUTH_SUCCESS, then `ikev2_resp_ike_auth`
  refine Relation.ReflTransGen.tail ?_ ⟨.respIkeAuth r.saLocalauth true, rfl⟩
  split_ifs
  · exact steps_setStatus_move r ikev2StateEapValid (by decide) reached
  · exact steps_setStatus_move r ikev2StateValid (by decide) reached
  · exact reached

theorem steps_certValid (r : Responder Id Cert Key Sig Pol)
    (reached : Steps Establish.step sa r.sa) : Steps Establish.step sa (certValid r).sa :=
  steps_ikev2IkeAuth _ (steps_setStatus_gather r ikedReqCertvalid (by decide) reached)

theorem steps_ikev2AuthVerify (env : Env Id Cert Key Sig Pol) (r : Responder Id Cert Key Sig Pol)
    (auth : Sig) (reached : Steps Establish.step sa r.sa) :
    Steps Establish.step sa (ikev2AuthVerify env r auth).1.sa := by
  unfold ikev2AuthVerify
  split
  · exact steps_ikev2SendAuthFailed r reached
  · exact steps_ikev2SendAuthFailed r reached
  · split
    · exact reached.tail ⟨.authverify true, rfl⟩
    · exact steps_ikev2SendAuthFailed _ (reached.tail ⟨.authverify false, rfl⟩)

theorem steps_ikev2DispatchCert (env : Env Id Cert Key Sig Pol) (r : Responder Id Cert Key Sig Pol)
    (imsg : Imsg) (reached : Steps Establish.step sa r.sa) :
    Steps Establish.step sa (ikev2DispatchCert env r imsg).sa := by
  cases imsg with
  | certReply =>
    cases waiting : r.pending with
    | nil =>
      simp only [ikev2DispatchCert, waiting]
      exact reached
    | cons request rest =>
      obtain ⟨id, cert⟩ := request
      simp only [ikev2DispatchCert, waiting]
      split_ifs
      · exact reached
      · exact steps_ikev2SendAuthFailed _ reached
      · split
        · exact steps_certValid _ reached
        · rename_i auth _
          have verified := steps_ikev2AuthVerify env
            { r with pending := rest, saIcert := (caGetcert env.store id cert).key } auth reached
          rcases outcome : ikev2AuthVerify env
            { r with pending := rest, saIcert := (caGetcert env.store id cert).key } auth with ⟨r', ok⟩
          rw [outcome] at verified
          cases ok
          · exact verified
          · exact steps_certValid _ verified
  | cert =>
    simp only [ikev2DispatchCert]
    split_ifs
    · exact reached
    · exact steps_ikev2IkeAuth _ (steps_setStatus_gather r ikedReqCert (by decide) reached)
  | auth =>
    simp only [ikev2DispatchCert]
    split_ifs
    · exact reached
    · exact steps_ikev2IkeAuth _
        (steps_setStatus_gather { r with saLocalauth := true } ikedReqAuth (by decide) reached)

theorem steps_ikev2IkeAuthSetcert (r : Responder Id Cert Key Sig Pol) (auth : Sig)
    (cert : Credential Cert Key) (reached : Steps Establish.step sa r.sa) :
    Steps Establish.step sa (ikev2IkeAuthSetcert r auth cert).sa := by
  unfold ikev2IkeAuthSetcert
  exact steps_ikev2IkeAuth _ (reached.tail ⟨.clear ikedReqCertvalid (by decide), rfl⟩)

theorem steps_ikev2IkeAuthStore (r : Responder Id Cert Key Sig Pol)
    (msg : AuthRequest Id Cert Key Sig) (reached : Steps Establish.step sa r.sa) :
    Steps Establish.step sa (ikev2IkeAuthStore r msg).1.sa := by
  unfold ikev2IkeAuthStore
  split
  · exact steps_ikev2SendAuthFailed _ reached
  · exact reached
  · exact steps_ikev2IkeAuthSetcert _ _ _
      (steps_setStatus_gather { r with saIid := msg.peerid.or r.saIid } ikedReqSa (by decide) reached)
  · exact steps_ikev2IkeAuthSetcert _ _ _ reached

theorem steps_ikev2IkeAuthRecv (env : Env Id Cert Key Sig Pol) (r : Responder Id Cert Key Sig Pol)
    (msg : AuthRequest Id Cert Key Sig) (reached : Steps Establish.step sa r.sa) :
    Steps Establish.step sa (ikev2IkeAuthRecv env r msg).1.sa := by
  have requested : Steps Establish.step sa
      (if msg.auth.isSome && !saStateok r.sa.status ikev2StateEap then
        r.setStatus (saState r.sa.status ikev2StateAuthRequest) else r).sa := by
    split_ifs
    · exact steps_setStatus_move r ikev2StateAuthRequest (by decide) reached
    · exact reached
  unfold ikev2IkeAuthRecv
  generalize (if msg.auth.isSome && !saStateok r.sa.status ikev2StateEap then
    r.setStatus (saState r.sa.status ikev2StateAuthRequest) else r) = requester at requested ⊢
  dsimp only
  split
  · exact steps_ikev2IkeAuthStore _ msg requested
  · split
    · exact steps_ikev2SendAuthFailed _ requested
    · exact steps_ikev2IkeAuthStore _ msg requested

theorem steps_ikev2RespRecv (env : Env Id Cert Key Sig Pol) (r : Responder Id Cert Key Sig Pol)
    (msg : AuthRequest Id Cert Key Sig) (reached : Steps Establish.step sa r.sa) :
    Steps Establish.step sa (ikev2RespRecv env r msg).sa := by
  unfold ikev2RespRecv
  split_ifs
  · exact steps_setStatus_move r ikev2StateClosed (by decide) reached
  · have handled := steps_ikev2IkeAuthRecv env r msg reached
    rcases outcome : ikev2IkeAuthRecv env r msg with ⟨r', ok⟩
    rw [outcome] at handled
    cases ok
    · exact steps_setStatus_move r' ikev2StateClosed (by decide) handled
    · exact handled

theorem steps_step (env : Env Id Cert Key Sig Pol) (r : Responder Id Cert Key Sig Pol)
    (event : Event Id Cert Key Sig) : Steps Establish.step r.sa (step env r event).sa := by
  cases event with
  | request msg =>
    simp only [step, ikev2Recv]
    split_ifs
    · exact Relation.ReflTransGen.refl
    · exact Relation.ReflTransGen.refl
    · exact steps_ikev2RespRecv env r msg Relation.ReflTransGen.refl
  | imsg imsg => exact steps_ikev2DispatchCert env r imsg Relation.ReflTransGen.refl

theorem steps_run (env : Env Id Cert Key Sig Pol) (r : Responder Id Cert Key Sig Pol)
    (events : List (Event Id Cert Key Sig)) : Steps Establish.step r.sa (run env r events).sa :=
  Steps.foldl_of_simulates Establish.step (step env) Responder.sa (steps_step env) r events

/-- The responder's SA follows the handlers of `Establish`: whatever the peer sends and
the CA process answers, it reaches ESTABLISHED only once an AUTH payload was accepted. -/
theorem run_established_accepted (env : Env Id Cert Key Sig Pol) (pol : Pol) (authMethod : Nat)
    (events : List (Event Id Cert Key Sig))
    (established : (run env (start pol authMethod) events).sa.status.saState =
      ikev2StateEstablished) :
    (run env (start pol authMethod) events).sa.verified = true := by
  obtain ⟨lower, reached⟩ :=
    exists_foldl_of_steps Establish.step (steps_run env (start pol authMethod) events)
  -- `start` is a fresh SA moved to SA_INIT
  have whole : (run env (start pol authMethod) events).sa =
      Establish.run (Establish.fresh false 0 authMethod)
        (.move ikev2StateSaInit (by decide) :: lower) := by
    rw [reached]
    rfl
  rw [whole] at established ⊢
  exact Establish.run_established_verified false 0 authMethod _ established

theorem run_established_accepted_of_honest :
    (run (exampleEnv false) (start () 1) honestRun).sa.status.saState = ikev2StateEstablished ∧
      (run (exampleEnv false) (start () 1) honestRun).sa.verified = true :=
  have established :
      (run (exampleEnv false) (start () 1) honestRun).sa.status.saState = ikev2StateEstablished := by
    decide
  ⟨established, run_established_accepted (exampleEnv false) () 1 honestRun established⟩

end Refinement

section Binding

variable {Id Cert Key Sig Pol : Type}

/-- Every key accepted was validated for the ID hashed into the AUTH octets it verified,
and every pending CA request asks for the current peer ID. -/
structure Bound (r : Responder Id Cert Key Sig Pol) : Prop where
  verdicts : ∀ verdict ∈ r.verdicts, verdict.2 = some verdict.1
  pending : ∀ request ∈ r.pending, r.saIid = some request.1

theorem Bound.withSa {r : Responder Id Cert Key Sig Pol} (bound : Bound r) (sa : IkeSa) :
    Bound { r with sa := sa } :=
  ⟨bound.verdicts, bound.pending⟩

theorem Bound.of_idle {r : Responder Id Cert Key Sig Pol}
    (verdicts : ∀ verdict ∈ r.verdicts, verdict.2 = some verdict.1) (idle : r.pending = []) :
    Bound r :=
  ⟨verdicts, by simp [idle]⟩

theorem bound_start (pol : Pol) (authMethod : Nat) :
    Bound (start pol authMethod : Responder Id Cert Key Sig Pol) :=
  Bound.of_idle (by simp [start]) rfl

theorem caSetcert_mem {iid : Option Id} {cert : Credential Cert Key} {request : Id × Credential Cert Key}
    (asked : request ∈ caSetcert iid cert) : iid = some request.1 := by
  unfold caSetcert at asked
  split at asked
  · rw [List.mem_singleton] at asked
    rw [asked]
  · cases asked

theorem ikev2AuthVerify_eq_withSa (env : Env Id Cert Key Sig Pol) (r : Responder Id Cert Key Sig Pol)
    (auth : Sig) : (ikev2AuthVerify env r auth).1 = { r with sa := (ikev2AuthVerify env r auth).1.sa } := by
  unfold ikev2AuthVerify
  split
  · rfl
  · rfl
  · split <;> rfl

theorem bound_ikev2DispatchCert (env : Env Id Cert Key Sig Pol) (r : Responder Id Cert Key Sig Pol)
    (imsg : Imsg) (bound : Bound r) : Bound (ikev2DispatchCert env r imsg) := by
  cases imsg with
  | certReply =>
    cases waiting : r.pending with
    | nil =>
      simp only [ikev2DispatchCert, waiting]
      exact bound
    | cons request rest =>
      obtain ⟨id, cert⟩ := request
      -- the answer is for the oldest request, which asked for the current peer ID
      have current : r.saIid = some id := bound.pending (id, cert) (by simp [waiting])
      have popped : Bound { r with pending := rest, saIcert := (caGetcert env.store id cert).key } :=
        ⟨bound.verdicts, fun request later => bound.pending request (by simp [waiting, later])⟩
      simp only [ikev2DispatchCert, waiting]
      split_ifs
      · exact ⟨bound.verdicts, popped.pending⟩
      · exact popped.withSa _
      · split
        · exact popped.withSa _
        · rename_i auth _
          have verified := ikev2AuthVerify_eq_withSa env
            { r with pending := rest, saIcert := (caGetcert env.store id cert).key } auth
          rcases outcome : ikev2AuthVerify env
            { r with pending := rest, saIcert := (caGetcert env.store id cert).key } auth with ⟨r', ok⟩
          rw [outcome] at verified
          cases ok
          · simp only at verified ⊢
            rw [verified]
            exact popped.withSa _
          · simp only at verified ⊢
            rw [verified]
            refine ⟨?_, popped.pending⟩
            intro verdict recorded
            rcases List.mem_append.mp recorded with earlier | last
            · exact bound.verdicts verdict earlier
            · rw [List.mem_singleton] at last
              rw [last]
              exact current
  | cert =>
    simp only [ikev2DispatchCert]
    split_ifs
    · exact bound
    · exact bound.withSa _
  | auth =>
    simp only [ikev2DispatchCert]
    split_ifs
    · exact bound
    · exact ⟨bound.verdicts, bound.pending⟩

theorem bound_ikev2IkeAuthSetcert (r : Responder Id Cert Key Sig Pol) (auth : Sig)
    (cert : Credential Cert Key) (bound : Bound r) (idle : r.pending = []) :
    Bound (ikev2IkeAuthSetcert r auth cert) := by
  refine ⟨bound.verdicts, fun request asked => ?_⟩
  -- the only pending request is the one just sent, for the current peer ID
  simp only [ikev2IkeAuthSetcert, ikev2IkeAuth, Responder.setStatus, idle, List.nil_append] at asked ⊢
  exact caSetcert_mem asked

theorem bound_ikev2IkeAuthStore (r : Responder Id Cert Key Sig Pol)
    (msg : AuthRequest Id Cert Key Sig) (bound : Bound r) (idle : r.pending = []) :
    Bound (ikev2IkeAuthStore r msg).1 := by
  unfold ikev2IkeAuthStore
  split
  · exact Bound.of_idle bound.verdicts idle
  · exact Bound.of_idle bound.verdicts idle
  · exact bound_ikev2IkeAuthSetcert _ _ _ (Bound.of_idle bound.verdicts idle) idle
  · exact bound_ikev2IkeAuthSetcert _ _ _ (Bound.of_idle bound.verdicts idle) idle

theorem bound_ikev2IkeAuthRecv (env : Env Id Cert Key Sig Pol) (r : Responder Id Cert Key Sig Pol)
    (msg : AuthRequest Id Cert Key Sig) (bound : Bound r) (idle : r.pending = []) :
    Bound (ikev2IkeAuthRecv env r msg).1 := by
  have requested : Bound (if msg.auth.isSome && !saStateok r.sa.status ikev2StateEap then
        r.setStatus (saState r.sa.status ikev2StateAuthRequest) else r) ∧
      (if msg.auth.isSome && !saStateok r.sa.status ikev2StateEap then
        r.setStatus (saState r.sa.status ikev2StateAuthRequest) else r).pending = [] := by
    split_ifs
    · exact ⟨bound.withSa _, idle⟩
    · exact ⟨bound, idle⟩
  unfold ikev2IkeAuthRecv
  generalize (if msg.auth.isSome && !saStateok r.sa.status ikev2StateEap then
    r.setStatus (saState r.sa.status ikev2StateAuthRequest) else r) = requester at requested ⊢
  dsimp only
  split
  · exact bound_ikev2IkeAuthStore _ msg requested.1 requested.2
  · split
    · exact requested.1.withSa _
    · exact bound_ikev2IkeAuthStore _ msg ⟨requested.1.verdicts, requested.1.pending⟩ requested.2

theorem bound_ikev2RespRecv (env : Env Id Cert Key Sig Pol) (r : Responder Id Cert Key Sig Pol)
    (msg : AuthRequest Id Cert Key Sig) (bound : Bound r) (idle : r.pending = []) :
    Bound (ikev2RespRecv env r msg) := by
  unfold ikev2RespRecv
  split_ifs
  · exact bound.withSa _
  · have handled := bound_ikev2IkeAuthRecv env r msg bound idle
    rcases outcome : ikev2IkeAuthRecv env r msg with ⟨r', ok⟩
    rw [outcome] at handled
    cases ok
    · exact handled.withSa _
    · exact handled

theorem bound_step (env : Env Id Cert Key Sig Pol) (r : Responder Id Cert Key Sig Pol)
    (event : Event Id Cert Key Sig) (bound : Bound r) (waits : event.isRequest = true → r.pending = []) :
    Bound (step env r event) := by
  cases event with
  | request msg =>
    simp only [step, ikev2Recv]
    split_ifs
    · exact bound
    · exact bound
    · have received := bound_ikev2RespRecv env r msg bound (waits rfl)
      exact ⟨received.verdicts, received.pending⟩
  | imsg imsg => exact bound_ikev2DispatchCert env r imsg bound

-- The peer sends an IKE_AUTH request only while no CA request is pending: it waits for
-- the response to its previous request, which comes once the CA process has answered.
def peerWaits (env : Env Id Cert Key Sig Pol) :
    Responder Id Cert Key Sig Pol → List (Event Id Cert Key Sig) → Bool
  | _, [] => true
  | r, event :: events =>
    (!event.isRequest || r.pending.isEmpty) && peerWaits env (step env r event) events

theorem bound_run (env : Env Id Cert Key Sig Pol) (r : Responder Id Cert Key Sig Pol)
    (events : List (Event Id Cert Key Sig)) (bound : Bound r) (waits : peerWaits env r events = true) :
    Bound (run env r events) := by
  induction events generalizing r with
  | nil => exact bound
  | cons event events ih =>
    simp only [peerWaits, Bool.and_eq_true, Bool.or_eq_true, Bool.not_eq_true',
      List.isEmpty_iff] at waits
    obtain ⟨now, later⟩ := waits
    have stepped : Bound (step env r event) := by
      refine bound_step env r event bound fun request => ?_
      rcases now with notRequest | idle
      · rw [request] at notRequest
        cases notRequest
      · exact idle
    exact ih (step env r event) stepped later

/-- A peer that sends its next IKE_AUTH request only once the CA process has answered for
the previous one has each AUTH payload that is accepted verified with a key validated for
the ID hashed into it. -/
theorem run_verdicts_bound (env : Env Id Cert Key Sig Pol) (pol : Pol) (authMethod : Nat)
    (events : List (Event Id Cert Key Sig))
    (waits : peerWaits env (start pol authMethod) events = true) :
    ∀ verdict ∈ (run env (start pol authMethod) events).verdicts, verdict.2 = some verdict.1 :=
  (bound_run env _ events (bound_start pol authMethod) waits).verdicts

theorem run_verdicts_bound_of_honest :
    peerWaits (exampleEnv false) (start () 1) honestRun = true ∧
      ∀ verdict ∈ (run (exampleEnv false) (start () 1) honestRun).verdicts,
        verdict.2 = some verdict.1 :=
  have waits : peerWaits (exampleEnv false) (start () 1) honestRun = true := by decide
  ⟨waits, run_verdicts_bound (exampleEnv false) () 1 honestRun waits⟩

end Binding

section Overtaking

variable {Id Cert Key Sig Pol : Type}

-- What VALID requires of a responder whose policy authenticates the peer with a signature.
def signatureValid : Nat := ikedReqAuth ||| ikedReqAuthvalid ||| ikedReqSa ||| ikedReqCertvalid ||| ikedReqCert

theorem start_eq (pol : Pol) (authMethod : Nat) (signature : authMethod ≠ ikev2AuthSharedKeyMic) :
    (start pol authMethod : Responder Id Cert Key Sig Pol) =
      { sa := ⟨⟨ikev2StateSaInit, 0, 0, signatureValid⟩, false⟩, saPolicy := pol, saIid := none,
        saPeerauth := none, saIcert := none, saLocalauth := false, saMsgid := 0, saMsgidSet := false,
        pending := [], verdicts := [] } := by
  have fresh : saNewStatus false 0 authMethod = ⟨ikev2StateInit, 0, 0, signatureValid⟩ := by
    simp [saNewStatus, saNewRequirements, signature, signatureValid]
  have moved : saState ⟨ikev2StateInit, 0, 0, signatureValid⟩ ikev2StateSaInit =
      ⟨ikev2StateSaInit, 0, 0, signatureValid⟩ := by decide
  simp only [start, fresh, moved]

-- IMSG_CERT, the first IKE_AUTH request and IMSG_AUTH, then a second request sent before
-- the CA process has answered for the first, and that answer.
def overtakingRun (first second : AuthRequest Id Cert Key Sig) : List (Event Id Cert Key Sig) :=
  [.imsg .cert, .request first, .imsg .auth, .request second, .imsg .certReply]

/-- The CA process's answer for the first request validates a key for `alice`; the second
request, sent before that answer came back, carries the ID `bob` and an AUTH payload made
with `alice`'s key over AUTH octets that hash `bob`.  The answer for the first request
verifies the second's AUTH payload, and the SA is established for `bob`. -/
theorem overtaking_request_establishes_unvalidated_id (env : Env Id Cert Key Sig Pol)
    (pol pol' pol'' : Pol) (authMethod : Nat) (alice bob : Id) (cred cred' : Credential Cert Key)
    (sig sig' : Sig) (key : Key) (signature : authMethod ≠ ikev2AuthSharedKeyMic)
    (validated : caGetcert env.store alice cred = ⟨true, some key⟩)
    (forged : env.verify key bob sig' = true)
    (firstPolicy : env.policyLookup alice = some pol')
    (secondPolicy : env.policyLookup bob = some pol'') :
    (run env (start pol authMethod) (overtakingRun ⟨1, some alice, cred, some sig, some true⟩
        ⟨2, some bob, cred', some sig', some true⟩)).sa.status.saState = ikev2StateEstablished ∧
      (run env (start pol authMethod) (overtakingRun ⟨1, some alice, cred, some sig, some true⟩
        ⟨2, some bob, cred', some sig', some true⟩)).saIid = some bob ∧
      (run env (start pol authMethod) (overtakingRun ⟨1, some alice, cred, some sig, some true⟩
        ⟨2, some bob, cred', some sig', some true⟩)).verdicts = [(alice, some bob)] := by
  -- The run, event by event: the first request moves the SA to AUTH_REQUEST and asks for
  -- `alice`; the second passes the message ID check (2 is above the last one, 1), stores
  -- `bob` and its AUTH payload and asks again; the answer for `alice` then meets `bob`'s
  -- AUTH payload, and with CERT, AUTH, SA, AUTHVALID and CERTVALID set the SA goes
  -- through AUTH_SUCCESS and VALID to ESTABLISHED.
  simp +decide only [run, overtakingRun, List.foldl, start_eq pol authMethod signature, step,
    ikev2Recv, ikev2RespRecv, ikev2IkeAuthRecv, ikev2IkeAuthStore, ikev2IkeAuthSetcert,
    ikev2DispatchCert, ikev2AuthVerify, certValid, ikev2IkeAuth, caSetcert, Responder.setStatus,
    Establish.ikev2RespIkeAuth, Establish.authverify, validated, forged, firstPolicy, secondPolicy,
    Option.isSome_some, Option.some_or, List.nil_append, List.cons_append, if_true, if_false,
    and_self]

theorem overtaking_request_establishes_unvalidated_id_example :
    (1 : Nat) ≠ ikev2AuthSharedKeyMic ∧
      caGetcert (exampleEnv false).store 1 (.x509 10 []) = ⟨true, some 100⟩ ∧
      (exampleEnv false).verify 100 2 (100, 2) = true ∧
      (exampleEnv false).policyLookup 1 = some () ∧ (exampleEnv false).policyLookup 2 = some () ∧
      ((run (exampleEnv false) (start () 1) (overtakingRun ⟨1, some 1, .x509 10 [], some (100, 1), some true⟩
          ⟨2, some 2, .x509 10 [], some (100, 2), some true⟩)).sa.status.saState = ikev2StateEstablished ∧
        (run (exampleEnv false) (start () 1) (overtakingRun ⟨1, some 1, .x509 10 [], some (100, 1), some true⟩
          ⟨2, some 2, .x509 10 [], some (100, 2), some true⟩)).saIid = some 2 ∧
        (run (exampleEnv false) (start () 1) (overtakingRun ⟨1, some 1, .x509 10 [], some (100, 1), some true⟩
          ⟨2, some 2, .x509 10 [], some (100, 2), some true⟩)).verdicts = [(1, some 2)]) ∧
      caGetcert (exampleEnv false).store 2 (.x509 10 []) = ⟨false, some 100⟩ :=
  ⟨by decide, by decide, by decide, rfl, rfl,
    overtaking_request_establishes_unvalidated_id (exampleEnv false) () () () 1 1 2 (.x509 10 [])
      (.x509 10 []) (100, 1) (100, 2) 100 (by decide) (by decide) (by decide) rfl rfl,
    by decide⟩

end Overtaking

section Answer

variable {Id Cert Key Sig Pol : Type}

/-- Every IMSG_CERTVALID answer of `ca_getcert` carries a key, except the one
`ocsp_validate_finish` sends for a certificate the OCSP responder found good. -/
theorem caGetcert_valid_without_key (store : CaStore Id Cert Key) (id : Id) (cred : Credential Cert Key)
    (valid : (caGetcert store id cred).valid = true) (keyless : (caGetcert store id cred).key = none) :
    store.ocsp = true ∧ ∃ leaf untrusted, cred = .x509 leaf untrusted ∧
      store.caBySubjectaltname id = none ∧ store.caValidateCert id leaf untrusted = true ∧
      store.ocspValidateCert leaf = some true := by
  cases cred with
  | x509 leaf untrusted =>
    cases stored : store.caBySubjectaltname id with
    | some key => simp [caGetcert, stored] at keyless
    | none =>
      -- the key is only dropped past the chain check, when the OCSP responder answers
      cases ocsp : store.ocsp with
      | false => simp [caGetcert, stored, ocsp] at keyless
      | true =>
        cases chain : store.caValidateCert id leaf untrusted with
        | false => simp [caGetcert, stored, ocsp, chain] at valid
        | true =>
          cases found : store.ocspValidateCert leaf with
          | none => simp [caGetcert, stored, ocsp, chain, found] at valid
          | some good =>
            simp only [caGetcert, stored, ocsp, chain, found, Bool.not_true, Bool.false_eq_true,
              if_false, if_true] at valid
            exact ⟨rfl, leaf, untrusted, rfl, rfl, chain, by rw [found, valid]⟩
  | publicKey key => simp [caGetcert] at keyless
  | none =>
    simp only [caGetcert] at valid keyless
    split at valid
    · simp_all
    · cases valid

theorem ikev2IkeAuth_flags (r : Responder Id Cert Key Sig Pol) :
    (ikev2IkeAuth r).sa.status.saStateflags = r.sa.status.saStateflags := by
  simp only [ikev2IkeAuth, Establish.ikev2RespIkeAuth]
  split_ifs <;> simp

/-- An answer that validates a key for the ID the peer's AUTH payload was made for, with
a signature that key verifies, sets CERTVALID and AUTHVALID and records the binding. -/
theorem ikev2DispatchCert_accepts (env : Env Id Cert Key Sig Pol) (r : Responder Id Cert Key Sig Pol)
    (id : Id) (cert : Credential Cert Key) (rest : List (Id × Credential Cert Key)) (key : Key)
    (sig : Sig) (answered : caGetcert env.store id cert = ⟨true, some key⟩)
    (waiting : r.pending = (id, cert) :: rest) (stored : r.saPeerauth = some sig)
    (current : r.saIid = some id) (signed : env.verify key id sig = true)
    (past : ikev2StateEap ≤ r.sa.status.saState) :
    HasFlags (ikev2DispatchCert env r .certReply).sa.status.saStateflags
        (ikedReqCertvalid ||| ikedReqAuthvalid) ∧
      (ikev2DispatchCert env r .certReply).verdicts = r.verdicts ++ [(id, some id)] := by
  have dispatched : ikev2DispatchCert env r .certReply =
      certValid { r with
        pending := rest, saIcert := some key, sa := Establish.authverify r.sa true,
        verdicts := r.verdicts ++ [(id, some id)] } := by
    simp [ikev2DispatchCert, waiting, answered, stored, ikev2AuthVerify, current, signed,
      Nat.not_lt.mpr past]
  rw [dispatched]
  constructor
  · -- AUTHVALID from `ikev2_msg_authverify`, CERTVALID after it
    rw [certValid, ikev2IkeAuth_flags, hasFlags_iff_testBit]
    intro i bit
    simp only [Responder.setStatus, saStateflags, Establish.authverify, if_true, Nat.testBit_or,
      Bool.or_eq_true] at bit ⊢
    rcases bit with certvalid | authvalid
    · exact Or.inr certvalid
    · exact Or.inl (Or.inr authvalid)
  · rfl

/-- With OCSP configured, a certificate that the chain check and the OCSP responder both
accept is answered by IMSG_CERTVALID without the key, and `ikev2_dispatch_cert` closes the
SA as for an invalid certificate. -/
theorem certReply_closes_sa_for_ocsp_valid_cert (env : Env Id Cert Key Sig Pol)
    (r : Responder Id Cert Key Sig Pol) (id : Id) (leaf : Cert) (untrusted : List Cert)
    (rest : List (Id × Credential Cert Key)) (sig : Sig) (ocsp : env.store.ocsp = true)
    (notLocal : env.store.caBySubjectaltname id = none)
    (chain : env.store.caValidateCert id leaf untrusted = true)
    (good : env.store.ocspValidateCert leaf = some true)
    (waiting : r.pending = (id, .x509 leaf untrusted) :: rest) (stored : r.saPeerauth = some sig)
    (past : ikev2StateEap ≤ r.sa.status.saState) :
    ikev2DispatchCert env r .certReply = ikev2SendAuthFailed { r with pending := rest, saIcert := none } := by
  have answered : caGetcert env.store id (.x509 leaf untrusted) = ⟨true, none⟩ := by
    simp [caGetcert, notLocal, ocsp, chain, good]
  simp only [ikev2DispatchCert, waiting, answered, stored, Nat.not_lt.mpr past, if_false,
    Bool.not_true, Bool.false_eq_true]
  -- "no cert found": with or without a peer ID, `ikev2_auth_verify` fails
  cases r.saIid <;> rfl

theorem certReply_closes_sa_for_ocsp_valid_cert_example :
    (exampleEnv true).store.ocsp = true ∧ (exampleEnv true).store.caBySubjectaltname 1 = none ∧
      (exampleEnv true).store.caValidateCert 1 10 [] = true ∧
      (exampleEnv true).store.ocspValidateCert 10 = some true ∧
      (run (exampleEnv true) (start () 1) [.imsg .cert,
        .request ⟨1, some 1, .x509 10 [], some (100, 1), some true⟩, .imsg .auth]).pending =
          [(1, .x509 10 [])] ∧
      (run (exampleEnv true) (start () 1) [.imsg .cert,
        .request ⟨1, some 1, .x509 10 [], some (100, 1), some true⟩, .imsg .auth]).saPeerauth =
          some (100, 1) ∧
      ikev2StateEap ≤ (run (exampleEnv true) (start () 1) [.imsg .cert,
        .request ⟨1, some 1, .x509 10 [], some (100, 1), some true⟩, .imsg .auth]).sa.status.saState ∧
      (exampleEnv true).verify ((exampleEnv true).store.certKey 10) 1 (100, 1) = true ∧
      ikev2DispatchCert (exampleEnv true) (run (exampleEnv true) (start () 1) [.imsg .cert,
          .request ⟨1, some 1, .x509 10 [], some (100, 1), some true⟩, .imsg .auth]) .certReply =
        ikev2SendAuthFailed { run (exampleEnv true) (start () 1) [.imsg .cert,
          .request ⟨1, some 1, .x509 10 [], some (100, 1), some true⟩, .imsg .auth] with
          pending := [], saIcert := none } :=
  ⟨rfl, rfl, rfl, rfl, by decide, by decide, by decide, by decide,
    certReply_closes_sa_for_ocsp_valid_cert (exampleEnv true) _ 1 10 [] [] (100, 1) rfl rfl rfl rfl
      (by decide) (by decide) (by decide)⟩

end Answer

end OpenIKED.Ikev2.CertAuth
