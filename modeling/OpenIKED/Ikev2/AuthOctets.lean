import OpenIKED.Ikev2.Prfplus
import OpenIKED.Ikev2.Rekey

set_option autoImplicit false

/-!
# The octets an AUTH payload covers

`ikev2_msg_auth` puts together what RFC 7296 section 2.15 signs: the IKE_SA_INIT message a
peer sent or answered, the other peer's nonce and `prf(SK_p, RestOfIDPayload)`.  Each side
keeps its own copies of these pieces: the initiator stores every request it builds as
`sa_1stmsg`, a COOKIE answer makes it build the request again on the same SA, an
INVALID_KE_PAYLOAD answer makes it start over on a new SA, and the responder stores the
request it answers.  Over an exchange in which the responder answers the request the
initiator sent last, both peers put together the same octets, and a shared-key AUTH made by
one is accepted by the other.
-/

namespace OpenIKED.Ikev2.AuthOctets

open OpenIKED.Ikev2.FragSend (IkedHash hashLength)
open OpenIKED.Ikev2.MsgCrypt (hashKeylength)
open OpenIKED.Ikev2.SaKeys (ibufAdd ikedNonceMin prfDigest KeySa IkeKeys ikev2SaKeys
  ikev2SaKeys_role sha256KeySa)
open OpenIKED.Ikev2.PrintId (ikedMsgbufMax)
open OpenIKED.Ikev2.Rekey (ikedNonceSize)
open OpenIKED.Ikev2.Prfplus (PrfTransform prfDigest_eq ibufAdd_of_le constantPrf constantPrf_transform)

/-- `struct iked_id`: the ID type and the ID payload's body, its four-byte header included. -/
structure IkedId where
  idType : UInt8
  idBuf : List UInt8
deriving DecidableEq, Repr

/-- The fields of `struct iked_sa` that IKE_SA_INIT stores and `ikev2_msg_auth` reads; `none`
is a NULL buffer. -/
structure AuthSa where
  saInonce : Option (List UInt8)
  saRnonce : Option (List UInt8)
  saIid : IkedId
  saRid : IkedId
  saKeyIprf : Option (List UInt8)
  saKeyRprf : Option (List UInt8)
  sa1stmsg : Option (List UInt8)
  sa2ndmsg : Option (List UInt8)
deriving DecidableEq, Repr

-- `ibuf_length`, 0 for a NULL buffer.
def ibufLength : Option (List UInt8) → Nat
  | none => 0
  | some buf => buf.length

/-- A nonce `ibuf_random(IKED_NONCE_SIZE)` draws. -/
structure IkedNonce where
  bytes : List UInt8
  sized : bytes.length = ikedNonceSize

/-! ## `ikev2_msg_auth` -/

section Auth

variable (mac : List UInt8 → List UInt8 → List UInt8) (prf : IkedHash)

/-- `ikev2_msg_auth(env, sa, response)`: a copy of the first or the second IKE_SA_INIT
message, the other peer's nonce, and the PRF of the ID payload under `SK_pi` or `SK_pr`
written into `hash_keylength` reserved bytes. -/
def ikev2MsgAuth (sa : AuthSa) (response : Bool) : Option (List UInt8) :=
  let nonce := if response then sa.saInonce else sa.saRnonce
  let id := if response then sa.saRid else sa.saIid
  let prfkey := if response then sa.saKeyRprf else sa.saKeyIprf
  let buf := if response then sa.sa2ndmsg else sa.sa1stmsg
  match nonce, prfkey, buf with
  | some nonce, some prfkey, some buf =>
    if id.idType = 0 then none
    else do
      let authmsg ← ibufAdd [] buf
      let authmsg ← ibufAdd authmsg nonce
      -- require non-truncating hash
      if hashKeylength prf ≠ hashLength prf then none
      else
        let (digest, tmplen) := prfDigest mac prf prfkey id.idBuf
        let authmsg ← ibufAdd authmsg digest
        if tmplen ≠ hashLength prf then none else some authmsg
  | _, _, _ => none

/-- RFC 7296 section 2.15: `InitiatorSignedOctets = RealMessage1 | NonceRData | MACedIDForI`,
and the same for the responder. -/
def signedOctets (message nonce skp idBody : List UInt8) : List UInt8 :=
  message ++ nonce ++ mac skp idBody

-- "Key Pad for IKEv2"
def ikev2Keypad : List UInt8 :=
  [75, 101, 121, 32, 80, 97, 100, 32, 102, 111, 114, 32, 73, 75, 69, 118, 50]

/-- `ikev2_psk`: `prf(Shared Secret, "Key Pad for IKEv2")`, as many bytes as `hash_final`
reports. -/
def ikev2Psk (data : List UInt8) : Option (List UInt8) := do
  let _ ← ibufAdd [] data
  let (psk, psklen) := prfDigest mac prf data ikev2Keypad
  pure (psk.take psklen)

/-- `ikev2_msg_authsign` for `IKEV2_AUTH_SHARED_KEY_MIC`: the HMAC of the octets under the
padded key, in a buffer of the digest's size. -/
def ikev2MsgAuthsign (authData authmsg : List UInt8) : Option (List UInt8) :=
  if authData.length = 0 then none
  else do
    let key ← ikev2Psk mac prf authData
    let sig := mac key authmsg
    if sig.length > prf.hashLength then none else some sig

/-- `ikev2_msg_authverify` for `IKEV2_AUTH_SHARED_KEY_MIC`: the HMAC of the octets under the
padded key against the AUTH data `buf` received. -/
def ikev2MsgAuthverify (authData buf authmsg : List UInt8) : Bool :=
  if authData.length = 0 then false
  else
    match ikev2Psk mac prf authData with
    | none => false
    | some key =>
      let sig := mac key authmsg
      sig.length == buf.length && sig == buf

-- `ikev2_msg_auth` reads the SA through these four fields for either direction.
theorem ikev2MsgAuth_initiator_congr {a b : AuthSa} (nonce : a.saRnonce = b.saRnonce)
    (id : a.saIid = b.saIid) (key : a.saKeyIprf = b.saKeyIprf) (msg : a.sa1stmsg = b.sa1stmsg) :
    ikev2MsgAuth mac prf a false = ikev2MsgAuth mac prf b false := by
  simp only [ikev2MsgAuth, Bool.false_eq_true, if_false, nonce, id, key, msg]

theorem ikev2MsgAuth_responder_congr {a b : AuthSa} (nonce : a.saInonce = b.saInonce)
    (id : a.saRid = b.saRid) (key : a.saKeyRprf = b.saKeyRprf) (msg : a.sa2ndmsg = b.sa2ndmsg) :
    ikev2MsgAuth mac prf a true = ikev2MsgAuth mac prf b true := by
  simp only [ikev2MsgAuth, if_true, nonce, id, key, msg]

variable {mac prf}

theorem length_signedOctets (h : PrfTransform mac prf) (message nonce skp idBody : List UInt8) :
    (signedOctets mac message nonce skp idBody).length =
      message.length + nonce.length + prf.hashLength := by
  simp only [signedOctets, List.length_append, h.digest_length]

/-- While the pieces fit into a message buffer, `ikev2_msg_auth` gives the octets of RFC 7296
section 2.15. -/
theorem ikev2MsgAuth_eq (h : PrfTransform mac prf) (sa : AuthSa) (response : Bool)
    {message nonce skp : List UInt8}
    (msg : (if response then sa.sa2ndmsg else sa.sa1stmsg) = some message)
    (peerNonce : (if response then sa.saInonce else sa.saRnonce) = some nonce)
    (key : (if response then sa.saKeyRprf else sa.saKeyIprf) = some skp)
    (typed : (if response then sa.saRid else sa.saIid).idType ≠ 0)
    (fits : message.length + nonce.length + prf.hashLength ≤ ikedMsgbufMax) :
    ikev2MsgAuth mac prf sa response =
      some (signedOctets mac message nonce skp (if response then sa.saRid else sa.saIid).idBuf) := by
  have full : hashKeylength prf = hashLength prf := by rw [h.hashLength_eq]; rfl
  simp only [ikev2MsgAuth]
  rw [peerNonce, key, msg]
  dsimp only
  rw [if_neg typed, ibufAdd_of_le (by simp; omega), Option.bind_eq_bind, Option.bind_some,
    ibufAdd_of_le (by simp; omega), Option.bind_some, if_neg (not_not.mpr full), prfDigest_eq h]
  dsimp only
  rw [ibufAdd_of_le (by simp [h.digest_length]; omega), Option.bind_some, if_neg (not_not.mpr rfl)]
  rfl

/-- A shared-key AUTH made over some octets is accepted over the same octets. -/
theorem ikev2MsgAuthverify_authsign {authData authmsg sig : List UInt8}
    (signed : ikev2MsgAuthsign mac prf authData authmsg = some sig) :
    ikev2MsgAuthverify mac prf authData sig authmsg = true := by
  unfold ikev2MsgAuthsign at signed
  split at signed
  · cases signed
  · rename_i present
    cases keyed : ikev2Psk mac prf authData with
    | none => rw [keyed] at signed; cases signed
    | some key =>
      rw [keyed, Option.bind_eq_bind, Option.bind_some] at signed
      dsimp only at signed
      split at signed
      · cases signed
      · cases signed
        simp [ikev2MsgAuthverify, present, keyed]

end Auth

/-! ## IKE_SA_INIT and the ID payloads -/

/-- The two IKE_SA_INIT messages as the builders lay them out, and the nonce
`ikev2_pld_nonce` finds in a message.  A request depends on the cookie it reflects and the
initiator's nonce, a response on the responder's nonce; the rest of their contents is fixed
for one SA. -/
structure SaInitCodec where
  request : Option (List UInt8) → List UInt8 → List UInt8
  response : List UInt8 → List UInt8
  nonceOf : List UInt8 → Option (List UInt8)

-- The NONCE payload a builder writes is the one the parser finds.
structure SaInitCodec.Sound (codec : SaInitCodec) : Prop where
  request_nonce : ∀ cookie nonce, codec.nonceOf (codec.request cookie nonce) = some nonce
  response_nonce : ∀ nonce, codec.nonceOf (codec.response nonce) = some nonce

/-- `ikev2_policy2id`: the ID payload body, a header of the type and three reserved bytes
before the data. -/
def ikev2Policy2id (idType : UInt8) (data : List UInt8) : IkedId :=
  ⟨idType, [idType, 0, 0, 0] ++ data⟩

/-- `ikev2_pld_id` and the copy into `sa_iid` or `sa_rid`: the body with its header, the type
read from its first byte. -/
def idOfPayload (body : List UInt8) : IkedId := ⟨body.headD 0, body⟩

-- A peer reads back the ID a policy gives the other.
@[simp] theorem idOfPayload_ikev2Policy2id (idType : UInt8) (data : List UInt8) :
    idOfPayload (ikev2Policy2id idType data).idBuf = ikev2Policy2id idType data := rfl

/-- `sa_new`: no buffers yet, and the local ID from the policy as `sa_iid` for an initiator
and as `sa_rid` for a responder. -/
def saNew (localid : IkedId) (initiator : Bool) : AuthSa :=
  { saInonce := none
    saRnonce := none
    saIid := if initiator then localid else ⟨0, []⟩
    saRid := if initiator then ⟨0, []⟩ else localid
    saKeyIprf := none
    saKeyRprf := none
    sa1stmsg := none
    sa2ndmsg := none }

section Exchange

variable (codec : SaInitCodec) (mac : List UInt8 → List UInt8 → List UInt8)

/-- `ikev2_sa_keys` as far as AUTH goes: `SK_pi` and `SK_pr` from the SA's nonces, with the
transforms, SPIs and DH secret of `suite` and `dhsecret`. -/
def saKeys (suite : KeySa) (dhsecret : Option (List UInt8)) (sa : AuthSa) : Option AuthSa :=
  (ikev2SaKeys mac { suite with saInonce := sa.saInonce.getD [], saRnonce := sa.saRnonce.getD [] }
      none dhsecret).map
    fun keys => { sa with saKeyIprf := some keys.saKeyIprf, saKeyRprf := some keys.saKeyRprf }

/-- `ikev2_sa_initiator` without a message: the local nonce, drawn as `fresh` once. -/
def ikev2SaInitiatorStart (fresh : IkedNonce) (sa : AuthSa) : AuthSa :=
  if ibufLength sa.saInonce = 0 then { sa with saInonce := some fresh.bytes } else sa

/-- `ikev2_init_ike_sa_peer`: the request, reflecting `cookie` on a retry, sent and kept as
`sa_1stmsg`. -/
def ikev2InitIkeSaPeer (fresh : IkedNonce) (cookie : Option (List UInt8)) (sa : AuthSa) :
    AuthSa × List UInt8 :=
  let sa := ikev2SaInitiatorStart fresh sa
  let req := codec.request cookie (sa.saInonce.getD [])
  ({ sa with sa1stmsg := some req }, req)

/-- `ikev2_sa_initiator` with the response `msgData`: the local nonce unless one is kept, the
responder's nonce unless one is kept, the response as `sa_2ndmsg`, and the keys. -/
def ikev2SaInitiator (fresh : IkedNonce) (suite : KeySa) (dhsecret : Option (List UInt8))
    (msgData : List UInt8) (sa : AuthSa) : Option AuthSa := do
  let sa := ikev2SaInitiatorStart fresh sa
  let sa ← if ibufLength sa.saRnonce = 0 then
      if ibufLength (codec.nonceOf msgData) = 0 then none
      else some { sa with saRnonce := codec.nonceOf msgData }
    else some sa
  saKeys mac suite dhsecret { sa with sa2ndmsg := some msgData }

/-- `ikev2_sa_responder` with the request `msgData`: the request as `sa_1stmsg`, the local
nonce drawn as `fresh` unless one is kept, the initiator's nonce, and the keys. -/
def ikev2SaResponder (fresh : IkedNonce) (suite : KeySa) (dhsecret : Option (List UInt8))
    (msgData : List UInt8) (sa : AuthSa) : Option AuthSa :=
  let sa := { sa with sa1stmsg := some msgData }
  let sa := if sa.saRnonce = none then { sa with saRnonce := some fresh.bytes } else sa
  if ibufLength sa.saInonce = 0 ∧ ibufLength (codec.nonceOf msgData) < ikedNonceMin then none
  else saKeys mac suite dhsecret { sa with saInonce := codec.nonceOf msgData }

/-- `ikev2_resp_ike_sa_init`: the response, sent and kept as `sa_2ndmsg`. -/
def ikev2RespIkeSaInit (sa : AuthSa) : AuthSa × List UInt8 :=
  let resp := codec.response (sa.saRnonce.getD [])
  ({ sa with sa2ndmsg := some resp }, resp)

/-- How an IKE_SA_INIT request is answered when it is not answered with the SA: a COOKIE, after
which the initiator sends again on the same SA, or INVALID_KE_PAYLOAD, after which it starts
over on a new SA.  `fresh` is the nonce the initiator draws if it has none. -/
inductive InitRetry where
  | cookie (cookie : List UInt8) (fresh : IkedNonce)
  | invalidKe (fresh : IkedNonce)

-- The initiator's SA and its last request after one more answer.
def initRetryStep (localid : IkedId) (st : AuthSa × List UInt8) : InitRetry → AuthSa × List UInt8
  | .cookie cookie fresh => ikev2InitIkeSaPeer codec fresh (some cookie) st.1
  | .invalidKe fresh => ikev2InitIkeSaPeer codec fresh none (saNew localid true)

/-- The initiator's first request from a new SA, then one request for each answer in
`retries`. -/
def initRequests (localid : IkedId) (fresh : IkedNonce) (retries : List InitRetry) :
    AuthSa × List UInt8 :=
  retries.foldl (initRetryStep codec localid) (ikev2InitIkeSaPeer codec fresh none (saNew localid true))

/-- Both peers after IKE_SA_INIT and the ID payloads of IKE_AUTH: the responder answers the
request the initiator sent last on a new SA, the initiator takes the answer, and each peer
keeps the ID payload body the other sent.  `freshI`, `again` and `freshR` are the nonces the
three calls of `ikev2_sa_initiator` and `ikev2_sa_responder` would draw. -/
def saInitExchange (suite : KeySa) (dhsecret : Option (List UInt8)) (localI localR : IkedId)
    (freshI again freshR : IkedNonce) (retries : List InitRetry) : Option (AuthSa × AuthSa) := do
  let (saI, req) := initRequests codec localI freshI retries
  let saR ← ikev2SaResponder codec mac freshR { suite with shInitiator := false } dhsecret req
    (saNew localR false)
  let (saR, resp) := ikev2RespIkeSaInit codec saR
  let saI ← ikev2SaInitiator codec mac again { suite with shInitiator := true } dhsecret resp saI
  pure ({ saI with saRid := idOfPayload saR.saRid.idBuf },
    { saR with saIid := idOfPayload saI.saIid.idBuf })

/-- What the initiator holds while its last request waits for the answer: the request as
`sa_1stmsg` with its own nonce in it, its own ID, and nothing of the responder. -/
structure Waiting (localid : IkedId) (st : AuthSa × List UInt8) : Prop where
  first : st.1.sa1stmsg = some st.2
  nonce : ∃ n, 0 < n.length ∧ st.1.saInonce = some n ∧ codec.nonceOf st.2 = some n
  noPeerNonce : st.1.saRnonce = none
  noKeys : st.1.saKeyIprf = none ∧ st.1.saKeyRprf = none
  ownId : st.1.saIid = localid
  noPeerId : st.1.saRid = ⟨0, []⟩
  noAnswer : st.1.sa2ndmsg = none

variable {codec mac}

-- The local nonce is drawn at most once, and nothing else changes.
theorem ikev2SaInitiatorStart_eq (fresh : IkedNonce) (sa : AuthSa) :
    ∃ n, 0 < n.length ∧ ikev2SaInitiatorStart fresh sa = { sa with saInonce := some n } := by
  unfold ikev2SaInitiatorStart
  split
  · exact ⟨fresh.bytes, by rw [fresh.sized]; decide, rfl⟩
  · rename_i kept
    cases own : sa.saInonce with
    | none => rw [own] at kept; exact absurd rfl kept
    | some n =>
      rw [own] at kept
      exact ⟨n, Nat.pos_of_ne_zero kept, by rw [← own]⟩

theorem ikev2SaInitiatorStart_of_drawn (fresh : IkedNonce) {sa : AuthSa} {n : List UInt8}
    (drawn : sa.saInonce = some n) (long : 0 < n.length) : ikev2SaInitiatorStart fresh sa = sa := by
  unfold ikev2SaInitiatorStart
  rw [drawn, if_neg (show ibufLength (some n) ≠ 0 from Nat.pos_iff_ne_zero.mp long)]

/-- Building a request, first or again, leaves the initiator waiting for its answer. -/
theorem waiting_ikev2InitIkeSaPeer (sound : codec.Sound) {localid : IkedId} (fresh : IkedNonce)
    (cookie : Option (List UInt8)) {sa : AuthSa} (noPeerNonce : sa.saRnonce = none)
    (noKeys : sa.saKeyIprf = none ∧ sa.saKeyRprf = none) (ownId : sa.saIid = localid)
    (noPeerId : sa.saRid = ⟨0, []⟩) (noAnswer : sa.sa2ndmsg = none) :
    Waiting codec localid (ikev2InitIkeSaPeer codec fresh cookie sa) := by
  obtain ⟨n, long, drawn⟩ := ikev2SaInitiatorStart_eq fresh sa
  simp only [ikev2InitIkeSaPeer, drawn, Option.getD_some]
  exact ⟨rfl, ⟨n, long, rfl, sound.request_nonce cookie n⟩, noPeerNonce, noKeys, ownId, noPeerId,
    noAnswer⟩

theorem waiting_saNew (sound : codec.Sound) (localid : IkedId) (fresh : IkedNonce)
    (cookie : Option (List UInt8)) :
    Waiting codec localid (ikev2InitIkeSaPeer codec fresh cookie (saNew localid true)) :=
  waiting_ikev2InitIkeSaPeer sound fresh cookie rfl ⟨rfl, rfl⟩ rfl rfl rfl

/-- Each COOKIE or INVALID_KE_PAYLOAD answer leaves the initiator waiting for the answer to its
new request. -/
theorem waiting_foldl_initRetryStep (sound : codec.Sound) (localid : IkedId) (retries : List InitRetry) :
    ∀ st, Waiting codec localid st →
      Waiting codec localid (retries.foldl (initRetryStep codec localid) st) := by
  induction retries with
  | nil => intro st waiting; exact waiting
  | cons retry rest ih =>
    intro st waiting
    rw [List.foldl_cons]
    apply ih
    cases retry with
    | cookie cookie fresh =>
      exact waiting_ikev2InitIkeSaPeer sound fresh (some cookie) waiting.noPeerNonce waiting.noKeys
        waiting.ownId waiting.noPeerId waiting.noAnswer
    | invalidKe fresh => exact waiting_saNew sound localid fresh none

theorem waiting_initRequests (sound : codec.Sound) (localid : IkedId) (fresh : IkedNonce)
    (retries : List InitRetry) : Waiting codec localid (initRequests codec localid fresh retries) :=
  waiting_foldl_initRetryStep sound localid retries _ (waiting_saNew sound localid fresh none)

/-- What a new responder SA holds after `ikev2_sa_responder`. -/
theorem ikev2SaResponder_saNew {suite : KeySa} {dhsecret : Option (List UInt8)}
    {localid : IkedId} {fresh : IkedNonce} {msgData : List UInt8} {sa : AuthSa}
    (done : ikev2SaResponder codec mac fresh suite dhsecret msgData (saNew localid false) = some sa) :
    ∃ keys, ikev2SaKeys mac
        { suite with
          saInonce := (codec.nonceOf msgData).getD []
          saRnonce := fresh.bytes } none dhsecret = some keys ∧
      sa = { saInonce := codec.nonceOf msgData
             saRnonce := some fresh.bytes
             saIid := ⟨0, []⟩
             saRid := localid
             saKeyIprf := some keys.saKeyIprf
             saKeyRprf := some keys.saKeyRprf
             sa1stmsg := some msgData
             sa2ndmsg := none } := by
  simp only [ikev2SaResponder, saNew, Bool.false_eq_true, if_false, if_true, ibufLength] at done
  split_ifs at done
  simp only [saKeys, Option.map_eq_some_iff, Option.getD_some] at done
  obtain ⟨keys, derived, rfl⟩ := done
  exact ⟨keys, derived, rfl⟩

/-- What the waiting initiator holds after `ikev2_sa_initiator` took the response. -/
theorem ikev2SaInitiator_of_waiting {fresh : IkedNonce} {suite : KeySa}
    {dhsecret : Option (List UInt8)} {msgData n : List UInt8} {sa sa' : AuthSa}
    (drawn : sa.saInonce = some n) (long : 0 < n.length) (noPeerNonce : sa.saRnonce = none)
    (done : ikev2SaInitiator codec mac fresh suite dhsecret msgData sa = some sa') :
    ∃ keys, ikev2SaKeys mac
        { suite with
          saInonce := sa.saInonce.getD []
          saRnonce := (codec.nonceOf msgData).getD [] } none dhsecret = some keys ∧
      sa' = { sa with
        saRnonce := codec.nonceOf msgData
        sa2ndmsg := some msgData
        saKeyIprf := some keys.saKeyIprf
        saKeyRprf := some keys.saKeyRprf } := by
  unfold ikev2SaInitiator at done
  dsimp only at done
  rw [ikev2SaInitiatorStart_of_drawn fresh drawn long, noPeerNonce, if_pos (show ibufLength none = 0 from rfl)] at done
  by_cases empty : ibufLength (codec.nonceOf msgData) = 0
  · rw [if_pos empty] at done
    cases done
  · rw [if_neg empty, Option.bind_eq_bind, Option.bind_some] at done
    simp only [saKeys, Option.map_eq_some_iff] at done
    obtain ⟨keys, derived, rfl⟩ := done
    exact ⟨keys, derived, rfl⟩

/-- After IKE_SA_INIT and the ID payloads both peers hold the same buffers: the request the
initiator sent last, both nonces, both IDs and the PRF keys. -/
theorem saInitExchange_eq (sound : codec.Sound) {suite : KeySa} {dhsecret : Option (List UInt8)}
    {typeI typeR : UInt8} {dataI dataR : List UInt8} {freshI again freshR : IkedNonce}
    {retries : List InitRetry} {saI saR : AuthSa}
    (done : saInitExchange codec mac suite dhsecret (ikev2Policy2id typeI dataI)
      (ikev2Policy2id typeR dataR) freshI again freshR retries = some (saI, saR)) :
    saI = saR ∧ ∃ ni keys,
      (initRequests codec (ikev2Policy2id typeI dataI) freshI retries).1.saInonce = some ni ∧
      ikev2SaKeys mac { suite with saInonce := ni, saRnonce := freshR.bytes } none dhsecret =
        some keys ∧
      saI = { saInonce := some ni
              saRnonce := some freshR.bytes
              saIid := ikev2Policy2id typeI dataI
              saRid := ikev2Policy2id typeR dataR
              saKeyIprf := some keys.saKeyIprf
              saKeyRprf := some keys.saKeyRprf
              sa1stmsg := some (initRequests codec (ikev2Policy2id typeI dataI) freshI retries).2
              sa2ndmsg := some (codec.response freshR.bytes) } := by
  have waiting := waiting_initRequests sound (ikev2Policy2id typeI dataI) freshI retries
  unfold saInitExchange at done
  generalize initRequests codec (ikev2Policy2id typeI dataI) freshI retries = st at done waiting ⊢
  obtain ⟨sa0, req⟩ := st
  obtain ⟨ni, long, drawn, carried⟩ := waiting.nonce
  simp only [Option.bind_eq_bind] at done
  cases answered : ikev2SaResponder codec mac freshR { suite with shInitiator := false } dhsecret req
      (saNew (ikev2Policy2id typeR dataR) false) with
  | none => rw [answered] at done; cases done
  | some saR0 =>
    obtain ⟨keysR, derivedR, rfl⟩ := ikev2SaResponder_saNew answered
    rw [answered, Option.bind_some] at done
    simp only [ikev2RespIkeSaInit, Option.getD_some] at done
    cases taken : ikev2SaInitiator codec mac again { suite with shInitiator := true } dhsecret
        (codec.response freshR.bytes) sa0 with
    | none => rw [taken] at done; cases done
    | some saI0 =>
      obtain ⟨keysI, derivedI, rfl⟩ := ikev2SaInitiator_of_waiting drawn long waiting.noPeerNonce taken
      rw [taken, Option.bind_some] at done
      cases done
      -- both peers derive their keys from the same nonces
      rw [carried, Option.getD_some] at derivedR
      rw [drawn, sound.response_nonce, Option.getD_some, Option.getD_some] at derivedI
      have sameR := ikev2SaKeys_role mac { suite with saInonce := ni, saRnonce := freshR.bytes }
        false none dhsecret
      have sameI := ikev2SaKeys_role mac { suite with saInonce := ni, saRnonce := freshR.bytes }
        true none dhsecret
      have keys : keysI = keysR := by
        apply Option.some.inj
        rw [← derivedI, ← derivedR]
        exact sameI.trans sameR.symm
      subst keys
      obtain ⟨first, -, noPeerNonce', ⟨noIprf, noRprf⟩, ownId, noPeerId, noAnswer⟩ := waiting
      -- the initiator's SA is the one it sent the request from, with the answer added
      obtain ⟨inonce, rnonce, iid, rid, kIprf, kRprf, m1, m2⟩ := sa0
      simp only at first drawn noPeerNonce' noIprf noRprf ownId noPeerId noAnswer
      subst first drawn noPeerNonce' noIprf noRprf ownId noPeerId noAnswer
      refine ⟨?_, ni, keysI, rfl, sameI.symm.trans derivedI, ?_⟩
      · simp [sound.response_nonce, carried]
      · simp [sound.response_nonce]

end Exchange

/-! ## Both peers sign and verify the same octets -/

section Agreement

variable {codec : SaInitCodec} {mac : List UInt8 → List UInt8 → List UInt8} {prf : IkedHash}

theorem ikev2MsgAuth_peers_agree (sound : codec.Sound) (transform : PrfTransform mac prf)
    (suite : KeySa) (dhsecret : Option (List UInt8)) (typeI typeR : UInt8)
    (dataI dataR : List UInt8) (freshI again freshR : IkedNonce) (retries : List InitRetry)
    (saI saR : AuthSa) (typedI : typeI ≠ 0) (typedR : typeR ≠ 0)
    (fitsI : (initRequests codec (ikev2Policy2id typeI dataI) freshI retries).2.length +
      freshR.bytes.length + prf.hashLength ≤ ikedMsgbufMax)
    (fitsR : (codec.response freshR.bytes).length +
      ibufLength (initRequests codec (ikev2Policy2id typeI dataI) freshI retries).1.saInonce +
        prf.hashLength ≤ ikedMsgbufMax)
    (done : saInitExchange codec mac suite dhsecret (ikev2Policy2id typeI dataI)
      (ikev2Policy2id typeR dataR) freshI again freshR retries = some (saI, saR)) :
    ikev2MsgAuth mac prf saI false = ikev2MsgAuth mac prf saR false ∧
      ikev2MsgAuth mac prf saI true = ikev2MsgAuth mac prf saR true ∧
      (∃ ni keys,
        (initRequests codec (ikev2Policy2id typeI dataI) freshI retries).1.saInonce = some ni ∧
        ikev2SaKeys mac { suite with saInonce := ni, saRnonce := freshR.bytes } none dhsecret =
          some keys ∧
        ikev2MsgAuth mac prf saI false =
          some (signedOctets mac (initRequests codec (ikev2Policy2id typeI dataI) freshI retries).2
            freshR.bytes keys.saKeyIprf (ikev2Policy2id typeI dataI).idBuf) ∧
        ikev2MsgAuth mac prf saR true =
          some (signedOctets mac (codec.response freshR.bytes) ni keys.saKeyRprf
            (ikev2Policy2id typeR dataR).idBuf)) ∧
      (∀ psk octets sig, ikev2MsgAuth mac prf saI false = some octets →
        ikev2MsgAuthsign mac prf psk octets = some sig →
        ∃ octets', ikev2MsgAuth mac prf saR false = some octets' ∧
          ikev2MsgAuthverify mac prf psk sig octets' = true) ∧
      (∀ psk octets sig, ikev2MsgAuth mac prf saR true = some octets →
        ikev2MsgAuthsign mac prf psk octets = some sig →
        ∃ octets', ikev2MsgAuth mac prf saI true = some octets' ∧
          ikev2MsgAuthverify mac prf psk sig octets' = true) := by
  obtain ⟨same, ni, keys, drawn, derived, state⟩ := saInitExchange_eq sound done
  subst same
  rw [drawn] at fitsR
  refine ⟨rfl, rfl, ⟨ni, keys, drawn, derived, ?initiator, ?responder⟩, ?signI, ?signR⟩
  case initiator =>
    rw [ikev2MsgAuth_eq transform saI false (by rw [state]; rfl) (by rw [state]; rfl)
      (by rw [state]; rfl) (by rw [state]; exact typedI) fitsI, state]
    rfl
  case responder =>
    rw [ikev2MsgAuth_eq transform saI true (by rw [state]; rfl) (by rw [state]; rfl)
      (by rw [state]; rfl) (by rw [state]; exact typedR) fitsR, state]
    rfl
  case signI =>
    intro psk octets sig made signed
    exact ⟨octets, made, ikev2MsgAuthverify_authsign signed⟩
  case signR =>
    intro psk octets sig made signed
    exact ⟨octets, made, ikev2MsgAuthverify_authsign signed⟩

-- Messages that are their nonce: the smallest layout with a NONCE payload to find.
def echoCodec : SaInitCodec := ⟨fun _ nonce => nonce, fun nonce => nonce, some⟩

theorem echoCodec_sound : echoCodec.Sound := ⟨fun _ _ => rfl, fun _ => rfl⟩

def constantNonce (b : UInt8) : IkedNonce := ⟨List.replicate ikedNonceSize b, List.length_replicate⟩

-- Both peers after one COOKIE retry, with FQDN IDs and the constant PRF.
def echoSa : AuthSa :=
  { saInonce := some (constantNonce 1).bytes
    saRnonce := some (constantNonce 2).bytes
    saIid := ikev2Policy2id 2 [105]
    saRid := ikev2Policy2id 2 [114]
    saKeyIprf := some (List.replicate 32 7)
    saKeyRprf := some (List.replicate 32 7)
    sa1stmsg := some (constantNonce 1).bytes
    sa2ndmsg := some (constantNonce 2).bytes }

theorem ikev2MsgAuth_peers_agree_after_cookie :
    ikev2MsgAuth constantPrf ⟨32, 0⟩ echoSa false = ikev2MsgAuth constantPrf ⟨32, 0⟩ echoSa false ∧
      ikev2MsgAuth constantPrf ⟨32, 0⟩ echoSa true = ikev2MsgAuth constantPrf ⟨32, 0⟩ echoSa true ∧
      (∃ ni keys,
        (initRequests echoCodec (ikev2Policy2id 2 [105]) (constantNonce 1)
          [.cookie [9] (constantNonce 5)]).1.saInonce = some ni ∧
        ikev2SaKeys constantPrf { sha256KeySa with saInonce := ni, saRnonce := (constantNonce 2).bytes }
          none (some (List.replicate 32 3)) = some keys ∧
        ikev2MsgAuth constantPrf ⟨32, 0⟩ echoSa false =
          some (signedOctets constantPrf (initRequests echoCodec (ikev2Policy2id 2 [105])
            (constantNonce 1) [.cookie [9] (constantNonce 5)]).2
            (constantNonce 2).bytes keys.saKeyIprf (ikev2Policy2id 2 [105]).idBuf) ∧
        ikev2MsgAuth constantPrf ⟨32, 0⟩ echoSa true =
          some (signedOctets constantPrf (echoCodec.response (constantNonce 2).bytes) ni
            keys.saKeyRprf (ikev2Policy2id 2 [114]).idBuf)) ∧
      (∀ psk octets sig, ikev2MsgAuth constantPrf ⟨32, 0⟩ echoSa false = some octets →
        ikev2MsgAuthsign constantPrf ⟨32, 0⟩ psk octets = some sig →
        ∃ octets', ikev2MsgAuth constantPrf ⟨32, 0⟩ echoSa false = some octets' ∧
          ikev2MsgAuthverify constantPrf ⟨32, 0⟩ psk sig octets' = true) ∧
      (∀ psk octets sig, ikev2MsgAuth constantPrf ⟨32, 0⟩ echoSa true = some octets →
        ikev2MsgAuthsign constantPrf ⟨32, 0⟩ psk octets = some sig →
        ∃ octets', ikev2MsgAuth constantPrf ⟨32, 0⟩ echoSa true = some octets' ∧
          ikev2MsgAuthverify constantPrf ⟨32, 0⟩ psk sig octets' = true) :=
  ikev2MsgAuth_peers_agree echoCodec_sound constantPrf_transform sha256KeySa (some (List.replicate 32 3))
    2 2 [105] [114] (constantNonce 1) (constantNonce 3) (constantNonce 2)
    [.cookie [9] (constantNonce 5)] echoSa echoSa (by decide) (by decide) (by decide) (by decide)
    (by decide +kernel)

end Agreement

end OpenIKED.Ikev2.AuthOctets
