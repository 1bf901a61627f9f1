import OpenIKED.Ikev2.PrintId
import OpenIKED.Policy.PolicyTest

set_option autoImplicit false

/-!
# The key of `policy_lookup`

`policy_lookup` selects the policy of a message with `policy_test`, on a key policy built
from the message: the peer's address family, both addresses, the proposals and flows it
is given, and the peer and local IDs.  An ID enters the key as text: `ikev2_print_id`
prints it, and what follows the first '/' is copied into the zeroed `id_data` by
`strlcpy`, as `create_ike` copies the `srcid` and `dstid` of `iked.conf`.  The peer is
authenticated on the bytes of its ID payload instead: `ca_x509_subjectaltname_cmp`
compares the type and the bytes after `id_offset` with a subjectAltName.
-/

namespace OpenIKED.Policy

open OpenIKED.Shared OpenIKED.Util
open OpenIKED.Ikev2.PrintId (IkedId Printers ikev2PrintId ikedIdSize getString printMap ikev2IdMap
  ikev2IdFqdn ikev2IdUfqdn)

def ikedMsgFlagsUseTransport : UInt32 := 0x0100

-- A `char` of printed text as the byte `memcmp` compares.
def charByte (c : Char) : UInt8 := c.toNat.toUInt8

-- An `iked_static_id` whose zeroed `id_data` receives `text` by `strlcpy`.
def staticId (type : UInt8) (text : List Char) : IkedStaticId :=
  ⟨type, (strlcpy (List.replicate ikedIdSize nul) text).1.map charByte⟩

-- The ID of the zeroed key, which `policy_test` does not compare.
def unsetId : IkedStaticId := ⟨0, List.replicate ikedIdSize 0⟩

def policyLookupId (printers : Printers) (id : IkedId) : IkedStaticId :=
  if id.idType = 0 then unsetId
  else
    let printed := ikev2PrintId printers id ikedIdSize
    if printed.ret ≠ 0 then unsetId
    else
      match strchr printed.idstr '/' with
      | some s => staticId id.idType (printed.idstr.drop (s + 1))
      | none => unsetId

-- The fields of `struct iked_message` the lookup reads.
structure IkedMessage where
  msgPeer : Sockaddr
  msgLocal : Sockaddr
  msgPeerid : IkedId
  msgLocalid : IkedId
  msgFlags : UInt32

-- What `ca_x509_subjectaltname_cmp` compares with a subjectAltName: the ID's type and
-- the bytes after `id_offset`.
def authenticatedId (id : IkedId) : UInt8 × List UInt8 :=
  (id.idType, (id.idBuf.getD []).drop id.idOffset.toNat)

section Key

variable {Flow Proposal : Type}

def policyLookupKey (printers : Printers) (msg : IkedMessage) (proposals : List Proposal)
    (flows : List Flow) (nflows : Nat) : IkedPolicy Flow Proposal where
  polFlags := if msg.msgFlags &&& ikedMsgFlagsUseTransport ≠ 0 then ikedPolicyTransport else 0
  polAf := msg.msgPeer.family
  polPeer := ⟨msg.msgPeer, 0⟩
  polPeerid := policyLookupId printers msg.msgPeerid
  polLocal := ⟨msg.msgLocal, 0⟩
  polLocalid := policyLookupId printers msg.msgLocalid
  polProposals := proposals
  polFlows := flows
  polNflows := nflows

-- `policy_lookup`: the SA's policy if it has one, else what `policy_test` finds for the
-- key, else `sc_defaultcon`.
def policyLookup (printers : Printers) (m : Matchers Flow Proposal)
    (pols : List (IkedPolicy Flow Proposal)) (defaultcon saPolicy : Option Nat)
    (msg : IkedMessage) (proposals : List Proposal) (flows : List Flow) (nflows : Nat) :
    Option Nat :=
  match saPolicy with
  | some pol => some pol
  | none => (policyTest m pols (policyLookupKey printers msg proposals flows nflows)).or defaultcon

end Key

theorem staticId_cstr (type : UInt8) (text : List Char) :
    staticId type (cstr text) = staticId type text := by
  simp only [staticId, strlcpy, cstr_cstr]

theorem idMismatch_unsetId (p : IkedStaticId) : idMismatch unsetId p = false := by
  simp [idMismatch, unsetId]

variable (printers : Printers)

/-- An FQDN or UFQDN ID enters the key as the printable prefix of its value, and as no
ID at all when the printed text does not fit in `IKED_ID_SIZE`. -/
theorem policyLookupId_fqdn (id : IkedId) (buf : List UInt8) (stored : id.idBuf = some buf)
    (inside : id.idOffset.toNat < buf.length)
    (fqdn : id.idType = ikev2IdFqdn ∨ id.idType = ikev2IdUfqdn) :
    policyLookupId printers id =
      if (cstr (printMap id.idType.toNat ikev2IdMap)).length + 1 +
          (getString (buf.drop id.idOffset.toNat)).length < ikedIdSize
      then staticId id.idType (getString (buf.drop id.idOffset.toNat))
      else unsetId := by
  -- the type names are short, contain no '/', and neither type is zero
  have fits : cstrlen (printMap id.idType.toNat ikev2IdMap) + 1 < ikedIdSize := by
    rcases fqdn with same | same <;> rw [same] <;> decide
  have noSlash : '/' ∉ cstr (printMap id.idType.toNat ikev2IdMap) := by
    rcases fqdn with same | same <;> rw [same] <;> decide
  have typed : id.idType ≠ 0 := by
    rcases fqdn with same | same <;> rw [same] <;> decide
  obtain ⟨printed, text⟩ :=
    Ikev2.PrintId.ikev2PrintId_fqdn printers id ikedIdSize buf stored inside fqdn fits
  unfold policyLookupId
  rw [if_neg typed]
  simp only [List.length_cons, List.length_append] at printed text
  by_cases whole : (cstr (printMap id.idType.toNat ikev2IdMap)).length + 1 +
      (getString (buf.drop id.idOffset.toNat)).length < ikedIdSize
  · have ok : (ikev2PrintId printers id ikedIdSize).ret = 0 := printed.mpr (by omega)
    have within : (cstr (printMap id.idType.toNat ikev2IdMap)).length + 1 ≤
        cstrlen (ikev2PrintId printers id ikedIdSize).idstr := by
      simp only [cstrlen, text (by omega), List.length_append, List.length_cons]
      omega
    simp only [ok, ne_eq, not_true_eq_false, if_false, if_pos whole,
      strchr_of_cstr (text (by omega)) noSlash]
    -- the key holds what follows the '/' of the printed text
    rw [← staticId_cstr, cstr_drop _ _ within, text (by omega)]
    simp
  · have failed : (ikev2PrintId printers id ikedIdSize).ret ≠ 0 :=
      fun ok => whole (by have := printed.mp ok; omega)
    simp only [failed, ne_eq, not_false_eq_true, if_true, if_neg whole]

/-- Two FQDN or UFQDN IDs of one type whose values agree up to their first unprintable
byte give the same key, whatever follows. -/
theorem policyLookupId_eq_of_getString (id id' : IkedId) (buf buf' : List UInt8)
    (stored : id.idBuf = some buf) (stored' : id'.idBuf = some buf')
    (inside : id.idOffset.toNat < buf.length) (inside' : id'.idOffset.toNat < buf'.length)
    (fqdn : id.idType = ikev2IdFqdn ∨ id.idType = ikev2IdUfqdn) (sameType : id'.idType = id.idType)
    (samePrefix : getString (buf.drop id.idOffset.toNat) = getString (buf'.drop id'.idOffset.toNat)) :
    policyLookupId printers id = policyLookupId printers id' := by
  rw [policyLookupId_fqdn printers id buf stored inside fqdn,
    policyLookupId_fqdn printers id' buf' stored' inside' (sameType ▸ fqdn), sameType, samePrefix]

/-- An FQDN or UFQDN ID too long to print leaves the key without an ID, which passes the
ID test of every policy, whatever `dstid` or `srcid` it is configured with. -/
theorem idMismatch_of_long_fqdn (id : IkedId) (buf : List UInt8) (stored : id.idBuf = some buf)
    (inside : id.idOffset.toNat < buf.length)
    (fqdn : id.idType = ikev2IdFqdn ∨ id.idType = ikev2IdUfqdn)
    (long : ikedIdSize ≤ (cstr (printMap id.idType.toNat ikev2IdMap)).length + 1 +
      (getString (buf.drop id.idOffset.toNat)).length) (configured : IkedStaticId) :
    idMismatch (policyLookupId printers id) configured = false := by
  rw [policyLookupId_fqdn printers id buf stored inside fqdn, if_neg (by omega)]
  exact idMismatch_unsetId configured

-- The ID payload `FQDN vpn.example.com` as `ikev2_pld_id` keeps it: the type and three
-- reserved bytes, then the name.
def vpnPeerid : IkedId :=
  ⟨ikev2IdFqdn, 4, some ([ikev2IdFqdn, 0, 0, 0] ++ "vpn.example.com".toList.map charByte)⟩

-- The same name followed by a control byte and more text.
def vpnTrailerPeerid : IkedId :=
  ⟨ikev2IdFqdn, 4,
    some ([ikev2IdFqdn, 0, 0, 0] ++ "vpn.example.com".toList.map charByte ++ [0x01, 0x78])⟩

section Conflated

variable {Flow Proposal : Type}

theorem policyLookup_conflates_authenticated_peerids (m : Matchers Flow Proposal)
    (pols : List (IkedPolicy Flow Proposal)) (defaultcon : Option Nat) (msg : IkedMessage)
    (proposals : List Proposal) (flows : List Flow) (nflows : Nat) :
    authenticatedId vpnTrailerPeerid ≠ authenticatedId vpnPeerid ∧
      policyLookupId printers vpnTrailerPeerid = staticId ikev2IdFqdn "vpn.example.com".toList ∧
      policyLookup printers m pols defaultcon none { msg with msgPeerid := vpnTrailerPeerid }
          proposals flows nflows =
        policyLookup printers m pols defaultcon none { msg with msgPeerid := vpnPeerid }
          proposals flows nflows := by
  -- the control byte ends what `get_string` copies
  have trailer : getString (([ikev2IdFqdn, 0, 0, 0] ++ "vpn.example.com".toList.map charByte ++
      [0x01, 0x78]).drop vpnTrailerPeerid.idOffset.toNat) = "vpn.example.com".toList := by decide
  have same : policyLookupId printers vpnTrailerPeerid = policyLookupId printers vpnPeerid :=
    policyLookupId_eq_of_getString printers _ _ _ _ rfl rfl (by decide) (by decide) (Or.inl rfl)
      rfl (by decide)
  refine ⟨by decide, ?_, by simp only [policyLookup, policyLookupKey, same]⟩
  rw [policyLookupId_fqdn printers vpnTrailerPeerid _ rfl (by decide) (Or.inl rfl), trailer,
    if_pos (by decide)]
  rfl

end Conflated

end OpenIKED.Policy
