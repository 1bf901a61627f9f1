import OpenIKED.Ikev2.PldParse
import OpenIKED.Policy.Proposals
import OpenIKED.Shared.BigEndian

set_option autoImplicit false

/-!
# SA payloads on the wire

`ikev2_add_proposals` writes the proposals of an SA payload, each with its SPI and the
transforms it offers; `ikev2_pld_sa`, `ikev2_pld_xform` and `ikev2_pld_attr` read the SA
payload of a peer's message back into the message's proposals with `config_add_proposal`
and `config_add_transform`.  `OpenIKED.Ikev2.PldParse` follows the same walkers for the
bytes they read; here they build the proposals, and on a peer's message both return the
same value.

The result is the round trip: the peer reads each proposal that was written with the
sender's local SPI as its peer SPI and each transform with its key length, ranked as
`config_add_transform` ranks them, and it drops a proposal that has a transform of a type
it does not know.
-/

namespace OpenIKED.Ikev2.SaPayload

open OpenIKED.Shared
open OpenIKED.Policy.Proposals
open OpenIKED.Ikev2.SaKeys (ikev2SaprotoIke)
open OpenIKED.Ikev2.PldParse (byteAt be16 be32 ikev2XformMore ikev2AttrafTv ikev2AttrtypeKeyLength
  ikev2ValidateSa ikev2ValidateXform ikev2ValidateAttr ikev2PldAttr ikev2ValidateSa_some
  ikev2ValidateXform_some)

def ikev1PayloadNone : UInt8 := 0
def ikev1PayloadProposal : UInt8 := 2
def ikev2XformLast : UInt8 := 0

/-! ## Writing -/

/-- `ikev2_add_transform`: the transform header, and a KEY_LENGTH attribute in Type-Value
form when a key length is set. -/
def ikev2AddTransform (more type : UInt8) (id length : UInt16) : List UInt8 :=
  let xfrmLength := if length ≠ 0 then 8 + 4 else 8
  [more, 0] ++ beBytes 2 xfrmLength ++ [type, 0] ++ beBytes 2 id.toNat ++
    if length ≠ 0 then
      beBytes 2 (ikev2AttrafTv ||| ikev2AttrtypeKeyLength) ++ beBytes 2 length.toNat
    else []

-- The transform loop of `ikev2_add_proposals` over the transforms it sends: the last one
-- (`xfi == nxforms - 1`) is marked IKEV2_XFORM_LAST, the others IKEV2_XFORM_MORE.
def addTransforms : List IkedTransform → List UInt8
  | [] => []
  | [x] => ikev2AddTransform ikev2XformLast x.xformType x.xformId x.xformLength
  | x :: rest =>
    ikev2AddTransform (UInt8.ofNat ikev2XformMore) x.xformType x.xformId x.xformLength ++
      addTransforms rest

-- The SPI behind the proposal header, by `spi_size`: `htobe32` of its low 32 bits,
-- `htobe64`, or nothing.
def spiBytes (spi : IkedSpi) : List UInt8 :=
  if spi.spiSize = 4 then beBytes 4 spi.spi.toNat
  else if spi.spiSize = 8 then beBytes 8 spi.spi.toNat
  else []

-- A proposal `ikev2_add_proposals` passes over: of another protocol than the one asked
-- for, or, when none is asked for, of the IKE SA.
def skipsProposal (protoid : UInt8) (prop : IkedProposal) : Bool :=
  (protoid != 0 && prop.propProtoid != protoid) ||
    (protoid == 0 && prop.propProtoid == ikev2SaprotoIke)

-- `prop_skipdh`: a Child SA proposal whose only DH groups are NONE sends no DH transform.
def propSkipdh (protoid : UInt8) (skipdh : Bool) (prop : IkedProposal) : Bool :=
  skipdh || (protoid != ikev2SaprotoIke &&
    !prop.propXforms.any fun x => x.xformType == ikev2XformtypeDh && x.xformId != ikev2XformdhNone)

-- The transforms sent: without the DH ones when they are skipped.
def keptXforms (skip : Bool) (prop : IkedProposal) : List IkedTransform :=
  if skip then prop.propXforms.filter (·.xformType != ikev2XformtypeDh) else prop.propXforms

/-- One proposal substructure: the header with `sap_more`, the length and the number of
transforms (as the `uint8_t` field holds it), the SPI and the transforms. -/
def proposalBytes (more : UInt8) (prop : IkedProposal) (xforms : List IkedTransform) :
    List UInt8 :=
  let body := spiBytes prop.propLocalspi ++ addTransforms xforms
  [more, 0] ++ beBytes 2 (8 + body.length) ++
    [prop.propId, prop.propProtoid, prop.propLocalspi.spiSize, UInt8.ofNat xforms.length] ++ body

-- What `ikev2_add_proposals` reads of the SA and the kernel: the IKE SA's SPIs, and the
-- SPI `ipsec_sa_init` gets for a Child SA of a protocol (none when it fails).
structure AddEnv where
  shIspi : UInt64
  shRspi : UInt64
  ipsecSaInit : UInt8 → Option UInt32

-- The locals of the proposal loop, what each pass wrote to `buf`, and the proposals
-- with the local SPIs the loop stored in them.
structure AddState where
  spi : UInt32
  chunks : List (List UInt8)
  length : Nat
  props : List IkedProposal

-- The local SPI of a Child SA initiator's proposal: the one drawn for an earlier
-- proposal, or one `ipsec_sa_init` draws now.
def drawSpi (ae : AddEnv) (protoid : UInt8) (initiator : Bool) (spi : UInt32)
    (prop : IkedProposal) : Option (UInt32 × IkedProposal) :=
  if protoid ≠ ikev2SaprotoIke ∧ initiator then do
    let spi ← if spi = 0 then ae.ipsecSaInit prop.propProtoid else pure spi
    pure (spi, { prop with propLocalspi := ⟨spi.toUInt64, 4, prop.propProtoid⟩ })
  else pure (spi, prop)

-- "Special case for IKE SA rekeying": the proposal carries the IKE SA's own SPI.
def ikeSpi (ae : AddEnv) (initiator sendikespi : Bool) (prop : IkedProposal) : IkedProposal :=
  if sendikespi then
    { prop with
      propLocalspi := ⟨if initiator then ae.shIspi else ae.shRspi, 8, ikev2SaprotoIke⟩ }
  else prop

/-- One pass of the proposal loop; none where the function returns -1. -/
def addProposal (ae : AddEnv) (protoid : UInt8) (initiator sendikespi skipdh : Bool)
    (st : AddState) (prop : IkedProposal) : Option AddState :=
  if skipsProposal protoid prop then some { st with props := st.props ++ [prop] }
  else
    (drawSpi ae protoid initiator st.spi prop).map fun drawn =>
      let prop := ikeSpi ae initiator sendikespi drawn.2
      let chunk :=
        proposalBytes ikev1PayloadProposal prop (keptXforms (propSkipdh protoid skipdh prop) prop)
      ⟨drawn.1, st.chunks ++ [chunk], st.length + chunk.length, st.props ++ [prop]⟩

-- `sap->sap_more = IKEV1_PAYLOAD_NONE` on the last proposal header written.
def markLast : List (List UInt8) → List (List UInt8)
  | [] => []
  | [chunk] => [chunk.set 0 ikev1PayloadNone]
  | chunk :: rest => chunk :: markLast rest

/-- `ikev2_add_proposals`: the bytes it appends to `buf` are the chunks, in order. -/
def ikev2AddProposals (ae : AddEnv) (props : List IkedProposal) (protoid : UInt8)
    (initiator sendikespi skipdh : Bool) : Option AddState := do
  let st ← props.foldlM (addProposal ae protoid initiator sendikespi skipdh) ⟨0, [], 0, []⟩
  return { st with chunks := markLast st.chunks }

/-! ## Reading -/

def be64 (buf : List UInt8) (off : Nat) : Nat := be32 buf off * 2 ^ 32 + be32 buf (off + 4)

/-- `ikev2_pld_xform` on a message from the peer: each transform goes into `msg_prop`
through `config_add_transform`, whose -2 for a type it does not know ends the walk. -/
def ikev2PldXform (buf : List UInt8) (prop : IkedProposal) (offset total : Nat) :
    Int × IkedProposal :=
  match valid : ikev2ValidateXform buf offset total with
  | (none, _) => (-1, prop)
  | (some xfrm, _) =>
    -- `msg_attrlength` is reset, and set by a KEY_LENGTH attribute
    let attrs := if xfrm.xfrmLength > 8 then ikev2PldAttr buf 0 (offset + 8) (xfrm.xfrmLength - 8)
      else ⟨0, 0, []⟩
    if attrs.ret ≠ 0 then (-1, prop)
    else
      match configAddTransform prop (UInt8.ofNat xfrm.xfrmType) (UInt16.ofNat xfrm.xfrmId)
          (UInt16.ofNat attrs.attrlength) (UInt16.ofNat attrs.attrlength) with
      | none => (-2, prop)
      | some prop =>
        if xfrm.xfrmMore = ikev2XformMore then
          have := ikev2ValidateXform_some valid
          ikev2PldXform buf prop (offset + xfrm.xfrmLength) (total - xfrm.xfrmLength)
        -- no more transforms but bytes left over
        else if total - xfrm.xfrmLength ≠ 0 then (-1, prop)
        else (0, prop)
termination_by total
decreasing_by omega

-- The SPIs `ikev2_pld_sa` stores in the proposal `config_add_proposal` returned.
def setSpis (spi : Nat) (spisize protoid : UInt8) (prop : IkedProposal) : IkedProposal :=
  { prop with
    propPeerspi := ⟨UInt64.ofNat spi, spisize, protoid⟩
    propLocalspi := { prop.propLocalspi with spiProtoid := protoid, spiSize := spisize } }

-- The SPI after the proposal header, by its size.
def readSpi (buf : List UInt8) (offset spisize : Nat) : Nat :=
  if spisize = 4 then be32 buf offset else if spisize = 8 then be64 buf offset else 0

-- `if (sap.sap_transforms)`: the transforms of the proposal at `i`, which is freed when
-- `ikev2_pld_xform` returns -2.
def pldXforms (buf : List UInt8) (props : List IkedProposal) (i transforms offset total : Nat) :
    Int × List IkedProposal :=
  if transforms = 0 then (0, props)
  else
    match props[i]? with
    | some prop =>
      let r := ikev2PldXform buf prop offset total
      -- "cleanup and ignore proposal"
      if r.1 = -2 then (0, props.eraseIdx i)
      else (if r.1 ≠ 0 then -1 else 0, props.set i r.2)
    -- not reached: `config_add_proposal` returns a proposal of the list
    | none => (-1, props)

/-- `ikev2_pld_sa` on a message from the peer: the `do ... while (sap.sap_more)` loop
adds each proposal to `msg_proposals`. -/
def ikev2PldSa (buf : List UInt8) (props : List IkedProposal) (offset left : Nat) :
    Int × List IkedProposal :=
  match valid : ikev2ValidateSa buf offset left with
  | (none, _) => (-1, props)
  | (some sap, _) =>
    let spisize := sap.sapSpisize
    -- the proposal after its header, SPI included
    let total := sap.sapLength - 8
    if spisize ≠ 0 ∧ left - 8 < spisize then (-1, props)
    else if spisize ≠ 0 ∧ total < spisize then (-1, props)
    else if spisize ≠ 0 ∧ spisize ≠ 4 ∧ spisize ≠ 8 then (-1, props)
    else
      let spi := readSpi buf (offset + 8) spisize
      let offset := offset + 8 + spisize
      let rest := left - 8 - spisize
      let total := total - spisize
      if rest < total then (-1, props)
      else
        let protoid := UInt8.ofNat sap.sapProtoid
        let added := configAddProposal props (UInt8.ofNat sap.sapProposalnr) protoid
        let props := added.1.modify added.2 (setSpis spi (UInt8.ofNat spisize) protoid)
        let parsed := pldXforms buf props added.2 sap.sapTransforms offset total
        if parsed.1 ≠ 0 then (-1, parsed.2)
        else if sap.sapMore ≠ 0 then
          have := ikev2ValidateSa_some valid
          ikev2PldSa buf parsed.2 (offset + total) (rest - total)
        else (0, parsed.2)
termination_by left
decreasing_by omega

/-! ## Agreement with the read walker

On a message from the peer, with every proposal accepted and every transform of a known
type accepted, the walkers here return what those of `OpenIKED.Ikev2.PldParse` return:
building the proposals does not change whether the message parses. -/

section Agreement

-- The parse environment of a peer's message whose configuration calls are those above.
def peerEnv (env : PldParse.ParseEnv) : PldParse.ParseEnv :=
  { env with
    fromPeer := true, addProposalOk := true
    addTransform := fun type _ _ => if knownXformtype (UInt8.ofNat type) then 0 else -2 }

@[simp] theorem peerEnv_fromPeer (env : PldParse.ParseEnv) : (peerEnv env).fromPeer = true := rfl

@[simp] theorem peerEnv_addProposalOk (env : PldParse.ParseEnv) :
    (peerEnv env).addProposalOk = true := rfl

theorem configAddTransform_isSome_eq (prop : IkedProposal) (type : UInt8)
    (id length keylength : UInt16) :
    (configAddTransform prop type id length keylength).isSome = knownXformtype type := by
  unfold configAddTransform
  cases known : knownXformtype type
  · rfl
  · simp only [Bool.not_true, Bool.false_eq_true, if_false]
    split <;> rfl

theorem ikev2PldXform_ret (env : PldParse.ParseEnv) (buf : List UInt8) (prop : IkedProposal)
    (offset total : Nat) :
    (ikev2PldXform buf prop offset total).1 =
      (PldParse.ikev2PldXform (peerEnv env) buf offset total).ret := by
  -- one walker at a time, so that each split is on the validation of the transform
  rw [PldParse.ikev2PldXform]
  split
  next reads valid =>
    rw [ikev2PldXform]
    split
    next => rfl
    next xfrm' reads' valid' =>
      rw [valid] at valid'
      cases valid'
  next xfrm reads valid =>
    rw [ikev2PldXform]
    split
    next reads' valid' =>
      rw [valid] at valid'
      cases valid'
    next xfrm' reads' valid' =>
      rw [valid] at valid'
      cases valid'
      dsimp only
      generalize (if xfrm.xfrmLength > 8 then ikev2PldAttr buf 0 (offset + 8) (xfrm.xfrmLength - 8)
        else ⟨0, 0, []⟩) = attrs
      by_cases bad : attrs.ret ≠ 0
      · simp [bad]
      · simp only [bad, if_false, peerEnv, if_true]
        -- `config_add_transform` fails exactly where the environment returns -2
        have known := configAddTransform_isSome_eq prop (UInt8.ofNat xfrm.xfrmType)
          (UInt16.ofNat xfrm.xfrmId) (UInt16.ofNat attrs.attrlength) (UInt16.ofNat attrs.attrlength)
        cases added : configAddTransform prop (UInt8.ofNat xfrm.xfrmType) (UInt16.ofNat xfrm.xfrmId)
            (UInt16.ofNat attrs.attrlength) (UInt16.ofNat attrs.attrlength) with
        | none =>
          rw [added] at known
          simp [← known]
        | some p =>
          rw [added] at known
          simp only [← known]
          have := ikev2ValidateXform_some valid
          split
          · exact ikev2PldXform_ret env buf p _ _
          · split <;> rfl
termination_by total
decreasing_by omega

theorem configAddProposal_lt (head : List IkedProposal) (id proto : UInt8) :
    (configAddProposal head id proto).2 < (configAddProposal head id proto).1.length := by
  unfold configAddProposal
  split
  next i found => exact (List.findIdx?_eq_some_iff_getElem.mp found).1
  next => simp

theorem pldXforms_ret (env : PldParse.ParseEnv) (buf : List UInt8) (props : List IkedProposal)
    (i n offset total : Nat) (inside : i < props.length) :
    (pldXforms buf props i n offset total).1 ≠ 0 ↔ n ≠ 0 ∧
      ¬ (PldParse.ikev2PldXform (peerEnv env) buf offset total).ret = -2 ∧
      (PldParse.ikev2PldXform (peerEnv env) buf offset total).ret ≠ 0 := by
  unfold pldXforms
  by_cases none : n = 0
  · simp [none]
  · simp only [none, if_false, List.getElem?_eq_getElem inside, ne_eq, not_false_eq_true,
      true_and]
    rw [← ikev2PldXform_ret env buf props[i]]
    split_ifs with h1 h2 <;> simp_all

end Agreement

/-! ## Reading back what was written -/

section Fields

theorem byteAt_add (buf : List UInt8) (off k : Nat) :
    byteAt buf (off + k) = byteAt (buf.drop off) k := by
  simp [byteAt, List.getD_eq_getElem?_getD]

theorem byteAt_drop_zero (buf : List UInt8) (off : Nat) :
    byteAt buf off = byteAt (buf.drop off) 0 := by
  simpa using byteAt_add buf off 0

theorem drop_framed {buf pre rest : List UInt8} {off : Nat} (framed : buf.drop off = pre ++ rest) :
    buf.drop (off + pre.length) = rest := by
  rw [← List.drop_drop, framed, List.drop_left]

theorem beBytes_two (n : Nat) :
    beBytes 2 n = [UInt8.ofNat (n / 256 % 256), UInt8.ofNat (n % 256)] := by
  simp [beBytes]

theorem be16_of_lt (n : Nat) (fits : n < 65536) : n / 256 % 256 * 256 + n % 256 = n := by
  omega

theorem be16_framed {buf rest : List UInt8} {off n : Nat}
    (framed : buf.drop off = beBytes 2 n ++ rest) :
    be16 buf off = n % 65536 := by
  simp only [be16, byteAt_add]
  rw [byteAt_drop_zero buf off, framed]
  simp [beBytes_two, byteAt]
  omega

theorem be32_framed {buf rest : List UInt8} {off n : Nat}
    (framed : buf.drop off = beBytes 4 n ++ rest) :
    be32 buf off = n % 2 ^ 32 := by
  rw [show 4 = 2 + 2 from rfl, beBytes_add, List.append_assoc] at framed
  have high := be16_framed framed
  have low := be16_framed (drop_framed framed)
  simp only [length_beBytes] at low
  rw [be32, high, low]
  omega

theorem be64_framed {buf rest : List UInt8} {off n : Nat}
    (framed : buf.drop off = beBytes 8 n ++ rest) :
    be64 buf off = n % 2 ^ 64 := by
  rw [show 8 = 4 + 4 from rfl, beBytes_add, List.append_assoc] at framed
  have high := be32_framed framed
  have low := be32_framed (drop_framed framed)
  simp only [length_beBytes] at low
  rw [be64, high, low]
  omega

theorem ikev2AddTransform_length (more type : UInt8) (id length : UInt16) :
    (ikev2AddTransform more type id length).length = if length ≠ 0 then 12 else 8 := by
  unfold ikev2AddTransform
  split <;> simp

-- The header of a transform `ikev2_add_transform` wrote reads back as written.
theorem ikev2ValidateXform_written {buf rest : List UInt8} {off total : Nat} {more type : UInt8}
    {id length : UInt16} (framed : buf.drop off = ikev2AddTransform more type id length ++ rest)
    (fits : (ikev2AddTransform more type id length).length ≤ total) :
    (ikev2ValidateXform buf off total).1 =
      some ⟨more.toNat, (ikev2AddTransform more type id length).length, type.toNat, id.toNat⟩ := by
  unfold ikev2ValidateXform
  simp only [be16, Nat.add_assoc, Nat.reduceAdd, byteAt_add]
  rw [byteAt_drop_zero buf off, framed]
  have idFits := be16_of_lt id.toNat id.toNat_lt
  by_cases keyless : length = 0
  · simp [ikev2AddTransform, keyless, beBytes_two, byteAt, idFits] at fits ⊢
    split_ifs <;> first | rfl | omega
  · simp [ikev2AddTransform, keyless, beBytes_two, byteAt, idFits] at fits ⊢
    split_ifs <;> first | rfl | omega

-- The KEY_LENGTH attribute `ikev2_add_transform` writes reads back as written.
theorem ikev2ValidateAttr_written {buf rest : List UInt8} {off : Nat} {length : UInt16}
    (framed : buf.drop off =
      beBytes 2 (ikev2AttrafTv ||| ikev2AttrtypeKeyLength) ++ beBytes 2 length.toNat ++ rest) :
    (ikev2ValidateAttr buf off 4).1 = some ⟨ikev2AttrafTv ||| ikev2AttrtypeKeyLength, length.toNat⟩ := by
  simp only [ikev2ValidateAttr, be16, Nat.add_assoc, Nat.reduceAdd, byteAt_add]
  rw [byteAt_drop_zero buf off, framed]
  have lengthFits := be16_of_lt length.toNat length.toNat_lt
  simp [beBytes_two, byteAt, lengthFits, ikev2AttrafTv, ikev2AttrtypeKeyLength]

-- `ikev2_pld_attr` takes it as the key length.
theorem ikev2PldAttr_written {buf rest : List UInt8} {off : Nat} {length : UInt16}
    (framed : buf.drop off =
      beBytes 2 (ikev2AttrafTv ||| ikev2AttrtypeKeyLength) ++ beBytes 2 length.toNat ++ rest) :
    (ikev2PldAttr buf 0 off 4).ret = 0 ∧ (ikev2PldAttr buf 0 off 4).attrlength = length.toNat := by
  have read := ikev2ValidateAttr_written framed
  rw [ikev2PldAttr]
  split
  · rename_i reads valid
    rw [valid] at read
    cases read
  · rename_i attr reads valid
    rw [valid] at read
    cases read
    -- a Type-Value attribute of type KEY_LENGTH, and nothing after it
    have tv : (ikev2AttrafTv ||| ikev2AttrtypeKeyLength) &&& ikev2AttrafTv ≠ 0 := by decide
    have key : (ikev2AttrafTv ||| ikev2AttrtypeKeyLength) % ikev2AttrafTv = ikev2AttrtypeKeyLength := by
      decide
    simp only [tv, key, if_true, ne_eq, not_false_eq_true]
    simp

end Fields

/-! ## The transforms -/

section Transforms

/-- What `config_add_transform` makes of transforms one after the other, each with its key
length as length and key length; none when it refuses one. -/
def addXforms (prop : IkedProposal) (xforms : List IkedTransform) : Option IkedProposal :=
  xforms.foldlM (fun p x => configAddTransform p x.xformType x.xformId x.xformLength x.xformLength)
    prop

-- One transform `ikev2_add_transform` wrote: `ikev2_pld_xform` hands it to
-- `config_add_transform` and goes on past it as its `xfrm_more` says.
theorem ikev2PldXform_written {buf rest : List UInt8} {off total : Nat} {more : UInt8}
    {x : IkedTransform} (prop : IkedProposal)
    (framed : buf.drop off = ikev2AddTransform more x.xformType x.xformId x.xformLength ++ rest)
    (fits : (ikev2AddTransform more x.xformType x.xformId x.xformLength).length ≤ total) :
    ikev2PldXform buf prop off total =
      match configAddTransform prop x.xformType x.xformId x.xformLength x.xformLength with
      | none => (-2, prop)
      | some prop =>
        if more.toNat = ikev2XformMore then
          ikev2PldXform buf prop (off + (ikev2AddTransform more x.xformType x.xformId x.xformLength).length)
            (total - (ikev2AddTransform more x.xformType x.xformId x.xformLength).length)
        else if total - (ikev2AddTransform more x.xformType x.xformId x.xformLength).length ≠ 0 then
          (-1, prop)
        else (0, prop) := by
  have header := ikev2ValidateXform_written framed fits
  -- the attribute walk yields the key length, or nothing to walk when there is none
  have attrs : (if (ikev2AddTransform more x.xformType x.xformId x.xformLength).length > 8 then
      ikev2PldAttr buf 0 (off + 8) ((ikev2AddTransform more x.xformType x.xformId x.xformLength).length - 8)
      else ⟨0, 0, []⟩).ret = 0 ∧
      (if (ikev2AddTransform more x.xformType x.xformId x.xformLength).length > 8 then
      ikev2PldAttr buf 0 (off + 8) ((ikev2AddTransform more x.xformType x.xformId x.xformLength).length - 8)
      else ⟨0, 0, []⟩).attrlength = x.xformLength.toNat := by
    by_cases keyless : x.xformLength = 0
    · simp [ikev2AddTransform_length, keyless]
    · have split : ikev2AddTransform more x.xformType x.xformId x.xformLength =
          ([more, 0] ++ beBytes 2 12 ++ [x.xformType, 0] ++ beBytes 2 x.xformId.toNat) ++
            (beBytes 2 (ikev2AttrafTv ||| ikev2AttrtypeKeyLength) ++ beBytes 2 x.xformLength.toNat) := by
        simp [ikev2AddTransform, keyless]
      rw [split, List.append_assoc] at framed
      have attrFramed := drop_framed framed
      simp only [List.length_append, List.length_cons, List.length_nil, length_beBytes,
        Nat.reduceAdd] at attrFramed
      simp only [ikev2AddTransform_length, keyless, ne_eq, not_false_eq_true, if_true]
      exact ikev2PldAttr_written attrFramed
  rw [ikev2PldXform]
  split
  · rename_i reads valid
    rw [valid] at header
    cases header
  · rename_i xfrm reads valid
    rw [valid] at header
    cases header
    dsimp only
    obtain ⟨walked, keylength⟩ := attrs
    simp only [walked, keylength, ne_eq, not_true_eq_false, if_false, UInt8.ofNat_toNat,
      UInt16.ofNat_toNat]

@[simp] theorem addXforms_nil (prop : IkedProposal) : addXforms prop [] = some prop := rfl

theorem addXforms_cons (prop : IkedProposal) (x : IkedTransform) (xforms : List IkedTransform) :
    addXforms prop (x :: xforms) =
      (configAddTransform prop x.xformType x.xformId x.xformLength x.xformLength).bind
        (addXforms · xforms) := by
  simp only [addXforms, List.foldlM_cons]
  rfl

/-- How `ikev2_pld_xform` ends on transforms it reads back: with the proposal that
`config_add_transform` built, or with -2 where it refused one. -/
def Walked (result : Int × IkedProposal) : Option IkedProposal → Prop
  | some prop => result = (0, prop)
  | none => result.1 = -2

/-- The transforms the proposal loop writes read back through `config_add_transform`. -/
theorem ikev2PldXform_addTransforms {buf rest : List UInt8} (xforms : List IkedTransform)
    (nonempty : xforms ≠ []) (off : Nat) (prop : IkedProposal)
    (framed : buf.drop off = addTransforms xforms ++ rest) :
    Walked (ikev2PldXform buf prop off (addTransforms xforms).length) (addXforms prop xforms) := by
  -- induction on the transforms, the last one apart: it is the one marked LAST
  induction xforms generalizing off prop with
  | nil => exact absurd rfl nonempty
  | cons x xs ih =>
    cases xs with
    | nil =>
      rw [ikev2PldXform_written prop framed (by simp [addTransforms])]
      cases added : configAddTransform prop x.xformType x.xformId x.xformLength x.xformLength with
      | none => simp [Walked, addXforms_cons, added]
      | some p => simp [Walked, addXforms_cons, added, addTransforms, ikev2XformLast, ikev2XformMore]
    | cons y ys =>
      simp only [addTransforms] at framed ⊢
      rw [List.append_assoc] at framed
      rw [ikev2PldXform_written prop framed (by simp)]
      cases added : configAddTransform prop x.xformType x.xformId x.xformLength x.xformLength with
      | none => simp [Walked, addXforms_cons, added]
      | some p =>
        -- IKEV2_XFORM_MORE: the walk goes on with the next transform
        have more : (UInt8.ofNat ikev2XformMore).toNat = ikev2XformMore := by decide
        simp only [more, if_true, List.length_append, Nat.add_sub_cancel_left, addXforms_cons, added,
          Option.bind_some]
        exact ih (List.cons_ne_nil y ys) _ p (drop_framed framed)

end Transforms

/-! ## The proposals -/

section Proposals

/-- An SPI the peer reads back as written: of a size `ikev2_pld_sa` takes, and fitting in
that size. -/
structure SpiSendable (spi : IkedSpi) : Prop where
  size : spi.spiSize = 0 ∨ spi.spiSize = 4 ∨ spi.spiSize = 8
  fits : spi.spi.toNat < 256 ^ spi.spiSize.toNat

/-- A proposal the peer reads back as written: its SPI, and fewer transforms than the
`uint8_t` count holds. -/
structure Sendable (prop : IkedProposal) (xforms : List IkedTransform) : Prop where
  spi : SpiSendable prop.propLocalspi
  counted : xforms.length < 256

theorem spiBytes_length {spi : IkedSpi} (sendable : SpiSendable spi) :
    (spiBytes spi).length = spi.spiSize.toNat := by
  rcases sendable.size with size | size | size <;> simp [spiBytes, size]

theorem addTransforms_length_le (xforms : List IkedTransform) :
    (addTransforms xforms).length ≤ 12 * xforms.length := by
  induction xforms with
  | nil => simp [addTransforms]
  | cons x xs ih =>
    cases xs with
    | nil =>
      simp only [addTransforms, ikev2AddTransform_length]
      split <;> simp
    | cons y ys =>
      rw [show addTransforms (x :: y :: ys) = _ ++ addTransforms (y :: ys) from rfl,
        List.length_append, ikev2AddTransform_length]
      simp only [List.length_cons] at ih ⊢
      split <;> omega

theorem proposalBytes_length (more : UInt8) (prop : IkedProposal) (xforms : List IkedTransform) :
    (proposalBytes more prop xforms).length =
      8 + (spiBytes prop.propLocalspi).length + (addTransforms xforms).length := by
  simp [proposalBytes]
  omega

-- The header of a proposal the loop wrote reads back as written.
theorem ikev2ValidateSa_written {buf rest : List UInt8} {off left : Nat} {more : UInt8}
    {prop : IkedProposal} {xforms : List IkedTransform}
    (framed : buf.drop off = proposalBytes more prop xforms ++ rest) (sendable : Sendable prop xforms)
    (fits : (proposalBytes more prop xforms).length ≤ left)
    (last : more.toNat = 0 → left = (proposalBytes more prop xforms).length)
    (notLast : more.toNat ≠ 0 → (proposalBytes more prop xforms).length < left) :
    (ikev2ValidateSa buf off left).1 =
      some ⟨more.toNat, (proposalBytes more prop xforms).length, prop.propId.toNat,
        prop.propProtoid.toNat, prop.propLocalspi.spiSize.toNat, xforms.length⟩ := by
  have size := proposalBytes_length more prop xforms
  have spi := spiBytes_length sendable.spi
  have short : (proposalBytes more prop xforms).length < 65536 := by
    have := addTransforms_length_le xforms
    have := sendable.counted
    have : prop.propLocalspi.spiSize.toNat ≤ 8 := by
      rcases sendable.spi.size with s | s | s <;> simp [s]
    omega
  -- the length field, two bytes into the header
  have lengthField : be16 buf (off + 2) = (proposalBytes more prop xforms).length := by
    have header : proposalBytes more prop xforms = [more, 0] ++
        (beBytes 2 (proposalBytes more prop xforms).length ++
          ([prop.propId, prop.propProtoid, prop.propLocalspi.spiSize, UInt8.ofNat xforms.length] ++
            spiBytes prop.propLocalspi ++ addTransforms xforms)) := by
      rw [size]
      simp [proposalBytes, Nat.add_assoc]
    rw [header, List.append_assoc] at framed
    have field := drop_framed framed
    simp only [List.length_cons, List.length_nil, Nat.reduceAdd] at field
    rw [be16_framed field, Nat.mod_eq_of_lt short]
  have count : (UInt8.ofNat xforms.length).toNat = xforms.length :=
    UInt8.toNat_ofNat_of_lt' sendable.counted
  unfold ikev2ValidateSa
  rw [lengthField]
  simp only [byteAt_add]
  rw [byteAt_drop_zero buf off, framed]
  simp only [proposalBytes, beBytes_two, byteAt]
  simp [count]
  split_ifs <;> first | rfl | omega

-- The SPI reads back as the number written.
theorem readSpi_written {buf rest : List UInt8} {off : Nat} {spi : IkedSpi}
    (sendable : SpiSendable spi) (framed : buf.drop off = spiBytes spi ++ rest) :
    readSpi buf off spi.spiSize.toNat = spi.spi.toNat := by
  have fits := sendable.fits
  rcases sendable.size with size | size | size
  · -- no SPI: it can only be 0
    have zero : spi.spi.toNat = 0 := by simpa [size] using fits
    simp [readSpi, size, zero]
  · have fourBytes : buf.drop off = beBytes 4 spi.spi.toNat ++ rest := by
      simpa [spiBytes, size] using framed
    have small : spi.spi.toNat < 2 ^ 32 := by simpa [size] using fits
    simp [readSpi, size, be32_framed fourBytes]
    omega
  · have eightBytes : buf.drop off = beBytes 8 spi.spi.toNat ++ rest := by
      simpa [spiBytes, size] using framed
    simp [readSpi, size, be64_framed eightBytes]

-- A proposal number and protocol not yet in the list: `config_add_proposal` appends a
-- fresh proposal.
theorem configAddProposal_fresh (head : List IkedProposal) (id proto : UInt8)
    (fresh : ∀ p ∈ head, ¬ (p.propProtoid = proto ∧ p.propId = id)) :
    configAddProposal head id proto =
      (head ++ [⟨id, proto, ⟨0, 0, 0⟩, ⟨0, 0, 0⟩, []⟩], head.length) := by
  have absent : head.findIdx? (fun pp => pp.propProtoid == proto && pp.propId == id) = none := by
    rw [List.findIdx?_eq_none_iff]
    intro pp mem
    simpa using fresh pp mem
  simp only [configAddProposal, absent]

-- The transforms of the proposal just appended: what `config_add_transform` built takes
-- its place, or it is freed.
theorem pldXforms_written {buf rest : List UInt8} {off : Nat} (props : List IkedProposal)
    (base : IkedProposal) (xforms : List IkedTransform)
    (framed : buf.drop off = addTransforms xforms ++ rest) :
    pldXforms buf (props ++ [base]) props.length xforms.length off (addTransforms xforms).length =
      (0, props ++ (addXforms base xforms).toList) := by
  by_cases empty : xforms = []
  · subst empty
    simp [pldXforms]
  · have walked := ikev2PldXform_addTransforms xforms empty off base framed
    simp only [pldXforms, List.length_eq_zero_iff, empty, if_false, List.getElem?_concat_length]
    cases built : addXforms base xforms with
    | none =>
      rw [built] at walked
      simp only [Walked] at walked
      simp [walked, List.eraseIdx_append_of_length_le]
    | some prop =>
      rw [built] at walked
      simp only [Walked] at walked
      simp [walked]

/-- What the peer makes of a proposal written with these transforms: the proposal
`config_add_proposal` appends with the SPIs `ikev2_pld_sa` stores, then each transform through
`config_add_transform`; none when that refuses one and the proposal is dropped. -/
def receivedProposal (prop : IkedProposal) (xforms : List IkedTransform) : Option IkedProposal :=
  addXforms (setSpis prop.propLocalspi.spi.toNat prop.propLocalspi.spiSize prop.propProtoid
    ⟨prop.propId, prop.propProtoid, ⟨0, 0, 0⟩, ⟨0, 0, 0⟩, []⟩) xforms

-- One proposal the loop wrote, of a number and protocol not read yet: `ikev2_pld_sa` adds
-- what the peer makes of it and goes on as its `sap_more` says.
theorem ikev2PldSa_written {buf rest : List UInt8} {off left : Nat} {more : UInt8}
    {prop : IkedProposal} {xforms : List IkedTransform} (props : List IkedProposal)
    (framed : buf.drop off = proposalBytes more prop xforms ++ rest) (sendable : Sendable prop xforms)
    (fresh : ∀ p ∈ props, ¬ (p.propProtoid = prop.propProtoid ∧ p.propId = prop.propId))
    (fits : (proposalBytes more prop xforms).length ≤ left)
    (last : more.toNat = 0 → left = (proposalBytes more prop xforms).length)
    (notLast : more.toNat ≠ 0 → (proposalBytes more prop xforms).length < left) :
    ikev2PldSa buf props off left =
      if more.toNat ≠ 0 then
        ikev2PldSa buf (props ++ (receivedProposal prop xforms).toList)
          (off + (proposalBytes more prop xforms).length) (left - (proposalBytes more prop xforms).length)
      else (0, props ++ (receivedProposal prop xforms).toList) := by
  have header := ikev2ValidateSa_written framed sendable fits last notLast
  have size := proposalBytes_length more prop xforms
  have spiLength := spiBytes_length sendable.spi
  have sizes : prop.propLocalspi.spiSize.toNat = 0 ∨ prop.propLocalspi.spiSize.toNat = 4 ∨
      prop.propLocalspi.spiSize.toNat = 8 := by
    rcases sendable.spi.size with s | s | s <;> simp [s]
  -- the SPI and the transforms behind the eight header bytes
  have layout : proposalBytes more prop xforms =
      ([more, 0] ++ beBytes 2 (8 + (spiBytes prop.propLocalspi ++ addTransforms xforms).length) ++
        [prop.propId, prop.propProtoid, prop.propLocalspi.spiSize, UInt8.ofNat xforms.length]) ++
      (spiBytes prop.propLocalspi ++ addTransforms xforms) := by
    simp [proposalBytes]
  rw [layout, List.append_assoc] at framed
  have spiFramed := drop_framed framed
  simp only [List.length_append, List.length_cons, List.length_nil, length_beBytes,
    Nat.reduceAdd, List.append_assoc] at spiFramed
  have xformsFramed := drop_framed spiFramed
  rw [spiLength] at xformsFramed
  rw [ikev2PldSa]
  split
  · rename_i reads valid
    rw [valid] at header
    cases header
  · rename_i sap reads valid
    rw [valid] at header
    cases header
    dsimp only
    rw [if_neg (by omega), if_neg (by omega), if_neg (by omega),
      readSpi_written sendable.spi spiFramed, if_neg (by omega)]
    simp only [UInt8.ofNat_toNat, configAddProposal_fresh props _ _ fresh, modify_append_length]
    rw [show (proposalBytes more prop xforms).length - 8 - prop.propLocalspi.spiSize.toNat =
        (addTransforms xforms).length by omega,
      pldXforms_written props _ xforms xformsFramed]
    -- the next proposal starts where this one ends
    rw [show off + 8 + prop.propLocalspi.spiSize.toNat + (addTransforms xforms).length =
        off + (proposalBytes more prop xforms).length by omega,
      show left - 8 - prop.propLocalspi.spiSize.toNat - (addTransforms xforms).length =
        left - (proposalBytes more prop xforms).length by omega]
    simp [receivedProposal]

theorem addXforms_keys {prop prop' : IkedProposal} {xforms : List IkedTransform}
    (built : addXforms prop xforms = some prop') :
    prop'.propProtoid = prop.propProtoid ∧ prop'.propId = prop.propId := by
  induction xforms generalizing prop with
  | nil =>
    cases built
    exact ⟨rfl, rfl⟩
  | cons x xs ih =>
    rw [addXforms_cons] at built
    cases added : configAddTransform prop x.xformType x.xformId x.xformLength x.xformLength with
    | none => simp [added] at built
    | some p =>
      rw [added, Option.bind_some] at built
      obtain ⟨xs, grown, -⟩ := configAddTransform_grows added
      obtain ⟨protoid, id⟩ := ih built
      rw [protoid, id, grown]
      exact ⟨rfl, rfl⟩

theorem receivedProposal_keys {prop prop' : IkedProposal} {xforms : List IkedTransform}
    (received : receivedProposal prop xforms = some prop') :
    prop'.propProtoid = prop.propProtoid ∧ prop'.propId = prop.propId := by
  unfold receivedProposal at received
  have keys := addXforms_keys received
  exact keys

/-- The body of an SA payload with these proposals and transforms: every proposal marked
as followed by another, the last as the last. -/
def encodeProposals : List (IkedProposal × List IkedTransform) → List UInt8
  | [] => []
  | [(prop, xforms)] => proposalBytes ikev1PayloadNone prop xforms
  | (prop, xforms) :: rest => proposalBytes ikev1PayloadProposal prop xforms ++ encodeProposals rest

theorem proposalBytes_length_pos (more : UInt8) (prop : IkedProposal)
    (xforms : List IkedTransform) :
    8 ≤ (proposalBytes more prop xforms).length := by
  rw [proposalBytes_length]
  omega

/-- The proposals of an SA payload body read back one after the other, each as the peer
makes it, when their numbers and protocols differ from each other and from those read
before. -/
theorem ikev2PldSa_encodeProposals {buf rest : List UInt8}
    (sent : List (IkedProposal × List IkedTransform)) (nonempty : sent ≠ [])
    (sendable : ∀ s ∈ sent, Sendable s.1 s.2)
    (distinct : (sent.map fun s => (s.1.propProtoid, s.1.propId)).Nodup) (off : Nat)
    (props : List IkedProposal)
    (fresh : ∀ p ∈ props, ∀ s ∈ sent, ¬ (p.propProtoid = s.1.propProtoid ∧ p.propId = s.1.propId))
    (framed : buf.drop off = encodeProposals sent ++ rest) :
    ikev2PldSa buf props off (encodeProposals sent).length =
      (0, props ++ sent.filterMap fun s => receivedProposal s.1 s.2) := by
  -- induction on the proposals, the last one apart: its header says there are no more
  induction sent generalizing off props with
  | nil => exact absurd rfl nonempty
  | cons s ss ih =>
    obtain ⟨prop, xforms⟩ := s
    cases ss with
    | nil =>
      have last : ikev1PayloadNone.toNat = 0 := rfl
      rw [encodeProposals, ikev2PldSa_written props framed (sendable _ List.mem_cons_self)
        (fun p mem => fresh p mem _ List.mem_cons_self) (Nat.le_refl _) (fun _ => rfl)
        (fun notZero => absurd last notZero)]
      cases received : receivedProposal prop xforms <;> simp [last, received]
    | cons t ts =>
      have more : ikev1PayloadProposal.toNat ≠ 0 := by decide
      have later := proposalBytes_length_pos ikev1PayloadNone t.1 t.2
      rw [show encodeProposals ((prop, xforms) :: t :: ts) =
        proposalBytes ikev1PayloadProposal prop xforms ++ encodeProposals (t :: ts) from rfl] at framed ⊢
      rw [List.append_assoc] at framed
      have rest_length : 8 ≤ (encodeProposals (t :: ts)).length := by
        cases ts with
        | nil => exact proposalBytes_length_pos _ _ _
        | cons u us =>
          simp only [encodeProposals, List.length_append]
          have := proposalBytes_length_pos ikev1PayloadProposal t.1 t.2
          omega
      rw [ikev2PldSa_written props framed (sendable _ List.mem_cons_self)
        (fun p mem => fresh p mem _ List.mem_cons_self) (by simp) (fun zero => absurd zero more)
        (fun _ => by simp; omega), if_pos more]
      simp only [List.length_append, Nat.add_sub_cancel_left]
      rw [List.map_cons, List.nodup_cons] at distinct
      -- what was read of this proposal keeps its number and protocol, which no later one has
      have fresh' : ∀ p ∈ props ++ (receivedProposal prop xforms).toList, ∀ s ∈ t :: ts,
          ¬ (p.propProtoid = s.1.propProtoid ∧ p.propId = s.1.propId) := by
        intro p mem s later same
        rcases List.mem_append.mp mem with old | new
        · exact fresh p old s (List.mem_cons_of_mem _ later) same
        · have keys := receivedProposal_keys (Option.mem_toList.mp new)
          exact distinct.1 (List.mem_map.mpr ⟨s, later, by rw [← same.1, ← same.2, keys.1, keys.2]⟩)
      rw [ih (List.cons_ne_nil t ts) (fun s mem => sendable s (List.mem_cons_of_mem _ mem))
        distinct.2 _ _ fresh' (drop_framed framed)]
      cases received : receivedProposal prop xforms <;> simp [received]

end Proposals

/-! ## What `ikev2_add_proposals` writes -/

section Adding

variable {ae : AddEnv} {protoid : UInt8} {initiator sendikespi skipdh : Bool}

/-- The proposals `ikev2_add_proposals` sent, as it left them, each with the transforms it
wrote for it. -/
def sentProposals (protoid : UInt8) (skipdh : Bool) (props : List IkedProposal) :
    List (IkedProposal × List IkedTransform) :=
  (props.filter fun p => !skipsProposal protoid p).map fun p =>
    (p, keptXforms (propSkipdh protoid skipdh p) p)

-- What a pass of the loop writes for a proposal it sends, before the last one is marked.
def sentChunk (sent : IkedProposal × List IkedTransform) : List UInt8 :=
  proposalBytes ikev1PayloadProposal sent.1 sent.2

theorem sentProposals_append (props props' : List IkedProposal) :
    sentProposals protoid skipdh (props ++ props') =
      sentProposals protoid skipdh props ++ sentProposals protoid skipdh props' := by
  simp [sentProposals]

/-- What a pass of the loop may change in a proposal: its local SPI, for one the peer reads
back when the one it had was. -/
structure Updated (prop prop' : IkedProposal) : Prop where
  id : prop'.propId = prop.propId
  protoid : prop'.propProtoid = prop.propProtoid
  xforms : prop'.propXforms = prop.propXforms
  spi : SpiSendable prop.propLocalspi → SpiSendable prop'.propLocalspi

theorem Updated.refl (prop : IkedProposal) : Updated prop prop :=
  ⟨rfl, rfl, rfl, fun spi => spi⟩

theorem Updated.trans {a b c : IkedProposal} (first : Updated a b) (second : Updated b c) :
    Updated a c :=
  ⟨second.id.trans first.id, second.protoid.trans first.protoid, second.xforms.trans first.xforms,
    second.spi ∘ first.spi⟩

-- Whether a proposal is sent and what is sent of it do not depend on its SPI.
theorem Updated.sentProposals {prop prop' : IkedProposal} (updated : Updated prop prop') :
    sentProposals protoid skipdh [prop'] =
      if skipsProposal protoid prop then [] else [(prop', keptXforms (propSkipdh protoid skipdh prop) prop)] := by
  have skips : skipsProposal protoid prop' = skipsProposal protoid prop := by
    simp [skipsProposal, updated.protoid]
  have kept : keptXforms (propSkipdh protoid skipdh prop') prop' =
      keptXforms (propSkipdh protoid skipdh prop) prop := by
    simp [keptXforms, propSkipdh, updated.xforms]
  cases skipped : skipsProposal protoid prop <;> simp [SaPayload.sentProposals, skips, skipped, kept]

theorem drawSpi_updated {spi spi' : UInt32} {prop prop' : IkedProposal}
    (drawn : drawSpi ae protoid initiator spi prop = some (spi', prop')) : Updated prop prop' := by
  -- a Child SA SPI is 32 bits, in an SPI of size 4
  have sized : ∀ s : UInt32, Updated prop { prop with propLocalspi := ⟨s.toUInt64, 4, prop.propProtoid⟩ } :=
    fun s => ⟨rfl, rfl, rfl, fun _ => ⟨by simp, by simpa using s.toNat_lt⟩⟩
  unfold drawSpi at drawn
  split at drawn
  · split at drawn
    · cases fresh : ae.ipsecSaInit prop.propProtoid with
      | none => simp [fresh] at drawn
      | some s =>
        simp only [fresh, Option.bind_eq_bind, Option.bind_some, pure, Option.some.injEq,
          Prod.mk.injEq] at drawn
        obtain ⟨-, rfl⟩ := drawn
        exact sized s
    · simp only [Option.bind_eq_bind, pure, Option.bind_some, Option.some.injEq,
        Prod.mk.injEq] at drawn
      obtain ⟨-, rfl⟩ := drawn
      exact sized spi
  · cases drawn
    exact Updated.refl prop

theorem ikeSpi_updated (prop : IkedProposal) :
    Updated prop (ikeSpi ae initiator sendikespi prop) := by
  unfold ikeSpi
  split
  · -- an IKE SA SPI is 64 bits, in an SPI of size 8
    refine ⟨rfl, rfl, rfl, fun _ => ⟨by simp, ?_⟩⟩
    split <;> simpa using UInt64.toNat_lt _
  · exact Updated.refl prop

/-- A pass of the proposal loop: the proposal, with at most its SPI changed, and what it
writes when it is sent. -/
theorem addProposal_some {st st' : AddState} {prop : IkedProposal}
    (step : addProposal ae protoid initiator sendikespi skipdh st prop = some st') :
    ∃ prop', Updated prop prop' ∧ st'.props = st.props ++ [prop'] ∧
      st'.chunks = st.chunks ++ (sentProposals protoid skipdh [prop']).map sentChunk ∧
      st'.length = st.length + ((sentProposals protoid skipdh [prop']).map sentChunk).flatten.length := by
  unfold addProposal at step
  split at step
  · rename_i skipped
    cases step
    refine ⟨prop, Updated.refl prop, rfl, ?_, ?_⟩ <;> simp [(Updated.refl prop).sentProposals, skipped]
  · rename_i sent
    cases drawn : drawSpi ae protoid initiator st.spi prop with
    | none => simp [drawn] at step
    | some result =>
      obtain ⟨spi, prop1⟩ := result
      simp only [drawn, Option.map_some, Option.some.injEq] at step
      subst step
      have updated := (drawSpi_updated drawn).trans
        (@ikeSpi_updated ae initiator sendikespi prop1)
      have kept : keptXforms (propSkipdh protoid skipdh (ikeSpi ae initiator sendikespi prop1))
          (ikeSpi ae initiator sendikespi prop1) = keptXforms (propSkipdh protoid skipdh prop) prop := by
        simp [keptXforms, propSkipdh, updated.xforms]
      refine ⟨_, updated, rfl, ?_, ?_⟩ <;> simp [updated.sentProposals, sent, sentChunk, kept]

/-- The proposal loop: the proposals, each with at most its SPI changed, and what it wrote for
those it sent. -/
theorem foldlM_addProposal (props : List IkedProposal) (st st' : AddState)
    (ran : props.foldlM (addProposal ae protoid initiator sendikespi skipdh) st = some st') :
    ∃ props', List.Forall₂ Updated props props' ∧ st'.props = st.props ++ props' ∧
      st'.chunks = st.chunks ++ (sentProposals protoid skipdh props').map sentChunk ∧
      st'.length = st.length + ((sentProposals protoid skipdh props').map sentChunk).flatten.length := by
  induction props generalizing st with
  | nil =>
    cases ran
    exact ⟨[], .nil, by simp, by simp [sentProposals], by simp [sentProposals]⟩
  | cons prop rest ih =>
    rw [List.foldlM_cons] at ran
    cases step : addProposal ae protoid initiator sendikespi skipdh st prop with
    | none => simp [step] at ran
    | some st1 =>
      rw [step] at ran
      obtain ⟨prop', updated, props1, chunks1, length1⟩ := addProposal_some step
      obtain ⟨props', all, props2, chunks2, length2⟩ := ih st1 ran
      have split : sentProposals protoid skipdh (prop' :: props') =
          sentProposals protoid skipdh [prop'] ++ sentProposals protoid skipdh props' :=
        sentProposals_append [prop'] props'
      refine ⟨prop' :: props', .cons updated all, ?_, ?_, ?_⟩
      · simp [props2, props1]
      · simp [chunks2, chunks1, split]
      · simp only [length2, length1, split, List.map_append, List.flatten_append, List.length_append]
        omega

-- The proposals sent, against the proposals given that are sent.
theorem sentProposals_of_updated {props props' : List IkedProposal}
    (all : List.Forall₂ Updated props props') :
    List.Forall₂ (fun p s => Updated p s.1 ∧ s.2 = keptXforms (propSkipdh protoid skipdh p) p)
      (props.filter fun p => !skipsProposal protoid p) (sentProposals protoid skipdh props') := by
  induction all with
  | nil => exact .nil
  | @cons prop prop' rest rest' updated _ ih =>
    rw [show prop' :: rest' = [prop'] ++ rest' from rfl, sentProposals_append, updated.sentProposals]
    cases skipped : skipsProposal protoid prop
    · simp only [skipped, List.filter_cons, Bool.not_false, if_true]
      exact List.Forall₂.cons ⟨updated, rfl⟩ ih
    · simpa [skipped] using ih

theorem keys_of_sent {given : List IkedProposal} {sent : List (IkedProposal × List IkedTransform)}
    (all : List.Forall₂ (fun p s => Updated p s.1 ∧ s.2 = keptXforms (propSkipdh protoid skipdh p) p)
      given sent) :
    sent.map (fun s => (s.1.propProtoid, s.1.propId)) = given.map fun p => (p.propProtoid, p.propId) := by
  induction all with
  | nil => rfl
  | cons related _ ih => simp [ih, related.1.protoid, related.1.id]

theorem exists_of_mem_sent {given : List IkedProposal}
    {sent : List (IkedProposal × List IkedTransform)}
    (all : List.Forall₂ (fun p s => Updated p s.1 ∧ s.2 = keptXforms (propSkipdh protoid skipdh p) p)
      given sent) {s : IkedProposal × List IkedTransform} (mem : s ∈ sent) :
    ∃ p ∈ given, Updated p s.1 ∧ s.2 = keptXforms (propSkipdh protoid skipdh p) p := by
  induction all with
  | nil => cases mem
  | @cons p s' _ _ related _ ih =>
    rcases List.mem_cons.mp mem with here | later
    · exact ⟨p, List.mem_cons_self, here ▸ related⟩
    · obtain ⟨q, member, rel⟩ := ih later
      exact ⟨q, List.mem_cons_of_mem p member, rel⟩

theorem keptXforms_length_le (skip : Bool) (prop : IkedProposal) :
    (keptXforms skip prop).length ≤ prop.propXforms.length := by
  unfold keptXforms
  split
  · exact List.length_filter_le _ _
  · exact Nat.le_refl _

theorem markLast_cons_cons (chunk next : List UInt8) (rest : List (List UInt8)) :
    markLast (chunk :: next :: rest) = chunk :: markLast (next :: rest) := rfl

theorem set_proposalBytes (more : UInt8) (prop : IkedProposal) (xforms : List IkedTransform) :
    (proposalBytes more prop xforms).set 0 ikev1PayloadNone = proposalBytes ikev1PayloadNone prop xforms := by
  simp [proposalBytes]

-- Marking the last proposal written makes the chunks the SA payload body.
theorem flatten_markLast (sent : List (IkedProposal × List IkedTransform)) :
    (markLast (sent.map sentChunk)).flatten = encodeProposals sent := by
  induction sent with
  | nil => rfl
  | cons s ss ih =>
    cases ss with
    | nil => simp [markLast, sentChunk, encodeProposals, set_proposalBytes]
    | cons t ts =>
      rw [List.map_cons, List.map_cons, markLast_cons_cons, List.flatten_cons, ← List.map_cons, ih]
      rfl

theorem length_flatten_markLast (chunks : List (List UInt8)) :
    (markLast chunks).flatten.length = chunks.flatten.length := by
  induction chunks with
  | nil => rfl
  | cons chunk rest ih =>
    cases rest with
    | nil => simp [markLast]
    | cons next more =>
      rw [markLast_cons_cons, List.flatten_cons, List.flatten_cons, List.length_append,
        List.length_append, ih]

/-- What the peer reads of the SA payload `ikev2_add_proposals` wrote: each proposal it sent,
with its number and protocol, the local SPI the loop gave it as the peer's SPI, and the
transforms it sent as `config_add_transform` adds them; a proposal with a transform of a
type the peer does not know is dropped.  The proposals given must be told apart by number
and protocol, and their SPIs and transform counts must fit the fields they are written to. -/
theorem ikev2AddProposals_read_back (props : List IkedProposal) (st : AddState)
    (added : ikev2AddProposals ae props protoid initiator sendikespi skipdh = some st)
    (offered : ∃ p ∈ props, skipsProposal protoid p = false)
    (wellFormed : ∀ p ∈ props, skipsProposal protoid p = false →
      SpiSendable p.propLocalspi ∧ p.propXforms.length < 256)
    (distinct : ((props.filter fun p => !skipsProposal protoid p).map fun p =>
      (p.propProtoid, p.propId)).Nodup) :
    ikev2PldSa st.chunks.flatten [] 0 st.length =
      (0, (sentProposals protoid skipdh st.props).filterMap fun s => receivedProposal s.1 s.2) := by
  unfold ikev2AddProposals at added
  cases ran : props.foldlM (addProposal ae protoid initiator sendikespi skipdh) ⟨0, [], 0, []⟩ with
  | none => simp [ran] at added
  | some st0 =>
    simp only [ran, Option.bind_eq_bind, Option.bind_some, pure, Option.some.injEq] at added
    subst added
    obtain ⟨props', all, inProps, inChunks, inLength⟩ := foldlM_addProposal props _ st0 ran
    simp only [List.nil_append, Nat.zero_add] at inProps inChunks inLength
    have related := @sentProposals_of_updated protoid skipdh _ _ all
    -- the bytes are the body of the proposals sent, and the length is theirs
    have bytes : (markLast st0.chunks).flatten = encodeProposals (sentProposals protoid skipdh props') := by
      rw [inChunks, flatten_markLast]
    have length : st0.length = (encodeProposals (sentProposals protoid skipdh props')).length := by
      rw [inLength, ← bytes, inChunks, length_flatten_markLast]
    have nonempty : sentProposals protoid skipdh props' ≠ [] := by
      obtain ⟨p, member, sent⟩ := offered
      intro none
      rw [none] at related
      have : p ∈ props.filter fun p => !skipsProposal protoid p := by simp [member, sent]
      rw [List.forall₂_nil_right_iff.mp related] at this
      cases this
    have sendable : ∀ s ∈ sentProposals protoid skipdh props', Sendable s.1 s.2 := by
      intro s mem
      obtain ⟨p, member, updated, kept⟩ := exists_of_mem_sent related mem
      have given := List.mem_filter.mp member
      obtain ⟨spi, counted⟩ := wellFormed p given.1 (by simpa using given.2)
      refine ⟨updated.spi spi, ?_⟩
      have := keptXforms_length_le (propSkipdh protoid skipdh p) p
      rw [kept]
      omega
    simp only [bytes, length, inProps]
    simpa using @ikev2PldSa_encodeProposals _ [] _ nonempty sendable
      (by rw [keys_of_sent related]; exact distinct) 0 [] (by simp) (by simp)

-- A Child SA initiator offering two ESP proposals after an IKE one: the IKE proposal is
-- passed over, one SPI is drawn for both, and the DH groups, all NONE, are not sent.
def espEnv : AddEnv := ⟨0x1122334455667788, 0, fun _ => some 0xdeadbeef⟩

def espOffer : List IkedProposal :=
  [⟨1, 1, ⟨0, 0, 1⟩, ⟨0, 0, 0⟩,
      [⟨1, 20, 256, 256, 1⟩, ⟨2, 7, 0, 0, 1⟩, ⟨4, 19, 0, 0, 1⟩]⟩,
    ⟨1, 3, ⟨0, 0, 3⟩, ⟨0, 0, 0⟩,
      [⟨1, 20, 128, 128, 1⟩, ⟨4, 0, 0, 0, 1⟩, ⟨5, 0, 0, 0, 1⟩]⟩,
    ⟨2, 3, ⟨0, 0, 3⟩, ⟨0, 0, 0⟩,
      [⟨1, 12, 256, 256, 1⟩, ⟨3, 12, 0, 0, 1⟩, ⟨5, 0, 0, 0, 1⟩]⟩]

theorem ikev2AddProposals_read_back_esp :
    ∃ st, ikev2AddProposals espEnv espOffer 3 true false false = some st ∧
      ikev2PldSa st.chunks.flatten [] 0 st.length =
        (0, (sentProposals 3 false st.props).filterMap fun s => receivedProposal s.1 s.2) :=
  ⟨_, rfl, @ikev2AddProposals_read_back espEnv 3 true false false espOffer _ rfl
    ⟨espOffer[1], by decide, rfl⟩
    (by
      intro p member _
      simp only [espOffer, List.mem_cons, List.not_mem_nil, or_false] at member
      rcases member with rfl | rfl | rfl <;> exact ⟨⟨Or.inl rfl, by decide⟩, by decide⟩)
    (by decide)⟩

end Adding

end OpenIKED.Ikev2.SaPayload
