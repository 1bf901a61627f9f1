import Mathlib
import OpenIKED.Shared.Memory
import OpenIKED.Ikev2.PrintId

set_option autoImplicit false

/-!
# The payload parser and the bytes it reads

`ikev2_pld_parse` and `ikev2_pld_payloads` from `ikev2_pld.c`, with the generic payload
header check, the proposal, transform and attribute walkers of SA payloads, and the
start of `ikev2_pld_ef`.  Each function returns its result and the spans of the message
buffer it reads: the `memcpy` of a header, the bytes an `ibuf_new` copies, and the bytes
`print_hex` reads when debug logging is on.  The other payload handlers are parameters.
-/

namespace OpenIKED.Ikev2.PldParse

open OpenIKED.Shared

def ikev2PayloadSa : Nat := 33
def ikev2PayloadSk : Nat := 46
def ikev2PayloadSkf : Nat := 53
def ikedE : Nat := 0x1000
def ikev2XformMore : Nat := 3
def ikev2AttrafTv : Nat := 0x8000
def ikev2AttrtypeKeyLength : Nat := 14
def ikedFragTotalMax : Nat := 111
def sizeofIkeHeader : Nat := 28

def byteAt (buf : List UInt8) (off : Nat) : Nat := (buf.getD off 0).toNat

def be16 (buf : List UInt8) (off : Nat) : Nat := byteAt buf off * 256 + byteAt buf (off + 1)

def be32 (buf : List UInt8) (off : Nat) : Nat := be16 buf off * 65536 + be16 buf (off + 2)

-- `a - b` on `size_t`.
def sizeSub (a b : Nat) : Nat := (a + 2 ^ 64 - b) % 2 ^ 64

-- The bytes `print_hex(msgbuf, offset, length)` reads.
def printHexRead (offset length : Nat) : List Span :=
  if length = 0 then [] else [⟨offset, length⟩]

-- The bytes `ibuf_new(msgbuf + offset, len)` copies; it refuses more than
-- `IKED_MSGBUF_MAX` bytes.
def ibufNewRead (offset len : Nat) : Option (List Span) :=
  if PrintId.ikedMsgbufMax < len then none else some (printHexRead offset len)

-- A walker's return value and the spans of the message it read.
structure Walk where
  ret : Int
  reads : List Span

-- What the parser consults besides the message: `ikev2_msg_frompeer`, the results of
-- the configuration calls of the SA walkers, what the rest of `ikev2_pld_ef` returns for a
-- fragment (its decryption and reassembly), and the payload handlers not modelled here,
-- by the value of `payload | e`.
structure ParseEnv where
  fromPeer : Bool
  addProposalOk : Bool
  addTransform : Nat → Nat → Nat → Int
  fragment : Nat → Nat → List UInt8 → Int
  other : Nat → List UInt8 → Nat → Nat → Walk

-- The `switch (payload | e)` cases of `ikev2_pld_payloads` that go to handlers other
-- than the SA and SKF ones: KE, IDi, IDr, CERT, CERTREQ, AUTH, NONCE, NOTIFY, DELETE, TSi,
-- TSr, SK, CP and EAP, each with or without `IKED_E` as the source lists them.
def otherPayloadCodes : List Nat :=
  [34, 34 ||| ikedE, 35 ||| ikedE, 36 ||| ikedE, 37 ||| ikedE, 38, 38 ||| ikedE, 39 ||| ikedE,
    40, 40 ||| ikedE, 41, 41 ||| ikedE, 42 ||| ikedE, 44 ||| ikedE, 45 ||| ikedE, 46,
    47 ||| ikedE, 48 ||| ikedE]

structure IkevPayload where
  pldNextpayload : Nat
  pldReserved : Nat
  pldLength : Nat
deriving DecidableEq

def ikev2ValidatePld (buf : List UInt8) (offset left : Nat) : Option IkevPayload × List Span :=
  if left < 4 then (none, [])
  else
    let pld : IkevPayload := ⟨byteAt buf offset, byteAt buf (offset + 1), be16 buf (offset + 2)⟩
    (if left < pld.pldLength then none else if pld.pldLength < 4 then none else some pld,
      [⟨offset, 4⟩])

structure SaProposal where
  sapMore : Nat
  sapLength : Nat
  sapProposalnr : Nat
  sapProtoid : Nat
  sapSpisize : Nat
  sapTransforms : Nat

def ikev2ValidateSa (buf : List UInt8) (offset left : Nat) : Option SaProposal × List Span :=
  if left < 8 then (none, [])
  else
    let sap : SaProposal := ⟨byteAt buf offset, be16 buf (offset + 2), byteAt buf (offset + 4),
      byteAt buf (offset + 5), byteAt buf (offset + 6), byteAt buf (offset + 7)⟩
    (if sap.sapLength < 8 then none
      else if left < sap.sapLength then none
      -- a single proposal fills the payload; more proposals need bytes after this one
      else if sap.sapMore = 0 ∧ left ≠ sap.sapLength then none
      else if sap.sapMore ≠ 0 ∧ left ≤ sap.sapLength then none
      else some sap, [⟨offset, 8⟩])

structure Transform where
  xfrmMore : Nat
  xfrmLength : Nat
  xfrmType : Nat
  xfrmId : Nat

def ikev2ValidateXform (buf : List UInt8) (offset total : Nat) : Option Transform × List Span :=
  if total < 8 then (none, [])
  else
    let xfrm : Transform :=
      ⟨byteAt buf offset, be16 buf (offset + 2), byteAt buf (offset + 4), be16 buf (offset + 6)⟩
    (if xfrm.xfrmLength < 8 then none else if total < xfrm.xfrmLength then none else some xfrm,
      [⟨offset, 8⟩])

structure Attribute where
  attrType : Nat
  attrLength : Nat

def ikev2ValidateAttr (buf : List UInt8) (offset total : Nat) : Option Attribute × List Span :=
  if total < 4 then (none, [])
  else (some ⟨be16 buf offset, be16 buf (offset + 2)⟩, [⟨offset, 4⟩])

theorem ikev2ValidatePld_some {buf : List UInt8} {offset left : Nat} {pld : IkevPayload}
    {reads : List Span} (valid : ikev2ValidatePld buf offset left = (some pld, reads)) :
    4 ≤ pld.pldLength ∧ pld.pldLength ≤ left ∧ reads = [⟨offset, 4⟩] := by
  unfold ikev2ValidatePld at valid
  split at valid
  · cases valid
  · simp only [Prod.mk.injEq] at valid
    obtain ⟨found, rfl⟩ := valid
    split at found
    · cases found
    · split at found
      · cases found
      · cases found
        dsimp only at *
        exact ⟨by omega, by omega, rfl⟩

theorem ikev2ValidateSa_some {buf : List UInt8} {offset left : Nat} {sap : SaProposal}
    {reads : List Span} (valid : ikev2ValidateSa buf offset left = (some sap, reads)) :
    8 ≤ sap.sapLength ∧ sap.sapLength ≤ left ∧ reads = [⟨offset, 8⟩] := by
  unfold ikev2ValidateSa at valid
  split at valid
  · cases valid
  · simp only [Prod.mk.injEq] at valid
    obtain ⟨found, rfl⟩ := valid
    split_ifs at found with short long
    cases found
    dsimp only at *
    exact ⟨by omega, by omega, rfl⟩

theorem ikev2ValidateXform_some {buf : List UInt8} {offset total : Nat} {xfrm : Transform}
    {reads : List Span} (valid : ikev2ValidateXform buf offset total = (some xfrm, reads)) :
    8 ≤ xfrm.xfrmLength ∧ xfrm.xfrmLength ≤ total ∧ reads = [⟨offset, 8⟩] := by
  unfold ikev2ValidateXform at valid
  split at valid
  · cases valid
  · simp only [Prod.mk.injEq] at valid
    obtain ⟨found, rfl⟩ := valid
    split_ifs at found with short long
    cases found
    dsimp only at *
    exact ⟨by omega, by omega, rfl⟩

theorem ikev2ValidateAttr_some {buf : List UInt8} {offset total : Nat} {attr : Attribute}
    {reads : List Span} (valid : ikev2ValidateAttr buf offset total = (some attr, reads)) :
    4 ≤ total ∧ reads = [⟨offset, 4⟩] := by
  unfold ikev2ValidateAttr at valid
  split at valid
  · cases valid
  · cases valid
    exact ⟨by omega, rfl⟩

theorem validator_reads (offset left size : Nat) {reads : List Span}
    (shape : reads = [] ∨ (size ≤ left ∧ reads = [⟨offset, size⟩])) :
    Span.AllWithin reads offset (offset + left) := by
  rcases shape with rfl | ⟨fits, rfl⟩
  · simp
  · simp only [Span.allWithin_cons, Span.allWithin_nil, Span.within_iff, and_true]
    omega

theorem ikev2ValidatePld_reads (buf : List UInt8) (offset left : Nat) :
    Span.AllWithin (ikev2ValidatePld buf offset left).2 offset (offset + left) := by
  apply validator_reads offset _ 4
  unfold ikev2ValidatePld
  split
  · exact Or.inl rfl
  · exact Or.inr ⟨by omega, rfl⟩

theorem ikev2ValidateSa_reads (buf : List UInt8) (offset left : Nat) :
    Span.AllWithin (ikev2ValidateSa buf offset left).2 offset (offset + left) := by
  apply validator_reads offset _ 8
  unfold ikev2ValidateSa
  split
  · exact Or.inl rfl
  · exact Or.inr ⟨by omega, rfl⟩

theorem ikev2ValidateXform_reads (buf : List UInt8) (offset total : Nat) :
    Span.AllWithin (ikev2ValidateXform buf offset total).2 offset (offset + total) := by
  apply validator_reads offset _ 8
  unfold ikev2ValidateXform
  split
  · exact Or.inl rfl
  · exact Or.inr ⟨by omega, rfl⟩

theorem ikev2ValidateAttr_reads (buf : List UInt8) (offset total : Nat) :
    Span.AllWithin (ikev2ValidateAttr buf offset total).2 offset (offset + total) := by
  apply validator_reads offset _ 4
  unfold ikev2ValidateAttr
  split
  · exact Or.inl rfl
  · exact Or.inr ⟨by omega, rfl⟩

theorem printHexRead_within (offset length lo hi : Nat) (low : lo ≤ offset)
    (high : offset + length ≤ hi) : Span.AllWithin (printHexRead offset length) lo hi := by
  unfold printHexRead
  split
  · simp
  · simp only [Span.allWithin_cons, Span.allWithin_nil, Span.within_iff, and_true]
    omega

-- What `ikev2_pld_attr` returns: its value, `msg_attrlength` (the key length of a
-- KEY_LENGTH attribute), and the spans it read.
structure AttrWalk where
  ret : Int
  attrlength : Nat
  reads : List Span

def ikev2PldAttr (buf : List UInt8) (attrlength offset total : Nat) : AttrWalk :=
  match valid : ikev2ValidateAttr buf offset total with
  | (none, reads) => ⟨-1, attrlength, reads⟩
  | (some attr, reads) =>
    let type := attr.attrType % ikev2AttrafTv
    if attr.attrType &&& ikev2AttrafTv ≠ 0 then
      -- Type-Value: the value sits in the length field
      let attrlength := if type = ikev2AttrtypeKeyLength then attr.attrLength else attrlength
      have := (ikev2ValidateAttr_some valid).1
      if total - 4 > 0 then
        let rest := ikev2PldAttr buf attrlength (offset + 4) (total - 4)
        ⟨rest.ret, rest.attrlength, reads ++ rest.reads⟩
      else ⟨0, attrlength, reads⟩
    else if short : attr.attrLength < 4 then ⟨-1, attrlength, reads⟩
    else if total < attr.attrLength then ⟨-1, attrlength, reads⟩
    else
      let hex := printHexRead (offset + 4) (attr.attrLength - 4)
      if total - attr.attrLength > 0 then
        let rest := ikev2PldAttr buf attrlength (offset + attr.attrLength) (total - attr.attrLength)
        ⟨rest.ret, rest.attrlength, reads ++ hex ++ rest.reads⟩
      else ⟨0, attrlength, reads ++ hex⟩
termination_by total
decreasing_by all_goals omega

def ikev2PldXform (env : ParseEnv) (buf : List UInt8) (offset total : Nat) : Walk :=
  match valid : ikev2ValidateXform buf offset total with
  | (none, reads) => ⟨-1, reads⟩
  | (some xfrm, reads) =>
    -- msg_attrlength is reset, then the attributes are parsed if there are any
    let attrs : AttrWalk :=
      if xfrm.xfrmLength > 8 then ikev2PldAttr buf 0 (offset + 8) (xfrm.xfrmLength - 8)
      else ⟨0, 0, []⟩
    if attrs.ret ≠ 0 then ⟨-1, reads ++ attrs.reads⟩
    else
      let r := if env.fromPeer then env.addTransform xfrm.xfrmType xfrm.xfrmId attrs.attrlength
        else 0
      if r = -1 ∨ r = -2 then ⟨r, reads ++ attrs.reads⟩
      else if xfrm.xfrmMore = ikev2XformMore then
        have := ikev2ValidateXform_some valid
        let rest := ikev2PldXform env buf (offset + xfrm.xfrmLength) (total - xfrm.xfrmLength)
        ⟨rest.ret, reads ++ attrs.reads ++ rest.reads⟩
      -- no more transforms but bytes left over
      else if total - xfrm.xfrmLength ≠ 0 then ⟨-1, reads ++ attrs.reads⟩
      else ⟨0, reads ++ attrs.reads⟩
termination_by total
decreasing_by omega

-- `ikev2_pld_sa`: the `do ... while (sap.sap_more)` loop over the proposals.
def ikev2PldSa (env : ParseEnv) (buf : List UInt8) (offset left : Nat) : Walk :=
  match valid : ikev2ValidateSa buf offset left with
  | (none, reads) => ⟨-1, reads⟩
  | (some sap, reads) =>
    let spisize := sap.sapSpisize
    -- the proposal after its header, SPI included
    let total := sap.sapLength - 8
    if spisize ≠ 0 ∧ left - 8 < spisize then ⟨-1, reads⟩
    else if spisize ≠ 0 ∧ total < spisize then ⟨-1, reads⟩
    else if spisize ≠ 0 ∧ spisize ≠ 4 ∧ spisize ≠ 8 then ⟨-1, reads⟩
    else
      let spiRead := printHexRead (offset + 8) spisize
      let offset := offset + 8 + spisize
      let rest := left - 8 - spisize
      let total := total - spisize
      if rest < total then ⟨-1, reads ++ spiRead⟩
      else if env.fromPeer ∧ !env.addProposalOk then ⟨-1, reads ++ spiRead⟩
      else
        let xforms : Walk :=
          if sap.sapTransforms ≠ 0 then ikev2PldXform env buf offset total else ⟨0, []⟩
        -- a transform of unknown type (-2) from the peer only drops this proposal
        if sap.sapTransforms ≠ 0 ∧ ¬ (xforms.ret = -2 ∧ env.fromPeer) ∧ xforms.ret ≠ 0 then
          ⟨-1, reads ++ spiRead ++ xforms.reads⟩
        else if sap.sapMore ≠ 0 then
          have := ikev2ValidateSa_some valid
          let next := ikev2PldSa env buf (offset + total) (rest - total)
          ⟨next.ret, reads ++ spiRead ++ xforms.reads ++ next.reads⟩
        else ⟨0, reads ++ spiRead ++ xforms.reads⟩
termination_by left
decreasing_by omega

theorem ikev2PldAttr_reads (buf : List UInt8) (attrlength offset total : Nat) :
    Span.AllWithin (ikev2PldAttr buf attrlength offset total).reads offset (offset + total) := by
  rw [ikev2PldAttr]
  split
  · rename_i reads valid
    have := ikev2ValidateAttr_reads buf offset total
    rw [valid] at this
    exact this
  · rename_i attr reads valid
    obtain ⟨fits, rfl⟩ := ikev2ValidateAttr_some valid
    have header : Span.AllWithin [⟨offset, 4⟩] offset (offset + total) := by
      simp only [Span.allWithin_cons, Span.allWithin_nil, Span.within_iff, and_true]
      omega
    dsimp only
    split
    · -- a Type-Value attribute is its four header bytes
      split
      · have rest := ikev2PldAttr_reads buf
          (if attr.attrType % ikev2AttrafTv = ikev2AttrtypeKeyLength then attr.attrLength
            else attrlength) (offset + 4) (total - 4)
        exact header.append (rest.mono (by omega) (by omega))
      · exact header
    · split
      · exact header
      · split
        · exact header
        · rename_i short long
          -- a Type-Length-Value attribute also covers its value
          have hex := printHexRead_within (offset + 4) (attr.attrLength - 4) offset (offset + total)
            (by omega) (by omega)
          split
          · have rest := ikev2PldAttr_reads buf attrlength (offset + attr.attrLength)
              (total - attr.attrLength)
            exact (header.append hex).append (rest.mono (by omega) (by omega))
          · exact header.append hex
termination_by total
decreasing_by all_goals omega

theorem ikev2PldXform_reads (env : ParseEnv) (buf : List UInt8) (offset total : Nat) :
    Span.AllWithin (ikev2PldXform env buf offset total).reads offset (offset + total) := by
  rw [ikev2PldXform]
  split
  · rename_i reads valid
    have := ikev2ValidateXform_reads buf offset total
    rw [valid] at this
    exact this
  · rename_i xfrm reads valid
    obtain ⟨least, fits, rfl⟩ := ikev2ValidateXform_some valid
    have header : Span.AllWithin [⟨offset, 8⟩] offset (offset + total) := by
      simp only [Span.allWithin_cons, Span.allWithin_nil, Span.within_iff, and_true]
      omega
    -- the attributes lie after the header, inside the transform
    have attrs : Span.AllWithin (if xfrm.xfrmLength > 8 then
        ikev2PldAttr buf 0 (offset + 8) (xfrm.xfrmLength - 8) else ⟨0, 0, []⟩).reads
        offset (offset + total) := by
      split
      · exact (ikev2PldAttr_reads buf 0 (offset + 8) (xfrm.xfrmLength - 8)).mono (by omega)
          (by omega)
      · exact Span.allWithin_nil _ _
    dsimp only
    generalize (if xfrm.xfrmLength > 8 then ikev2PldAttr buf 0 (offset + 8) (xfrm.xfrmLength - 8)
      else ⟨0, 0, []⟩) = walked at attrs ⊢
    generalize (if env.fromPeer then env.addTransform xfrm.xfrmType xfrm.xfrmId walked.attrlength
      else 0) = added
    split
    · exact header.append attrs
    · split
      · exact header.append attrs
      · split
        · have rest := ikev2PldXform_reads env buf (offset + xfrm.xfrmLength)
            (total - xfrm.xfrmLength)
          exact (header.append attrs).append (rest.mono (by omega) (by omega))
        · split <;>
          · exact header.append attrs
termination_by total
decreasing_by omega

theorem ikev2PldSa_reads (env : ParseEnv) (buf : List UInt8) (offset left : Nat) :
    Span.AllWithin (ikev2PldSa env buf offset left).reads offset (offset + left) := by
  rw [ikev2PldSa]
  split
  · rename_i reads valid
    have := ikev2ValidateSa_reads buf offset left
    rw [valid] at this
    exact this
  · rename_i sap reads valid
    obtain ⟨least, fits, rfl⟩ := ikev2ValidateSa_some valid
    have header : Span.AllWithin [⟨offset, 8⟩] offset (offset + left) := by
      simp only [Span.allWithin_cons, Span.allWithin_nil, Span.within_iff, and_true]
      omega
    dsimp only
    split
    · exact header
    split
    · exact header
    split
    · exact header
    rename_i roomy spiFits known
    -- the SPI follows the header inside the payload
    have spi := printHexRead_within (offset + 8) sap.sapSpisize offset (offset + left)
      (by omega) (by omega)
    split
    · exact header.append spi
    split
    · exact header.append spi
    rename_i fitsRest allowed
    -- the transforms fill the rest of the proposal
    have xforms : Span.AllWithin (if sap.sapTransforms ≠ 0 then
        ikev2PldXform env buf (offset + 8 + sap.sapSpisize) (sap.sapLength - 8 - sap.sapSpisize)
        else ⟨0, []⟩).reads offset (offset + left) := by
      split
      · exact (ikev2PldXform_reads env buf _ _).mono (by omega) (by omega)
      · exact Span.allWithin_nil _ _
    generalize (if sap.sapTransforms ≠ 0 then
        ikev2PldXform env buf (offset + 8 + sap.sapSpisize) (sap.sapLength - 8 - sap.sapSpisize)
        else ⟨0, []⟩) = walked at xforms ⊢
    split
    · exact (header.append spi).append xforms
    split
    · have next := ikev2PldSa_reads env buf
        (offset + 8 + sap.sapSpisize + (sap.sapLength - 8 - sap.sapSpisize))
        (left - 8 - sap.sapSpisize - (sap.sapLength - 8 - sap.sapSpisize))
      exact ((header.append spi).append xforms).append (next.mono (by omega) (by omega))
    · exact (header.append spi).append xforms
termination_by left
decreasing_by omega

-- `ikev2_pld_ef` up to the decryption: the fragment header is copied before anything
-- checks that the payload holds it.
def ikev2PldEf (env : ParseEnv) (buf : List UInt8) (offset left : Nat) : Walk :=
  let frag := [⟨offset, 4⟩]
  let fragNum := be16 buf offset
  let fragTotal := be16 buf (offset + 2)
  let len := sizeSub left 4
  if fragTotal > ikedFragTotalMax then ⟨-1, frag⟩
  else if fragNum = 0 ∨ fragTotal = 0 then ⟨-1, frag⟩
  else if fragNum > fragTotal then ⟨-1, frag⟩
  else match ibufNewRead (offset + 4) len with
    | none => ⟨-1, frag⟩
    | some copy => ⟨env.fragment fragNum fragTotal ((buf.drop (offset + 4)).take len), frag ++ copy⟩

-- The `switch (payload | e)` of `ikev2_pld_payloads` for a payload whose body starts
-- at `offset` and has `left` bytes.
def ikev2PldDispatch (env : ParseEnv) (e : Bool) (buf : List UInt8) (payload offset left : Nat) :
    Walk :=
  let code := if e then payload ||| ikedE else payload
  if code = ikev2PayloadSa ∨ code = ikev2PayloadSa ||| ikedE then ikev2PldSa env buf offset left
  else if code = ikev2PayloadSkf then ikev2PldEf env buf offset left
  else if code ∈ otherPayloadCodes then env.other code buf offset left
  else ⟨0, printHexRead offset left⟩

-- The `while (payload != 0 && offset < length)` loop, with `total` the bytes left in
-- the datagram.
def payloadsLoop (env : ParseEnv) (e : Bool) (buf : List UInt8) (offset length total payload : Nat) :
    Walk :=
  if _going : payload ≠ 0 ∧ offset < length then
    match valid : ikev2ValidatePld buf offset total with
    | (none, reads) => ⟨-1, reads⟩
    | (some pld, reads) =>
      let left := pld.pldLength - 4
      let handled := ikev2PldDispatch env e buf payload (offset + 4) left
      if handled.ret ≠ 0 ∧ env.fromPeer then ⟨-1, reads ++ handled.reads⟩
      -- encrypted payloads must appear last
      else if payload = ikev2PayloadSk ∨ payload = ikev2PayloadSkf then ⟨0, reads ++ handled.reads⟩
      else
        have := ikev2ValidatePld_some valid
        let rest := payloadsLoop env e buf (offset + 4 + left) length (total - 4 - left)
          pld.pldNextpayload
        ⟨rest.ret, reads ++ handled.reads ++ rest.reads⟩
  else ⟨0, []⟩
termination_by length - offset
decreasing_by omega

def ikev2PldPayloads (env : ParseEnv) (e : Bool) (buf : List UInt8) (offset length payload : Nat) :
    Walk :=
  payloadsLoop env e buf offset length (length - offset) payload

-- `ikev2_pld_parse` for the IKE header at `offset`.
def ikev2PldParse (env : ParseEnv) (buf : List UInt8) (offset : Nat) : Walk :=
  let hdr := [⟨offset, sizeofIkeHeader⟩]
  let ikeLength := be32 buf (offset + 24)
  if buf.length < ikeLength then ⟨-1, hdr⟩
  else
    let payloads := ikev2PldPayloads env false buf (offset + sizeofIkeHeader) ikeLength
      (byteAt buf (offset + 16))
    ⟨payloads.ret, hdr ++ payloads.reads⟩

theorem sizeSub_of_le (a b : Nat) (le : b ≤ a) (small : a < 2 ^ 64) : sizeSub a b = a - b := by
  unfold sizeSub
  rw [show a + 2 ^ 64 - b = (a - b) + 2 ^ 64 by omega, Nat.add_mod_right]
  exact Nat.mod_eq_of_lt (by omega)

-- `ikev2_pld_ef` copies the four bytes of the fragment header whatever the payload
-- holds.
theorem fragHeader_mem_ikev2PldEf (env : ParseEnv) (buf : List UInt8) (offset left : Nat) :
    ⟨offset, 4⟩ ∈ (ikev2PldEf env buf offset left).reads := by
  unfold ikev2PldEf
  dsimp only
  split_ifs
  · exact List.mem_singleton_self _
  · exact List.mem_singleton_self _
  · exact List.mem_singleton_self _
  · split
    · exact List.mem_singleton_self _
    · exact List.mem_append_left _ (List.mem_singleton_self _)

theorem ikev2PldEf_reads (env : ParseEnv) (buf : List UInt8) (offset left : Nat)
    (holds : 4 ≤ left) (small : left < 2 ^ 64) :
    Span.AllWithin (ikev2PldEf env buf offset left).reads offset (offset + left) := by
  have frag : Span.AllWithin [⟨offset, 4⟩] offset (offset + left) := by
    simp only [Span.allWithin_cons, Span.allWithin_nil, Span.within_iff, and_true]
    omega
  unfold ikev2PldEf
  rw [sizeSub_of_le left 4 holds small]
  dsimp only
  split_ifs
  · exact frag
  · exact frag
  · exact frag
  · split
    · exact frag
    · rename_i copy copied
      unfold ibufNewRead at copied
      split at copied
      · cases copied
      · cases copied
        exact frag.append (printHexRead_within _ _ _ _ (by omega) (by omega))

-- The handlers not modelled here read only inside their payload.
def OthersSafe (env : ParseEnv) : Prop :=
  ∀ code buf offset left, Span.AllWithin (env.other code buf offset left).reads offset (offset + left)

theorem ikev2PldDispatch_skf (env : ParseEnv) (buf : List UInt8) (offset left : Nat) :
    ikev2PldDispatch env false buf ikev2PayloadSkf offset left = ikev2PldEf env buf offset left := by
  simp only [ikev2PldDispatch, Bool.false_eq_true, if_false]
  rw [if_neg (by decide), if_pos trivial]

-- Each handler reads only inside its payload, the SKF one when the payload holds the
-- fragment header.
theorem ikev2PldDispatch_reads (env : ParseEnv) (safe : OthersSafe env) (e : Bool)
    (buf : List UInt8) (payload offset left : Nat)
    (fragment : (if e then payload ||| ikedE else payload) = ikev2PayloadSkf →
      4 ≤ left ∧ left < 2 ^ 64) :
    Span.AllWithin (ikev2PldDispatch env e buf payload offset left).reads offset (offset + left) := by
  unfold ikev2PldDispatch
  dsimp only
  generalize (if e then payload ||| ikedE else payload) = code at fragment ⊢
  split
  · exact ikev2PldSa_reads env buf offset left
  split
  · rename_i skf
    obtain ⟨holds, small⟩ := fragment skf
    exact ikev2PldEf_reads env buf offset left holds small
  split
  · exact safe _ buf offset left
  · exact printHexRead_within _ _ _ _ (Nat.le_refl _) (Nat.le_refl _)

/-- If every handler it calls reads only inside its payload, the loop of
`ikev2_pld_payloads` reads only inside `[offset, length)`: each generic header is checked
against the bytes left, so each payload lies inside them. -/
theorem payloadsLoop_reads (env : ParseEnv) (e : Bool) (buf : List UInt8)
    (handlers : ∀ payload o l,
      Span.AllWithin (ikev2PldDispatch env e buf payload o l).reads o (o + l))
    (offset length total payload : Nat) (exact : total = length - offset) :
    Span.AllWithin (payloadsLoop env e buf offset length total payload).reads offset length := by
  rw [payloadsLoop]
  split
  · rename_i going
    split
    · rename_i reads valid
      have := ikev2ValidatePld_reads buf offset total
      rw [valid] at this
      exact this.mono (Nat.le_refl _) (by omega)
    · rename_i pld reads valid
      obtain ⟨least, fits, rfl⟩ := ikev2ValidatePld_some valid
      have header : Span.AllWithin [⟨offset, 4⟩] offset length := by
        simp only [Span.allWithin_cons, Span.allWithin_nil, Span.within_iff, and_true]
        omega
      -- the payload body lies inside the bytes left
      have handled := (handlers payload (offset + 4) (pld.pldLength - 4)).mono
        (Nat.le_add_right offset 4) (show offset + 4 + (pld.pldLength - 4) ≤ length by omega)
      dsimp only
      split
      · exact header.append handled
      split
      · exact header.append handled
      · have rest := payloadsLoop_reads env e buf handlers (offset + 4 + (pld.pldLength - 4)) length
          (total - 4 - (pld.pldLength - 4)) pld.pldNextpayload (by omega)
        exact (header.append handled).append (rest.mono (by omega) (Nat.le_refl _))
  · exact Span.allWithin_nil _ _
termination_by length - offset
decreasing_by omega

/-- The payloads of a decrypted SK payload are parsed with `msg_e` set, where no payload
reaches `ikev2_pld_ef`: every read stays inside the decrypted buffer's payloads. -/
theorem ikev2PldPayloads_inner_reads (env : ParseEnv) (safe : OthersSafe env)
    (buf : List UInt8) (offset length payload : Nat) :
    Span.AllWithin (ikev2PldPayloads env true buf offset length payload).reads offset length := by
  refine payloadsLoop_reads env true buf (fun p o l => ?_) offset length _ payload rfl
  refine ikev2PldDispatch_reads env safe true buf p o l (fun skf => ?_)
  -- with IKED_E set the code is at least 0x1000, never SKF
  have big : ikedE ≤ p ||| ikedE := Nat.right_le_or
  simp only [if_true] at skf
  rw [skf] at big
  exact absurd big (by decide)

theorem payloadsLoop_first (env : ParseEnv) (e : Bool) (buf : List UInt8)
    (offset length total payload : Nat) (going : payload ≠ 0 ∧ offset < length)
    (pld : IkevPayload) (reads : List Span) (valid : ikev2ValidatePld buf offset total = (some pld, reads))
    (s : Span) (member : s ∈ (ikev2PldDispatch env e buf payload (offset + 4) (pld.pldLength - 4)).reads) :
    s ∈ (payloadsLoop env e buf offset length total payload).reads := by
  rw [payloadsLoop, dif_pos going]
  split
  · rename_i reads' valid'
    rw [valid] at valid'
    cases valid'
  · rename_i pld' reads' valid'
    rw [valid] at valid'
    simp only [Prod.mk.injEq, Option.some.injEq] at valid'
    obtain ⟨rfl, rfl⟩ := valid'
    dsimp only
    split
    · exact List.mem_append_right _ member
    split
    · exact List.mem_append_right _ member
    · exact List.mem_append_left _ (List.mem_append_right _ member)

-- An IKE message of 32 bytes whose only payload is an SKF payload with no body: its
-- generic header declares length 4 and ends the message.
def shortSkfMessage : List UInt8 :=
  -- IKE header: SPIs, next payload SKF, version 2.0, IKE_AUTH, initiator, message ID 1,
  -- length 32
  [1, 2, 3, 4, 5, 6, 7, 8, 9, 10, 11, 12, 13, 14, 15, 16, 53, 0x20, 35, 0x08, 0, 0, 0, 1,
    0, 0, 0, 32] ++
  -- the SKF payload's generic header: no next payload, length 4
  [0, 0, 0, 4]

theorem ikev2PldParse_reads_past_short_skf (env : ParseEnv) :
    shortSkfMessage.length = 32 ∧ be32 shortSkfMessage 24 = 32 ∧
      ⟨32, 4⟩ ∈ (ikev2PldParse env shortSkfMessage 0).reads ∧
      ¬ (⟨32, 4⟩ : Span).Within 0 (be32 shortSkfMessage 24) := by
  have ikeLength : be32 shortSkfMessage 24 = 32 := by decide
  have valid : ikev2ValidatePld shortSkfMessage 28 4 = (some ⟨0, 0, 4⟩, [⟨28, 4⟩]) := by decide
  refine ⟨rfl, ikeLength, ?_, by decide⟩
  -- the parser reaches the SKF payload, whose handler copies the header past the end
  have reached := payloadsLoop_first env false shortSkfMessage 28 32 4 ikev2PayloadSkf
    (by decide) _ _ valid ⟨32, 4⟩
    (by rw [ikev2PldDispatch_skf]; exact fragHeader_mem_ikev2PldEf env _ 32 0)
  unfold ikev2PldParse ikev2PldPayloads
  rw [ikeLength, if_neg (by decide)]
  exact List.mem_append_right _ reached

end OpenIKED.Ikev2.PldParse
