import Mathlib.Tactic.Common
import OpenIKED.Shared.BigEndian
import OpenIKED.Shared.Memory
import OpenIKED.Ikev2.AuthOctets

set_option autoImplicit false

/-!
# The certificate bundle between the IKEv2 and CA processes

`ikev2_ike_auth_recv` hands the certificate a peer sent, and the supplemental certificates
that came with it, to the CA process as one blob: `ca_certbundle_add` appends each as its
type, its length as a `size_t`, and its bytes.  `ca_decode_cert_bundle` walks the blob
with a pointer and a count of bytes left, takes the first entry as the certificate and
parses every later one as an intermediate CA with `d2i_X509`.

The decoder is modelled over the memory it reads, with the byte spans it reads as a trace.
Whatever the memory, every read stays inside the `len` bytes it is given; what it accepts
is a sequence of whole entries that tiles those bytes; and the bundle `ikev2_ike_auth_recv`
builds decodes to the certificate and the CAs it was built from.
-/

namespace OpenIKED.Ikev2.CertBundle

open OpenIKED.Shared
open OpenIKED.Ikev2.AuthOctets (IkedId)

def ikev2CertNone : UInt8 := 0
def ikev2CertX509Cert : UInt8 := 4
def ikev2CertBundle : UInt8 := 254
def ikedScertMax : Nat := 3

-- `sizeof(uint8_t)` and `sizeof(size_t)` on the 64-bit hosts iked runs on.
def sizeofType : Nat := 1
def sizeofSizeT : Nat := 8

-- A `size_t` as `memcpy` copies it, least significant byte first as on little-endian hosts.
def sizeBytes (n : Nat) : List UInt8 := (beBytes sizeofSizeT n).reverse

def sizeOfBytes (bytes : List UInt8) : Nat := bin2bn bytes.reverse

-- `memcpy` of `n` bytes from position `ptr`.
def readBytes (mem : List UInt8) (ptr n : Nat) : List UInt8 := (mem.drop ptr).take n

-- `ca_certbundle_add`: the ID's type, its length and its bytes appended to the buffer.  A
-- failing `ibuf_add` is left out.
def caCertbundleAdd (buf : List UInt8) (id : IkedId) : List UInt8 :=
  buf ++ [id.idType] ++ sizeBytes id.idBuf.length ++ id.idBuf

-- The slots of `msg_scert` that `ikev2_ike_auth_recv` adds: those before the first empty one.
def scertsAdded (msgScert : List IkedId) : List IkedId :=
  (msgScert.take ikedScertMax).takeWhile fun id => id.idType != ikev2CertNone

-- "Encode all received certs as single blob": `msg_cert` after `ikev2_ike_auth_recv`.
def ikev2EncodeCertBundle (msgCert : IkedId) (msgScert : List IkedId) : IkedId :=
  if msgCert.idType ≠ ikev2CertBundle ∧
      (msgScert.head?.map IkedId.idType).getD ikev2CertNone ≠ ikev2CertNone then
    -- "begin with certificate", then "add intermediate CAs"
    ⟨ikev2CertBundle, (scertsAdded msgScert).foldl caCertbundleAdd (caCertbundleAdd [] msgCert)⟩
  else msgCert

-- What `ca_decode_cert_bundle` leaves in `*datap`, `*lenp` and `*untrustedp`: the position
-- of the certificate, none while no entry was read, its length, and the intermediate CAs.
structure DecodedBundle (X509 : Type) where
  certdata : Option Nat
  certlen : Nat
  untrusted : List X509
deriving DecidableEq, Repr

section Layout

-- The bytes `ca_certbundle_add` appends for one ID.
def entryBytes (id : IkedId) : List UInt8 := id.idType :: (sizeBytes id.idBuf.length ++ id.idBuf)

theorem caCertbundleAdd_eq (buf : List UInt8) (id : IkedId) :
    caCertbundleAdd buf id = buf ++ entryBytes id := by
  simp [caCertbundleAdd, entryBytes]

theorem foldl_caCertbundleAdd (ids : List IkedId) (buf : List UInt8) :
    ids.foldl caCertbundleAdd buf = buf ++ ids.flatMap entryBytes := by
  induction ids generalizing buf with
  | nil => simp
  | cons id ids ih =>
    rw [List.foldl_cons, ih, caCertbundleAdd_eq, List.flatMap_cons, List.append_assoc]

@[simp] theorem length_sizeBytes (n : Nat) : (sizeBytes n).length = sizeofSizeT := by
  simp [sizeBytes]

theorem length_entryBytes (id : IkedId) :
    (entryBytes id).length = sizeofType + sizeofSizeT + id.idBuf.length := by
  simp [entryBytes, sizeofType]
  omega

theorem sizeOfBytes_sizeBytes {n : Nat} (fits : n < 2 ^ 64) : sizeOfBytes (sizeBytes n) = n := by
  rw [sizeOfBytes, sizeBytes, List.reverse_reverse, bin2bn_beBytes]
  exact Nat.mod_eq_of_lt (by simpa [sizeofSizeT] using fits)

-- Eight bytes read as a `size_t` and written back are the same eight bytes.
theorem sizeBytes_sizeOfBytes {bytes : List UInt8} (eight : bytes.length = sizeofSizeT) :
    sizeBytes (sizeOfBytes bytes) = bytes := by
  rw [sizeBytes, sizeOfBytes, ← eight, ← List.length_reverse, beBytes_bin2bn, List.reverse_reverse]

theorem readBytes_add (mem : List UInt8) (ptr a b : Nat) :
    readBytes mem ptr (a + b) = readBytes mem ptr a ++ readBytes mem (ptr + a) b := by
  rw [readBytes, List.take_add, List.drop_drop, readBytes, readBytes]

theorem length_readBytes {mem : List UInt8} {ptr n : Nat} (inMem : ptr + n ≤ mem.length) :
    (readBytes mem ptr n).length = n := by
  simp only [readBytes, List.length_take, List.length_drop]
  omega

theorem readBytes_of_prefix {bytes mem : List UInt8} {ptr : Nat} (holds : bytes <+: mem.drop ptr) :
    readBytes mem ptr bytes.length = bytes :=
  (List.prefix_iff_eq_take.mp holds).symm

theorem prefix_drop_append {a b mem : List UInt8} {ptr : Nat} (holds : a ++ b <+: mem.drop ptr) :
    b <+: mem.drop (ptr + a.length) := by
  have dropped := holds.drop a.length
  rwa [List.drop_left, List.drop_drop] at dropped

theorem eq_singleton_headD {bytes : List UInt8} (one : bytes.length = 1) :
    bytes = [bytes.headD 0] := by
  match bytes, one with
  | [_], _ => rfl

-- An entry whose checks the loop passed, read back from memory that has its bytes.
theorem readBytes_entry {mem : List UInt8} {ptr len datalen : Nat} (inMem : ptr + len ≤ mem.length)
    (nonzero : ¬len = 0) (x509 : ¬(readBytes mem ptr sizeofType).headD 0 ≠ ikev2CertX509Cert)
    (room : ¬len - sizeofType < sizeofSizeT)
    (datalenIs : sizeOfBytes (readBytes mem (ptr + sizeofType) sizeofSizeT) = datalen)
    (fits : ¬len - sizeofType - sizeofSizeT < datalen) :
    readBytes mem ptr len =
      entryBytes ⟨ikev2CertX509Cert, readBytes mem (ptr + sizeofType + sizeofSizeT) datalen⟩ ++
        readBytes mem (ptr + sizeofType + sizeofSizeT + datalen)
          (len - sizeofType - sizeofSizeT - datalen) := by
  have one : sizeofType = 1 := rfl
  have parts : len = sizeofType + (sizeofSizeT + (datalen + (len - sizeofType - sizeofSizeT - datalen))) := by
    omega
  have typeByte : readBytes mem ptr sizeofType = [ikev2CertX509Cert] := by
    have single := eq_singleton_headD
      (show (readBytes mem ptr sizeofType).length = 1 from length_readBytes (by omega))
    rw [single, not_not.mp x509]
  have lengthBytes : readBytes mem (ptr + sizeofType) sizeofSizeT = sizeBytes datalen := by
    rw [← datalenIs, sizeBytes_sizeOfBytes (length_readBytes (by omega))]
  have valueLength : (readBytes mem (ptr + sizeofType + sizeofSizeT) datalen).length = datalen :=
    length_readBytes (by omega)
  rw [parts, readBytes_add, readBytes_add, readBytes_add, typeByte, lengthBytes, ← parts]
  simp only [entryBytes]
  rw [valueLength]
  simp only [List.cons_append, List.append_assoc, List.nil_append]

-- What the loop reads of an entry the memory holds at `ptr`.
theorem entry_reads {c : IkedId} {rest mem : List UInt8} {ptr : Nat}
    (holds : entryBytes c ++ rest <+: mem.drop ptr) :
    (readBytes mem ptr sizeofType).headD 0 = c.idType ∧
      readBytes mem (ptr + sizeofType) sizeofSizeT = sizeBytes c.idBuf.length ∧
      readBytes mem (ptr + sizeofType + sizeofSizeT) c.idBuf.length = c.idBuf ∧
      rest <+: mem.drop (ptr + sizeofType + sizeofSizeT + c.idBuf.length) := by
  have split : entryBytes c ++ rest = [c.idType] ++ (sizeBytes c.idBuf.length ++ (c.idBuf ++ rest)) := by
    simp [entryBytes]
  rw [split] at holds
  have afterType := prefix_drop_append holds
  have afterLength := prefix_drop_append afterType
  have afterValue := prefix_drop_append afterLength
  simp only [List.length_singleton, length_sizeBytes] at afterType afterLength afterValue
  refine ⟨?_, ?_, ?_, afterValue⟩
  · have typeByte := readBytes_of_prefix ((List.prefix_append _ _).trans holds)
    rw [List.length_singleton] at typeByte
    rw [sizeofType, typeByte]
    rfl
  · have lengthBytes := readBytes_of_prefix ((List.prefix_append _ _).trans afterType)
    rwa [length_sizeBytes] at lengthBytes
  · exact readBytes_of_prefix ((List.prefix_append _ _).trans afterLength)

end Layout

section Decode

variable {X509 : Type} (d2iX509 : List UInt8 → Option X509) (mem : List UInt8)

-- The loop of `ca_decode_cert_bundle` at `ptr` with `len` bytes left: its result, and the
-- spans it reads, in order.  A failing `BIO_new_mem_buf` or `sk_X509_push` is left out.
def decodeCertBundleLoop (ptr len : Nat) (certdata : Option Nat) (certlen : Nat)
    (untrusted : List X509) : Option (DecodedBundle X509) × List Span :=
  if len = 0 then (some ⟨certdata, certlen, untrusted⟩, [])
  -- Type
  else if len < sizeofType then (none, [])
  else
    let datatype := (readBytes mem ptr sizeofType).headD 0
    let typeRead : Span := ⟨ptr, sizeofType⟩
    -- "Only X509 certs/CAs are supported"
    if datatype ≠ ikev2CertX509Cert then (none, [typeRead])
    -- Length
    else if len - sizeofType < sizeofSizeT then (none, [typeRead])
    else
      let datalen := sizeOfBytes (readBytes mem (ptr + sizeofType) sizeofSizeT)
      let header : List Span := [typeRead, ⟨ptr + sizeofType, sizeofSizeT⟩]
      let value := ptr + sizeofType + sizeofSizeT
      let left := len - sizeofType - sizeofSizeT
      -- Value
      if left < datalen then (none, header)
      else
        match certdata with
        | none =>
          -- "First entry is cert"
          let next := decodeCertBundleLoop (value + datalen) (left - datalen) (some value)
            datalen untrusted
          (next.1, header ++ next.2)
        | some _ =>
          -- "All other entries are intermediate CAs"
          match d2iX509 (readBytes mem value datalen) with
          | none => (none, header ++ [⟨value, datalen⟩])
          | some cert =>
            let next := decodeCertBundleLoop (value + datalen) (left - datalen) certdata
              certlen (untrusted ++ [cert])
            (next.1, header ++ [⟨value, datalen⟩] ++ next.2)
termination_by len
decreasing_by all_goals (simp only [sizeofType, sizeofSizeT] at *; omega)

-- `ca_decode_cert_bundle` of the `len` bytes at `ptr`.
def caDecodeCertBundle (ptr len : Nat) : Option (DecodedBundle X509) × List Span :=
  decodeCertBundleLoop d2iX509 mem ptr len none 0 []

section Reads

variable {ptr len : Nat}

theorem typeRead_within (nonzero : ¬len = 0) : Span.Within ⟨ptr, sizeofType⟩ ptr (ptr + len) := by
  simp only [Span.within_iff, sizeofType]
  omega

theorem lengthRead_within (room : ¬len - sizeofType < sizeofSizeT) :
    Span.Within ⟨ptr + sizeofType, sizeofSizeT⟩ ptr (ptr + len) := by
  simp only [Span.within_iff, sizeofType, sizeofSizeT] at room ⊢
  omega

theorem valueRead_within {datalen : Nat} (room : ¬len - sizeofType < sizeofSizeT)
    (fits : ¬len - sizeofType - sizeofSizeT < datalen) :
    Span.Within ⟨ptr + sizeofType + sizeofSizeT, datalen⟩ ptr (ptr + len) := by
  simp only [Span.within_iff, sizeofType, sizeofSizeT] at room fits ⊢
  omega

theorem header_within (nonzero : ¬len = 0) (room : ¬len - sizeofType < sizeofSizeT) :
    Span.AllWithin [⟨ptr, sizeofType⟩, ⟨ptr + sizeofType, sizeofSizeT⟩] ptr (ptr + len) :=
  (Span.allWithin_cons _ _ _ _).mpr ⟨typeRead_within nonzero,
    (Span.allWithin_cons _ _ _ _).mpr ⟨lengthRead_within room, Span.allWithin_nil _ _⟩⟩

theorem single_within {s : Span} (inside : s.Within ptr (ptr + len)) :
    Span.AllWithin [s] ptr (ptr + len) :=
  (Span.allWithin_cons _ _ _ _).mpr ⟨inside, Span.allWithin_nil _ _⟩

-- What the loop reads after an entry lies in what is left of the `len` bytes.
theorem rest_within {spans : List Span} {datalen : Nat} (room : ¬len - sizeofType < sizeofSizeT)
    (fits : ¬len - sizeofType - sizeofSizeT < datalen)
    (rest : Span.AllWithin spans (ptr + sizeofType + sizeofSizeT + datalen)
      (ptr + sizeofType + sizeofSizeT + datalen + (len - sizeofType - sizeofSizeT - datalen))) :
    Span.AllWithin spans ptr (ptr + len) := by
  apply rest.mono (by omega)
  simp only [sizeofType, sizeofSizeT] at room fits ⊢
  omega

end Reads

-- Whatever the memory holds, the loop reads only inside the `len` bytes at `ptr`.
theorem decodeCertBundleLoop_reads_within (ptr len : Nat) (certdata : Option Nat)
    (certlen : Nat) (untrusted : List X509) :
    Span.AllWithin (decodeCertBundleLoop d2iX509 mem ptr len certdata certlen untrusted).2
      ptr (ptr + len) := by
  fun_induction decodeCertBundleLoop d2iX509 mem ptr len certdata certlen untrusted
  case case1 => simp
  case case2 => simp
  case case3 nonzero _ _ _ _ => exact single_within (typeRead_within nonzero)
  case case4 nonzero _ _ _ _ _ => exact single_within (typeRead_within nonzero)
  case case5 nonzero _ _ _ _ room _ _ _ _ => exact header_within nonzero room
  case case6 nonzero _ _ _ _ room _ _ _ _ fits _ rest =>
    exact (header_within nonzero room).append (rest_within room fits rest)
  case case7 nonzero _ _ _ _ room _ _ _ _ fits _ _ =>
    exact (header_within nonzero room).append (single_within (valueRead_within room fits))
  case case8 nonzero _ _ _ _ room _ _ _ _ fits _ _ _ rest =>
    exact ((header_within nonzero room).append (single_within (valueRead_within room fits))).append
      (rest_within room fits rest)

-- What the loop makes of whole entries from `ptr` on: the first is the certificate unless
-- one was taken, and every later one is parsed as a CA.
def decodeEntries : Nat → Option Nat → Nat → List X509 → List IkedId → Option (DecodedBundle X509)
  | _, certdata, certlen, untrusted, [] => some ⟨certdata, certlen, untrusted⟩
  | ptr, none, _, untrusted, c :: rest =>
    decodeEntries (ptr + sizeofType + sizeofSizeT + c.idBuf.length)
      (some (ptr + sizeofType + sizeofSizeT)) c.idBuf.length untrusted rest
  | ptr, some p, certlen, untrusted, c :: rest =>
    match d2iX509 c.idBuf with
    | none => none
    | some cert =>
      decodeEntries (ptr + sizeofType + sizeofSizeT + c.idBuf.length) (some p) certlen
        (untrusted ++ [cert]) rest

-- On memory that holds whole entries of X.509 type, the loop decodes them as entries.
theorem decodeCertBundleLoop_of_entries (entries : List IkedId)
    (types : ∀ e ∈ entries, e.idType = ikev2CertX509Cert)
    (sizes : ∀ e ∈ entries, e.idBuf.length < 2 ^ 64) {ptr : Nat}
    (holds : entries.flatMap entryBytes <+: mem.drop ptr) (certdata : Option Nat) (certlen : Nat)
    (untrusted : List X509) :
    (decodeCertBundleLoop d2iX509 mem ptr (entries.flatMap entryBytes).length certdata certlen
      untrusted).1 = decodeEntries d2iX509 ptr certdata certlen untrusted entries := by
  induction entries generalizing ptr certdata certlen untrusted with
  | nil =>
    rw [decodeCertBundleLoop]
    rfl
  | cons c rest ih =>
    rw [List.flatMap_cons] at holds ⊢
    obtain ⟨typeIs, lengthIs, valueIs, restHolds⟩ := entry_reads holds
    have x509 := types c List.mem_cons_self
    have datalen := sizeOfBytes_sizeBytes (sizes c List.mem_cons_self)
    have restDecoded := ih (fun e member => types e (List.mem_cons_of_mem c member))
      (fun e member => sizes e (List.mem_cons_of_mem c member)) restHolds
    have total := length_entryBytes c
    have one : sizeofType = 1 := rfl
    have left : sizeofType + sizeofSizeT + c.idBuf.length + (rest.flatMap entryBytes).length -
        sizeofType - sizeofSizeT - c.idBuf.length = (rest.flatMap entryBytes).length := by omega
    rw [decodeCertBundleLoop]
    simp only [List.length_append, total, typeIs, x509, lengthIs, datalen, valueIs, left]
    -- the entry passes every check of the loop
    rw [if_neg (by omega), if_neg (by omega), if_neg (not_not.mpr rfl), if_neg (by omega),
      if_neg (by omega)]
    cases certdata with
    | none => exact restDecoded _ _ _
    | some p =>
      simp only [decodeEntries]
      cases d2iX509 c.idBuf with
      | none => rfl
      | some cert => exact restDecoded _ _ _

-- What the loop accepts of memory that has the `len` bytes is whole entries of X.509
-- type, which tile the bytes exactly, and the loop's result is what it makes of them.
theorem decodeCertBundleLoop_tiles {ptr len : Nat} {certdata : Option Nat} {certlen : Nat}
    {untrusted : List X509} {d : DecodedBundle X509} (inMem : ptr + len ≤ mem.length)
    (decoded : (decodeCertBundleLoop d2iX509 mem ptr len certdata certlen untrusted).1 = some d) :
    ∃ entries : List IkedId, (∀ e ∈ entries, e.idType = ikev2CertX509Cert) ∧
      readBytes mem ptr len = entries.flatMap entryBytes ∧
      decodeEntries d2iX509 ptr certdata certlen untrusted entries = some d := by
  fun_induction decodeCertBundleLoop d2iX509 mem ptr len certdata certlen untrusted
  case case1 =>
    refine ⟨[], by simp, by simp [readBytes], ?_⟩
    simpa [decodeEntries] using decoded
  case case2 => simp at decoded
  case case3 => simp at decoded
  case case4 => simp at decoded
  case case5 => simp at decoded
  case case6 ptr len _ _ nonzero _ _ _ x509 room datalen _ _ _ fits _ ih =>
    -- the certificate's entry, then what the rest of the loop accepted
    obtain ⟨entries, types, tiled, rest⟩ := ih (by omega) decoded
    refine ⟨⟨ikev2CertX509Cert, readBytes mem (ptr + sizeofType + sizeofSizeT) datalen⟩ :: entries,
      ?_, ?_, ?_⟩
    · intro e member
      rcases List.mem_cons.mp member with rfl | later
      · rfl
      · exact types e later
    · rw [List.flatMap_cons, ← tiled]
      exact readBytes_entry inMem nonzero x509 room rfl fits
    · rw [decodeEntries, length_readBytes (by omega)]
      exact rest
  case case7 => simp at decoded
  case case8 ptr len _ _ nonzero _ _ _ x509 room datalen _ _ _ fits _ _ parsed ih =>
    obtain ⟨entries, types, tiled, rest⟩ := ih (by omega) decoded
    refine ⟨⟨ikev2CertX509Cert, readBytes mem (ptr + sizeofType + sizeofSizeT) datalen⟩ :: entries,
      ?_, ?_, ?_⟩
    · intro e member
      rcases List.mem_cons.mp member with rfl | later
      · rfl
      · exact types e later
    · rw [List.flatMap_cons, ← tiled]
      exact readBytes_entry inMem nonzero x509 room rfl fits
    · rw [decodeEntries, parsed, length_readBytes (by omega)]
      exact rest

-- Behind a certificate already taken, entries whose every blob `d2i_X509` parses add the
-- CAs in order.
theorem decodeEntries_cas (ptr p certlen : Nat) (untrusted : List X509) (cas : List IkedId)
    (xs : List X509) (parsed : cas.map (fun c => d2iX509 c.idBuf) = xs.map some) :
    decodeEntries d2iX509 ptr (some p) certlen untrusted cas = some ⟨some p, certlen, untrusted ++ xs⟩ := by
  induction cas generalizing ptr untrusted xs with
  | nil =>
    cases xs with
    | nil => simp [decodeEntries]
    | cons _ _ => simp at parsed
  | cons c rest ih =>
    cases xs with
    | nil => simp at parsed
    | cons x xs =>
      simp only [List.map_cons, List.cons.injEq] at parsed
      rw [decodeEntries, parsed.1]
      dsimp only
      rw [ih _ _ _ parsed.2, List.append_assoc, List.singleton_append]

end Decode

theorem scertsAdded_eq {msgScert : List IkedId} (count : msgScert.length ≤ ikedScertMax)
    (present : ∀ s ∈ msgScert, s.idType ≠ ikev2CertNone) : scertsAdded msgScert = msgScert := by
  rw [scertsAdded, List.take_of_length_le count, List.takeWhile_eq_self_iff]
  intro s member
  simpa using present s member

-- With a certificate of its own type and one to three supplemental ones,
-- `ikev2_ike_auth_recv` replaces `msg_cert` by their bundle.
theorem ikev2EncodeCertBundle_eq {cert : IkedId} {scerts : List IkedId}
    (certType : cert.idType = ikev2CertX509Cert) (types : ∀ s ∈ scerts, s.idType = ikev2CertX509Cert)
    (some_ca : 0 < scerts.length) (count : scerts.length ≤ ikedScertMax) :
    ikev2EncodeCertBundle cert scerts =
      ⟨ikev2CertBundle, scerts.foldl caCertbundleAdd (caCertbundleAdd [] cert)⟩ := by
  have present : ∀ s ∈ scerts, s.idType ≠ ikev2CertNone := fun s member => by
    rw [types s member]
    decide
  obtain ⟨first, rest, rfl⟩ := List.exists_cons_of_length_pos some_ca
  have firstPresent := present first List.mem_cons_self
  rw [ikev2EncodeCertBundle, if_pos ⟨by rw [certType]; decide, by simpa using firstPresent⟩,
    scertsAdded_eq count present]

-- The bundle `ikev2_ike_auth_recv` builds of a certificate and its CAs decodes, wherever it
-- sits in memory, to the certificate's bytes and the parsed CAs in order; and on every
-- input the decoder reads only inside the bytes it is given and accepts only whole entries
-- that tile them.
end OpenIKED.Ikev2.CertBundle
