import OpenIKED.Shared.Cipher
import OpenIKED.Shared.Slots
import OpenIKED.Ikev2.FragSend

set_option autoImplicit false

/-!
# Encrypting and decrypting SK payloads

`ikev2_msg_encrypt_prepare`, `ikev2_msg_encrypt` and `ikev2_msg_integr` as the senders
compose them, and `ikev2_msg_decrypt` on the receiving side.  The cipher, its AEAD tag
and the HMAC are abstract primitives; the IV that `cipher_setiv` draws and the random
padding are streams of bytes given as inputs.
-/

namespace OpenIKED.Ikev2.MsgCrypt

open OpenIKED.Shared
open OpenIKED.Ikev2.FragSend (IkedCipher IkedHash cipherLength cipherIvlength hashLength)
open OpenIKED.Ikev2.PldParse (byteAt be16 be32 sizeofIkeHeader)
open OpenIKED.Ikev2.PrintId (ikedMsgbufMax)

def sizeofIkev2Payload : Nat := 4
def sizeofIkev2FragPayload : Nat := 4
def offsetofIkeLength : Nat := 24
def offsetofPldLength : Nat := 2
def uint16Max : Nat := 65535
def uint32Max : Nat := 4294967295

-- The fields of `struct iked_sa` the four functions read; `saIntegrIsaead` is
-- `sa_integr->hash_isaead`.
structure CryptSa where
  saEncr : Option IkedCipher
  saIntegr : Option IkedHash
  saIntegrIsaead : Bool
  shInitiator : Bool
  saKeyIencr : List UInt8
  saKeyRencr : List UInt8
  saKeyIauth : List UInt8
  saKeyRauth : List UInt8
deriving DecidableEq, Repr

def cipherOutlength (encr : IkedCipher) (inlen : Nat) : Nat := roundup inlen (cipherLength encr)

def hashKeylength (hash : IkedHash) : Nat := hash.hashLength

-- The length `hash_final` reports for a digest of `length` bytes.
def hashFinalLength (hash : IkedHash) (length : Nat) : Nat :=
  if hash.hashTrunc ≠ 0 ∧ length > hash.hashTrunc then hash.hashTrunc else length

-- The first `n` bytes of a random source.
def drawn (source : Nat → UInt8) (n : Nat) : List UInt8 := (List.range n).map source

-- `htobe16(v)` stored at `off`.
def putBe16 (buf : List UInt8) (off v : Nat) : List UInt8 :=
  (buf.set off (UInt8.ofNat (v / 256))).set (off + 1) (UInt8.ofNat v)

-- `htobe32(v)` stored at `off`.
def putBe32 (buf : List UInt8) (off v : Nat) : List UInt8 :=
  putBe16 (putBe16 buf off (v / 65536)) (off + 2) v

-- `ikev2_next_payload` on the generic payload header at `pld`.
def ikev2NextPayload (buf : List UInt8) (pld length nextpayload : Nat) : Option (List UInt8) :=
  let pldlength := sizeofIkev2Payload + length
  if pldlength > uint16Max then none
  else some (putBe16 (buf.set pld (UInt8.ofNat nextpayload)) (pld + offsetofPldLength) pldlength)

-- `ikev2_set_header` on the IKE header at the start of `buf`.
def ikev2SetHeader (buf : List UInt8) (length : Nat) : Option (List UInt8) :=
  -- `hdrlength` is a `uint32_t`
  let hdrlength := (sizeofIkeHeader + length) % 2 ^ 32
  if hdrlength > uint32Max then none
  else some (putBe32 buf offsetofIkeLength (sizeofIkeHeader + length))

def ikev2MsgEncryptPrepare (sa : CryptSa) (pld : Nat) (buf e : List UInt8) (firstpayload : Nat)
    (fragmentation : Bool) : Option (List UInt8) :=
  match sa.saEncr, sa.saIntegr with
  | some encr, some integr =>
    let len := e.length
    let blocklen := cipherLength encr
    let integrlen := hashLength integr
    let ivlen := cipherIvlength encr
    let encrlen := roundup (len + 1) blocklen
    let outlen := cipherOutlength encr encrlen
    let pldlen := ivlen + outlen + integrlen
    match ikev2NextPayload buf pld
        (pldlen + if fragmentation then sizeofIkev2FragPayload else 0) firstpayload with
    | none => none
    | some buf => ikev2SetHeader buf (buf.length + pldlen - sizeofIkeHeader)
  | _, _ => none

-- What the cipher context of `sa_encr` holds after an encryption, which
-- `cipher_gettag` reads.
structure CipherCtx where
  key : List UInt8
  iv : List UInt8
  aad : List UInt8
  input : List UInt8

-- `ikev2_msg_encrypt` of `src` with `aad` as the associated data: the IV, the
-- ciphertext and room for the checksum, and the cipher context left behind.
def ikev2MsgEncrypt (cipher : Cipher UInt8) (sa : CryptSa) (ivSource random : Nat → UInt8)
    (src aad : List UInt8) : Option (List UInt8 × CipherCtx) :=
  match sa.saEncr, sa.saIntegr with
  | some encr, some integr =>
    let key := if sa.shInitiator then sa.saKeyIencr else sa.saKeyRencr
    let len := src.length
    let blocklen := cipherLength encr
    let integrlen := hashLength integr
    let encrlen := roundup (len + 1) blocklen
    let pad : UInt8 := UInt8.ofNat (encrlen - (len + 1))
    -- `arc4random_buf` fills the padding and the pad length byte ends it
    let src := src ++ drawn random pad.toNat ++ [pad]
    -- `cipher_setiv(sa->sa_encr, NULL, 0)` draws a fresh IV
    let iv := drawn ivSource (cipherIvlength encr)
    let aad := if sa.saIntegrIsaead then aad else []
    let out := cipher.encrypt key iv aad (src.take encrlen)
    some (iv ++ out ++ List.replicate integrlen 0, ⟨key, iv, aad, src.take encrlen⟩)
  | _, _ => none

-- `ikev2_msg_integr`: the checksum over everything before it, or the AEAD tag, written
-- into the last `integrlen` bytes of the message.
def ikev2MsgIntegr (cipher : Cipher UInt8) (mac : List UInt8 → List UInt8 → List UInt8)
    (sa : CryptSa) (ctx : CipherCtx) (src : List UInt8) : Option (List UInt8) :=
  match sa.saEncr, sa.saIntegr with
  | some _, some integr =>
    let integrlen := hashLength integr
    let tmp : Option (List UInt8) :=
      if !sa.saIntegrIsaead then
        let key := if sa.shInitiator then sa.saKeyIauth else sa.saKeyRauth
        let digest := mac key (src.take (src.length - integrlen))
        if hashFinalLength integr digest.length ≠ integrlen then none else some digest
      else some ((cipher.tag ctx.key ctx.iv ctx.aad ctx.input).take (hashKeylength integr))
    match tmp with
    | none => none
    | some tmp =>
      -- `ibuf_seek(src, ibuf_size(src) - integrlen, integrlen)`
      if src.length < integrlen then none
      else some (writeAt src (src.length - integrlen) (tmp.take integrlen))
  | _, _ => none

-- The steps both senders take once the headers are in `buf`, with the SK payload header
-- at `pld`: `ikev2_msg_encrypt_prepare`, `ikev2_msg_encrypt` with `buf` as the associated
-- data, `ibuf_add_ibuf` and `ikev2_msg_integr`.
def sealMessage (cipher : Cipher UInt8) (mac : List UInt8 → List UInt8 → List UInt8)
    (sa : CryptSa) (ivSource random : Nat → UInt8) (pld : Nat) (buf e : List UInt8)
    (firstpayload : Nat) (fragmentation : Bool) : Option (List UInt8) :=
  match ikev2MsgEncryptPrepare sa pld buf e firstpayload fragmentation with
  | none => none
  | some buf =>
    match ikev2MsgEncrypt cipher sa ivSource random e buf with
    | none => none
    | some (dst, ctx) =>
      -- the message buffer holds at most `IKED_MSGBUF_MAX` bytes; the smaller buffers
      -- filled before it run out only when it would
      if (buf ++ dst).length > ikedMsgbufMax then none
      else ikev2MsgIntegr cipher mac sa ctx (buf ++ dst)

-- The body of the SK payload at `pld`, after the fragment header of an SKF payload, as
-- `ikev2_pld_e` and `ikev2_pld_ef` hand it to `ikev2_msg_decrypt`: up to the payload length
-- of its generic header.
def skBody (msg : List UInt8) (pld : Nat) (fragmentation : Bool) : List UInt8 :=
  let skip := sizeofIkev2Payload + if fragmentation then sizeofIkev2FragPayload else 0
  (msg.drop (pld + skip)).take (be16 msg (pld + offsetofPldLength) - skip)

-- An `ssize_t` passed as a `size_t`.
def toSizeT (x : Int) : Nat := (x % 2 ^ 64).toNat

-- `ibuf_setsize` on a buffer of `buf.length` allocated bytes.
def ibufSetsize (buf : List UInt8) (len : Nat) : Option (List UInt8) :=
  if len > buf.length then none else some (buf.take len)

section Layout

variable (encr : IkedCipher) (integr : IkedHash)

-- The receiver's keys are those of the sender: the initiator's when it is the
-- responder.
def peerEncrKey (sa : CryptSa) : List UInt8 := if !sa.shInitiator then sa.saKeyIencr else sa.saKeyRencr

def peerIntegrKey (sa : CryptSa) : List UInt8 := if !sa.shInitiator then sa.saKeyIauth else sa.saKeyRauth

-- Where `ikev2_msg_decrypt` finds the IV, the ciphertext and the checksum in `src`.
def ivOf (src : List UInt8) : List UInt8 := src.take (cipherIvlength encr)

def ciphertextOf (src : List UInt8) : List UInt8 :=
  (src.drop (cipherIvlength encr)).take (src.length - hashLength integr - cipherIvlength encr)

def checksumOf (src : List UInt8) : List UInt8 :=
  (src.drop (src.length - hashLength integr)).take (hashLength integr)

-- The associated data: the message before the SK payload's body.
def aadOf (sa : CryptSa) (msg src : List UInt8) : List UInt8 :=
  if sa.saIntegrIsaead then msg.take (msg.length - src.length) else []

-- What `cipher_update` returns for the ciphertext of `src`.
def decryptedOf (cipher : Cipher UInt8) (sa : CryptSa) (msg src : List UInt8) : List UInt8 :=
  cipher.decrypt (peerEncrKey sa) (ivOf encr src) (aadOf sa msg src) (ciphertextOf encr integr src)

end Layout

def ikev2MsgDecrypt (cipher : Cipher UInt8) (mac : List UInt8 → List UInt8 → List UInt8)
    (sa : CryptSa) (msg src : List UInt8) : Option (List UInt8) :=
  match sa.saEncr, sa.saIntegr with
  | some encr, some integr =>
    -- the `ssize_t` offsets of the IV, the ciphertext and the checksum
    let blocklen : Int := cipherLength encr
    let ivlen : Int := cipherIvlength encr
    let integrlen : Int := hashLength integr
    let integroff : Int := src.length - integrlen
    let encrlen : Int := src.length - integrlen - ivlen
    if encrlen < 0 ∨ integroff < 0 then none
    else if !sa.saIntegrIsaead ∧
        (mac (peerIntegrKey sa) (msg.take (msg.length - hashLength integr))).take
          (hashLength integr) ≠ checksumOf integr src then none
    else if encrlen % blocklen ≠ 0 then none
    else
      let size := cipherOutlength encr encrlen.toNat
      let plain := decryptedOf encr integr cipher sa msg src
      -- `cipher_update` writes into a zeroed buffer of `size` bytes
      let out := writeAt (List.replicate size 0) 0 plain
      let outlen : Int := if size ≠ 0 then plain.length else 0
      let pad : Nat := if size ≠ 0 then (out.getD (outlen.toNat - 1) 0).toNat else 0
      -- `cipher_final` checks the tag that `cipher_settag` set
      if sa.saIntegrIsaead ∧ cipher.accepts (peerEncrKey sa) (ivOf encr src)
          (aadOf sa msg src) (ciphertextOf encr integr src) (checksumOf integr src) = false then
        none
      else ibufSetsize out (toSizeT (outlen - pad - 1))
  | _, _ => none

section Bytes

variable (buf : List UInt8)

theorem byteAt_set_self (off : Nat) (b : UInt8) (inside : off < buf.length) :
    byteAt (buf.set off b) off = b.toNat := by
  simp [byteAt, List.getD_eq_getElem?_getD, inside]

theorem byteAt_set_ne (off i : Nat) (b : UInt8) (other : off ≠ i) :
    byteAt (buf.set off b) i = byteAt buf i := by
  simp [byteAt, List.getD_eq_getElem?_getD, List.getElem?_set_ne other]

theorem byteAt_append_left (rest : List UInt8) (i : Nat) (inside : i < buf.length) :
    byteAt (buf ++ rest) i = byteAt buf i := by
  simp [byteAt, List.getD_eq_getElem?_getD, List.getElem?_append_left inside]

@[simp] theorem length_putBe16 (off v : Nat) : (putBe16 buf off v).length = buf.length := by
  simp [putBe16]

@[simp] theorem length_putBe32 (off v : Nat) : (putBe32 buf off v).length = buf.length := by
  simp [putBe32]

theorem be16_putBe16 (off v : Nat) (inside : off + 1 < buf.length) :
    be16 (putBe16 buf off v) off = v % 65536 := by
  have high := byteAt_set_self buf off (UInt8.ofNat (v / 256)) (by omega)
  have low := byteAt_set_self (buf.set off (UInt8.ofNat (v / 256))) (off + 1) (UInt8.ofNat v)
    (by simp; omega)
  unfold be16 putBe16
  rw [byteAt_set_ne _ _ _ _ (by omega), high, low, UInt8.toNat_ofNat', UInt8.toNat_ofNat']
  omega

theorem be16_putBe16_of_apart (off v j : Nat) (apart : j + 1 < off ∨ off + 1 < j) :
    be16 (putBe16 buf off v) j = be16 buf j := by
  unfold be16 putBe16
  rw [byteAt_set_ne _ _ _ _ (by omega), byteAt_set_ne _ _ _ _ (by omega),
    byteAt_set_ne _ _ _ _ (by omega), byteAt_set_ne _ _ _ _ (by omega)]

theorem be32_putBe32 (off v : Nat) (inside : off + 3 < buf.length) :
    be32 (putBe32 buf off v) off = v % 2 ^ 32 := by
  unfold be32 putBe32
  rw [be16_putBe16_of_apart _ _ _ _ (by omega), be16_putBe16 _ _ _ (by omega),
    be16_putBe16 _ _ _ (by simp; omega)]
  omega

theorem be16_putBe32_of_apart (off v j : Nat) (apart : j + 1 < off ∨ off + 3 < j) :
    be16 (putBe32 buf off v) j = be16 buf j := by
  unfold putBe32
  rw [be16_putBe16_of_apart _ _ _ _ (by omega), be16_putBe16_of_apart _ _ _ _ (by omega)]

theorem be16_append_left (rest : List UInt8) (off : Nat) (inside : off + 1 < buf.length) :
    be16 (buf ++ rest) off = be16 buf off := by
  unfold be16
  rw [byteAt_append_left _ _ _ (by omega), byteAt_append_left _ _ _ (by omega)]

theorem be32_append_left (rest : List UInt8) (off : Nat) (inside : off + 3 < buf.length) :
    be32 (buf ++ rest) off = be32 buf off := by
  unfold be32
  rw [be16_append_left _ _ _ (by omega), be16_append_left _ _ _ (by omega)]

end Bytes

theorem ikev2NextPayload_eq (buf : List UInt8) (pld length nextpayload : Nat)
    (fits : sizeofIkev2Payload + length ≤ uint16Max) :
    ikev2NextPayload buf pld length nextpayload =
      some (putBe16 (buf.set pld (UInt8.ofNat nextpayload)) (pld + offsetofPldLength)
        (sizeofIkev2Payload + length)) := by
  unfold ikev2NextPayload
  rw [if_neg (by omega)]

-- The length check of `ikev2_set_header` never fails: it compares a `uint32_t`.
theorem ikev2SetHeader_eq (buf : List UInt8) (length : Nat) :
    ikev2SetHeader buf length =
      some (putBe32 buf offsetofIkeLength (sizeofIkeHeader + length)) := by
  unfold ikev2SetHeader uint32Max
  rw [if_neg (by omega)]

-- The length of the SK payload's body that `ikev2_msg_encrypt_prepare` computes for
-- `len` bytes of inner payloads: IV, padded ciphertext and checksum.
def pldlenOf (encr : IkedCipher) (integr : IkedHash) (len : Nat) : Nat :=
  cipherIvlength encr + cipherOutlength encr (roundup (len + 1) (cipherLength encr)) +
    hashLength integr

def fragLength (fragmentation : Bool) : Nat := if fragmentation then sizeofIkev2FragPayload else 0

theorem ikev2MsgEncryptPrepare_eq (sa : CryptSa) (encr : IkedCipher) (integr : IkedHash)
    (withEncr : sa.saEncr = some encr) (withIntegr : sa.saIntegr = some integr)
    (pld : Nat) (buf e : List UInt8) (firstpayload : Nat) (fragmentation : Bool)
    (fits : sizeofIkev2Payload + (pldlenOf encr integr e.length + fragLength fragmentation) ≤
      uint16Max) :
    ikev2MsgEncryptPrepare sa pld buf e firstpayload fragmentation =
      some (putBe32 (putBe16 (buf.set pld (UInt8.ofNat firstpayload)) (pld + offsetofPldLength)
          (sizeofIkev2Payload + (pldlenOf encr integr e.length + fragLength fragmentation)))
        offsetofIkeLength (sizeofIkeHeader + (buf.length + pldlenOf encr integr e.length -
          sizeofIkeHeader))) := by
  unfold pldlenOf fragLength at *
  unfold ikev2MsgEncryptPrepare
  rw [withEncr, withIntegr]
  dsimp only
  rw [ikev2NextPayload_eq _ _ _ _ fits]
  dsimp only
  rw [ikev2SetHeader_eq]
  simp

-- The headers as `ikev2_msg_encrypt_prepare` leaves them: the SK payload's length
-- counts its header, the fragment header and the body, and the IKE header's length the
-- whole message.
theorem ikev2MsgEncryptPrepare_lengths (sa : CryptSa) (encr : IkedCipher) (integr : IkedHash)
    (withEncr : sa.saEncr = some encr) (withIntegr : sa.saIntegr = some integr)
    (buf e : List UInt8) (firstpayload : Nat) (fragmentation : Bool)
    (headers : buf.length = sizeofIkeHeader + sizeofIkev2Payload + fragLength fragmentation)
    (fits : sizeofIkev2Payload + (pldlenOf encr integr e.length + fragLength fragmentation) ≤
      uint16Max) :
    ∃ prepared, ikev2MsgEncryptPrepare sa sizeofIkeHeader buf e firstpayload fragmentation =
      some prepared ∧ prepared.length = buf.length ∧
      be16 prepared (sizeofIkeHeader + offsetofPldLength) =
        sizeofIkev2Payload + fragLength fragmentation + pldlenOf encr integr e.length ∧
      be32 prepared offsetofIkeLength = buf.length + pldlenOf encr integr e.length := by
  have sizes : sizeofIkeHeader = 28 ∧ sizeofIkev2Payload = 4 ∧ offsetofPldLength = 2 ∧
      offsetofIkeLength = 24 ∧ uint16Max = 65535 := ⟨rfl, rfl, rfl, rfl, rfl⟩
  refine ⟨_, ikev2MsgEncryptPrepare_eq sa encr integr withEncr withIntegr _ buf e firstpayload
    fragmentation fits, by simp, ?_, ?_⟩
  · -- the IKE header's length field ends before the payload header
    rw [be16_putBe32_of_apart _ _ _ _ (by omega), be16_putBe16 _ _ _ (by simp; omega)]
    omega
  · rw [be32_putBe32 _ _ _ (by simp; omega)]
    omega

-- The pad length `ikev2_msg_encrypt` computes for `len` bytes.
def paddingOf (encr : IkedCipher) (len : Nat) : Nat :=
  roundup (len + 1) (cipherLength encr) - (len + 1)

-- What the cipher encrypts: the inner payloads, the random padding and the pad length.
def paddedOf (encr : IkedCipher) (random : Nat → UInt8) (e : List UInt8) : List UInt8 :=
  e ++ drawn random (paddingOf encr e.length) ++ [UInt8.ofNat (paddingOf encr e.length)]

@[simp] theorem length_drawn (source : Nat → UInt8) (n : Nat) : (drawn source n).length = n := by
  simp [drawn]

section Padding

-- The block lengths of the real ciphers: a pad length always fits in its byte.
variable (encr : IkedCipher) (block : 0 < cipherLength encr ∧ cipherLength encr ≤ 256)
include block

theorem paddingOf_lt (len : Nat) : paddingOf encr len < cipherLength encr := by
  have below := roundup_lt (len + 1) (cipherLength encr) block.1
  unfold paddingOf
  omega

theorem length_paddedOf (random : Nat → UInt8) (e : List UInt8) :
    (paddedOf encr random e).length = roundup (e.length + 1) (cipherLength encr) := by
  have above := le_roundup (e.length + 1) (cipherLength encr) block.1
  simp only [paddedOf, List.length_append, length_drawn, List.length_singleton]
  unfold paddingOf
  omega

theorem toNat_padByte (len : Nat) :
    (UInt8.ofNat (paddingOf encr len)).toNat = paddingOf encr len := by
  have small := paddingOf_lt encr block len
  rw [UInt8.toNat_ofNat']
  omega

end Padding

-- The keys a side uses for what it sends.
def ownEncrKey (sa : CryptSa) : List UInt8 := if sa.shInitiator then sa.saKeyIencr else sa.saKeyRencr

def ownIntegrKey (sa : CryptSa) : List UInt8 := if sa.shInitiator then sa.saKeyIauth else sa.saKeyRauth

theorem peerEncrKey_flip (sa : CryptSa) :
    peerEncrKey { sa with shInitiator := !sa.shInitiator } = ownEncrKey sa := by
  unfold peerEncrKey ownEncrKey
  cases sa.shInitiator <;> rfl

theorem peerIntegrKey_flip (sa : CryptSa) :
    peerIntegrKey { sa with shInitiator := !sa.shInitiator } = ownIntegrKey sa := by
  unfold peerIntegrKey ownIntegrKey
  cases sa.shInitiator <;> rfl

theorem ikev2MsgEncrypt_eq (cipher : Cipher UInt8) (sa : CryptSa) (encr : IkedCipher)
    (integr : IkedHash) (withEncr : sa.saEncr = some encr) (withIntegr : sa.saIntegr = some integr)
    (block : 0 < cipherLength encr ∧ cipherLength encr ≤ 256) (ivSource random : Nat → UInt8)
    (src aad : List UInt8) :
    ikev2MsgEncrypt cipher sa ivSource random src aad =
      some (drawn ivSource (cipherIvlength encr) ++
        cipher.encrypt (ownEncrKey sa) (drawn ivSource (cipherIvlength encr))
          (if sa.saIntegrIsaead then aad else []) (paddedOf encr random src) ++
        List.replicate (hashLength integr) 0,
        ⟨ownEncrKey sa, drawn ivSource (cipherIvlength encr),
          if sa.saIntegrIsaead then aad else [], paddedOf encr random src⟩) := by
  have padByte := toNat_padByte encr block src.length
  -- the padding makes the text exactly `encrlen` bytes, so `take encrlen` keeps it whole
  have whole := List.take_of_length_le (Nat.le_of_eq (length_paddedOf encr block random src))
  unfold paddedOf paddingOf at padByte whole
  unfold ikev2MsgEncrypt
  rw [withEncr, withIntegr]
  dsimp only
  rw [padByte, whole]
  rfl

-- What `ikev2_msg_integr` writes after `covered`: the HMAC of it under the sender's key,
-- or the tag of the encryption in `ctx`, cut to `integrlen` bytes.
def checksumFor (cipher : Cipher UInt8) (mac : List UInt8 → List UInt8 → List UInt8)
    (sa : CryptSa) (integr : IkedHash) (ctx : CipherCtx) (covered : List UInt8) : List UInt8 :=
  if sa.saIntegrIsaead then (cipher.tag ctx.key ctx.iv ctx.aad ctx.input).take (hashLength integr)
  else (mac (ownIntegrKey sa) covered).take (hashLength integr)

section Checksum

-- The digest lengths of the real transforms: the HMAC gives `hash_length` bytes, which
-- the truncated length does not exceed, and the AEAD tag is as long as asked for.
variable (cipher : Cipher UInt8) (mac : List UInt8 → List UInt8 → List UInt8) (integr : IkedHash)
  (macLength : ∀ key data, (mac key data).length = integr.hashLength)
  (tagLength : ∀ key iv aad plain, integr.hashLength ≤ (cipher.tag key iv aad plain).length)
  (trunc : integr.hashTrunc ≤ integr.hashLength)

include trunc in
theorem hashLength_le : hashLength integr ≤ integr.hashLength := by
  unfold hashLength
  split <;> omega

include trunc in
theorem hashFinalLength_full : hashFinalLength integr integr.hashLength = hashLength integr := by
  unfold hashFinalLength hashLength
  split_ifs <;> omega

include macLength tagLength trunc in
theorem length_checksumFor (sa : CryptSa) (ctx : CipherCtx) (covered : List UInt8) :
    (checksumFor cipher mac sa integr ctx covered).length = hashLength integr := by
  have short := hashLength_le integr trunc
  unfold checksumFor
  split
  · simp only [List.length_take]
    have long := tagLength ctx.key ctx.iv ctx.aad ctx.input
    omega
  · simp only [List.length_take, macLength]
    omega

include macLength tagLength trunc in
theorem ikev2MsgIntegr_eq (sa : CryptSa) (encr : IkedCipher) (withEncr : sa.saEncr = some encr)
    (withIntegr : sa.saIntegr = some integr) (ctx : CipherCtx) (covered : List UInt8) :
    ikev2MsgIntegr cipher mac sa ctx (covered ++ List.replicate (hashLength integr) 0) =
      some (covered ++ checksumFor cipher mac sa integr ctx covered) := by
  have short := hashLength_le integr trunc
  have sumLength := length_checksumFor cipher mac integr macLength tagLength trunc sa ctx covered
  -- the checksum goes into the room left for it at the end
  have room : writeAt (covered ++ List.replicate (hashLength integr) 0)
      ((covered ++ List.replicate (hashLength integr) 0).length - hashLength integr)
      (checksumFor cipher mac sa integr ctx covered) =
        covered ++ checksumFor cipher mac sa integr ctx covered := by
    have after := writeAt_after covered (checksumFor cipher mac sa integr ctx covered) 0 0
    simp only [sumLength, Nat.add_zero, List.replicate_zero, List.append_nil] at after
    simpa using after
  have tagTake : ∀ tag : List UInt8,
      (tag.take (hashKeylength integr)).take (hashLength integr) = tag.take (hashLength integr) := by
    intro tag
    unfold hashKeylength
    rw [List.take_take, Nat.min_eq_left short]
  have covers : (covered ++ List.replicate (hashLength integr) 0).take
      ((covered ++ List.replicate (hashLength integr) 0).length - hashLength integr) = covered := by
    simp
  have fits : ¬ (covered ++ List.replicate (hashLength integr) 0).length < hashLength integr := by
    simp
  unfold ikev2MsgIntegr
  rw [withEncr, withIntegr]
  dsimp only
  unfold checksumFor ownIntegrKey at room
  cases aead : sa.saIntegrIsaead
  · -- HMAC over everything before the checksum
    simp only [aead, Bool.not_false, if_true, Bool.false_eq_true, if_false, covers, macLength,
      hashFinalLength_full integr trunc, ne_eq, not_true_eq_false, fits] at room ⊢
    rw [room]
    simp only [checksumFor, ownIntegrKey, aead, Bool.false_eq_true, if_false]
  · -- the AEAD tag of the encryption just done
    simp only [aead, Bool.not_true, Bool.false_eq_true, if_false, if_true, tagTake, fits] at room ⊢
    rw [room, checksumFor, if_pos aead]

end Checksum

/-- The message a sender builds: the headers as prepared, the IV, the ciphertext of the
padded payloads, and the checksum over all before it. -/
theorem sealMessage_eq (cipher : Cipher UInt8) (lawful : cipher.Lawful)
    (mac : List UInt8 → List UInt8 → List UInt8) (sa : CryptSa) (encr : IkedCipher)
    (integr : IkedHash) (withEncr : sa.saEncr = some encr) (withIntegr : sa.saIntegr = some integr)
    (block : 0 < cipherLength encr ∧ cipherLength encr ≤ 256)
    (macLength : ∀ key data, (mac key data).length = integr.hashLength)
    (tagLength : ∀ key iv aad plain, integr.hashLength ≤ (cipher.tag key iv aad plain).length)
    (trunc : integr.hashTrunc ≤ integr.hashLength) (ivSource random : Nat → UInt8) (pld : Nat)
    (buf e : List UInt8) (firstpayload : Nat) (fragmentation : Bool)
    (fits : buf.length + pldlenOf encr integr e.length ≤ ikedMsgbufMax) :
    ∃ prepared, ikev2MsgEncryptPrepare sa pld buf e firstpayload fragmentation = some prepared ∧
      sealMessage cipher mac sa ivSource random pld buf e firstpayload fragmentation =
        some (prepared ++ (drawn ivSource (cipherIvlength encr) ++
          cipher.encrypt (ownEncrKey sa) (drawn ivSource (cipherIvlength encr))
            (if sa.saIntegrIsaead then prepared else []) (paddedOf encr random e) ++
          checksumFor cipher mac sa integr
            ⟨ownEncrKey sa, drawn ivSource (cipherIvlength encr),
              if sa.saIntegrIsaead then prepared else [], paddedOf encr random e⟩
            (prepared ++ drawn ivSource (cipherIvlength encr) ++
              cipher.encrypt (ownEncrKey sa) (drawn ivSource (cipherIvlength encr))
                (if sa.saIntegrIsaead then prepared else []) (paddedOf encr random e)))) := by
  have small : sizeofIkev2Payload + (pldlenOf encr integr e.length + fragLength fragmentation) ≤
      uint16Max := by
    unfold sizeofIkev2Payload fragLength sizeofIkev2FragPayload uint16Max
    unfold ikedMsgbufMax at fits
    split <;> omega
  obtain ⟨prepared, isPrepared⟩ : ∃ prepared,
      ikev2MsgEncryptPrepare sa pld buf e firstpayload fragmentation = some prepared :=
    ⟨_, ikev2MsgEncryptPrepare_eq sa encr integr withEncr withIntegr pld buf e firstpayload
      fragmentation small⟩
  have preparedLength : prepared.length = buf.length := by
    rw [ikev2MsgEncryptPrepare_eq sa encr integr withEncr withIntegr pld buf e firstpayload
      fragmentation small, Option.some_inj] at isPrepared
    rw [← isPrepared]
    simp
  -- the IV, the ciphertext and the room for the checksum are the body `prepare` counted
  have bodyLength : (drawn ivSource (cipherIvlength encr) ++
      cipher.encrypt (ownEncrKey sa) (drawn ivSource (cipherIvlength encr))
        (if sa.saIntegrIsaead then prepared else []) (paddedOf encr random e) ++
      List.replicate (hashLength integr) 0).length = pldlenOf encr integr e.length := by
    simp only [List.length_append, length_drawn, lawful.length_encrypt,
      length_paddedOf encr block, List.length_replicate, pldlenOf, cipherOutlength,
      roundup_of_dvd _ _ block.1 (dvd_roundup _ _)]
  refine ⟨prepared, isPrepared, ?_⟩
  unfold sealMessage
  rw [isPrepared]
  dsimp only
  rw [ikev2MsgEncrypt_eq cipher sa encr integr withEncr withIntegr block ivSource random e
    prepared]
  dsimp only
  rw [if_neg (by rw [List.length_append, bodyLength, preparedLength]; omega),
    ← List.append_assoc, ikev2MsgIntegr_eq cipher mac integr macLength tagLength trunc sa encr
      withEncr withIntegr]
  simp

section Layout

variable (encr : IkedCipher) (integr : IkedHash)

theorem ivOf_append (iv text sum : List UInt8) (ivLength : iv.length = cipherIvlength encr) :
    ivOf encr (iv ++ text ++ sum) = iv := by
  simp [ivOf, ← ivLength]

theorem ciphertextOf_append (iv text sum : List UInt8) (ivLength : iv.length = cipherIvlength encr)
    (sumLength : sum.length = hashLength integr) : ciphertextOf encr integr (iv ++ text ++ sum) = text := by
  have count : (iv ++ text ++ sum).length - hashLength integr - cipherIvlength encr = text.length := by
    simp only [List.length_append]
    omega
  unfold ciphertextOf
  rw [count, ← ivLength, List.append_assoc, List.drop_left]
  simp

theorem checksumOf_append (front sum : List UInt8) (sumLength : sum.length = hashLength integr) :
    checksumOf integr (front ++ sum) = sum := by
  simp [checksumOf, ← sumLength]

theorem aadOf_append (sa : CryptSa) (hdr src : List UInt8) :
    aadOf sa (hdr ++ src) src = if sa.saIntegrIsaead then hdr else [] := by
  simp [aadOf]

end Layout

-- The receiver finds the body the sender put after the headers, by the payload length
-- the sender wrote.
theorem skBody_append (hdr body : List UInt8) (pld : Nat) (fragmentation : Bool)
    (headers : hdr.length = pld + sizeofIkev2Payload + fragLength fragmentation)
    (field : be16 hdr (pld + offsetofPldLength) =
      sizeofIkev2Payload + fragLength fragmentation + body.length) :
    skBody (hdr ++ body) pld fragmentation = body := by
  have inside : pld + offsetofPldLength + 1 < hdr.length := by
    unfold offsetofPldLength sizeofIkev2Payload at *
    omega
  show ((hdr ++ body).drop (pld + (sizeofIkev2Payload + fragLength fragmentation))).take
      (be16 (hdr ++ body) (pld + offsetofPldLength) -
        (sizeofIkev2Payload + fragLength fragmentation)) = body
  rw [be16_append_left _ _ _ inside, field, ← Nat.add_assoc, ← headers, List.drop_left]
  simp

-- The end of `ikev2_msg_decrypt` as it should be: drop the pad length byte and the
-- padding it counts, and fail where it counts more than the text holds.
def stripPadding (plain : List UInt8) : Option (List UInt8) :=
  match plain.getLast? with
  | none => none
  | some pad =>
    if pad.toNat + 1 ≤ plain.length then some (plain.take (plain.length - (pad.toNat + 1)))
    else none

theorem stripPadding_paddedOf (encr : IkedCipher) (block : 0 < cipherLength encr ∧ cipherLength encr ≤ 256)
    (random : Nat → UInt8) (e : List UInt8) : stripPadding (paddedOf encr random e) = some e := by
  have padByte := toNat_padByte encr block e.length
  have length := length_paddedOf encr block random e
  unfold paddedOf at length ⊢
  unfold stripPadding
  rw [List.getLast?_append, List.getLast?_singleton, Option.some_or]
  dsimp only
  rw [padByte, if_pos (by simp)]
  simp

/-- The tail of `ikev2_msg_decrypt` on a decrypted text of `plain.length` bytes: the
`ssize_t` arithmetic and `ibuf_setsize` strip the padding exactly as `stripPadding`
does, as long as the text is far from wrapping a `size_t`. -/
theorem ibufSetsize_strip (plain : List UInt8) (small : plain.length < 2 ^ 62) :
    ibufSetsize (writeAt (List.replicate plain.length 0) 0 plain)
      (toSizeT ((if plain.length ≠ 0 then (plain.length : Int) else 0) -
        (if plain.length ≠ 0 then
          ((writeAt (List.replicate plain.length 0) 0 plain).getD
            ((if plain.length ≠ 0 then (plain.length : Int) else 0).toNat - 1) 0).toNat
        else 0 : Nat) - 1)) = stripPadding plain := by
  rw [writeAt_replicate_length]
  unfold ibufSetsize toSizeT stripPadding
  rcases List.eq_nil_or_concat plain with empty | ⟨front, pad, rfl⟩
  · -- nothing decrypted: `0 - 0 - 1` wraps and `ibuf_setsize` refuses it
    subst empty
    simp
  · simp only [List.concat_eq_append] at small ⊢
    have notZero : (front ++ [pad]).length ≠ 0 := by simp
    have last : (front ++ [pad]).getD ((front ++ [pad]).length - 1) 0 = pad := by simp
    have byte := pad.toNat_lt
    simp only [if_pos notZero, Int.toNat_natCast, last, List.getLast?_append,
      List.getLast?_singleton, Option.some_or]
    by_cases fits : pad.toNat + 1 ≤ (front ++ [pad]).length
    · have value : ((((front ++ [pad]).length : Int) - (pad.toNat : Int) - 1) % 2 ^ 64).toNat =
          (front ++ [pad]).length - (pad.toNat + 1) := by omega
      rw [value, if_neg (by omega), if_pos fits]
    · -- the pad length claims more than was decrypted: the size wraps far past the buffer
      have wrapped : ((((front ++ [pad]).length : Int) - (pad.toNat : Int) - 1) % 2 ^ 64).toNat >
          (front ++ [pad]).length := by omega
      rw [if_pos wrapped, if_neg fits]

-- The checks `ikev2_msg_decrypt` makes before it strips the padding: room for the IV and
-- the checksum, the HMAC over the message when there is no AEAD, whole blocks of
-- ciphertext, and the AEAD tag.
structure Authentic (cipher : Cipher UInt8) (mac : List UInt8 → List UInt8 → List UInt8)
    (sa : CryptSa) (encr : IkedCipher) (integr : IkedHash) (msg src : List UInt8) : Prop where
  room : cipherIvlength encr + hashLength integr ≤ src.length
  digest : sa.saIntegrIsaead = false →
    (mac (peerIntegrKey sa) (msg.take (msg.length - hashLength integr))).take (hashLength integr) =
      checksumOf integr src
  aligned : cipherLength encr ∣ src.length - hashLength integr - cipherIvlength encr
  accepted : sa.saIntegrIsaead = true →
    cipher.accepts (peerEncrKey sa) (ivOf encr src) (aadOf sa msg src)
      (ciphertextOf encr integr src) (checksumOf integr src) = true

section Decrypt

variable (cipher : Cipher UInt8) (mac : List UInt8 → List UInt8 → List UInt8) (sa : CryptSa)
  (encr : IkedCipher) (integr : IkedHash) (withEncr : sa.saEncr = some encr)
  (withIntegr : sa.saIntegr = some integr)
include withEncr withIntegr

theorem authentic_of_ikev2MsgDecrypt (msg src p : List UInt8)
    (decrypted : ikev2MsgDecrypt cipher mac sa msg src = some p) :
    Authentic cipher mac sa encr integr msg src := by
  unfold ikev2MsgDecrypt at decrypted
  rw [withEncr, withIntegr] at decrypted
  dsimp only at decrypted
  -- each check that fails returns NULL
  split at decrypted
  · cases decrypted
  rename_i short
  split at decrypted
  · cases decrypted
  rename_i forged
  split at decrypted
  · cases decrypted
  rename_i unaligned
  split at decrypted
  · cases decrypted
  rename_i rejected
  refine ⟨by omega, fun noAead => ?_, ?_, fun aead => ?_⟩
  · by_contra differs
    exact forged ⟨by simp [noAead], differs⟩
  · -- the `ssize_t` remainder is the one of the `size_t` length
    have zero : ((src.length : Int) - hashLength integr - cipherIvlength encr) %
        (cipherLength encr : Int) = 0 := not_not.mp unaligned
    have cast : ((src.length - hashLength integr - cipherIvlength encr : Nat) : Int) =
        (src.length : Int) - hashLength integr - cipherIvlength encr := by omega
    rw [← cast] at zero
    exact Int.natCast_dvd_natCast.mp (Int.dvd_of_emod_eq_zero zero)
  · by_contra refused
    exact rejected ⟨aead, by simpa using refused⟩

/-- Once its checks pass, `ikev2_msg_decrypt` strips the padding as `stripPadding` does:
the `ssize_t` size it computes never wraps into a buffer that is returned. -/
theorem ikev2MsgDecrypt_of_authentic (lawful : cipher.Lawful) (positive : 0 < cipherLength encr)
    (msg src : List UInt8) (allocated : src.length ≤ ikedMsgbufMax)
    (authentic : Authentic cipher mac sa encr integr msg src) :
    ikev2MsgDecrypt cipher mac sa msg src =
      stripPadding (decryptedOf encr integr cipher sa msg src) := by
  have room := authentic.room
  have plainLength : (decryptedOf encr integr cipher sa msg src).length =
      src.length - hashLength integr - cipherIvlength encr := by
    unfold decryptedOf ciphertextOf
    rw [lawful.length_decrypt]
    simp only [List.length_take, List.length_drop]
    omega
  have size : cipherOutlength encr (src.length - hashLength integr - cipherIvlength encr) =
      src.length - hashLength integr - cipherIvlength encr :=
    roundup_of_dvd _ _ positive authentic.aligned
  have encrlen : ((src.length : Int) - hashLength integr - cipherIvlength encr).toNat =
      src.length - hashLength integr - cipherIvlength encr := by omega
  have intAligned : ((src.length : Int) - hashLength integr - cipherIvlength encr) %
      (cipherLength encr : Int) = 0 := by
    have cast : (src.length : Int) - hashLength integr - cipherIvlength encr =
        ((src.length - hashLength integr - cipherIvlength encr : Nat) : Int) := by omega
    rw [cast]
    exact Int.emod_eq_zero_of_dvd (Int.natCast_dvd_natCast.mpr authentic.aligned)
  unfold ikev2MsgDecrypt
  rw [withEncr, withIntegr]
  dsimp only
  rw [if_neg (by omega)]
  -- the HMAC check passes, or there is none
  rw [if_neg (fun ⟨noAead, differs⟩ => differs (authentic.digest (by simpa using noAead)))]
  rw [if_neg (not_not.mpr intAligned), encrlen, size, ← plainLength]
  -- and so does the AEAD tag check, or there is none
  rw [if_neg (fun ⟨aead, refused⟩ => by rw [authentic.accepted aead] at refused; cases refused)]
  exact ibufSetsize_strip _ (by unfold ikedMsgbufMax at allocated; omega)

/-- What `ikev2_msg_decrypt` returns is the decrypted text with its padding stripped. -/
theorem ikev2MsgDecrypt_strips_padding (lawful : cipher.Lawful) (positive : 0 < cipherLength encr)
    (msg src p : List UInt8) (allocated : src.length ≤ ikedMsgbufMax)
    (decrypted : ikev2MsgDecrypt cipher mac sa msg src = some p) :
    stripPadding (decryptedOf encr integr cipher sa msg src) = some p := by
  rw [← ikev2MsgDecrypt_of_authentic cipher mac sa encr integr withEncr withIntegr lawful positive
    msg src allocated (authentic_of_ikev2MsgDecrypt cipher mac sa encr integr withEncr withIntegr
      msg src p decrypted)]
  exact decrypted

end Decrypt

theorem ikev2MsgDecrypt_eq_none_of_pad (cipher : Cipher UInt8) (lawful : cipher.Lawful)
    (mac : List UInt8 → List UInt8 → List UInt8) (sa : CryptSa) (encr : IkedCipher)
    (integr : IkedHash) (withEncr : sa.saEncr = some encr) (withIntegr : sa.saIntegr = some integr)
    (positive : 0 < cipherLength encr) (msg src : List UInt8) (allocated : src.length ≤ ikedMsgbufMax)
    (pad : UInt8) (last : (decryptedOf encr integr cipher sa msg src).getLast? = some pad)
    (tooLong : (decryptedOf encr integr cipher sa msg src).length < pad.toNat + 1) :
    ikev2MsgDecrypt cipher mac sa msg src = none := by
  cases decrypted : ikev2MsgDecrypt cipher mac sa msg src with
  | none => rfl
  | some p =>
    have stripped := ikev2MsgDecrypt_strips_padding cipher mac sa encr integr withEncr withIntegr
      lawful positive msg src p allocated decrypted
    unfold stripPadding at stripped
    rw [last] at stripped
    dsimp only at stripped
    rw [if_neg (by omega)] at stripped
    cases stripped

/-- The receiver of the other role takes back the inner payloads from the body a sender
built after any headers `hdr`. -/
theorem ikev2MsgDecrypt_sealed (cipher : Cipher UInt8) (lawful : cipher.Lawful)
    (mac : List UInt8 → List UInt8 → List UInt8) (sa : CryptSa) (encr : IkedCipher)
    (integr : IkedHash) (withEncr : sa.saEncr = some encr) (withIntegr : sa.saIntegr = some integr)
    (block : 0 < cipherLength encr ∧ cipherLength encr ≤ 256)
    (macLength : ∀ key data, (mac key data).length = integr.hashLength)
    (tagLength : ∀ key iv aad plain, integr.hashLength ≤ (cipher.tag key iv aad plain).length)
    (trunc : integr.hashTrunc ≤ integr.hashLength) (random : Nat → UInt8)
    (hdr iv e text sum : List UInt8) (ivLength : iv.length = cipherIvlength encr)
    (isText : text = cipher.encrypt (ownEncrKey sa) iv (if sa.saIntegrIsaead then hdr else [])
      (paddedOf encr random e))
    (isSum : sum = checksumFor cipher mac sa integr
      ⟨ownEncrKey sa, iv, if sa.saIntegrIsaead then hdr else [], paddedOf encr random e⟩
      (hdr ++ iv ++ text))
    (allocated : (iv ++ text ++ sum).length ≤ ikedMsgbufMax) :
    ikev2MsgDecrypt cipher mac { sa with shInitiator := !sa.shInitiator } (hdr ++ (iv ++ text ++ sum))
      (iv ++ text ++ sum) = some e := by
  have textLength : text.length = (paddedOf encr random e).length := by
    rw [isText, lawful.length_encrypt]
  have sumLength : sum.length = hashLength integr := by
    rw [isSum, length_checksumFor cipher mac integr macLength tagLength trunc]
  have aadFound := aadOf_append { sa with shInitiator := !sa.shInitiator } hdr (iv ++ text ++ sum)
  have ivFound := ivOf_append encr iv text sum ivLength
  have textFound := ciphertextOf_append encr integr iv text sum ivLength sumLength
  have sumFound := checksumOf_append integr (iv ++ text) sum sumLength
  have authentic : Authentic cipher mac { sa with shInitiator := !sa.shInitiator } encr integr
      (hdr ++ (iv ++ text ++ sum)) (iv ++ text ++ sum) := by
    refine ⟨by simp only [List.length_append]; omega, fun noAead => ?_, ?_, fun aead => ?_⟩
    · -- the HMAC covers all before the checksum, under the sender's key
      have covered : (hdr ++ (iv ++ text ++ sum)).take
          ((hdr ++ (iv ++ text ++ sum)).length - hashLength integr) = hdr ++ iv ++ text := by
        have regroup : hdr ++ (iv ++ text ++ sum) = hdr ++ iv ++ text ++ sum := by simp
        rw [regroup, List.length_append, ← sumLength, Nat.add_sub_cancel, List.take_left]
      rw [covered, peerIntegrKey_flip, sumFound, isSum, checksumFor, if_neg (by simpa using noAead)]
    · have count : (iv ++ text ++ sum).length - hashLength integr - cipherIvlength encr =
          text.length := by
        simp only [List.length_append]
        omega
      rw [count, textLength, length_paddedOf encr block]
      exact dvd_roundup _ _
    · -- the tag is the one the sender's encryption gave
      have aead' : sa.saIntegrIsaead = true := aead
      rw [peerEncrKey_flip, ivFound, aadFound, textFound, sumFound, isSum, isText]
      simp only [checksumFor, aead', if_true]
      exact lawful.accepts_tag _ _ _ _ _
  have plain : decryptedOf encr integr cipher { sa with shInitiator := !sa.shInitiator }
      (hdr ++ (iv ++ text ++ sum)) (iv ++ text ++ sum) = paddedOf encr random e := by
    unfold decryptedOf
    rw [peerEncrKey_flip, ivFound, aadFound, textFound, isText]
    exact lawful.decrypt_encrypt _ _ _ _
  rw [ikev2MsgDecrypt_of_authentic cipher mac { sa with shInitiator := !sa.shInitiator } encr integr
    withEncr withIntegr lawful block.1 _ _ allocated authentic, plain]
  exact stripPadding_paddedOf encr block random e

theorem sealMessage_decrypts (cipher : Cipher UInt8) (lawful : cipher.Lawful)
    (mac : List UInt8 → List UInt8 → List UInt8) (sa : CryptSa) (encr : IkedCipher)
    (integr : IkedHash) (withEncr : sa.saEncr = some encr) (withIntegr : sa.saIntegr = some integr)
    (block : 0 < cipherLength encr ∧ cipherLength encr ≤ 256)
    (macLength : ∀ key data, (mac key data).length = integr.hashLength)
    (tagLength : ∀ key iv aad plain, integr.hashLength ≤ (cipher.tag key iv aad plain).length)
    (trunc : integr.hashTrunc ≤ integr.hashLength) (ivSource random : Nat → UInt8)
    (buf e : List UInt8) (firstpayload : Nat) (fragmentation : Bool)
    (headers : buf.length = sizeofIkeHeader + sizeofIkev2Payload + fragLength fragmentation)
    (fits : buf.length + pldlenOf encr integr e.length ≤ ikedMsgbufMax) :
    (∃ msg, sealMessage cipher mac sa ivSource random sizeofIkeHeader buf e firstpayload
        fragmentation = some msg ∧
      be32 msg offsetofIkeLength = msg.length ∧
      be16 msg (sizeofIkeHeader + offsetofPldLength) = msg.length - sizeofIkeHeader ∧
      ikev2MsgDecrypt cipher mac { sa with shInitiator := !sa.shInitiator } msg
        (skBody msg sizeofIkeHeader fragmentation) = some e) ∧
    ∀ msg src p, src.length ≤ ikedMsgbufMax → ikev2MsgDecrypt cipher mac sa msg src = some p →
      stripPadding (decryptedOf encr integr cipher sa msg src) = some p := by
  have sizes : sizeofIkeHeader = 28 ∧ sizeofIkev2Payload = 4 ∧ offsetofPldLength = 2 ∧
      offsetofIkeLength = 24 ∧ uint16Max = 65535 ∧ ikedMsgbufMax = 8192 :=
    ⟨rfl, rfl, rfl, rfl, rfl, rfl⟩
  have small : sizeofIkev2Payload + (pldlenOf encr integr e.length + fragLength fragmentation) ≤
      uint16Max := by
    omega
  obtain ⟨prepared, isPrepared, sealed⟩ := sealMessage_eq cipher lawful mac sa encr integr withEncr
    withIntegr block macLength tagLength trunc ivSource random sizeofIkeHeader buf e firstpayload
    fragmentation fits
  obtain ⟨prepared', isPrepared', preparedLength, field, total⟩ := ikev2MsgEncryptPrepare_lengths sa
    encr integr withEncr withIntegr buf e firstpayload fragmentation headers small
  rw [isPrepared, Option.some_inj] at isPrepared'
  subst isPrepared'
  set iv := drawn ivSource (cipherIvlength encr) with isIv
  set text := cipher.encrypt (ownEncrKey sa) iv (if sa.saIntegrIsaead then prepared else [])
    (paddedOf encr random e) with isText
  set sum := checksumFor cipher mac sa integr
    ⟨ownEncrKey sa, iv, if sa.saIntegrIsaead then prepared else [], paddedOf encr random e⟩
    (prepared ++ iv ++ text) with isSum
  -- the body after the headers is as long as `prepare` said
  have bodyLength : (iv ++ text ++ sum).length = pldlenOf encr integr e.length := by
    simp only [List.length_append, isIv, length_drawn, isText, lawful.length_encrypt,
      length_paddedOf encr block, isSum, length_checksumFor cipher mac integr macLength tagLength trunc,
      pldlenOf, cipherOutlength, roundup_of_dvd _ _ block.1 (dvd_roundup _ _)]
  refine ⟨⟨_, sealed, ?_, ?_, ?_⟩, fun msg src p allocated decrypted =>
    ikev2MsgDecrypt_strips_padding cipher mac sa encr integr withEncr withIntegr lawful block.1 msg
      src p allocated decrypted⟩
  · rw [be32_append_left _ _ _ (by omega), total, List.length_append, preparedLength, bodyLength]
  · rw [be16_append_left _ _ _ (by omega), field, List.length_append, preparedLength, bodyLength]
    omega
  · rw [skBody_append prepared (iv ++ text ++ sum) sizeofIkeHeader fragmentation (by omega)
      (by rw [field, bodyLength])]
    exact ikev2MsgDecrypt_sealed cipher lawful mac sa encr integr withEncr withIntegr block macLength
      tagLength trunc random prepared iv e text sum (length_drawn _ _) rfl rfl (by omega)

-- A cipher that leaves the text as it is, with a tag of zeroes that it always accepts.
def clearCipher : Cipher UInt8 :=
  ⟨fun _ _ _ plain => plain, fun _ _ _ text => text, fun _ _ _ _ => List.replicate 32 0,
    fun _ _ _ _ _ => true⟩

theorem clearCipher_lawful : clearCipher.Lawful :=
  ⟨fun _ _ _ _ => rfl, fun _ _ _ _ => rfl, fun _ _ _ _ => rfl, fun _ _ _ _ _ => rfl⟩

-- An initiator's SA with AES-CBC-128 and HMAC-SHA2-256-128.
def cbcInitiatorSa : CryptSa :=
  { saEncr := some ⟨16, 16⟩, saIntegr := some ⟨32, 16⟩, saIntegrIsaead := false,
    shInitiator := true, saKeyIencr := [1], saKeyRencr := [2], saKeyIauth := [3], saKeyRauth := [4] }

theorem sealMessage_decrypts_cbc :
    clearCipher.Lawful ∧ cbcInitiatorSa.saEncr = some ⟨16, 16⟩ ∧
    cbcInitiatorSa.saIntegr = some ⟨32, 16⟩ ∧
    (0 < cipherLength ⟨16, 16⟩ ∧ cipherLength ⟨16, 16⟩ ≤ 256) ∧
    (∀ key data : List UInt8, ((fun _ _ => List.replicate 32 0 : List UInt8 → List UInt8 → List UInt8)
      key data).length = (⟨32, 16⟩ : IkedHash).hashLength) ∧
    (∀ key iv aad plain, (⟨32, 16⟩ : IkedHash).hashLength ≤ (clearCipher.tag key iv aad plain).length) ∧
    (⟨32, 16⟩ : IkedHash).hashTrunc ≤ (⟨32, 16⟩ : IkedHash).hashLength ∧
    (List.replicate 32 0).length = sizeofIkeHeader + sizeofIkev2Payload + fragLength false ∧
    (List.replicate 32 0).length + pldlenOf ⟨16, 16⟩ ⟨32, 16⟩ [1, 2, 3].length ≤ ikedMsgbufMax ∧
    ((∃ msg, sealMessage clearCipher (fun _ _ => List.replicate 32 0) cbcInitiatorSa (fun _ => 7)
        (fun _ => 9) sizeofIkeHeader (List.replicate 32 0) [1, 2, 3] 35 false = some msg ∧
      be32 msg offsetofIkeLength = msg.length ∧
      be16 msg (sizeofIkeHeader + offsetofPldLength) = msg.length - sizeofIkeHeader ∧
      ikev2MsgDecrypt clearCipher (fun _ _ => List.replicate 32 0)
        { cbcInitiatorSa with shInitiator := !cbcInitiatorSa.shInitiator } msg
        (skBody msg sizeofIkeHeader false) = some [1, 2, 3]) ∧
    ∀ msg src p, src.length ≤ ikedMsgbufMax →
      ikev2MsgDecrypt clearCipher (fun _ _ => List.replicate 32 0) cbcInitiatorSa msg src = some p →
      stripPadding (decryptedOf ⟨16, 16⟩ ⟨32, 16⟩ clearCipher cbcInitiatorSa msg src) = some p) :=
  ⟨clearCipher_lawful, rfl, rfl, by decide, fun _ _ => List.length_replicate,
    fun _ _ _ _ => by simp [clearCipher], by decide, rfl, by decide,
    sealMessage_decrypts clearCipher clearCipher_lawful (fun _ _ => List.replicate 32 0)
      cbcInitiatorSa ⟨16, 16⟩ ⟨32, 16⟩ rfl rfl (by decide) (fun _ _ => List.length_replicate)
      (fun _ _ _ _ => by simp [clearCipher]) (by decide) (fun _ => 7) (fun _ => 9) (List.replicate 32 0)
      [1, 2, 3] 35 false rfl (by decide)⟩

end OpenIKED.Ikev2.MsgCrypt
