import Mathlib.Tactic.Common
import Mathlib.Data.Nat.Bitwise
import OpenIKED.Shared.BigEndian
import OpenIKED.Shared.Slots
import OpenIKED.Ikev2.Eap

set_option autoImplicit false

/-!
# MSCHAPv2 as `chap_ms.c` computes it

The responder checks a peer's NT-Response with `mschap_nt_response` and answers with
`mschap_auth_response`, and `mschap_msk` derives the EAP MSK.  The digests and DES are
OpenSSL's; the model takes MD4, SHA-1 and one-block DES as parameters and keeps every
byte of bookkeeping of `chap_ms.c` around them: the 7-bit windows of `get7bits`, the
parity of `DES_set_odd_parity`, the 22-byte padded password hash, the domain stripping
of the challenge hash, the hex encoding and the magic strings.

Beside it stand the functions of RFC 2759 section 8 and RFC 3079 section 3 over the same
primitives.  With MD4 and SHA-1 of their usual lengths and a DES that ignores the parity
bit of each key byte, the code computes the RFC's values (`mschapNtResponse_eq_rfc`,
`mschapAuthResponse_eq_rfc`, `mschapMsk_eq_rfc`), and so does `ikev2_resp_ike_eap_mschap`
when `Eap` runs it with them.
-/

namespace OpenIKED.Ikev2.ChapMs

open OpenIKED.Shared
open OpenIKED.Ikev2.Eap (string2unicode)

def mschapChallengeSz : Nat := 8
def mschapv2ChallengeSz : Nat := 16
def mschapHashSz : Nat := 16
def mschapMasterkeySz : Nat := 16
def mschapMskSz : Nat := 64
def shaDigestLength : Nat := 20
def eapMschapNtresponseSz : Nat := 24

-- The digests and the cipher `chap_ms.c` calls: `EVP_md4`, `EVP_sha1`, and
-- `DES_set_key` with `DES_ecb_encrypt` of one block.
structure ChapPrimitives where
  md4 : List UInt8 → List UInt8
  sha1 : List UInt8 → List UInt8
  desEcbEncrypt : (key clear : List UInt8) → List UInt8

-- Digests of their lengths, and a DES that reads only the high seven bits of each key byte.
structure ChapPrimitives.Sound (p : ChapPrimitives) : Prop where
  md4_length : ∀ input, (p.md4 input).length = mschapHashSz
  sha1_length : ∀ input, (p.sha1 input).length = shaDigestLength
  des_parity : ∀ key key' clear, key.map (fun b => b.toNat / 2) = key'.map (fun b => b.toNat / 2) →
    p.desEcbEncrypt key clear = p.desEcbEncrypt key' clear

def sha1Pad1 : List UInt8 := List.replicate 40 0x00
def sha1Pad2 : List UInt8 := List.replicate 40 0xf2

section Code

variable (p : ChapPrimitives)

-- `get7bits`: the seven bits at bit `start` of `input`, most significant first, in the high
-- bits of a byte.
def get7bits (input : List UInt8) (start : Nat) : UInt8 :=
  let word := (input.getD (start / 8) 0).toNat <<< 8 ||| (input.getD (start / 8 + 1) 0).toNat
  let word := word >>> (15 - (start % 8 + 7))
  UInt8.ofNat (word &&& 0xfe)

-- `odd_parity[b]` of OpenSSL's `DES_set_odd_parity`: the high seven bits of `b`, and a low
-- bit that makes the number of ones odd.
def oddParity (b : UInt8) : UInt8 :=
  let high := b &&& 0xfe
  if (List.range 8).countP (fun i => high.toNat.testBit i) % 2 = 0 then high ||| 1 else high

-- `mschap_des_addparity`: a 56-bit key spread over eight bytes, then `DES_set_odd_parity`.
def mschapDesAddparity (key : List UInt8) : List UInt8 :=
  ([0, 7, 14, 21, 28, 35, 42, 49].map (get7bits key)).map oddParity

def mschapDesEncrypt (clear key : List UInt8) : List UInt8 :=
  p.desEcbEncrypt (mschapDesAddparity key) clear

-- `mschap_challenge_response`: the hash in a zeroed buffer of 21 + 1 bytes, and DES of the
-- challenge under the keys at its offsets 0, 7 and 14.
def mschapChallengeResponse (challenge pwhash : List UInt8) : List UInt8 :=
  let padpwhash := writeAt (List.replicate 22 0) 0 (pwhash.take mschapHashSz)
  mschapDesEncrypt p challenge padpwhash ++ mschapDesEncrypt p challenge (padpwhash.drop 7) ++
    mschapDesEncrypt p challenge (padpwhash.drop 14)

def mschapNtpasswordHash (input : List UInt8) : List UInt8 := p.md4 input

-- `strrchr(username, '\\')`: the name after its last backslash, or all of it.
def challengeName (username : List UInt8) : List UInt8 :=
  (username.reverse.takeWhile fun c => c != 0x5c).reverse

def mschapChallengeHash (peerChallenge authChallenge username : List UInt8) : List UInt8 :=
  (p.sha1 (peerChallenge.take mschapv2ChallengeSz ++ authChallenge.take mschapv2ChallengeSz ++
    challengeName username)).take mschapChallengeSz

def mschapNtResponse (authChallenge peerChallenge username password : List UInt8) : List UInt8 :=
  mschapChallengeResponse p (mschapChallengeHash p peerChallenge authChallenge username)
    (mschapNtpasswordHash p password)

def hexDigits : List UInt8 :=
  [0x30, 0x31, 0x32, 0x33, 0x34, 0x35, 0x36, 0x37, 0x38, 0x39, 0x41, 0x42, 0x43, 0x44, 0x45, 0x46]

def authMagic1 : List UInt8 :=
  [0x4D, 0x61, 0x67, 0x69, 0x63, 0x20, 0x73, 0x65, 0x72, 0x76,
   0x65, 0x72, 0x20, 0x74, 0x6F, 0x20, 0x63, 0x6C, 0x69, 0x65,
   0x6E, 0x74, 0x20, 0x73, 0x69, 0x67, 0x6E, 0x69, 0x6E, 0x67,
   0x20, 0x63, 0x6F, 0x6E, 0x73, 0x74, 0x61, 0x6E, 0x74]

def authMagic2 : List UInt8 :=
  [0x50, 0x61, 0x64, 0x20, 0x74, 0x6F, 0x20, 0x6D, 0x61, 0x6B,
   0x65, 0x20, 0x69, 0x74, 0x20, 0x64, 0x6F, 0x20, 0x6D, 0x6F,
   0x72, 0x65, 0x20, 0x74, 0x68, 0x61, 0x6E, 0x20, 0x6F, 0x6E,
   0x65, 0x20, 0x69, 0x74, 0x65, 0x72, 0x61, 0x74, 0x69, 0x6F,
   0x6E]

-- The two hex digits `mschap_auth_response` writes for a byte.
def hexByte (b : UInt8) : List UInt8 :=
  [hexDigits.getD (b.toNat >>> 4) 0, hexDigits.getD (b.toNat &&& 0x0f) 0]

-- `mschap_auth_response`: "S=" and the 40 hex digits of the authenticator response.
def mschapAuthResponse (password ntresponse authChallenge peerChallenge username : List UInt8) :
    List UInt8 :=
  let passwordHash := mschapNtpasswordHash p password
  let passwordHash2 := mschapNtpasswordHash p (passwordHash.take mschapHashSz)
  let md := p.sha1 (passwordHash2.take mschapHashSz ++ ntresponse.take eapMschapNtresponseSz ++
    authMagic1)
  let challenge := mschapChallengeHash p peerChallenge authChallenge username
  let md := p.sha1 (md.take shaDigestLength ++ challenge ++ authMagic2)
  [0x53, 0x3d] ++ (List.range shaDigestLength).flatMap fun i => hexByte (md.getD i 0)

def masterMagic1 : List UInt8 :=
  [0x54, 0x68, 0x69, 0x73, 0x20, 0x69, 0x73, 0x20, 0x74,
   0x68, 0x65, 0x20, 0x4d, 0x50, 0x50, 0x45, 0x20, 0x4d,
   0x61, 0x73, 0x74, 0x65, 0x72, 0x20, 0x4b, 0x65, 0x79]

def startkeyMagic2 : List UInt8 :=
  [0x4f, 0x6e, 0x20, 0x74, 0x68, 0x65, 0x20, 0x63, 0x6c, 0x69,
   0x65, 0x6e, 0x74, 0x20, 0x73, 0x69, 0x64, 0x65, 0x2c, 0x20,
   0x74, 0x68, 0x69, 0x73, 0x20, 0x69, 0x73, 0x20, 0x74, 0x68,
   0x65, 0x20, 0x73, 0x65, 0x6e, 0x64, 0x20, 0x6b, 0x65, 0x79,
   0x3b, 0x20, 0x6f, 0x6e, 0x20, 0x74, 0x68, 0x65, 0x20, 0x73,
   0x65, 0x72, 0x76, 0x65, 0x72, 0x20, 0x73, 0x69, 0x64, 0x65,
   0x2c, 0x20, 0x69, 0x74, 0x20, 0x69, 0x73, 0x20, 0x74, 0x68,
   0x65, 0x20, 0x72, 0x65, 0x63, 0x65, 0x69, 0x76, 0x65, 0x20,
   0x6b, 0x65, 0x79, 0x2e]

def startkeyMagic3 : List UInt8 :=
  [0x4f, 0x6e, 0x20, 0x74, 0x68, 0x65, 0x20, 0x63, 0x6c, 0x69,
   0x65, 0x6e, 0x74, 0x20, 0x73, 0x69, 0x64, 0x65, 0x2c, 0x20,
   0x74, 0x68, 0x69, 0x73, 0x20, 0x69, 0x73, 0x20, 0x74, 0x68,
   0x65, 0x20, 0x72, 0x65, 0x63, 0x65, 0x69, 0x76, 0x65, 0x20,
   0x6b, 0x65, 0x79, 0x3b, 0x20, 0x6f, 0x6e, 0x20, 0x74, 0x68,
   0x65, 0x20, 0x73, 0x65, 0x72, 0x76, 0x65, 0x72, 0x20, 0x73,
   0x69, 0x64, 0x65, 0x2c, 0x20, 0x69, 0x74, 0x20, 0x69, 0x73,
   0x20, 0x74, 0x68, 0x65, 0x20, 0x73, 0x65, 0x6e, 0x64, 0x20,
   0x6b, 0x65, 0x79, 0x2e]

def mschapMasterkey (passwordHash2 ntresponse : List UInt8) : List UInt8 :=
  (p.sha1 (passwordHash2.take mschapHashSz ++ ntresponse.take eapMschapNtresponseSz ++
    masterMagic1)).take mschapMasterkeySz

def mschapAsymetricStartkey (masterkey : List UInt8) (sessionkeylen : Nat) (issend isserver : Bool) :
    List UInt8 :=
  let s := if issend then (if isserver then startkeyMagic3 else startkeyMagic2)
    else (if isserver then startkeyMagic2 else startkeyMagic3)
  (p.sha1 (masterkey.take mschapMasterkeySz ++ sha1Pad1 ++ s ++ sha1Pad2)).take sessionkeylen

-- `mschap_msk`: "16 bytes receive key + 16 bytes send key + 32 bytes 0 padding".
def mschapMsk (password ntresponse : List UInt8) : List UInt8 :=
  let passwordHash := mschapNtpasswordHash p password
  let passwordHash2 := mschapNtpasswordHash p (passwordHash.take mschapHashSz)
  let masterkey := mschapMasterkey p passwordHash2 ntresponse
  let recvkey := mschapAsymetricStartkey p masterkey mschapMasterkeySz false true
  let sendkey := mschapAsymetricStartkey p masterkey mschapMasterkeySz true true
  writeAt (writeAt (List.replicate mschapMskSz 0) 0 recvkey) mschapMasterkeySz sendkey

-- What `Eap` runs `ikev2_resp_ike_eap_mschap` with.
def chapMsCrypto : Eap.MschapCrypto := ⟨mschapNtResponse p, mschapMsk p⟩

end Code

section Rfc

variable (p : ChapPrimitives)

-- The bytes of an ASCII text.
def asciiBytes (s : String) : List UInt8 := s.toList.map fun c => UInt8.ofNat c.toNat

-- UTF-16LE of characters of the Basic Multilingual Plane.
def utf16le (s : List Char) : List UInt8 :=
  s.flatMap fun c => [UInt8.ofNat c.toNat, UInt8.ofNat (c.toNat / 256)]

-- RFC 2759 section 8.2, ChallengeHash.
def rfcChallengeHash (peerChallenge authenticatorChallenge userName : List UInt8) : List UInt8 :=
  (p.sha1 (peerChallenge ++ authenticatorChallenge ++ userName)).take 8

-- RFC 2759 section 8.3, NtPasswordHash.
def rfcNtPasswordHash (password : List Char) : List UInt8 := p.md4 (utf16le password)

-- A 56-bit key as DES takes it: the next seven key bits in the high bits of each byte.
def rfcDesKey (key : List UInt8) : List UInt8 :=
  (List.range 8).map fun i => UInt8.ofNat (bin2bn key / 2 ^ (49 - 7 * i) % 128 * 2)

-- RFC 2759 section 8.6, DesEncrypt.
def rfcDesEncrypt (clear key : List UInt8) : List UInt8 := p.desEcbEncrypt (rfcDesKey key) clear

-- RFC 2759 section 8.5, ChallengeResponse.
def rfcChallengeResponse (challenge passwordHash : List UInt8) : List UInt8 :=
  let zPasswordHash := passwordHash ++ List.replicate 5 0
  rfcDesEncrypt p challenge (zPasswordHash.take 7) ++
    rfcDesEncrypt p challenge ((zPasswordHash.drop 7).take 7) ++
    rfcDesEncrypt p challenge ((zPasswordHash.drop 14).take 7)

-- RFC 2759 section 8.1, GenerateNTResponse.
def rfcGenerateNtResponse (authenticatorChallenge peerChallenge userName : List UInt8)
    (password : List Char) : List UInt8 :=
  rfcChallengeResponse p (rfcChallengeHash p peerChallenge authenticatorChallenge userName)
    (rfcNtPasswordHash p password)

def rfcHexDigit (n : Nat) : UInt8 := UInt8.ofNat (Nat.digitChar n).toUpper.toNat

-- RFC 2759 section 8.7, GenerateAuthenticatorResponse.
def rfcGenerateAuthenticatorResponse (password : List Char)
    (ntResponse peerChallenge authenticatorChallenge userName : List UInt8) : List UInt8 :=
  let passwordHashHash := p.md4 (rfcNtPasswordHash p password)
  let digest := p.sha1 (passwordHashHash ++ ntResponse ++
    asciiBytes "Magic server to client signing constant")
  let challenge := rfcChallengeHash p peerChallenge authenticatorChallenge userName
  let digest := p.sha1 (digest ++ challenge ++ asciiBytes "Pad to make it do more than one iteration")
  asciiBytes "S=" ++ digest.flatMap fun b => [rfcHexDigit (b.toNat / 16), rfcHexDigit (b.toNat % 16)]

-- RFC 3079 section 3.4, GetMasterKey.
def rfcGetMasterKey (passwordHashHash ntResponse : List UInt8) : List UInt8 :=
  (p.sha1 (passwordHashHash ++ ntResponse ++ asciiBytes "This is the MPPE Master Key")).take 16

def rfcMagic2 : List UInt8 :=
  asciiBytes "On the client side, this is the send key; on the server side, it is the receive key."

def rfcMagic3 : List UInt8 :=
  asciiBytes "On the client side, this is the receive key; on the server side, it is the send key."

-- RFC 3079 section 3.4, GetAsymmetricStartKey.
def rfcGetAsymmetricStartKey (masterKey : List UInt8) (sessionKeyLength : Nat)
    (isSend isServer : Bool) : List UInt8 :=
  let s := if isSend then (if isServer then rfcMagic3 else rfcMagic2)
    else (if isServer then rfcMagic2 else rfcMagic3)
  (p.sha1 (masterKey ++ List.replicate 40 0 ++ s ++ List.replicate 40 0xf2)).take sessionKeyLength

-- The MSK of the server: MasterReceiveKey, MasterSendKey and 32 zero bytes.
def rfcServerMsk (password : List Char) (ntResponse : List UInt8) : List UInt8 :=
  let masterKey := rfcGetMasterKey p (p.md4 (rfcNtPasswordHash p password)) ntResponse
  rfcGetAsymmetricStartKey p masterKey 16 false true ++
    rfcGetAsymmetricStartKey p masterKey 16 true true ++ List.replicate 32 0

end Rfc

section Bits

theorem and254_div_two (w : Nat) : (w &&& 254) % 256 / 2 = w / 2 % 128 := by
  have small : w &&& 254 < 256 := lt_of_le_of_lt Nat.and_le_right (by norm_num)
  calc (w &&& 254) % 256 / 2 = (w &&& 254) >>> 1 := by
        rw [Nat.mod_eq_of_lt small, Nat.shiftRight_eq_div_pow, pow_one]
    _ = w >>> 1 &&& 2 ^ 7 - 1 := by
        rw [Nat.shiftRight_and_distrib]
        rfl
    _ = w / 2 % 128 := by
        rw [Nat.and_two_pow_sub_one_eq_mod, Nat.shiftRight_eq_div_pow, pow_one]

-- The seven bits `get7bits` puts in the high bits of its byte, as a window of the two bytes it reads.
theorem get7bits_div_two (input : List UInt8) (start : Nat) :
    (get7bits input start).toNat / 2 =
      ((input.getD (start / 8) 0).toNat * 256 + (input.getD (start / 8 + 1) 0).toNat) /
        2 ^ (15 - (start % 8 + 7)) / 2 % 128 := by
  have low := (input.getD (start / 8 + 1) 0).toNat_lt
  rw [get7bits, UInt8.toNat_ofNat', ← Nat.shiftLeft_add_eq_or_of_lt low, Nat.shiftLeft_eq,
    Nat.shiftRight_eq_div_pow]
  exact and254_div_two _

theorem or_one_div_two (n : Nat) : (n ||| 1) / 2 = n / 2 := by
  have shifted : (n ||| 1) >>> 1 = n >>> 1 := by
    rw [Nat.shiftRight_or_distrib, show (1 : Nat) >>> 1 = 0 from rfl, Nat.or_zero]
  simpa [Nat.shiftRight_eq_div_pow] using shifted

theorem oddParity_div_two (b : UInt8) : (oddParity b).toNat / 2 = b.toNat / 2 := by
  have high : (b &&& 0xfe).toNat / 2 = b.toNat / 2 := by
    have byte := b.toNat_lt
    rw [UInt8.toNat_and, show (0xfe : UInt8).toNat = 254 from rfl,
      ← Nat.mod_eq_of_lt (show b.toNat &&& 254 < 256 from lt_of_le_of_lt Nat.and_le_right (by norm_num)),
      and254_div_two]
    omega
  unfold oddParity
  dsimp only
  split
  · -- the parity bit set: the high bits are those of `b`
    rw [UInt8.toNat_or, show (1 : UInt8).toNat = 1 from rfl, or_one_div_two]
    exact high
  · exact high

theorem rfcDesKey_eq (key : List UInt8) :
    rfcDesKey key = [0, 1, 2, 3, 4, 5, 6, 7].map fun i =>
      UInt8.ofNat (bin2bn key / 2 ^ (49 - 7 * i) % 128 * 2) := rfl

theorem ofNat_mod_mul_two_div_two (n : Nat) : (UInt8.ofNat (n % 128 * 2)).toNat / 2 = n % 128 := by
  rw [UInt8.toNat_ofNat']
  omega

-- `mschap_des_addparity` puts the key's bits where the RFC's DES key has them; the byte after
-- the seven it spreads is read and masked away.
theorem mschapDesAddparity_div_two (key : List UInt8) (long : 8 ≤ key.length) :
    (mschapDesAddparity key).map (fun b => b.toNat / 2) =
      (rfcDesKey (key.take 7)).map (fun b => b.toNat / 2) := by
  match key, long with
  | b0 :: b1 :: b2 :: b3 :: b4 :: b5 :: b6 :: b7 :: rest, _ =>
    have := b0.toNat_lt
    have := b1.toNat_lt
    have := b2.toNat_lt
    have := b3.toNat_lt
    have := b4.toNat_lt
    have := b5.toNat_lt
    have := b6.toNat_lt
    have := b7.toNat_lt
    simp only [mschapDesAddparity, rfcDesKey_eq, List.map_cons, List.map_nil, oddParity_div_two,
      get7bits_div_two, ofNat_mod_mul_two_div_two]
    simp [bin2bn]
    -- one window of two bytes against the 56-bit number, for each of the eight key bytes
    refine ⟨?_, ?_, ?_, ?_, ?_, ?_, ?_, ?_⟩ <;> omega

end Bits

section Agree

variable {p : ChapPrimitives} (sound : p.Sound)
include sound

theorem mschapDesEncrypt_eq_rfc (clear : List UInt8) {key : List UInt8} (long : 8 ≤ key.length) :
    mschapDesEncrypt p clear key = rfcDesEncrypt p clear (key.take 7) :=
  sound.des_parity _ _ _ (mschapDesAddparity_div_two key long)

-- The three keys at offsets 0, 7 and 14 of the 22-byte buffer are the RFC's 7-byte slices of
-- the hash padded to 21 bytes; the 22nd byte is the one `get7bits` reads past the last slice.
theorem mschapChallengeResponse_eq_rfc (challenge : List UInt8) {pwhash : List UInt8}
    (hashLen : pwhash.length = mschapHashSz) :
    mschapChallengeResponse p challenge pwhash = rfcChallengeResponse p challenge pwhash := by
  have padded : writeAt (List.replicate 22 0) 0 (pwhash.take mschapHashSz) =
      pwhash ++ List.replicate 6 0 := by
    rw [List.take_of_length_le (by rw [hashLen])]
    have written := writeAt_after [] pwhash 6 (0 : UInt8)
    rw [hashLen] at written
    exact written
  have long : ∀ j ≤ 14, 8 ≤ ((pwhash ++ List.replicate 6 0).drop j).length := by
    intro j within
    simp only [List.length_drop, List.length_append, List.length_replicate, hashLen, mschapHashSz]
    omega
  unfold mschapChallengeResponse rfcChallengeResponse
  rw [padded]
  dsimp only
  have long0 := long 0 (by omega)
  rw [List.drop_zero] at long0
  rw [mschapDesEncrypt_eq_rfc sound _ long0,
    mschapDesEncrypt_eq_rfc sound _ (long 7 (by omega)),
    mschapDesEncrypt_eq_rfc sound _ (long 14 (by omega))]
  simp only [mschapHashSz] at hashLen
  simp [List.drop_append, List.take_append, hashLen]

end Agree

section Names

-- A configured user name with or without a `DOMAIN\` prefix: the challenge hash takes the
-- name behind it.
theorem challengeName_eq {username domain userName : List UInt8} (bare : 0x5c ∉ userName)
    (prefixed : username = userName ∨ username = domain ++ [0x5c] ++ userName) :
    challengeName username = userName := by
  have kept : userName.reverse.takeWhile (fun c => c != 0x5c) = userName.reverse := by
    rw [List.takeWhile_eq_self_iff]
    intro c member
    have : c ≠ 0x5c := fun same => bare (same ▸ List.mem_reverse.mp member)
    simpa using this
  rcases prefixed with rfl | rfl
  · rw [challengeName, kept, List.reverse_reverse]
  · rw [challengeName, List.reverse_append, List.reverse_append, List.takeWhile_append, kept,
      if_pos rfl]
    simp

-- `string2unicode` widens ASCII byte by byte: UTF-16LE of the password's characters.
theorem string2unicode_ascii {password : List UInt8} (ascii : ∀ c ∈ password, c.toNat < 128) :
    string2unicode password = utf16le (password.map fun b => Char.ofNat b.toNat) := by
  induction password with
  | nil => rfl
  | cons b rest ih =>
    have small := ascii b List.mem_cons_self
    have valid : b.toNat.isValidChar := by
      unfold Nat.isValidChar
      omega
    have restWide := ih fun c member => ascii c (List.mem_cons_of_mem b member)
    simp only [string2unicode, utf16le, List.map_cons, List.flatMap_cons] at restWide ⊢
    rw [restWide, Char.toNat_ofNat, if_pos valid, UInt8.ofNat_toNat, Nat.div_eq_of_lt (by omega)]
    rfl

theorem mschapChallengeHash_eq_rfc (p : ChapPrimitives) {peerChallenge authChallenge username domain
    userName : List UInt8} (peerLen : peerChallenge.length = mschapv2ChallengeSz)
    (authLen : authChallenge.length = mschapv2ChallengeSz) (bare : 0x5c ∉ userName)
    (prefixed : username = userName ∨ username = domain ++ [0x5c] ++ userName) :
    mschapChallengeHash p peerChallenge authChallenge username =
      rfcChallengeHash p peerChallenge authChallenge userName := by
  rw [mschapChallengeHash, List.take_of_length_le (Nat.le_of_eq peerLen),
    List.take_of_length_le (Nat.le_of_eq authLen), challengeName_eq bare prefixed]
  rfl

end Names

section Texts

theorem authMagic1_eq : authMagic1 = asciiBytes "Magic server to client signing constant" := by
  simp [authMagic1, asciiBytes]

theorem authMagic2_eq : authMagic2 = asciiBytes "Pad to make it do more than one iteration" := by
  simp [authMagic2, asciiBytes]

theorem masterMagic1_eq : masterMagic1 = asciiBytes "This is the MPPE Master Key" := by
  simp [masterMagic1, asciiBytes]

theorem startkeyMagic2_eq : startkeyMagic2 = rfcMagic2 := by
  simp [startkeyMagic2, rfcMagic2, asciiBytes]

theorem startkeyMagic3_eq : startkeyMagic3 = rfcMagic3 := by
  simp [startkeyMagic3, rfcMagic3, asciiBytes]

theorem hexDigits_getD {n : Nat} (small : n < 16) : hexDigits.getD n 0 = rfcHexDigit n := by
  interval_cases n <;> rfl

-- The table lookup of `mschap_auth_response` writes the upper-case hex digits of a byte.
theorem hexByte_eq (b : UInt8) :
    hexByte b = [rfcHexDigit (b.toNat / 16), rfcHexDigit (b.toNat % 16)] := by
  have byte := b.toNat_lt
  rw [hexByte, Nat.shiftRight_eq_div_pow, show (0x0f : Nat) = 2 ^ 4 - 1 from rfl,
    Nat.and_two_pow_sub_one_eq_mod, hexDigits_getD (by omega), hexDigits_getD (by omega)]

theorem flatMap_range_getD {α : Type} (l : List UInt8) (f : UInt8 → List α) :
    (List.range l.length).flatMap (fun i => f (l.getD i 0)) = l.flatMap f := by
  induction l with
  | nil => rfl
  | cons b rest ih =>
    rw [List.length_cons, List.range_succ_eq_map, List.flatMap_cons, List.flatMap_map,
      List.flatMap_cons, ← ih]
    rfl

-- `mschap_msk`'s two copies into the zeroed 64 bytes.
theorem writeAt_keys {recvkey sendkey : List UInt8} (recvLen : recvkey.length = mschapMasterkeySz)
    (sendLen : sendkey.length = mschapMasterkeySz) :
    writeAt (writeAt (List.replicate mschapMskSz 0) 0 recvkey) mschapMasterkeySz sendkey =
      recvkey ++ sendkey ++ List.replicate 32 0 := by
  have first := writeAt_after [] recvkey 48 (0 : UInt8)
  have second := writeAt_after recvkey sendkey 32 (0 : UInt8)
  rw [recvLen] at first
  rw [sendLen, recvLen] at second
  simp only [List.nil_append, List.length_nil] at first
  rw [show mschapMskSz = mschapMasterkeySz + 48 from rfl, first]
  exact second

end Texts

section Agree

variable {p : ChapPrimitives} (sound : p.Sound)
include sound

theorem take_md4 (input : List UInt8) : (p.md4 input).take mschapHashSz = p.md4 input :=
  List.take_of_length_le (Nat.le_of_eq (sound.md4_length input))

theorem take_sha1 (input : List UInt8) : (p.sha1 input).take shaDigestLength = p.sha1 input :=
  List.take_of_length_le (Nat.le_of_eq (sound.sha1_length input))

theorem length_take_sha1 (input : List UInt8) {n : Nat} (within : n ≤ shaDigestLength) :
    ((p.sha1 input).take n).length = n := by
  rw [List.length_take, sound.sha1_length]
  exact Nat.min_eq_left within

variable {authChallenge peerChallenge username domain userName password : List UInt8}

-- The NT-Response `ikev2_resp_ike_eap_mschap` compares with the peer's is RFC 2759's
-- GenerateNTResponse.
theorem mschapNtResponse_eq_rfc (authLen : authChallenge.length = mschapv2ChallengeSz)
    (peerLen : peerChallenge.length = mschapv2ChallengeSz) (bare : 0x5c ∉ userName)
    (prefixed : username = userName ∨ username = domain ++ [0x5c] ++ userName)
    (ascii : ∀ c ∈ password, c.toNat < 128) :
    mschapNtResponse p authChallenge peerChallenge username (string2unicode password) =
      rfcGenerateNtResponse p authChallenge peerChallenge userName
        (password.map fun b => Char.ofNat b.toNat) := by
  rw [mschapNtResponse, mschapNtpasswordHash, mschapChallengeResponse_eq_rfc sound _ (sound.md4_length _),
    mschapChallengeHash_eq_rfc p peerLen authLen bare prefixed, string2unicode_ascii ascii]
  rfl

-- The success message is "S=" and the upper-case hex digits of RFC 2759's
-- GenerateAuthenticatorResponse.
theorem mschapAuthResponse_eq_rfc {ntresponse : List UInt8}
    (authLen : authChallenge.length = mschapv2ChallengeSz)
    (peerLen : peerChallenge.length = mschapv2ChallengeSz)
    (ntLen : ntresponse.length = eapMschapNtresponseSz) (bare : 0x5c ∉ userName)
    (prefixed : username = userName ∨ username = domain ++ [0x5c] ++ userName)
    (ascii : ∀ c ∈ password, c.toNat < 128) :
    mschapAuthResponse p (string2unicode password) ntresponse authChallenge peerChallenge username =
      rfcGenerateAuthenticatorResponse p (password.map fun b => Char.ofNat b.toNat) ntresponse
        peerChallenge authChallenge userName := by
  unfold mschapAuthResponse rfcGenerateAuthenticatorResponse
  dsimp only
  rw [mschapChallengeHash_eq_rfc p peerLen authLen bare prefixed, string2unicode_ascii ascii,
    mschapNtpasswordHash, mschapNtpasswordHash, take_md4 sound, take_md4 sound,
    List.take_of_length_le (Nat.le_of_eq ntLen), take_sha1 sound, authMagic1_eq, authMagic2_eq,
    ← sound.sha1_length (p.sha1 _ ++ _ ++ _), flatMap_range_getD,
    show hexByte = fun b => [rfcHexDigit (b.toNat / 16), rfcHexDigit (b.toNat % 16)] from
      funext hexByte_eq]
  rfl

-- The MSK is the server's MasterReceiveKey and MasterSendKey of RFC 3079 and 32 zero bytes.
theorem mschapMsk_eq_rfc {ntresponse : List UInt8} (ntLen : ntresponse.length = eapMschapNtresponseSz)
    (ascii : ∀ c ∈ password, c.toNat < 128) :
    mschapMsk p (string2unicode password) ntresponse =
      rfcServerMsk p (password.map fun b => Char.ofNat b.toNat) ntresponse := by
  unfold mschapMsk rfcServerMsk rfcGetMasterKey rfcGetAsymmetricStartKey mschapAsymetricStartkey
    mschapMasterkey
  dsimp only
  rw [string2unicode_ascii ascii, mschapNtpasswordHash, mschapNtpasswordHash, take_md4 sound,
    take_md4 sound, List.take_of_length_le (Nat.le_of_eq ntLen), masterMagic1_eq]
  rw [writeAt_keys (length_take_sha1 sound _ (by decide)) (length_take_sha1 sound _ (by decide))]
  -- the server's receive key takes the client's send text, its send key the client's receive text
  simp only [List.take_take, min_self, ↓reduceIte, Bool.false_eq_true, startkeyMagic2_eq,
    startkeyMagic3_eq, sha1Pad1, sha1Pad2]
  rfl

end Agree

section Handler

open OpenIKED.Ikev2.Eap (EapMsg EapSa Iked IkedUser MschapCrypto userLookup ikev2RespIkeEapMschap
  eapStateIdentity eapStateMschapv2Challenge)

-- `ikev2_resp_ike_eap_mschap` on an MSCHAPv2 Response of a configured user, with the
-- challenge it stored, run with `chap_ms.c`: it accepts exactly the NT-Response of RFC 2759
-- and stores the MSK of RFC 3079, and the success message it builds then is the RFC's
-- authenticator response; any other NT-Response is refused with the SA as it was.
theorem ikev2RespIkeEapMschap_follows_rfc2759 (p : ChapPrimitives) (sound : p.Sound) (env : Iked)
    (sa : EapSa) (msg : EapMsg) (challenge : Vector UInt8 16) (sent : Int) (name : List UInt8)
    (usr : IkedUser) (authChallenge domain userName : List UInt8)
    (state : msg.eamState = eapStateMschapv2Challenge) (named : msg.eamUser.or sa.saEapid = some name)
    (found : userLookup env name = some usr) (stored : sa.saEap = some authChallenge)
    (authLen : authChallenge.length = mschapv2ChallengeSz)
    (peerLen : msg.eamChallenge.length = mschapv2ChallengeSz)
    (responseLen : msg.eamNtresponse.length = eapMschapNtresponseSz) (bare : 0x5c ∉ userName)
    (prefixed : usr.usrName = userName ∨ usr.usrName = domain ++ [0x5c] ++ userName)
    (ascii : ∀ c ∈ usr.usrPass, c.toNat < 128) :
    (msg.eamNtresponse = rfcGenerateNtResponse p authChallenge msg.eamChallenge userName
        (usr.usrPass.map fun b => Char.ofNat b.toNat) →
      ∃ sa', ikev2RespIkeEapMschap (chapMsCrypto p) env sa msg challenge sent = .returned 0 sa' ∧
        sa'.saEapmsk = some (rfcServerMsk p (usr.usrPass.map fun b => Char.ofNat b.toNat)
          msg.eamNtresponse) ∧
        mschapAuthResponse p (string2unicode usr.usrPass) msg.eamNtresponse authChallenge
            msg.eamChallenge usr.usrName =
          rfcGenerateAuthenticatorResponse p (usr.usrPass.map fun b => Char.ofNat b.toNat)
            msg.eamNtresponse msg.eamChallenge authChallenge userName) ∧
    (msg.eamNtresponse ≠ rfcGenerateNtResponse p authChallenge msg.eamChallenge userName
        (usr.usrPass.map fun b => Char.ofNat b.toNat) →
      ikev2RespIkeEapMschap (chapMsCrypto p) env sa msg challenge sent = .returned (-1) sa) := by
  have computed : (chapMsCrypto p).ntResponse authChallenge msg.eamChallenge usr.usrName
      (string2unicode usr.usrPass) = rfcGenerateNtResponse p authChallenge msg.eamChallenge userName
        (usr.usrPass.map fun b => Char.ofNat b.toNat) :=
    mschapNtResponse_eq_rfc sound authLen peerLen bare prefixed ascii
  -- the handler's path to the comparison: the response state, the user, the stored challenge
  have reached : ikev2RespIkeEapMschap (chapMsCrypto p) env sa msg challenge sent =
      if (chapMsCrypto p).ntResponse authChallenge msg.eamChallenge usr.usrName
          (string2unicode usr.usrPass) ≠ msg.eamNtresponse then .returned (-1) sa
      else
        if sent = 0 then .returned 0 { sa with
          saEapmsk := some ((chapMsCrypto p).msk (string2unicode usr.usrPass) ((chapMsCrypto p).ntResponse
            authChallenge msg.eamChallenge usr.usrName (string2unicode usr.usrPass))),
          status := OpenIKED.Policy.saState sa.status OpenIKED.Policy.ikev2StateAuthSuccess }
        else .returned 0 { sa with
          saEapmsk := some ((chapMsCrypto p).msk (string2unicode usr.usrPass) ((chapMsCrypto p).ntResponse
            authChallenge msg.eamChallenge usr.usrName (string2unicode usr.usrPass))) } := by
    have notIdentity : msg.eamState ≠ eapStateIdentity := by
      rw [state]
      decide
    unfold ikev2RespIkeEapMschap
    rw [if_neg notIdentity, if_pos state, named]
    dsimp only
    rw [found]
    dsimp only
    rw [stored]
  rw [reached, computed]
  constructor
  · intro answered
    have msk : (chapMsCrypto p).msk (string2unicode usr.usrPass) msg.eamNtresponse =
        rfcServerMsk p (usr.usrPass.map fun b => Char.ofNat b.toNat) msg.eamNtresponse :=
      mschapMsk_eq_rfc sound responseLen ascii
    have authResponse := mschapAuthResponse_eq_rfc sound authLen peerLen responseLen bare prefixed ascii
    rw [if_neg (not_not.mpr answered.symm), ← answered, msk]
    -- whether or not the success request went out, the MSK is stored
    by_cases delivered : sent = 0
    · exact ⟨_, if_pos delivered, rfl, authResponse⟩
    · exact ⟨_, if_neg delivered, rfl, authResponse⟩
  · intro refused
    rw [if_pos (Ne.symm refused)]

-- Primitives that answer zeros, and the user `EXAMPLE\alice` with password `pass`, whom
-- the SA has sent a challenge.
def zeroPrimitives : ChapPrimitives :=
  ⟨fun _ => List.replicate 16 0, fun _ => List.replicate 20 0, fun _ _ => List.replicate 8 0⟩

theorem zeroPrimitives_sound : zeroPrimitives.Sound :=
  ⟨fun _ => rfl, fun _ => rfl, fun _ _ _ _ => rfl⟩

def domainAlice : IkedUser :=
  ⟨[69, 88, 65, 77, 80, 76, 69, 0x5c, 97, 108, 105, 99, 101], [112, 97, 115, 115]⟩

def challengedSa : EapSa :=
  { status := OpenIKED.Policy.saState (OpenIKED.Policy.saNewStatus false 26 255)
      OpenIKED.Policy.ikev2StateEap,
    saInitiator := false, polAuthEap := 26, saEapid := some domainAlice.usrName,
    saEap := some (List.replicate 16 7), saEapmsk := none }

def wrongResponse : EapMsg :=
  { eamState := eapStateMschapv2Challenge, eamChallenge := List.replicate 16 1,
    eamNtresponse := List.replicate 24 1 }

theorem ikev2RespIkeEapMschap_refuses_wrong_response :
    ikev2RespIkeEapMschap (chapMsCrypto zeroPrimitives) ⟨[domainAlice]⟩ challengedSa wrongResponse
      (Vector.replicate 16 0) 0 = .returned (-1) challengedSa :=
  (ikev2RespIkeEapMschap_follows_rfc2759 zeroPrimitives zeroPrimitives_sound ⟨[domainAlice]⟩
    challengedSa wrongResponse (Vector.replicate 16 0) 0 domainAlice.usrName domainAlice
    (List.replicate 16 7) [69, 88, 65, 77, 80, 76, 69] [97, 108, 105, 99, 101] rfl rfl
    (by decide +kernel) rfl rfl rfl rfl (by decide) (Or.inr rfl) (by decide +kernel)).2
    (by decide +kernel)

end Handler

end OpenIKED.Ikev2.ChapMs
