import OpenIKED.Util.Sockaddr
import OpenIKED.Ikev2.PldParse

set_option autoImplicit false

/-!
# Sending a message in SKF fragments

`ikev2_msg_send_encrypt` asks `ikev2_check_frag_oversize` whether the inner payloads
`e` would make a message too large for the path, and if so
`ikev2_send_encrypted_fragments` cuts `e` into pieces of at most `max_len` bytes and
sends each in its own SKF message.  Encryption and the IKE headers are left out: a
fragment is its number, the total, its plaintext and the first-payload field.
-/

namespace OpenIKED.Ikev2.FragSend

open OpenIKED.Util (afInet)
open OpenIKED.Ikev2.PldParse (sizeSub sizeSub_of_le)

def ikev2Ipv4Overhead : Nat := 20 + 8 + 28
def ikev2MaxlenIpv4Frag : Nat := 576 - ikev2Ipv4Overhead
def ikev2Ipv6Overhead : Nat := 40 + 8 + 28
def ikev2MaxlenIpv6Frag : Nat := 1280 - ikev2Ipv6Overhead

-- The lengths of `struct iked_cipher` that the size computations read.
structure IkedCipher where
  encrLength : Nat
  encrIvlength : Nat
deriving DecidableEq, Repr

structure IkedHash where
  hashLength : Nat
  hashTrunc : Nat
deriving DecidableEq, Repr

def cipherLength (encr : IkedCipher) : Nat := encr.encrLength

def cipherIvlength (encr : IkedCipher) : Nat := encr.encrIvlength

def hashLength (hash : IkedHash) : Nat := if hash.hashTrunc ≠ 0 then hash.hashTrunc else hash.hashLength

-- The fields of `struct iked_sa` the two functions read.
structure FragSa where
  saEncr : Option IkedCipher
  saIntegr : Option IkedHash
  saLocalFamily : Nat
  saFrag : Bool
deriving DecidableEq, Repr

def fragMax (family : Nat) : Nat :=
  if family = afInet then ikev2MaxlenIpv4Frag else ikev2MaxlenIpv6Frag

-- The `max_len` of `ikev2_send_encrypted_fragments`, in `size_t`.
def fragMaxLen (family : Nat) (encr : IkedCipher) (integr : IkedHash) : Nat :=
  sizeSub (sizeSub (sizeSub (fragMax family) (cipherIvlength encr)) (cipherLength encr))
    (hashLength integr)

def ikev2CheckFragOversize (sa : FragSa) (len : Nat) : Int :=
  match sa.saEncr, sa.saIntegr with
  | some encr, some integr =>
    -- estimated packet size, with 0 < padding < blocklen
    if len + cipherIvlength encr + cipherLength encr + hashLength integr ≥ fragMax sa.saLocalFamily ∧
        sa.saFrag then 1
    else 0
  | _, _ => -1

structure SkfFragment where
  fragNum : Nat
  fragTotal : Nat
  plaintext : List UInt8
  firstpayload : Nat
deriving DecidableEq, Repr

-- The `while (frag_num <= frag_total)` loop, run `count` more times from fragment
-- `fragNum` with the bytes `left` still to send; `send n` is what `ikev2_msg_send`
-- returns for fragment `n`.  It ends with the return value and the fragments sent.
def sendLoop (maxLen fragTotal : Nat) (send : Nat → Bool) :
    Nat → Nat → List UInt8 → Nat → Int × List SkfFragment
  | 0, _, _, _ => (0, [])
  | count + 1, fragNum, left, firstpayload =>
    -- `ibuf_new(data, MINIMUM(left, max_len))`
    let fragment : SkfFragment := ⟨fragNum, fragTotal, left.take maxLen, firstpayload⟩
    if send fragNum then
      -- the first payload field must be zero after the first fragment
      let rest := sendLoop maxLen fragTotal send count (fragNum + 1) (left.drop maxLen) 0
      (rest.1, fragment :: rest.2)
    else (-1, [])

def ikev2SendEncryptedFragments (sa : FragSa) (input : List UInt8) (firstpayload : Nat)
    (send : Nat → Bool) : Int × List SkfFragment :=
  match sa.saEncr, sa.saIntegr with
  | some encr, some integr =>
    let maxLen := fragMaxLen sa.saLocalFamily encr integr
    let fragTotal := input.length / maxLen + 1
    sendLoop maxLen fragTotal send fragTotal 1 input firstpayload
  | _, _ => (-1, [])

-- The choice `ikev2_msg_send_encrypt` makes: `none` where it builds one SK message,
-- the fragments where it hands `e` to `ikev2_send_encrypted_fragments`.
def ikev2MsgSendEncrypt (sa : FragSa) (e : List UInt8) (firstpayload : Nat) (send : Nat → Bool) :
    Option (Int × List SkfFragment) :=
  if ikev2CheckFragOversize sa e.length ≠ 0 then
    some (ikev2SendEncryptedFragments sa e firstpayload send)
  else none

theorem fragMax_le (family : Nat) : fragMax family ≤ 1204 := by
  unfold fragMax
  split <;> decide

-- With the real transforms the `size_t` subtractions do not wrap.
theorem fragMaxLen_eq (family : Nat) (encr : IkedCipher) (integr : IkedHash)
    (fits : cipherIvlength encr + cipherLength encr + hashLength integr ≤ fragMax family) :
    fragMaxLen family encr integr =
      fragMax family - cipherIvlength encr - cipherLength encr - hashLength integr := by
  have small := fragMax_le family
  unfold fragMaxLen
  rw [sizeSub_of_le (fragMax family) (cipherIvlength encr) (by omega) (by omega),
    sizeSub_of_le (fragMax family - cipherIvlength encr) (cipherLength encr) (by omega) (by omega),
    sizeSub_of_le _ (hashLength integr) (by omega) (by omega)]

-- AES-CBC with a 128-bit key (16-byte blocks and IV) and HMAC-SHA2-256-128 on an IPv4
-- SA that negotiated fragmentation.
def cbcSha256Sa : FragSa :=
  { saEncr := some ⟨16, 16⟩, saIntegr := some ⟨32, 16⟩, saLocalFamily := afInet, saFrag := true }

-- The fragments the loop sends when every send succeeds: fragment `fragNum + i`
-- carries the `i`-th piece of `max_len` bytes.
def pieces (maxLen fragTotal count fragNum : Nat) (left : List UInt8) (firstpayload : Nat) :
    List SkfFragment :=
  (List.range count).map fun i =>
    ⟨fragNum + i, fragTotal, (left.drop (i * maxLen)).take maxLen, if i = 0 then firstpayload else 0⟩

theorem pieces_succ (maxLen fragTotal count fragNum : Nat) (left : List UInt8) (firstpayload : Nat) :
    pieces maxLen fragTotal (count + 1) fragNum left firstpayload =
      ⟨fragNum, fragTotal, left.take maxLen, firstpayload⟩ ::
        pieces maxLen fragTotal count (fragNum + 1) (left.drop maxLen) 0 := by
  unfold pieces
  rw [List.range_succ_eq_map, List.map_cons, List.map_map]
  congr 1
  · simp
  · apply List.map_congr_left
    intro i _
    have number : fragNum + (i + 1) = fragNum + 1 + i := by omega
    have offset : (i + 1) * maxLen = maxLen + i * maxLen := by rw [Nat.succ_mul, Nat.add_comm]
    simp only [Function.comp_apply, List.drop_drop, offset, number, Nat.succ_ne_zero, if_false,
      ite_self]

theorem sendLoop_eq_pieces (maxLen fragTotal : Nat) (send : Nat → Bool) (allSent : ∀ n, send n = true) :
    ∀ count fragNum left firstpayload,
      sendLoop maxLen fragTotal send count fragNum left firstpayload =
        (0, pieces maxLen fragTotal count fragNum left firstpayload) := by
  intro count
  induction count with
  | zero => intro _ _ _; rfl
  | succ count ih =>
    intro fragNum left firstpayload
    rw [sendLoop, if_pos (allSent fragNum), ih, pieces_succ]

theorem pieces_plaintexts (maxLen fragTotal count fragNum : Nat) (left : List UInt8)
    (firstpayload : Nat) :
    ((pieces maxLen fragTotal count fragNum left firstpayload).map (·.plaintext)).flatten =
      left.take (count * maxLen) := by
  induction count with
  | zero => simp [pieces]
  | succ count ih =>
    -- the new last piece continues where the others stopped
    have last := List.take_add (l := left) (i := count * maxLen) (j := maxLen)
    unfold pieces at ih ⊢
    rw [List.range_succ, List.map_append, List.map_append, List.flatten_append, ih,
      Nat.succ_mul, last]
    simp

theorem pieces_plaintext_length (maxLen fragTotal count fragNum : Nat) (left : List UInt8)
    (firstpayload : Nat) (i : Nat) (inside : i < (pieces maxLen fragTotal count fragNum left firstpayload).length) :
    (pieces maxLen fragTotal count fragNum left firstpayload)[i].plaintext.length =
      min maxLen (left.length - i * maxLen) := by
  simp [pieces]

@[simp] theorem pieces_length (maxLen fragTotal count fragNum : Nat) (left : List UInt8)
    (firstpayload : Nat) : (pieces maxLen fragTotal count fragNum left firstpayload).length = count := by
  simp [pieces]

/-- With every send succeeding, `ikev2_send_encrypted_fragments` sends
`len / max_len + 1` fragments, numbered from 1, cutting `e` into pieces of `max_len`
bytes. -/
theorem ikev2SendEncryptedFragments_eq_pieces (sa : FragSa) (encr : IkedCipher) (integr : IkedHash)
    (withEncr : sa.saEncr = some encr) (withIntegr : sa.saIntegr = some integr)
    (input : List UInt8) (firstpayload : Nat) (send : Nat → Bool) (allSent : ∀ n, send n = true) :
    ikev2SendEncryptedFragments sa input firstpayload send =
      (0, pieces (fragMaxLen sa.saLocalFamily encr integr)
        (input.length / fragMaxLen sa.saLocalFamily encr integr + 1)
        (input.length / fragMaxLen sa.saLocalFamily encr integr + 1) 1 input firstpayload) := by
  unfold ikev2SendEncryptedFragments
  rw [withEncr, withIntegr]
  exact sendLoop_eq_pieces _ _ send allSent _ _ _ _

theorem pieces_cover (maxLen : Nat) (positive : 0 < maxLen) (input : List UInt8) (firstpayload : Nat) :
    ((pieces maxLen (input.length / maxLen + 1) (input.length / maxLen + 1) 1 input
      firstpayload).map (·.plaintext)).flatten = input := by
  rw [pieces_plaintexts]
  apply List.take_of_length_le
  have split := Nat.div_add_mod input.length maxLen
  have rest := Nat.mod_lt input.length positive
  rw [Nat.succ_mul, Nat.mul_comm]
  omega

/-- Every piece but the last is full, and the last one is empty exactly when `max_len`
divides the length of the input. -/
theorem pieces_last_empty_iff (maxLen : Nat) (positive : 0 < maxLen) (input : List UInt8)
    (firstpayload : Nat) :
    ((pieces maxLen (input.length / maxLen + 1) (input.length / maxLen + 1) 1 input
      firstpayload).map (·.plaintext))[input.length / maxLen]? = some [] ↔
      maxLen ∣ input.length := by
  have inside : input.length / maxLen <
      (pieces maxLen (input.length / maxLen + 1) (input.length / maxLen + 1) 1 input
        firstpayload).length := by simp
  rw [List.getElem?_map, List.getElem?_eq_getElem inside, Option.map_some, Option.some_inj,
    ← List.length_eq_zero_iff, pieces_plaintext_length, Nat.dvd_iff_mod_eq_zero]
  have split := Nat.div_add_mod input.length maxLen
  have rest := Nat.mod_lt input.length positive
  rw [Nat.mul_comm] at split
  constructor <;> intro h <;> omega

theorem pieces_full (maxLen : Nat) (input : List UInt8) (firstpayload : Nat) (i : Nat)
    (early : i < input.length / maxLen) :
    ((pieces maxLen (input.length / maxLen + 1) (input.length / maxLen + 1) 1 input
      firstpayload).map (·.plaintext.length))[i]? = some maxLen := by
  have inside : i < (pieces maxLen (input.length / maxLen + 1) (input.length / maxLen + 1) 1 input
      firstpayload).length := by
    simp
    omega
  rw [List.getElem?_map, List.getElem?_eq_getElem inside, Option.map_some, pieces_plaintext_length]
  have room : (i + 1) * maxLen ≤ input.length :=
    Nat.le_trans (Nat.mul_le_mul_right maxLen early) (Nat.div_mul_le_self _ _)
  rw [Nat.succ_mul] at room
  congr 1
  omega

/-- What `ikev2_send_encrypted_fragments` sends when every send succeeds, for every SA
whose transforms leave room in a fragment: `len / max_len + 1` fragments numbered from 1,
each with the total, the first payload only in fragment 1, and plaintexts of `max_len`
bytes but the last, which together give back the input. -/
theorem ikev2SendEncryptedFragments_spec (sa : FragSa) (encr : IkedCipher) (integr : IkedHash)
    (withEncr : sa.saEncr = some encr) (withIntegr : sa.saIntegr = some integr)
    (room : cipherIvlength encr + cipherLength encr + hashLength integr < fragMax sa.saLocalFamily)
    (input : List UInt8) (firstpayload : Nat) (send : Nat → Bool) (allSent : ∀ n, send n = true) :
    ∃ fragments, ikev2SendEncryptedFragments sa input firstpayload send = (0, fragments) ∧
      fragments.length = input.length / fragMaxLen sa.saLocalFamily encr integr + 1 ∧
      (fragments.map (·.plaintext)).flatten = input ∧
      (∀ i < input.length / fragMaxLen sa.saLocalFamily encr integr,
        (fragments.map (·.plaintext.length))[i]? = some (fragMaxLen sa.saLocalFamily encr integr)) ∧
      ∀ i (inside : i < fragments.length), fragments[i].fragNum = i + 1 ∧
        fragments[i].fragTotal = fragments.length ∧
        fragments[i].firstpayload = if i = 0 then firstpayload else 0 := by
  have positive : 0 < fragMaxLen sa.saLocalFamily encr integr := by
    rw [fragMaxLen_eq _ _ _ (Nat.le_of_lt room)]
    omega
  refine ⟨_, ikev2SendEncryptedFragments_eq_pieces sa encr integr withEncr withIntegr input
    firstpayload send allSent, pieces_length .., pieces_cover _ positive input firstpayload,
    fun i early => pieces_full _ input firstpayload i early, fun i inside => ?_⟩
  simp [pieces, Nat.add_comm 1 i]

-- A thousand bytes on the AES-CBC SA: two full fragments of 472 bytes and one of 56.
def thousandBytes : List UInt8 := List.replicate 1000 0

theorem ikev2SendEncryptedFragments_spec_of_cbc :
    cipherIvlength ⟨16, 16⟩ + cipherLength ⟨16, 16⟩ + hashLength ⟨32, 16⟩ <
      fragMax cbcSha256Sa.saLocalFamily ∧
    ∃ fragments, ikev2SendEncryptedFragments cbcSha256Sa thousandBytes 35
        (fun _ => true) = (0, fragments) ∧
      fragments.length = thousandBytes.length /
        fragMaxLen cbcSha256Sa.saLocalFamily ⟨16, 16⟩ ⟨32, 16⟩ + 1 ∧
      (fragments.map (·.plaintext)).flatten = thousandBytes ∧
      (∀ i < thousandBytes.length / fragMaxLen cbcSha256Sa.saLocalFamily ⟨16, 16⟩ ⟨32, 16⟩,
        (fragments.map (·.plaintext.length))[i]? =
          some (fragMaxLen cbcSha256Sa.saLocalFamily ⟨16, 16⟩ ⟨32, 16⟩)) ∧
      ∀ i (inside : i < fragments.length), fragments[i].fragNum = i + 1 ∧
        fragments[i].fragTotal = fragments.length ∧
        fragments[i].firstpayload = if i = 0 then 35 else 0 :=
  ⟨by decide, ikev2SendEncryptedFragments_spec cbcSha256Sa ⟨16, 16⟩ ⟨32, 16⟩ rfl rfl (by decide)
    thousandBytes 35 (fun _ => true) fun _ => rfl⟩

-- Inner payloads of exactly `max_len` bytes: 520 - 16 - 16 - 16 = 472.
def exactPayload : List UInt8 := List.replicate 472 0

theorem exactPayload_length : exactPayload.length = 472 := List.length_replicate

theorem ikev2MsgSendEncrypt_sends_empty_fragment :
    fragMaxLen afInet ⟨16, 16⟩ ⟨32, 16⟩ = 472 ∧
    ikev2MsgSendEncrypt cbcSha256Sa exactPayload 35 (fun _ => true) =
      some (0, [⟨1, 2, exactPayload, 35⟩, ⟨2, 2, [], 0⟩]) := by
  have maxLen : fragMaxLen afInet ⟨16, 16⟩ ⟨32, 16⟩ = 472 := by decide
  refine ⟨maxLen, ?_⟩
  -- the payload is not larger than one fragment carries, yet it is fragmented
  have oversize : ikev2CheckFragOversize cbcSha256Sa exactPayload.length = 1 := by
    rw [exactPayload_length]
    decide
  unfold ikev2MsgSendEncrypt
  rw [if_pos (by rw [oversize]; decide), ikev2SendEncryptedFragments_eq_pieces cbcSha256Sa
    ⟨16, 16⟩ ⟨32, 16⟩ rfl rfl _ _ _ fun _ => rfl]
  -- `frag_total = 472 / 472 + 1 = 2`, and the second piece is what is left: nothing
  have family : cbcSha256Sa.saLocalFamily = afInet := rfl
  rw [family, maxLen, exactPayload_length, pieces_succ, pieces_succ,
    List.take_of_length_le (Nat.le_of_eq exactPayload_length),
    List.drop_of_length_le (Nat.le_of_eq exactPayload_length)]
  rfl

end OpenIKED.Ikev2.FragSend
