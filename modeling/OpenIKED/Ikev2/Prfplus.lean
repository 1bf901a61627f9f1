import OpenIKED.Ikev2.SaKeys

set_option autoImplicit false

/-!
# `ikev2_prfplus` and `ikev2_sa_keys` against RFC 7296

prf+ of RFC 7296 section 2.13 chains each block through the one before it and an 8-bit
counter, and the keys of an IKE SA are consecutive slices of prf+ of SKEYSEED (section
2.14).  The model computes both in `ibuf`s of at most `IKED_MSGBUF_MAX` bytes, and the appends
of `ikev2_prfplus` are not checked: while everything fits, the two agree with the RFC, and
past that size the key material stops growing (`ikev2Prfplus_length_le`).
-/

namespace OpenIKED.Ikev2.Prfplus

open OpenIKED.Shared
open OpenIKED.Ikev2.FragSend (IkedHash hashLength)
open OpenIKED.Ikev2.MsgCrypt (hashKeylength hashFinalLength ibufSetsize)
open OpenIKED.Ikev2.PrintId (ikedMsgbufMax)
open OpenIKED.Ikev2.SaKeys

/-! ## The RFC's definitions -/

section Rfc

variable (prf : List UInt8 → List UInt8 → List UInt8) (key seed : List UInt8)

/-- `T(i) = prf(K, T(i - 1) | S | i)`, with `T(0)` empty. -/
def rfcBlock : Nat → List UInt8
  | 0 => []
  | i + 1 => prf key (rfcBlock i ++ seed ++ [UInt8.ofNat (i + 1)])

/-- `prf+(K, S) = T1 | T2 | ... | Tr`. -/
def rfcPrfplus : Nat → List UInt8
  | 0 => []
  | r + 1 => rfcPrfplus r ++ rfcBlock prf key seed (r + 1)

end Rfc

/-- SKEYSEED: `prf(Ni | Nr, g^ir)` for a new IKE SA, `prf(SK_d (old), g^ir | Ni | Nr)` on a
rekey. -/
def rfcSkeyseed (prf : List UInt8 → List UInt8 → List UInt8) (ni nr g : List UInt8) :
    Option (List UInt8) → List UInt8
  | none => prf (ni ++ nr) g
  | some skd => prf skd (g ++ ni ++ nr)

-- `S = Ni | Nr | SPIi | SPIr`.
def ikeSeed (sa : KeySa) : List UInt8 :=
  sa.saInonce ++ sa.saRnonce ++ be64Bytes sa.shIspi ++ be64Bytes sa.shRspi

/-- Consecutive pieces of the given lengths from the front. -/
def cuts {α : Type} : List Nat → List α → List (List α)
  | [], _ => []
  | n :: ns, t => t.take n :: cuts ns (t.drop n)

-- `ceil(n / hash_length)`: the number of blocks for `n` bytes.
def prfRounds (prf : IkedHash) (n : Nat) : Nat := (n + hashLength prf - 1) / hashLength prf

-- The lengths of `SK_d | SK_ai | SK_ar | SK_ei | SK_er | SK_pi | SK_pr`; an AEAD has no auth keys.
def keyLengths (prf integr : SaHash) (encr : SaCipher) : List Nat :=
  let authlen := if integr.hashIsaead then 0 else hashKeylength integr.hash
  [hashLength prf.hash, authlen, authlen, cipherKeylength encr, cipherKeylength encr,
    hashLength prf.hash, hashLength prf.hash]

-- The keys in the order they are cut, a missing auth key as the empty string.
def keySlices (keys : IkeKeys) : List (List UInt8) :=
  [keys.saKeyD, keys.saKeyIauth.getD [], keys.saKeyRauth.getD [], keys.saKeyIencr,
    keys.saKeyRencr, keys.saKeyIprf, keys.saKeyRprf]

/-- The key material of RFC 7296 section 2.14: prf+ of SKEYSEED and `S`, in as many blocks
as the keys need. -/
def rfcKeymat (mac : List UInt8 → List UInt8 → List UInt8) (sa : KeySa) (prf integr : SaHash)
    (encr : SaCipher) (key : Option (List UInt8)) (g : List UInt8) : List UInt8 :=
  rfcPrfplus mac (rfcSkeyseed mac sa.saInonce sa.saRnonce g key) (ikeSeed sa)
    (prfRounds prf.hash (keyLengths prf integr encr).sum)

/-- The PRF transforms `hash_new` makes: not truncated, and the keyed function gives
`hash_length` bytes. -/
structure PrfTransform (mac : List UInt8 → List UInt8 → List UInt8) (prf : IkedHash) : Prop where
  untruncated : prf.hashTrunc = 0
  positive : 0 < prf.hashLength
  digest_length : ∀ key data, (mac key data).length = prf.hashLength

/-! ## Buffers -/

section Buffers

theorem ibufAdd_of_le {buf data : List UInt8} (fits : buf.length + data.length ≤ ikedMsgbufMax) :
    ibufAdd buf data = some (buf ++ data) := by
  simp [ibufAdd, Nat.not_lt.mpr fits]

theorem length_ibufAdd_getD_le {buf data : List UInt8} (small : buf.length ≤ ikedMsgbufMax) :
    ((ibufAdd buf data).getD buf).length ≤ ikedMsgbufMax := by
  unfold ibufAdd
  split
  · exact small
  · simp only [Option.getD_some, List.length_append]
    omega

theorem ibufGetdata_of_le {buf : List UInt8} {len : Nat} (short : len ≤ buf.length)
    (small : buf.length ≤ ikedMsgbufMax) :
    ibufGetdata buf len = some (buf.take len, buf.drop len) := by
  simp [ibufGetdata, short, Nat.le_trans short small]

theorem length_be64Bytes (v : UInt64) : (be64Bytes v).length = 8 := by
  simp [be64Bytes]

theorem cuts_lengths {α : Type} (ns : List Nat) (t : List α) (long : ns.sum ≤ t.length) :
    (cuts ns t).map List.length = ns := by
  induction ns generalizing t with
  | nil => rfl
  | cons n ns ih =>
    simp only [List.sum_cons] at long
    simp only [cuts, List.map_cons, List.length_take, ih (t.drop n) (by simp; omega)]
    rw [Nat.min_eq_left (by omega)]

end Buffers

/-! ## The blocks -/

section Blocks

variable {mac : List UInt8 → List UInt8 → List UInt8} {prf : IkedHash}

theorem PrfTransform.hashLength_eq (h : PrfTransform mac prf) : hashLength prf = prf.hashLength := by
  simp [hashLength, h.untruncated]

theorem PrfTransform.hashLength_pos (h : PrfTransform mac prf) : 0 < hashLength prf := by
  rw [h.hashLength_eq]
  exact h.positive

-- The digest fills the `hash_keylength` buffer, and `hash_final` reports all of it.
theorem prfDigest_eq (h : PrfTransform mac prf) (key data : List UInt8) :
    prfDigest mac prf key data = (mac key data, hashLength prf) := by
  have full : hashKeylength prf = (mac key data).length := (h.digest_length key data).symm
  have final : hashFinalLength prf (mac key data).length = hashLength prf := by
    simp [hashFinalLength, h.untruncated, h.digest_length, h.hashLength_eq]
  simp only [prfDigest]
  rw [full, writeAt_replicate_length, final]

theorem PrfTransform.ibufSetsize_digest (h : PrfTransform mac prf) (key data : List UInt8) :
    ibufSetsize (mac key data) (hashLength prf) = some (mac key data) := by
  simp [ibufSetsize, h.digest_length, h.hashLength_eq]

theorem rfcBlock_length (h : PrfTransform mac prf) (key seed : List UInt8) (i : Nat) :
    (rfcBlock mac key seed i).length ≤ hashLength prf := by
  cases i with
  | zero => simp [rfcBlock]
  | succ i => simp [rfcBlock, h.digest_length, h.hashLength_eq]

theorem rfcPrfplus_length (h : PrfTransform mac prf) (key seed : List UInt8) (r : Nat) :
    (rfcPrfplus mac key seed r).length = r * hashLength prf := by
  induction r with
  | zero => simp [rfcPrfplus]
  | succ r ih =>
    simp only [rfcPrfplus, rfcBlock, List.length_append, ih, h.digest_length, h.hashLength_eq]
    rw [Nat.succ_mul]

variable (key seed : List UInt8)

-- One round: the previous block, the seed and the counter go to the PRF, and the block is
-- appended, when both appends fit.
theorem prfplusRounds_succ (h : PrfTransform mac prf) {n i : Nat} {t1 t : List UInt8}
    (seedFits : t1.length + seed.length + 1 ≤ ikedMsgbufMax)
    (grows : t.length + hashLength prf ≤ ikedMsgbufMax) :
    prfplusRounds mac prf key seed (n + 1) i t1 t =
      prfplusRounds mac prf key seed n (i + 1) (mac key (t1 ++ seed ++ [UInt8.ofNat (i + 1)]))
        (t ++ mac key (t1 ++ seed ++ [UInt8.ofNat (i + 1)])) := by
  have withSeed : ibufAdd t1 seed = some (t1 ++ seed) := ibufAdd_of_le (by omega)
  have withCounter : ibufAdd (t1 ++ seed) [UInt8.ofNat (i + 1)] =
      some (t1 ++ seed ++ [UInt8.ofNat (i + 1)]) := ibufAdd_of_le (by simp; omega)
  have block : ibufAdd t (mac key (t1 ++ seed ++ [UInt8.ofNat (i + 1)])) =
      some (t ++ mac key (t1 ++ seed ++ [UInt8.ofNat (i + 1)])) := by
    apply ibufAdd_of_le
    rw [h.digest_length, ← h.hashLength_eq]
    exact grows
  simp only [prfplusRounds, withSeed, Option.getD_some, withCounter, prfDigest_eq h, ne_eq,
    not_true_eq_false, if_false, block]

-- The rounds from block `i` on build the RFC's blocks, as long as they fit.
theorem prfplusRounds_rfc (h : PrfTransform mac prf)
    (seedFits : hashLength prf + seed.length + 1 ≤ ikedMsgbufMax) (n : Nat) :
    ∀ i, (i + n) * hashLength prf ≤ ikedMsgbufMax →
      prfplusRounds mac prf key seed n i (rfcBlock mac key seed i) (rfcPrfplus mac key seed i) =
        some (rfcPrfplus mac key seed (i + n)) := by
  induction n with
  | zero => intro i _; rfl
  | succ n ih =>
    intro i fits
    have blockFits := rfcBlock_length h key seed i
    have grows : (rfcPrfplus mac key seed i).length + hashLength prf ≤ ikedMsgbufMax := by
      rw [rfcPrfplus_length h]
      have : (i + 1) * hashLength prf ≤ (i + (n + 1)) * hashLength prf :=
        Nat.mul_le_mul_right _ (by omega)
      rw [Nat.succ_mul] at this
      omega
    have next := ih (i + 1) (by rw [Nat.add_right_comm]; omega)
    rw [Nat.add_right_comm, Nat.add_assoc] at next
    rw [prfplusRounds_succ key seed h (by omega) grows]
    exact next

-- Whatever the rounds compute stays within the buffer.
theorem prfplusRounds_length_le (n : Nat) :
    ∀ i t1 t out, t.length ≤ ikedMsgbufMax →
      prfplusRounds mac prf key seed n i t1 t = some out → out.length ≤ ikedMsgbufMax := by
  induction n with
  | zero =>
    intro i t1 t out small done
    cases done
    exact small
  | succ n ih =>
    intro i t1 t out small done
    simp only [prfplusRounds] at done
    split at done
    · cases done
    · exact ih _ _ _ out (length_ibufAdd_getD_le small) done

end Blocks

/-! ## `ikev2_prfplus` -/

section Prfplus

variable {mac : List UInt8 → List UInt8 → List UInt8} {prf : IkedHash}

theorem roundup_div_eq_prfRounds (h : PrfTransform mac prf) (n : Nat) :
    roundup n (hashLength prf) / hashLength prf = prfRounds prf n := by
  have pos := h.hashLength_pos
  rw [roundup, Nat.mul_div_cancel _ pos, prfRounds, Nat.add_sub_assoc (by omega)]

-- `ceil(n / hash_length)` blocks hold `n` bytes.
theorem le_prfRounds_mul (h : PrfTransform mac prf) (n : Nat) :
    n ≤ prfRounds prf n * hashLength prf := by
  have pos := h.hashLength_pos
  have split := Nat.mod_add_div (n + hashLength prf - 1) (hashLength prf)
  have rest := Nat.mod_lt (n + hashLength prf - 1) pos
  rw [prfRounds, Nat.mul_comm]
  omega

theorem ikev2Prfplus_eq_rfc (h : PrfTransform mac prf) (key seed : List UInt8) (n : Nat)
    (keyFits : key.length ≤ ikedMsgbufMax) (counter : prfRounds prf n ≤ 255)
    (fits : prfRounds prf n * hashLength prf ≤ ikedMsgbufMax)
    (seedFits : hashLength prf + seed.length + 1 ≤ ikedMsgbufMax) :
    ikev2Prfplus mac prf key seed n = some (rfcPrfplus mac key seed (prfRounds prf n)) := by
  have run := prfplusRounds_rfc key seed h seedFits (prfRounds prf n) 0 (by simpa using fits)
  simp only [rfcBlock, rfcPrfplus, Nat.zero_add] at run
  simp only [ikev2Prfplus, roundup_div_eq_prfRounds h, Nat.not_lt.mpr keyFits,
    Nat.not_lt.mpr counter, if_false, run]

theorem ikev2Prfplus_length_le (key seed : List UInt8) (n : Nat) {out : List UInt8}
    (done : ikev2Prfplus mac prf key seed n = some out) : out.length ≤ ikedMsgbufMax := by
  simp only [ikev2Prfplus] at done
  split at done
  · cases done
  · split at done
    · cases done
    · exact prfplusRounds_length_le key seed _ 0 [] [] out (by decide) done

end Prfplus

/-! ## `ikev2_sa_keys` -/

section SaKeys

variable {mac : List UInt8 → List UInt8 → List UInt8}

theorem ibufGetdata_drop {t : List UInt8} {k n : Nat} (short : k + n ≤ t.length)
    (small : t.length ≤ ikedMsgbufMax) :
    ibufGetdata (t.drop k) n = some ((t.drop k).take n, t.drop (k + n)) := by
  rw [ibufGetdata_of_le (by simp; omega) (by simp; omega), List.drop_drop]

-- Cutting the key material gives the keys in the RFC's order, when it is long enough.
theorem saKeySlices_cuts (prf integr : SaHash) (encr : SaCipher) (t : List UInt8)
    (long : (keyLengths prf integr encr).sum ≤ t.length) (small : t.length ≤ ikedMsgbufMax) :
    ∃ keys, saKeySlices prf integr encr t = some keys ∧
      keySlices keys = cuts (keyLengths prf integr encr) t ∧
      (keys.saKeyIauth = none ↔ integr.hashIsaead = true) ∧
      (keys.saKeyRauth = none ↔ integr.hashIsaead = true) := by
  -- each `ibuf_getdata` finds its bytes, at the sum of the lengths before it
  cases aead : integr.hashIsaead with
  | true =>
    simp only [keyLengths, aead, if_true, List.sum_cons, List.sum_nil] at long
    simp only [saKeySlices, authKey, aead, if_true, Option.bind_eq_bind]
    rw [ibufGetdata_of_le (by omega) small, Option.bind_some]
    simp (disch := omega) only [ibufGetdata_drop, Option.bind_some]
    exact ⟨_, rfl, by simp [keySlices, cuts, keyLengths, aead], by simp, by simp⟩
  | false =>
    simp only [keyLengths, aead, Bool.false_eq_true, if_false, List.sum_cons, List.sum_nil] at long
    simp only [saKeySlices, authKey, aead, Bool.false_eq_true, if_false, Option.bind_eq_bind]
    rw [ibufGetdata_of_le (by omega) small, Option.bind_some]
    simp (disch := omega) only [ibufGetdata_drop, Option.map_some, Option.bind_some]
    exact ⟨_, rfl, by simp [keySlices, cuts, keyLengths, aead], by simp, by simp⟩

section Derive

variable {sa : KeySa} {encr : SaCipher} {prf integr : SaHash} {group : UInt16}
  (hencr : sa.saEncr = some encr) (hprf : sa.saPrf = some prf) (hintegr : sa.saIntegr = some integr)
  (hgroup : sa.saDhgroup = some group) (isPrf : PrfTransform mac prf.hash)
  (variableKey : prf.hashFixedkey = 0)

include isPrf in
-- `ikev2_sa_keys` asks prf+ for the sum of the lengths it cuts.
theorem requested_eq_sum :
    ((hashLength prf.hash + if integr.hashIsaead = true then 0 else hashKeylength integr.hash) +
        if integr.hashIsaead = true then 0 else hashKeylength integr.hash) + cipherKeylength encr +
        cipherKeylength encr + hashKeylength prf.hash + hashKeylength prf.hash =
      (keyLengths prf integr encr).sum := by
  have keylen : hashKeylength prf.hash = hashLength prf.hash := isPrf.hashLength_eq.symm
  simp only [keyLengths, List.sum_cons, List.sum_nil, keylen]
  omega

include hencr hprf hintegr hgroup isPrf variableKey in
/-- With valid nonces and buffers that hold their inputs, `ikev2_sa_keys` cuts the keys from
prf+ of SKEYSEED and `S`. -/
theorem ikev2SaKeys_eq_slices (key : Option (List UInt8)) (g : List UInt8)
    (inonce : ikedNonceMin ≤ sa.saInonce.length) (ieven : sa.saInonce.length % 2 = 0)
    (rnonce : ikedNonceMin ≤ sa.saRnonce.length) (reven : sa.saRnonce.length % 2 = 0)
    (inputFits : g.length + sa.saInonce.length + sa.saRnonce.length ≤ ikedMsgbufMax)
    (keyFits : (key.getD []).length ≤ ikedMsgbufMax) (seedFits : (ikeSeed sa).length ≤ ikedMsgbufMax) :
    ikev2SaKeys mac sa key (some g) =
      (ikev2Prfplus mac prf.hash (rfcSkeyseed mac sa.saInonce sa.saRnonce g key) (ikeSeed sa)
        (keyLengths prf integr encr).sum).bind (saKeySlices prf integr encr) := by
  have valid : ¬(sa.saInonce.length < ikedNonceMin ∨ sa.saInonce.length % 2 ≠ 0 ∨
      sa.saRnonce.length < ikedNonceMin ∨ sa.saRnonce.length % 2 ≠ 0) := by
    omega
  simp only [ikeSeed, length_be64Bytes, List.length_append] at seedFits
  -- SKEYSEED from the nonces as the key, or on a rekey from the old `SK_d`
  cases key with
  | none =>
    simp (disch := first | omega |
        (simp only [List.length_append, List.length_nil, length_be64Bytes]; omega)) only [ikev2SaKeys,
      hencr, hprf, hintegr, hgroup, variableKey, ne_eq, not_true_eq_false, if_false, valid,
      List.take_length, ibufAdd_of_le, Option.bind_eq_bind, Option.pure_def, Option.bind_some,
      List.nil_append, prfDigest_eq isPrf, isPrf.ibufSetsize_digest, requested_eq_sum isPrf, rfcSkeyseed, ikeSeed]
  | some skd =>
    simp only [Option.getD_some] at keyFits
    simp (disch := first | omega |
        (simp only [List.length_append, List.length_nil, length_be64Bytes]; omega)) only [ikev2SaKeys,
      hencr, hprf, hintegr, hgroup, variableKey, ne_eq, not_true_eq_false, if_false, valid,
      List.take_length, ibufAdd_of_le, Option.bind_eq_bind, Option.pure_def, Option.bind_some,
      List.nil_append, prfDigest_eq isPrf, isPrf.ibufSetsize_digest, requested_eq_sum isPrf, rfcSkeyseed, ikeSeed]

end Derive

end SaKeys

/-! ## Against the RFC -/

/-- prf+ is RFC 7296's for every key, seed and length whose blocks and inputs fit the buffers,
and `ikev2_sa_keys` cuts `SK_d | SK_ai | SK_ar | SK_ei | SK_er | SK_pi | SK_pr` as consecutive
pieces of prf+ of SKEYSEED and `Ni | Nr | SPIi | SPIr`, at the negotiated lengths, from key
material at least as long as the pieces. -/
theorem ikev2Prfplus_and_saKeys_follow_rfc (mac : List UInt8 → List UInt8 → List UInt8) :
    (∀ (prf : IkedHash) (key seed : List UInt8) (n : Nat), PrfTransform mac prf →
      key.length ≤ ikedMsgbufMax → prfRounds prf n ≤ 255 →
      prfRounds prf n * hashLength prf ≤ ikedMsgbufMax →
      hashLength prf + seed.length + 1 ≤ ikedMsgbufMax →
      ikev2Prfplus mac prf key seed n = some (rfcPrfplus mac key seed (prfRounds prf n))) ∧
    (∀ (sa : KeySa) (encr : SaCipher) (prf integr : SaHash) (group : UInt16)
        (key : Option (List UInt8)) (g : List UInt8),
      sa.saEncr = some encr → sa.saPrf = some prf → sa.saIntegr = some integr →
      sa.saDhgroup = some group → PrfTransform mac prf.hash → prf.hashFixedkey = 0 →
      ikedNonceMin ≤ sa.saInonce.length → sa.saInonce.length % 2 = 0 →
      ikedNonceMin ≤ sa.saRnonce.length → sa.saRnonce.length % 2 = 0 →
      g.length + sa.saInonce.length + sa.saRnonce.length ≤ ikedMsgbufMax →
      (key.getD []).length ≤ ikedMsgbufMax →
      hashLength prf.hash + (ikeSeed sa).length + 1 ≤ ikedMsgbufMax →
      prfRounds prf.hash (keyLengths prf integr encr).sum ≤ 255 →
      prfRounds prf.hash (keyLengths prf integr encr).sum * hashLength prf.hash ≤ ikedMsgbufMax →
      ∃ keys, ikev2SaKeys mac sa key (some g) = some keys ∧
        keySlices keys = cuts (keyLengths prf integr encr) (rfcKeymat mac sa prf integr encr key g) ∧
        (keySlices keys).map List.length = keyLengths prf integr encr ∧
        (keys.saKeyIauth = none ↔ integr.hashIsaead = true) ∧
        (keys.saKeyRauth = none ↔ integr.hashIsaead = true) ∧
        (keyLengths prf integr encr).sum ≤ (rfcKeymat mac sa prf integr encr key g).length) := by
  refine ⟨fun prf key seed n isPrf keyFits counter fits seedFits =>
    ikev2Prfplus_eq_rfc isPrf key seed n keyFits counter fits seedFits, ?_⟩
  intro sa encr prf integr group key g hencr hprf hintegr hgroup isPrf variableKey inonce ieven
    rnonce reven inputFits keyFits seedFits counter fits
  -- SKEYSEED is one block, so prf+ of it is the RFC's
  have skeyseedFits : (rfcSkeyseed mac sa.saInonce sa.saRnonce g key).length ≤ ikedMsgbufMax := by
    have one : (rfcSkeyseed mac sa.saInonce sa.saRnonce g key).length = hashLength prf.hash := by
      cases key <;> simp [rfcSkeyseed, isPrf.digest_length, isPrf.hashLength_eq]
    omega
  have material := ikev2Prfplus_eq_rfc isPrf _ (ikeSeed sa) _ skeyseedFits counter fits seedFits
  have long : (keyLengths prf integr encr).sum ≤ (rfcKeymat mac sa prf integr encr key g).length := by
    rw [rfcKeymat, rfcPrfplus_length isPrf]
    exact le_prfRounds_mul isPrf _
  have small : (rfcKeymat mac sa prf integr encr key g).length ≤ ikedMsgbufMax := by
    rw [rfcKeymat, rfcPrfplus_length isPrf]
    exact fits
  obtain ⟨keys, sliced, pieces, iauth, rauth⟩ := saKeySlices_cuts prf integr encr _ long small
  refine ⟨keys, ?derived, pieces, ?lengths, iauth, rauth, long⟩
  case derived =>
    rw [ikev2SaKeys_eq_slices hencr hprf hintegr hgroup isPrf variableKey key g inonce ieven rnonce
      reven inputFits keyFits (by omega), material, Option.bind_some]
    exact sliced
  case lengths =>
    rw [pieces]
    exact cuts_lengths _ _ long

-- A PRF that answers a constant block of 32 bytes.
def constantPrf : List UInt8 → List UInt8 → List UInt8 := fun _ _ => List.replicate 32 7

theorem constantPrf_transform : PrfTransform constantPrf ⟨32, 0⟩ :=
  ⟨rfl, by decide, fun _ _ => List.length_replicate⟩

theorem ikev2Prfplus_and_saKeys_follow_rfc_sha256 :
    ikev2Prfplus constantPrf ⟨32, 0⟩ (List.replicate 32 1) (List.replicate 48 2) 100 =
        some (rfcPrfplus constantPrf (List.replicate 32 1) (List.replicate 48 2)
          (prfRounds ⟨32, 0⟩ 100)) ∧
      ∃ keys, ikev2SaKeys constantPrf sha256KeySa none (some (List.replicate 32 3)) = some keys ∧
        keySlices keys = cuts (keyLengths ⟨⟨32, 0⟩, 0, false⟩ ⟨⟨32, 16⟩, 0, false⟩ ⟨⟨16, 16⟩, 16, []⟩)
          (rfcKeymat constantPrf sha256KeySa ⟨⟨32, 0⟩, 0, false⟩ ⟨⟨32, 16⟩, 0, false⟩
            ⟨⟨16, 16⟩, 16, []⟩ none (List.replicate 32 3)) ∧
        (keySlices keys).map List.length =
          keyLengths ⟨⟨32, 0⟩, 0, false⟩ ⟨⟨32, 16⟩, 0, false⟩ ⟨⟨16, 16⟩, 16, []⟩ ∧
        (keys.saKeyIauth = none ↔ false = true) ∧ (keys.saKeyRauth = none ↔ false = true) ∧
        (keyLengths ⟨⟨32, 0⟩, 0, false⟩ ⟨⟨32, 16⟩, 0, false⟩ ⟨⟨16, 16⟩, 16, []⟩).sum ≤
          (rfcKeymat constantPrf sha256KeySa ⟨⟨32, 0⟩, 0, false⟩ ⟨⟨32, 16⟩, 0, false⟩
            ⟨⟨16, 16⟩, 16, []⟩ none (List.replicate 32 3)).length :=
  ⟨(ikev2Prfplus_and_saKeys_follow_rfc constantPrf).1 ⟨32, 0⟩ _ _ 100 constantPrf_transform
      (by decide) (by decide) (by decide) (by decide),
    (ikev2Prfplus_and_saKeys_follow_rfc constantPrf).2 sha256KeySa ⟨⟨16, 16⟩, 16, []⟩
      ⟨⟨32, 0⟩, 0, false⟩ ⟨⟨32, 16⟩, 0, false⟩ 14 none (List.replicate 32 3) rfl rfl rfl rfl
      constantPrf_transform rfl (by decide) (by decide) (by decide) (by decide) (by decide)
      (by decide) (by decide) (by decide) (by decide)⟩

-- The PRF of 64-byte blocks asked for 129 blocks: the key material stops at
-- `IKED_MSGBUF_MAX` bytes, short of the RFC's 8256.
theorem ikev2Prfplus_stops_at_msgbuf :
    ikev2Prfplus (fun _ _ => List.replicate 64 0) ⟨64, 0⟩ [] [] (129 * 64) ≠
      some (rfcPrfplus (fun _ _ => List.replicate 64 0) [] [] (prfRounds ⟨64, 0⟩ (129 * 64))) := by
  intro same
  have isPrf : PrfTransform (fun _ _ => List.replicate 64 (0 : UInt8)) ⟨64, 0⟩ :=
    ⟨rfl, by decide, fun _ _ => List.length_replicate⟩
  have capped := ikev2Prfplus_length_le [] [] _ same
  rw [rfcPrfplus_length isPrf] at capped
  revert capped
  decide

end OpenIKED.Ikev2.Prfplus
