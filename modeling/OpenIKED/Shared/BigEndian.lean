import Mathlib.Data.Nat.Digits.Lemmas

set_option autoImplicit false

/-!
# Big-endian byte strings of numbers

`BN_bin2bn` reads a byte string as an unsigned big-endian number and `BN_bn2bin` writes the
fewest bytes that hold a number, none for 0.  A fixed-width encoding puts the number in the
low bytes of a field of given width; it is `BN_bn2bin` behind the zero bytes the field has
left over (`zeroPad_bn2bin`), and reading it back gives the number (`bin2bn_beBytes`).
-/

namespace OpenIKED.Shared

/-- `BN_bin2bn`: the bytes as a big-endian number. -/
def bin2bn (bytes : List UInt8) : Nat := bytes.foldl (fun acc b => acc * 256 + b.toNat) 0

/-- The `width` low bytes of `n`, most significant first. -/
def beBytes : Nat → Nat → List UInt8
  | 0, _ => []
  | width + 1, n => beBytes width (n / 256) ++ [UInt8.ofNat (n % 256)]

/-- `BN_num_bytes`: the number of bytes `n` needs. -/
def numBytes (n : Nat) : Nat := (Nat.digits 256 n).length

/-- `BN_bn2bin`: the bytes `n` needs, none for 0. -/
def bn2bin (n : Nat) : List UInt8 := beBytes (numBytes n) n

section Read

theorem bin2bn_acc (bytes : List UInt8) (acc : Nat) :
    bytes.foldl (fun acc b => acc * 256 + b.toNat) acc = acc * 256 ^ bytes.length + bin2bn bytes := by
  induction bytes generalizing acc with
  | nil => simp [bin2bn]
  | cons b bytes ih =>
    simp only [List.foldl_cons, List.length_cons, bin2bn]
    rw [ih (acc * 256 + b.toNat), ih (0 * 256 + b.toNat)]
    rw [pow_succ]
    ring

@[simp] theorem bin2bn_nil : bin2bn [] = 0 := rfl

theorem bin2bn_append (first second : List UInt8) :
    bin2bn (first ++ second) = bin2bn first * 256 ^ second.length + bin2bn second := by
  rw [bin2bn, List.foldl_append, bin2bn_acc]
  rfl

theorem bin2bn_append_byte (bytes : List UInt8) (b : UInt8) :
    bin2bn (bytes ++ [b]) = bin2bn bytes * 256 + b.toNat := by
  simp [bin2bn]

@[simp] theorem bin2bn_replicate_zero (k : Nat) : bin2bn (List.replicate k 0) = 0 := by
  induction k with
  | zero => rfl
  | succ k ih => rw [List.replicate_succ', bin2bn_append_byte, ih]; rfl

-- Leading zero bytes add nothing.
theorem bin2bn_zero_pad (k : Nat) (bytes : List UInt8) :
    bin2bn (List.replicate k 0 ++ bytes) = bin2bn bytes := by
  simp [bin2bn_append]

theorem bin2bn_lt (bytes : List UInt8) : bin2bn bytes < 256 ^ bytes.length := by
  induction bytes using List.reverseRecOn with
  | nil => simp
  | append_singleton bytes b ih =>
    rw [bin2bn_append_byte, List.length_append, List.length_singleton, pow_succ]
    have := b.toNat_lt
    nlinarith

end Read

section Write

@[simp] theorem length_beBytes (width n : Nat) : (beBytes width n).length = width := by
  induction width generalizing n with
  | zero => rfl
  | succ width ih => simp [beBytes, ih]

/-- Reading the `width` bytes back gives `n` modulo the field. -/
theorem bin2bn_beBytes (width n : Nat) : bin2bn (beBytes width n) = n % 256 ^ width := by
  induction width generalizing n with
  | zero => simp [beBytes, Nat.mod_one]
  | succ width ih =>
    have byte : (UInt8.ofNat (n % 256)).toNat = n % 256 := by simp
    rw [beBytes, bin2bn_append_byte, ih, byte]
    rw [Nat.pow_succ, Nat.mul_comm (256 ^ width) 256, Nat.mod_mul]
    omega

/-- A field of `w + k` bytes is its high `w` bytes, then its low `k` bytes. -/
theorem beBytes_add (w k n : Nat) : beBytes (w + k) n = beBytes w (n / 256 ^ k) ++ beBytes k n := by
  induction k generalizing n with
  | zero => simp [beBytes]
  | succ k ih =>
    rw [← Nat.add_assoc, beBytes, ih, beBytes, List.append_assoc, Nat.div_div_eq_div_mul, ← pow_succ']

/-- A byte string is the fixed-width encoding of the number it spells. -/
theorem beBytes_bin2bn (bytes : List UInt8) : beBytes bytes.length (bin2bn bytes) = bytes := by
  induction bytes using List.reverseRecOn with
  | nil => rfl
  | append_singleton bytes b ih =>
    have low : (bin2bn bytes * 256 + b.toNat) % 256 = b.toNat := by
      have := b.toNat_lt
      omega
    have high : (bin2bn bytes * 256 + b.toNat) / 256 = bin2bn bytes := by
      have := b.toNat_lt
      omega
    rw [List.length_append, List.length_singleton, beBytes, bin2bn_append_byte, low, high, ih,
      UInt8.ofNat_toNat]

theorem numBytes_le_iff (n k : Nat) : numBytes n ≤ k ↔ n < 256 ^ k :=
  Nat.digits_length_le_iff (by decide) n

@[simp] theorem numBytes_eq_zero_iff (n : Nat) : numBytes n = 0 ↔ n = 0 := by
  rw [numBytes, List.length_eq_zero_iff, Nat.digits_eq_nil_iff_eq_zero]

@[simp] theorem length_bn2bin (n : Nat) : (bn2bin n).length = numBytes n := by
  simp [bn2bin]

theorem bin2bn_bn2bin (n : Nat) : bin2bn (bn2bin n) = n := by
  rw [bn2bin, bin2bn_beBytes]
  exact Nat.mod_eq_of_lt (Nat.lt_base_pow_length_digits (by decide))

@[simp] theorem bn2bin_eq_nil_iff (n : Nat) : bn2bin n = [] ↔ n = 0 := by
  rw [← List.length_eq_zero_iff, length_bn2bin, numBytes_eq_zero_iff]

/-- Behind the zero bytes a field has left over, `BN_bn2bin` is the fixed-width encoding. -/
theorem zeroPad_bn2bin {width n : Nat} (fits : n < 256 ^ width) :
    List.replicate (width - numBytes n) 0 ++ bn2bin n = beBytes width n := by
  have short : numBytes n ≤ width := (numBytes_le_iff n width).mpr fits
  have same := beBytes_bin2bn (List.replicate (width - numBytes n) 0 ++ bn2bin n)
  rw [bin2bn_zero_pad, bin2bn_bn2bin] at same
  simp only [List.length_append, List.length_replicate, length_bn2bin,
    Nat.sub_add_cancel short] at same
  exact same.symm

end Write

end OpenIKED.Shared
