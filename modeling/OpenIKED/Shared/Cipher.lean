import Mathlib.Tactic.Common

set_option autoImplicit false

/-!
# Ciphers as abstract primitives

A symmetric cipher keyed by a key and an IV, which authenticates associated data
besides what it encrypts, with the laws a round trip through it relies on; and
`roundup`, the padding arithmetic of block ciphers.
-/

namespace OpenIKED.Shared

-- `roundup` of `sys/param.h`: `x` rounded up to a multiple of `y`.
def roundup (x y : Nat) : Nat := (x + (y - 1)) / y * y

section Roundup

variable (x y : Nat)

theorem dvd_roundup : y ∣ roundup x y := Nat.dvd_mul_left y _

theorem le_roundup (positive : 0 < y) : x ≤ roundup x y := by
  have split := Nat.div_add_mod (x + (y - 1)) y
  have rest := Nat.mod_lt (x + (y - 1)) positive
  unfold roundup
  rw [Nat.mul_comm]
  omega

theorem roundup_lt (positive : 0 < y) : roundup x y < x + y := by
  have below := Nat.div_mul_le_self (x + (y - 1)) y
  unfold roundup
  omega

theorem roundup_of_dvd (positive : 0 < y) (aligned : y ∣ x) : roundup x y = x := by
  obtain ⟨k, rfl⟩ := aligned
  -- `y * k + (y - 1)` lies in the same multiple of `y` as `y * k`
  have quotient : (y * k + (y - 1)) / y = k := by
    rw [Nat.add_comm, Nat.add_mul_div_left _ _ positive, Nat.div_eq_of_lt (by omega)]
    omega
  unfold roundup
  rw [quotient, Nat.mul_comm]

end Roundup

/-- A cipher with associated data: each operation takes the key, the IV and the
associated data.  `tag` is the authentication tag an encryption produces and `accepts`
is the check a decryption makes of a tag. -/
structure Cipher (β : Type) where
  encrypt : List β → List β → List β → List β → List β
  decrypt : List β → List β → List β → List β → List β
  tag : List β → List β → List β → List β → List β
  accepts : List β → List β → List β → List β → List β → Bool

/-- What is asked of a cipher: it keeps lengths, decryption with the same key, IV and
associated data undoes encryption, and the tag of an encryption, cut to any length, is
accepted for its ciphertext. -/
structure Cipher.Lawful {β : Type} (cipher : Cipher β) : Prop where
  length_encrypt : ∀ key iv aad plain, (cipher.encrypt key iv aad plain).length = plain.length
  length_decrypt : ∀ key iv aad text, (cipher.decrypt key iv aad text).length = text.length
  decrypt_encrypt : ∀ key iv aad plain,
    cipher.decrypt key iv aad (cipher.encrypt key iv aad plain) = plain
  accepts_tag : ∀ key iv aad plain n,
    cipher.accepts key iv aad (cipher.encrypt key iv aad plain)
      ((cipher.tag key iv aad plain).take n) = true

end OpenIKED.Shared
