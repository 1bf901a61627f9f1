import Mathlib.Data.List.Lex

set_option autoImplicit false

/-!
# memcmp and the order of byte strings

`memcmp(a, b, n)` compares the first `n` bytes of two buffers as unsigned chars and returns
the difference of the first pair that differs, or 0.  The order it induces is the
lexicographic order of the byte values, which `List ℕ` carries as a linear order with a
proper prefix first.
-/

namespace OpenIKED.Shared

def memcmp : List UInt8 → List UInt8 → Nat → Int
  | x :: xs, y :: ys, n + 1 => if x = y then memcmp xs ys n else (x.toNat : Int) - y.toNat
  | _, _, _ => 0

/-- The unsigned values of the bytes, ordered lexicographically. -/
def byteValues (a : List UInt8) : List ℕ := a.map UInt8.toNat

@[simp] theorem byteValues_nil : byteValues [] = [] := rfl

@[simp] theorem byteValues_cons (x : UInt8) (xs : List UInt8) :
    byteValues (x :: xs) = x.toNat :: byteValues xs := rfl

theorem byteValues_injective : Function.Injective byteValues :=
  List.map_injective_iff.mpr fun _ _ same => UInt8.toNat_inj.mp same

/-- The first `n` bytes decide `memcmp`, and equal bytes are skipped. -/
theorem memcmp_cons_same (x : UInt8) (xs ys : List UInt8) (n : Nat) :
    memcmp (x :: xs) (x :: ys) (n + 1) = memcmp xs ys n := by
  simp [memcmp]

theorem memcmp_cons_of_ne {x y : UInt8} (differ : x ≠ y) (xs ys : List UInt8) (n : Nat) :
    memcmp (x :: xs) (y :: ys) (n + 1) = (x.toNat : Int) - y.toNat := by
  simp [memcmp, differ]

/-- `memcmp` is antisymmetric: swapping the buffers negates it. -/
theorem memcmp_swap (a b : List UInt8) (n : Nat) : memcmp b a n = -memcmp a b n := by
  induction a generalizing b n with
  | nil => cases b <;> cases n <;> simp [memcmp]
  | cons x xs ih =>
    cases b with
    | nil => cases n <;> simp [memcmp]
    | cons y ys =>
      cases n with
      | zero => simp [memcmp]
      | succ n =>
        by_cases same : x = y
        · subst same
          simp [memcmp_cons_same, ih]
        · rw [memcmp_cons_of_ne same, memcmp_cons_of_ne (Ne.symm same)]
          omega

section SameLength

variable {a b : List UInt8}

/-- On buffers of one length, `memcmp` over that length is 0 exactly on equal buffers. -/
theorem memcmp_eq_zero_iff (same : a.length = b.length) : memcmp a b a.length = 0 ↔ a = b := by
  induction a generalizing b with
  | nil => cases b <;> simp_all [memcmp]
  | cons x xs ih =>
    cases b with
    | nil => simp at same
    | cons y ys =>
      by_cases first : x = y
      · subst first
        simp only [List.length_cons, memcmp_cons_same, List.cons.injEq, true_and]
        exact ih (by simpa using same)
      · have : x.toNat ≠ y.toNat := fun eq => first (UInt8.toNat_inj.mp eq)
        simp only [List.length_cons, memcmp_cons_of_ne first, List.cons.injEq, first,
          false_and, iff_false]
        omega

/-- On buffers of one length, a negative `memcmp` is the lexicographic order of the byte
values. -/
theorem memcmp_neg_iff (same : a.length = b.length) :
    memcmp a b a.length < 0 ↔ byteValues a < byteValues b := by
  induction a generalizing b with
  | nil => cases b <;> simp_all [memcmp]
  | cons x xs ih =>
    cases b with
    | nil => simp at same
    | cons y ys =>
      rw [byteValues_cons, byteValues_cons, List.cons_lt_cons_iff]
      by_cases first : x = y
      · subst first
        simp only [List.length_cons, memcmp_cons_same, lt_self_iff_false, true_and, false_or]
        exact ih (by simpa using same)
      · have : x.toNat ≠ y.toNat := fun eq => first (UInt8.toNat_inj.mp eq)
        simp only [List.length_cons, memcmp_cons_of_ne first]
        constructor
        · intro below
          exact .inl (by omega)
        · rintro (below | ⟨equal, -⟩)
          · omega
          · exact absurd equal this

end SameLength

end OpenIKED.Shared
