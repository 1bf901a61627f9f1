import Mathlib

set_option autoImplicit false

/-!
# Slot arrays

An array of optional entries that fills slot by slot while a counter of filled slots and
a running total of their sizes are kept beside it, and the copy of the entries, in slot
order, into one buffer at a running offset.
-/

namespace OpenIKED.Shared

section Slots

variable {α : Type}

def filled (slots : List (Option α)) : Nat := slots.countP Option.isSome

def weight (size : α → Nat) (slots : List (Option α)) : Nat :=
  (slots.map fun s => s.elim 0 size).sum

@[simp] theorem filled_replicate_none (n : Nat) :
    filled (List.replicate n (none : Option α)) = 0 := by
  simp [filled, List.countP_replicate]

@[simp] theorem weight_replicate_none (size : α → Nat) (n : Nat) :
    weight size (List.replicate n (none : Option α)) = 0 := by
  simp [weight]

theorem filled_le_length (slots : List (Option α)) : filled slots ≤ slots.length :=
  List.countP_le_length

theorem filled_eq_length_iff (slots : List (Option α)) :
    filled slots = slots.length ↔ ∀ s ∈ slots, s.isSome :=
  List.countP_eq_length

theorem filled_set_empty (slots : List (Option α)) (i : Nat) (x : α)
    (empty : slots[i]? = some none) : filled (slots.set i (some x)) = filled slots + 1 := by
  obtain ⟨inside, slot⟩ := List.getElem?_eq_some_iff.mp empty
  rw [filled, List.countP_set inside, slot]
  simp [filled]

theorem weight_set_empty (size : α → Nat) (slots : List (Option α)) (i : Nat) (x : α)
    (empty : slots[i]? = some none) :
    weight size (slots.set i (some x)) = weight size slots + size x := by
  induction slots generalizing i with
  | nil => cases empty
  | cons s rest ih =>
    cases i with
    | zero =>
      -- the slot filled is the head, which weighed nothing
      obtain rfl : s = none := by simpa using empty
      simp [weight]
      omega
    | succ i =>
      have step := ih i (by simpa using empty)
      simp only [weight, List.set_cons_succ, List.map_cons, List.sum_cons] at step ⊢
      omega

theorem filled_map_option {β : Type} (f : α → β) (slots : List (Option α)) :
    filled (slots.map (Option.map f)) = filled slots := by
  simp [filled, List.countP_map, Function.comp_def]

theorem weight_map_option {β : Type} (size : β → Nat) (f : α → β) (slots : List (Option α)) :
    weight size (slots.map (Option.map f)) = weight (size ∘ f) slots := by
  simp only [weight, List.map_map]
  congr 1
  apply List.map_congr_left
  intro s _
  cases s <;> rfl

theorem getElem?_eq_none_slot (slots : List (Option α)) (i : Nat) (inside : i < slots.length)
    (empty : (slots.getD i none).isSome = false) : slots[i]? = some none := by
  rw [List.getD_eq_getElem?_getD, List.getElem?_eq_getElem inside] at empty
  have slot : slots[i] = none := Option.not_isSome_iff_eq_none.mp (by simpa using empty)
  rw [List.getElem?_eq_getElem inside, slot]

theorem weight_eq_sum (size : α → Nat) (slots : List (Option α)) :
    weight size slots = ((slots.filterMap id).map size).sum := by
  induction slots with
  | nil => rfl
  | cons s rest ih =>
    cases s with
    | none => simpa [weight] using ih
    | some x => simpa [weight] using ih

theorem eq_map_some_of_full (slots : List (Option α)) (full : ∀ s ∈ slots, s.isSome) :
    slots = (slots.filterMap id).map some := by
  induction slots with
  | nil => rfl
  | cons s rest ih =>
    obtain ⟨x, rfl⟩ := Option.isSome_iff_exists.mp (full s List.mem_cons_self)
    have tail := ih fun t member => full t (List.mem_cons_of_mem _ member)
    calc some x :: rest = some x :: (rest.filterMap id).map some := by rw [← tail]
      _ = ((some x :: rest).filterMap id).map some := rfl

end Slots

section Copy

variable {α : Type}

-- `memcpy(buf + offset, data, data.length)`.
def writeAt (buf : List α) (offset : Nat) (data : List α) : List α :=
  buf.take offset ++ data ++ buf.drop (offset + data.length)

-- Writing right after what is written already, into the zeroes still left, extends
-- what is written.
theorem writeAt_after (written data : List α) (n : Nat) (zero : α) :
    writeAt (written ++ List.replicate (data.length + n) zero) written.length data =
      written ++ data ++ List.replicate n zero := by
  simp [writeAt, List.drop_append, List.drop_replicate]

-- Data written over a zeroed buffer of its own size is all the buffer holds.
theorem writeAt_replicate_length (data : List α) (zero : α) :
    writeAt (List.replicate data.length zero) 0 data = data := by
  simp [writeAt]

-- Data written where a buffer holds zeroes lands between zeroes.
theorem writeAt_into_zeros (pre post data : List α) (zero : α) {j n : Nat}
    (fits : j + data.length ≤ n) :
    writeAt (pre ++ List.replicate n zero ++ post) (pre.length + j) data =
      pre ++ List.replicate j zero ++ data ++ List.replicate (n - j - data.length) zero ++ post := by
  have taken : (pre ++ (List.replicate n zero ++ post)).take (pre.length + j) =
      pre ++ List.replicate j zero := by
    rw [List.take_length_add_append, List.take_append_of_le_length (by simp; omega),
      List.take_replicate, Nat.min_eq_left (by omega)]
  have dropped : (pre ++ (List.replicate n zero ++ post)).drop (pre.length + j + data.length) =
      List.replicate (n - j - data.length) zero ++ post := by
    rw [Nat.add_assoc, List.drop_length_add_append, List.drop_append_of_le_length (by simp; omega),
      List.drop_replicate, Nat.sub_sub]
  simp only [writeAt, List.append_assoc, taken, dropped]

-- Zeroes written over zeroes change nothing.
theorem writeAt_zeros_into_zeros (pre post : List α) (zero : α) {j k n : Nat}
    (fits : j + k ≤ n) :
    writeAt (pre ++ List.replicate n zero ++ post) (pre.length + j) (List.replicate k zero) =
      pre ++ List.replicate n zero ++ post := by
  rw [writeAt_into_zeros _ _ _ _ (by simpa using fits)]
  simp only [List.length_replicate, List.append_assoc, List.replicate_append_replicate]
  rw [show j + k + (n - j - k) = n by omega]

end Copy

end OpenIKED.Shared
