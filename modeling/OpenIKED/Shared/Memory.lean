import Mathlib.Data.List.Basic
import Mathlib.Tactic.Common

set_option autoImplicit false

/-!
# Byte spans and access traces

A C function that reads and writes buffers is modelled by the list of accesses it
makes: which object, which direction and which byte span.  Memory safety is then a
property of that list against the extent each object has.
-/

namespace OpenIKED.Shared

structure Span where
  start : Nat
  len : Nat
deriving DecidableEq, Repr

def Span.stop (s : Span) : Nat := s.start + s.len

def Span.Within (s : Span) (lo hi : Nat) : Prop := lo ≤ s.start ∧ s.stop ≤ hi

instance (s : Span) (lo hi : Nat) : Decidable (s.Within lo hi) :=
  inferInstanceAs (Decidable (_ ∧ _))

theorem Span.within_mono {s : Span} {lo hi lo' hi' : Nat} (inner : s.Within lo hi)
    (low : lo' ≤ lo) (high : hi ≤ hi') : s.Within lo' hi' :=
  ⟨Nat.le_trans low inner.1, Nat.le_trans inner.2 high⟩

@[simp] theorem Span.within_iff (s : Span) (lo hi : Nat) :
    s.Within lo hi ↔ lo ≤ s.start ∧ s.start + s.len ≤ hi := Iff.rfl

-- Every span of a list lies in `[lo, hi)`.
def Span.AllWithin (spans : List Span) (lo hi : Nat) : Prop := ∀ s ∈ spans, s.Within lo hi

@[simp] theorem Span.allWithin_nil (lo hi : Nat) : Span.AllWithin [] lo hi := by
  simp [Span.AllWithin]

@[simp] theorem Span.allWithin_cons (s : Span) (rest : List Span) (lo hi : Nat) :
    Span.AllWithin (s :: rest) lo hi ↔ s.Within lo hi ∧ Span.AllWithin rest lo hi := by
  simp [Span.AllWithin]

@[simp] theorem Span.allWithin_append (first second : List Span) (lo hi : Nat) :
    Span.AllWithin (first ++ second) lo hi ↔
      Span.AllWithin first lo hi ∧ Span.AllWithin second lo hi := by
  simp only [Span.AllWithin, List.mem_append]
  constructor
  · intro all
    exact ⟨fun s member => all s (Or.inl member), fun s member => all s (Or.inr member)⟩
  · rintro ⟨left, right⟩ s (member | member)
    · exact left s member
    · exact right s member

theorem Span.AllWithin.append {first second : List Span} {lo hi : Nat}
    (left : Span.AllWithin first lo hi) (right : Span.AllWithin second lo hi) :
    Span.AllWithin (first ++ second) lo hi :=
  (Span.allWithin_append first second lo hi).mpr ⟨left, right⟩

theorem Span.AllWithin.mono {spans : List Span} {lo hi lo' hi' : Nat}
    (inner : Span.AllWithin spans lo hi) (low : lo' ≤ lo) (high : hi ≤ hi') :
    Span.AllWithin spans lo' hi' :=
  fun s member => Span.within_mono (inner s member) low high

inductive Dir where
  | read
  | write
deriving DecidableEq, Repr

structure Access (ι : Type) where
  obj : ι
  dir : Dir
  span : Span
deriving DecidableEq, Repr

section Traces

variable {ι : Type}

def Access.read (obj : ι) (start len : Nat) : Access ι := ⟨obj, .read, ⟨start, len⟩⟩

def Access.write (obj : ι) (start len : Nat) : Access ι := ⟨obj, .write, ⟨start, len⟩⟩

-- The extent of an object: the half-open byte range an access may touch.
abbrev Extent (ι : Type) := ι → Nat × Nat

def Access.Safe (extent : Extent ι) (a : Access ι) : Prop :=
  a.span.Within (extent a.obj).1 (extent a.obj).2

instance (extent : Extent ι) (a : Access ι) : Decidable (a.Safe extent) :=
  inferInstanceAs (Decidable (Span.Within _ _ _))

def TraceSafe (extent : Extent ι) (trace : List (Access ι)) : Prop :=
  ∀ a ∈ trace, a.Safe extent

instance (extent : Extent ι) (trace : List (Access ι)) : Decidable (TraceSafe extent trace) :=
  inferInstanceAs (Decidable (∀ a ∈ trace, _))

@[simp] theorem traceSafe_nil (extent : Extent ι) : TraceSafe extent [] := by
  simp [TraceSafe]

@[simp] theorem traceSafe_cons (extent : Extent ι) (a : Access ι) (rest : List (Access ι)) :
    TraceSafe extent (a :: rest) ↔ a.Safe extent ∧ TraceSafe extent rest := by
  simp [TraceSafe]

@[simp] theorem traceSafe_append (extent : Extent ι) (first second : List (Access ι)) :
    TraceSafe extent (first ++ second) ↔ TraceSafe extent first ∧ TraceSafe extent second := by
  simp only [TraceSafe, List.mem_append]
  constructor
  · intro h
    exact ⟨fun a member => h a (Or.inl member), fun a member => h a (Or.inr member)⟩
  · rintro ⟨left, right⟩ a (member | member)
    · exact left a member
    · exact right a member

end Traces

end OpenIKED.Shared
