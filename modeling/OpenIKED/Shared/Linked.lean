import Mathlib.Data.List.Nodup
import Mathlib.Logic.Function.Basic

set_option autoImplicit false

/-!
# Pointers and back-pointer lists

Referrers that each point to at most one object, and objects that each keep the list of
their referrers, as intrusive lists do.  `Linked` says the two agree: a referrer is on an
object's list exactly when it points to the object, and no list holds it twice.  Unlinking
a referrer from its object and linking one that points nowhere keep them in agreement.
-/

namespace OpenIKED.Shared

section Linked

variable {ρ ο : Type}

structure Linked (ptr : ρ → Option ο) (peers : ο → List ρ) : Prop where
  mem_iff : ∀ r o, r ∈ peers o ↔ ptr r = some o
  nodup : ∀ o, (peers o).Nodup

variable {ptr : ρ → Option ο} {peers : ο → List ρ}

theorem Linked.not_mem_of_none (linked : Linked ptr peers) {r : ρ} (unset : ptr r = none) (o : ο) :
    r ∉ peers o := by
  rw [linked.mem_iff, unset]
  simp

theorem Linked.length_pos (linked : Linked ptr peers) {r : ρ} {o : ο} (points : ptr r = some o) :
    0 < (peers o).length :=
  List.length_pos_of_mem ((linked.mem_iff r o).mpr points)

variable [DecidableEq ρ] [DecidableEq ο]

-- `TAILQ_REMOVE` of a referrer from its object's list, with its pointer cleared.
theorem Linked.detach (linked : Linked ptr peers) {r : ρ} {o : ο} (points : ptr r = some o) :
    Linked (Function.update ptr r none) (Function.update peers o ((peers o).erase r)) := by
  constructor
  · intro r' o'
    by_cases same : o' = o
    · subst same
      rw [Function.update_self, (linked.nodup o').mem_erase_iff, linked.mem_iff]
      by_cases self : r' = r
      · subst self
        simp
      · simp [self]
    · rw [Function.update_of_ne same, linked.mem_iff]
      by_cases self : r' = r
      · subst self
        simp only [Function.update_self, points, Option.some.injEq, reduceCtorEq, iff_false]
        exact fun back => same back.symm
      · rw [Function.update_of_ne self]
  · intro o'
    by_cases same : o' = o
    · subst same
      rw [Function.update_self]
      exact (linked.nodup o').erase r
    · rw [Function.update_of_ne same]
      exact linked.nodup o'

-- `TAILQ_INSERT_TAIL` of a referrer that points nowhere, with its pointer set.
theorem Linked.attach (linked : Linked ptr peers) {r : ρ} (unset : ptr r = none) (o : ο) :
    Linked (Function.update ptr r (some o)) (Function.update peers o (peers o ++ [r])) := by
  have absent := linked.not_mem_of_none unset
  constructor
  · intro r' o'
    by_cases same : o' = o
    · subst same
      rw [Function.update_self, List.mem_append, List.mem_singleton, linked.mem_iff]
      by_cases self : r' = r
      · subst self
        simp
      · simp [self]
    · rw [Function.update_of_ne same, linked.mem_iff]
      by_cases self : r' = r
      · subst self
        simp only [Function.update_self, unset, Option.some.injEq, reduceCtorEq, false_iff]
        exact fun back => same back.symm
      · rw [Function.update_of_ne self]
  · intro o'
    by_cases same : o' = o
    · subst same
      rw [Function.update_self, ← List.concat_eq_append]
      exact (linked.nodup o').concat (absent o')
    · rw [Function.update_of_ne same]
      exact linked.nodup o'

end Linked

end OpenIKED.Shared
