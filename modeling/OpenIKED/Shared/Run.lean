import Mathlib.Logic.Relation

set_option autoImplicit false

/-!
# Runs of a step function

A system given by a step function `step : σ → ε → σ` runs a list of events as a left
fold.  `Steps step s t` says that `t` is reachable from `s`, by the run of some list of
events; a second system whose every step is reachable in the first, through a projection
of its states, stays reachable in it run for run.  A fallible step `σ → ε → Except α σ`
runs a list by `List.foldlM`: what each successful step keeps holds after a successful
run, and a run from where every step succeeds succeeds, following a total system it
simulates.
-/

namespace OpenIKED.Shared

section Steps

variable {σ ε : Type} (step : σ → ε → σ)

def Steps : σ → σ → Prop := Relation.ReflTransGen (fun s t => ∃ event, t = step s event)

theorem exists_foldl_of_steps {s t : σ} (steps : Steps step s t) :
    ∃ events : List ε, t = events.foldl step s := by
  induction steps with
  | refl => exact ⟨[], rfl⟩
  | tail _ last ih =>
    obtain ⟨events, rfl⟩ := ih
    obtain ⟨event, rfl⟩ := last
    exact ⟨events ++ [event], by rw [List.foldl_append, List.foldl_cons, List.foldl_nil]⟩

/-- A system whose every step is reachable in `step` through `proj` stays reachable from
where it started, over any run. -/
theorem Steps.foldl_of_simulates {τ δ : Type} (high : τ → δ → τ) (proj : τ → σ)
    (simulates : ∀ t event, Steps step (proj t) (proj (high t event))) (t : τ) (events : List δ) :
    Steps step (proj t) (proj (events.foldl high t)) := by
  induction events generalizing t with
  | nil => exact Relation.ReflTransGen.refl
  | cons event events ih =>
    exact Relation.ReflTransGen.trans (simulates t event) (ih (high t event))

end Steps

section Fallible

variable {σ ε α β : Type}

theorem bind_eq_ok {x : Except α β} {f : β → Except α σ} {t : σ} :
    x >>= f = .ok t ↔ ∃ b, x = .ok b ∧ f b = .ok t := by
  cases x with
  | error e => simp [bind, Except.bind]
  | ok b => simp [bind, Except.bind]

/-- What every successful step keeps holds after every successful run. -/
theorem foldlM_ok_keeps (step : σ → ε → Except α σ) (P : σ → Prop) (events : List ε)
    (keeps : ∀ s e t, e ∈ events → step s e = .ok t → P s → P t) {s t : σ}
    (ran : events.foldlM step s = .ok t) (holds : P s) : P t := by
  induction events generalizing s with
  | nil =>
    cases ran
    exact holds
  | cons e events ih =>
    rw [List.foldlM_cons, bind_eq_ok] at ran
    obtain ⟨mid, first, rest⟩ := ran
    have next := keeps s e mid List.mem_cons_self first holds
    exact ih (fun s' e' t' member => keeps s' e' t' (List.mem_cons_of_mem e member)) rest next

/-- A fallible system whose every step from a state in `P` succeeds, stays in `P` and moves
the projection as `high` does runs every list of events to the end, and the projection
follows the run of `high`. -/
theorem foldlM_ok_simulates {τ : Type} (step : σ → ε → Except α σ) (high : τ → ε → τ)
    (proj : σ → τ) (P : σ → Prop)
    (keeps : ∀ s e, P s → ∃ t, step s e = .ok t ∧ P t ∧ proj t = high (proj s) e)
    (events : List ε) {s : σ} (holds : P s) :
    ∃ t, events.foldlM step s = .ok t ∧ P t ∧ proj t = events.foldl high (proj s) := by
  induction events generalizing s with
  | nil => exact ⟨s, rfl, holds, rfl⟩
  | cons e events ih =>
    obtain ⟨mid, first, next, moved⟩ := keeps s e holds
    obtain ⟨t, rest, last, followed⟩ := ih next
    refine ⟨t, ?_, last, ?_⟩
    · rw [List.foldlM_cons, first]
      exact rest
    · rw [followed, moved, List.foldl_cons]

/-- A fallible system whose every step from a state in `P` succeeds and stays in `P` runs
every list of events to the end. -/
theorem foldlM_ok_of_keeps (step : σ → ε → Except α σ) (P : σ → Prop)
    (keeps : ∀ s e, P s → ∃ t, step s e = .ok t ∧ P t) (events : List ε) {s : σ}
    (holds : P s) : ∃ t, events.foldlM step s = .ok t ∧ P t := by
  have simulates := foldlM_ok_simulates step (fun _ _ => ()) (fun _ => ()) P
    (fun s e inP => (keeps s e inP).imp fun _ stepped => ⟨stepped.1, stepped.2, rfl⟩) events holds
  obtain ⟨t, ran, inP, _⟩ := simulates
  exact ⟨t, ran, inP⟩

end Fallible

end OpenIKED.Shared
