import Mathlib.Tactic.Common

set_option autoImplicit false

/-!
# Rule lists scanned with skip pointers

A rule list is searched for a key: each entry answers the key with a verdict, a
matching entry that is marked quick ends the search, and otherwise the last matching
entry wins.  A skip pointer lets the search jump from an entry that fails a test to
the first later entry whose value for that test differs.  The pointers are only right
when every entry they jump over fails the key too; this module says when that holds
and proves that the search then picks the entry the rule list specifies.
-/

namespace OpenIKED.Shared

-- How one entry answers a key: failed a test that has skip pointers of kind `k`,
-- failed a test that has none, or matched.
inductive Verdict (κ : Type) where
  | skipped (k : κ)
  | rejected
  | accepted
deriving DecidableEq, Repr

def Verdict.accepts {κ : Type} : Verdict κ → Bool
  | .accepted => true
  | _ => false

@[simp] theorem Verdict.accepts_skipped {κ : Type} (k : κ) :
    (Verdict.skipped k).accepts = false := rfl

@[simp] theorem Verdict.accepts_rejected {κ : Type} : (Verdict.rejected : Verdict κ).accepts = false :=
  rfl

@[simp] theorem Verdict.accepts_accepted {κ : Type} : (Verdict.accepted : Verdict κ).accepts = true :=
  rfl

-- Skip pointers, one per entry and kind of test.  Each points strictly forward; a
-- pointer at or past the end means "no further entry".
structure SkipTable (κ : Type) where
  next : Nat → κ → Nat
  forward : ∀ i k, i < next i k

section Scan

variable {κ : Type} (n : Nat) (verdict : Nat → Verdict κ) (quick : Nat → Bool)

-- The search a rule list specifies, entry by entry from `p`, with `found` the last
-- match so far.
def plainScan (p : Nat) (found : Option Nat) : Option Nat :=
  if p < n then
    if (verdict p).accepts then
      if quick p then some p else plainScan (p + 1) (some p)
    else plainScan (p + 1) found
  else found
termination_by n - p

-- The same search following the skip pointers of `table`.
def skipScan (table : SkipTable κ) (p : Nat) (found : Option Nat) : Option Nat :=
  if _inside : p < n then
    match verdict p with
    | .skipped k =>
      have := table.forward p k
      skipScan table (table.next p k) found
    | .rejected => skipScan table (p + 1) found
    | .accepted => if quick p then some p else skipScan table (p + 1) (some p)
  else found
termination_by n - p

-- Every pointer jumps only over entries that do not match the key either.
def SkipSound (table : SkipTable κ) : Prop :=
  ∀ i k, i < n → verdict i = .skipped k →
    ∀ j, i < j → j < table.next i k → j < n → (verdict j).accepts = false

-- The entry the rule list picks: the first matching quick entry, and when no matching
-- entry is quick, the last matching one.
def Picks (i : Nat) : Prop :=
  i < n ∧ (verdict i).accepts = true ∧
    ((quick i = true ∧ ∀ j < i, (verdict j).accepts = true → quick j = false) ∨
      ((∀ j < n, (verdict j).accepts = true → quick j = false) ∧
        ∀ j, i < j → j < n → (verdict j).accepts = false))

theorem plainScan_of_le (p : Nat) (found : Option Nat) (past : n ≤ p) :
    plainScan n verdict quick p found = found := by
  rw [plainScan, if_neg (by omega)]

theorem plainScan_of_lt (p : Nat) (found : Option Nat) (inside : p < n) :
    plainScan n verdict quick p found =
      if (verdict p).accepts then
        (if quick p then some p else plainScan n verdict quick (p + 1) (some p))
      else plainScan n verdict quick (p + 1) found := by
  rw [plainScan, if_pos inside]

theorem plainScan_skip (p q : Nat) (found : Option Nat) (le : p ≤ q)
    (fail : ∀ j, p ≤ j → j < q → j < n → (verdict j).accepts = false) :
    plainScan n verdict quick p found = plainScan n verdict quick q found := by
  by_cases done : p = q
  · rw [done]
  by_cases inside : p < n
  · have step : plainScan n verdict quick p found = plainScan n verdict quick (p + 1) found := by
      rw [plainScan_of_lt n verdict quick p found inside, fail p (Nat.le_refl p) (by omega) inside]
      rfl
    rw [step]
    exact plainScan_skip (p + 1) q found (by omega)
      (fun j low high bound => fail j (by omega) high bound)
  · rw [plainScan_of_le n verdict quick p found (by omega),
      plainScan_of_le n verdict quick q found (by omega)]
termination_by q - p

/-- With sound pointers the skipping search returns what the plain search returns. -/
theorem skipScan_eq_plainScan (table : SkipTable κ) (sound : SkipSound n verdict table)
    (p : Nat) (found : Option Nat) :
    skipScan n verdict quick table p found = plainScan n verdict quick p found := by
  by_cases inside : p < n
  · rw [skipScan, dif_pos inside]
    -- each verdict is one branch of the C loop
    cases hv : verdict p with
    | skipped k =>
      have jump := table.forward p k
      dsimp only
      rw [skipScan_eq_plainScan table sound (table.next p k) found]
      refine (plainScan_skip n verdict quick p _ found (by omega) ?_).symm
      intro j low high bound
      rcases Nat.eq_or_lt_of_le low with same | later
      · rw [← same, hv]
        rfl
      · exact sound p k inside hv j later high bound
    | rejected =>
      dsimp only
      rw [skipScan_eq_plainScan table sound (p + 1) found,
        plainScan_of_lt n verdict quick p found inside, hv]
      rfl
    | accepted =>
      dsimp only
      rw [plainScan_of_lt n verdict quick p found inside, hv]
      split
      · rfl
      · rw [skipScan_eq_plainScan table sound (p + 1) (some p)]
        rfl
  · rw [skipScan, dif_neg inside, plainScan_of_le n verdict quick p found (by omega)]
termination_by n - p
decreasing_by
  all_goals omega

-- What the plain search knows on reaching `p`: no match before `p` was quick, and
-- `found` is the last match before `p`, if there was one.
def ScanSoFar (p : Nat) (found : Option Nat) : Prop :=
  (∀ j < p, (verdict j).accepts = true → quick j = false) ∧
    (found = none → ∀ j < p, (verdict j).accepts = false) ∧
    (∀ f, found = some f → f < n ∧ (verdict f).accepts = true ∧
      ∀ j, f < j → j < p → (verdict j).accepts = false)

-- What a finished search may return: a picked entry, or nothing when no entry matches.
def ScanOutcome : Option Nat → Prop
  | some i => Picks n verdict quick i
  | none => ∀ j < n, (verdict j).accepts = false

theorem scanSoFar_start : ScanSoFar n verdict quick 0 none := by
  refine ⟨?_, ?_, ?_⟩
  · intro j below
    omega
  · intro _ j below
    omega
  · intro f none_eq
    cases none_eq

theorem scanSoFar_miss (p : Nat) (found : Option Nat) (sofar : ScanSoFar n verdict quick p found)
    (miss : (verdict p).accepts = false) : ScanSoFar n verdict quick (p + 1) found := by
  obtain ⟨noQuick, empty, last⟩ := sofar
  refine ⟨?_, ?_, ?_⟩
  · intro j below hit
    rcases Nat.lt_succ_iff_lt_or_eq.mp below with earlier | rfl
    · exact noQuick j earlier hit
    · rw [miss] at hit
      cases hit
  · intro none_eq j below
    rcases Nat.lt_succ_iff_lt_or_eq.mp below with earlier | rfl
    · exact empty none_eq j earlier
    · exact miss
  · intro f some_eq
    obtain ⟨bound, hit, after⟩ := last f some_eq
    refine ⟨bound, hit, fun j later below => ?_⟩
    rcases Nat.lt_succ_iff_lt_or_eq.mp below with earlier | rfl
    · exact after j later earlier
    · exact miss

theorem scanSoFar_hit (p : Nat) (found : Option Nat) (sofar : ScanSoFar n verdict quick p found)
    (inside : p < n) (hit : (verdict p).accepts = true) (slow : quick p = false) :
    ScanSoFar n verdict quick (p + 1) (some p) := by
  obtain ⟨noQuick, -, -⟩ := sofar
  refine ⟨?_, ?_, ?_⟩
  · intro j below hitj
    rcases Nat.lt_succ_iff_lt_or_eq.mp below with earlier | rfl
    · exact noQuick j earlier hitj
    · exact slow
  · intro none_eq
    cases none_eq
  · intro f some_eq
    cases some_eq
    exact ⟨inside, hit, fun j later below => by omega⟩

theorem scanOutcome_of_le (p : Nat) (found : Option Nat) (sofar : ScanSoFar n verdict quick p found)
    (past : n ≤ p) : ScanOutcome n verdict quick found := by
  obtain ⟨noQuick, empty, last⟩ := sofar
  cases found with
  | none => exact fun j below => empty rfl j (by omega)
  | some f =>
    obtain ⟨bound, hit, after⟩ := last f rfl
    exact ⟨bound, hit, Or.inr ⟨fun j below => noQuick j (by omega),
      fun j later below => after j later (by omega)⟩⟩

/-- The plain search returns the entry the rule list picks. -/
theorem plainScan_outcome (p : Nat) (found : Option Nat)
    (sofar : ScanSoFar n verdict quick p found) :
    ScanOutcome n verdict quick (plainScan n verdict quick p found) := by
  by_cases inside : p < n
  · rw [plainScan_of_lt n verdict quick p found inside]
    by_cases hit : (verdict p).accepts = true
    · rw [if_pos hit]
      by_cases fast : quick p = true
      · rw [if_pos fast]
        exact ⟨inside, hit, Or.inl ⟨fast, sofar.1⟩⟩
      · rw [if_neg fast]
        exact plainScan_outcome (p + 1) (some p)
          (scanSoFar_hit n verdict quick p found sofar inside hit (by simpa using fast))
    · rw [if_neg hit]
      exact plainScan_outcome (p + 1) found
        (scanSoFar_miss n verdict quick p found sofar (by simpa using hit))
  · rw [plainScan_of_le n verdict quick p found (by omega)]
    exact scanOutcome_of_le n verdict quick p found sofar (by omega)
termination_by n - p

theorem picks_unique {i i' : Nat} (first : Picks n verdict quick i)
    (second : Picks n verdict quick i') : i = i' := by
  obtain ⟨bound, hit, byQuick | byLast⟩ := first <;>
    obtain ⟨bound', hit', byQuick' | byLast'⟩ := second
  · -- both are the first quick match
    have not_lt : ¬ i < i' := fun lt => by
      have := byQuick'.2 i lt hit
      rw [byQuick.1] at this
      cases this
    have not_gt : ¬ i' < i := fun lt => by
      have := byQuick.2 i' lt hit'
      rw [byQuick'.1] at this
      cases this
    omega
  · have := byLast'.1 i bound hit
    rw [byQuick.1] at this
    cases this
  · have := byLast.1 i' bound' hit'
    rw [byQuick'.1] at this
    cases this
  · -- both are the last match
    have not_lt : ¬ i < i' := fun lt => by
      rw [byLast.2 i' lt bound'] at hit'
      cases hit'
    have not_gt : ¬ i' < i := fun lt => by
      rw [byLast'.2 i lt bound] at hit
      cases hit
    omega

theorem plainScan_eq_some_iff (i : Nat) :
    plainScan n verdict quick 0 none = some i ↔ Picks n verdict quick i := by
  have outcome := plainScan_outcome n verdict quick 0 none (scanSoFar_start n verdict quick)
  constructor
  · intro result
    rw [result] at outcome
    exact outcome
  · intro picked
    cases result : plainScan n verdict quick 0 none with
    | none =>
      rw [result] at outcome
      have miss : (verdict i).accepts = false := outcome i picked.1
      rw [picked.2.1] at miss
      cases miss
    | some i' =>
      rw [result] at outcome
      rw [picks_unique n verdict quick outcome picked]

end Scan

end OpenIKED.Shared
