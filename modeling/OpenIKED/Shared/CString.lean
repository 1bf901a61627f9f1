import OpenIKED.Shared.Memory

set_option autoImplicit false

/-!
# C strings in fixed-size character arrays

A `char` array of `n` bytes is a list of `n` characters; the string it holds runs up
to its first NUL.  `strlcpy` and `strlcat` follow the portable implementations in
`compat/strlcpy.c` and `compat/strlcat.c`, including the bytes each of them writes.
-/

namespace OpenIKED.Shared

def nul : Char := Char.ofNat 0

-- The string a character array holds: its characters before the first NUL.
def cstr : List Char → List Char
  | [] => []
  | c :: rest => if c = nul then [] else c :: cstr rest

-- `strnlen(buf, sizeof(buf))`.
def cstrlen (buf : List Char) : Nat := (cstr buf).length

def Terminated (buf : List Char) : Prop := nul ∈ buf

instance (buf : List Char) : Decidable (Terminated buf) :=
  inferInstanceAs (Decidable (nul ∈ buf))

def NulFree (s : List Char) : Prop := ∀ c ∈ s, c ≠ nul

-- Store `w` over the bytes of `buf` from `pos` on.
def overwrite (buf : List Char) (pos : Nat) (w : List Char) : List Char :=
  buf.take pos ++ w ++ buf.drop (pos + w.length)

-- `strlcpy(dst, src, sizeof(dst))`: the new array and the value returned.
def strlcpy (dst src : List Char) : List Char × Nat :=
  let s := cstr src
  if dst.length = 0 then (dst, s.length)
  else (overwrite dst 0 (s.take (dst.length - 1) ++ [nul]), s.length)

-- `strlcat(dst, src, sizeof(dst))`: the new array and the value returned.
def strlcat (dst src : List Char) : List Char × Nat :=
  let s := cstr src
  let dlen := cstrlen dst
  if dlen = dst.length then (dst, dlen + s.length)
  else (overwrite dst dlen (s.take (dst.length - dlen - 1) ++ [nul]), dlen + s.length)

-- `strchr(s, c)` for a `c` other than NUL: where the first `c` of the string stands.
def strchr : List Char → Char → Option Nat
  | [], _ => none
  | d :: rest, c => if d = nul then none else if d = c then some 0 else (strchr rest c).map (· + 1)

-- The bytes of `dst` that `strlcpy` stores to.
def strlcpySpan (dst src : List Char) : Option Span :=
  if dst.length = 0 then none
  else some ⟨0, min (cstrlen src) (dst.length - 1) + 1⟩

-- The bytes of `dst` that `strlcat` stores to.
def strlcatSpan (dst src : List Char) : Option Span :=
  if cstrlen dst = dst.length then none
  else some ⟨cstrlen dst, min (cstrlen src) (dst.length - cstrlen dst - 1) + 1⟩

theorem cstr_nulFree (buf : List Char) : NulFree (cstr buf) := by
  induction buf with
  | nil => simp [cstr, NulFree]
  | cons c rest ih =>
    by_cases head : c = nul
    · simp [cstr, head, NulFree]
    · intro d member
      simp only [cstr, head, if_false, List.mem_cons] at member
      rcases member with rfl | inRest
      · exact head
      · exact ih d inRest

theorem nulFree_take {s : List Char} (free : NulFree s) (n : Nat) : NulFree (s.take n) :=
  fun c member => free c (List.mem_of_mem_take member)

theorem cstr_of_nulFree {s : List Char} (free : NulFree s) (rest : List Char) :
    cstr (s ++ nul :: rest) = s := by
  induction s with
  | nil => simp [cstr]
  | cons c s ih =>
    have head : c ≠ nul := free c (by simp)
    have tail : NulFree s := fun d member => free d (by simp [member])
    simp [cstr, head, ih tail]

theorem cstr_eq_self {s : List Char} (free : NulFree s) : cstr s = s := by
  induction s with
  | nil => rfl
  | cons c s ih =>
    have head : c ≠ nul := free c (by simp)
    simp [cstr, head, ih (fun d member => free d (by simp [member]))]

theorem cstr_cstr (buf : List Char) : cstr (cstr buf) = cstr buf :=
  cstr_eq_self (cstr_nulFree buf)

-- A string read from inside another one is the rest of that string.
theorem cstr_drop (buf : List Char) (k : Nat) (within : k ≤ cstrlen buf) :
    cstr (buf.drop k) = (cstr buf).drop k := by
  induction buf generalizing k with
  | nil => simp [cstr]
  | cons c rest ih =>
    cases k with
    | zero => rfl
    | succ k =>
      by_cases head : c = nul
      · simp [cstrlen, cstr, head] at within
      · simp only [cstrlen, cstr, head, if_false, List.length_cons] at within
        simp only [cstr, head, if_false, List.drop_succ_cons]
        exact ih k (by simp only [cstrlen]; omega)

theorem cstrlen_le (buf : List Char) : cstrlen buf ≤ buf.length := by
  induction buf with
  | nil => simp [cstrlen, cstr]
  | cons c rest ih =>
    by_cases head : c = nul
    · simp [cstrlen, cstr, head]
    · simp only [cstrlen] at ih
      simp [cstrlen, cstr, head, ih]

theorem cstrlen_lt_iff (buf : List Char) : cstrlen buf < buf.length ↔ Terminated buf := by
  induction buf with
  | nil => simp [cstrlen, cstr, Terminated]
  | cons c rest ih =>
    by_cases head : c = nul
    · simp [cstrlen, cstr, Terminated, head]
    · simp only [cstrlen, Terminated] at ih
      simp [cstrlen, cstr, Terminated, head, ih, Ne.symm head]

theorem take_cstrlen (buf : List Char) : buf.take (cstrlen buf) = cstr buf := by
  induction buf with
  | nil => rfl
  | cons c rest ih =>
    by_cases head : c = nul
    · simp [cstrlen, cstr, head]
    · simp only [cstrlen] at ih
      simp [cstrlen, cstr, head, ih]

theorem length_overwrite (buf : List Char) (pos : Nat) (w : List Char)
    (fits : pos + w.length ≤ buf.length) : (overwrite buf pos w).length = buf.length := by
  simp [overwrite, List.length_take, List.length_drop]
  omega

@[simp] theorem strlcpy_ret (dst src : List Char) : (strlcpy dst src).2 = cstrlen src := by
  unfold strlcpy cstrlen
  split <;> rfl

@[simp] theorem strlcat_ret (dst src : List Char) :
    (strlcat dst src).2 = cstrlen dst + cstrlen src := by
  unfold strlcat cstrlen
  dsimp only
  split <;> rfl

theorem strlcpy_length (dst src : List Char) : (strlcpy dst src).1.length = dst.length := by
  unfold strlcpy
  split
  · rfl
  · apply length_overwrite
    simp [List.length_take]
    omega

theorem strlcat_length (dst src : List Char) : (strlcat dst src).1.length = dst.length := by
  unfold strlcat
  dsimp only
  split
  · rfl
  · have short := cstrlen_le dst
    apply length_overwrite
    simp [List.length_take]
    omega

theorem strlcpySpan_within (dst src : List Char) (span : Span)
    (stored : strlcpySpan dst src = some span) : span.Within 0 dst.length := by
  unfold strlcpySpan at stored
  split at stored
  · cases stored
  · cases stored
    simp only [Span.within_iff]
    omega

theorem strlcatSpan_within (dst src : List Char) (span : Span)
    (stored : strlcatSpan dst src = some span) : span.Within 0 dst.length := by
  unfold strlcatSpan at stored
  split at stored
  · cases stored
  · cases stored
    have short := cstrlen_le dst
    simp only [Span.within_iff]
    omega

theorem cstr_overwrite_nul (buf : List Char) (pos : Nat) (w : List Char)
    (before : NulFree (buf.take pos)) (free : NulFree w) :
    cstr (overwrite buf pos (w ++ [nul])) = buf.take pos ++ w := by
  have whole : NulFree (buf.take pos ++ w) := by
    intro c member
    rcases List.mem_append.mp member with inPrefix | inText
    · exact before c inPrefix
    · exact free c inText
  have shape : overwrite buf pos (w ++ [nul]) =
      (buf.take pos ++ w) ++ nul :: buf.drop (pos + (w.length + 1)) := by
    simp [overwrite, List.append_assoc]
  rw [shape, cstr_of_nulFree whole]

theorem strlcpy_terminated (dst src : List Char) (room : 0 < dst.length) :
    Terminated (strlcpy dst src).1 := by
  unfold strlcpy Terminated overwrite
  simp only [Nat.pos_iff_ne_zero.mp room, if_false]
  simp

theorem cstr_strlcpy (dst src : List Char) (room : 0 < dst.length) :
    cstr (strlcpy dst src).1 = (cstr src).take (dst.length - 1) := by
  unfold strlcpy
  simp only [Nat.pos_iff_ne_zero.mp room, if_false]
  rw [cstr_overwrite_nul dst 0 _ (by simp [NulFree]) (nulFree_take (cstr_nulFree src) _)]
  simp

theorem cstrlen_strlcpy (dst src : List Char) (room : 0 < dst.length) :
    cstrlen (strlcpy dst src).1 = min (cstrlen src) (dst.length - 1) := by
  rw [cstrlen, cstr_strlcpy dst src room, List.length_take, cstrlen, Nat.min_comm]

theorem strlcat_terminated (dst src : List Char) (terminated : Terminated dst) :
    Terminated (strlcat dst src).1 := by
  have inside := (cstrlen_lt_iff dst).mpr terminated
  unfold strlcat Terminated overwrite
  simp only [Nat.ne_of_lt inside, if_false]
  simp

theorem cstr_strlcat (dst src : List Char) (terminated : Terminated dst) :
    cstr (strlcat dst src).1 = (cstr dst ++ cstr src).take (dst.length - 1) := by
  have inside := (cstrlen_lt_iff dst).mpr terminated
  unfold strlcat
  simp only [Nat.ne_of_lt inside, if_false]
  have before : NulFree (dst.take (cstrlen dst)) := by
    rw [take_cstrlen]
    exact cstr_nulFree dst
  rw [cstr_overwrite_nul dst _ _ before (nulFree_take (cstr_nulFree src) _),
    take_cstrlen, List.take_append]
  have whole : (cstr dst).take (dst.length - 1) = cstr dst := by
    apply List.take_of_length_le
    simp only [cstrlen] at inside
    omega
  simp only [cstrlen] at inside ⊢
  rw [whole]
  congr 2
  omega

theorem strchr_of_cstr {buf pre post : List Char} {c : Char} (split : cstr buf = pre ++ c :: post)
    (absent : c ∉ pre) : strchr buf c = some pre.length := by
  induction pre generalizing buf with
  | nil =>
    rcases buf with _ | ⟨d, rest⟩
    · simp [cstr] at split
    · by_cases head : d = nul
      · simp [cstr, head] at split
      · simp only [cstr, head, if_false, List.nil_append, List.cons.injEq] at split
        obtain ⟨rfl, -⟩ := split
        simp [strchr, head]
  | cons p pre ih =>
    rcases buf with _ | ⟨d, rest⟩
    · simp [cstr] at split
    · by_cases head : d = nul
      · simp [cstr, head] at split
      · simp only [cstr, head, if_false, List.cons_append, List.cons.injEq] at split
        obtain ⟨rfl, later⟩ := split
        have other : d ≠ c := fun same => absent (by simp [same])
        simp [strchr, head, other, ih later (fun inPre => absent (by simp [inPre]))]

end OpenIKED.Shared
