import Mathlib.Data.List.Induction
import OpenIKED.Shared.Slots
import OpenIKED.Ikev2.PrintId

set_option autoImplicit false

/-!
# Reassembly of SKF fragments

`ikev2_pld_ef` stores the decrypted plaintext of each SKF fragment in the SA's
`sa_fragments` and counts the fragments it stored; once the count reaches `frag_total`,
`ikev2_frags_reassemble` copies the plaintexts into one buffer, hands it to
`ikev2_pld_payloads` and resets the fragment state with `config_free_fragments`.

Decryption is a parameter of the input (the plaintext `ikev2_msg_decrypt` returns, or
none), and so is the parse of the reassembled buffer.  Allocation is assumed to succeed
except where its size limit is part of the code: `ibuf_new` refuses more than
`IKED_MSGBUF_MAX` bytes.
-/

namespace OpenIKED.Ikev2.Frag

open OpenIKED.Shared
open OpenIKED.Ikev2.PrintId (ikedMsgbufMax)

def ikedFragTotalMax : Nat := 111

-- `struct iked_frag`.  A stored `iked_frag_entry` is its plaintext: `frag_data`, with
-- `frag_size` its length.
structure IkedFrag where
  fragArr : Option (List (Option (List UInt8))) := none
  fragCount : Nat := 0
  fragTotal : Nat := 0
  fragTotalSize : Nat := 0
  fragNextpayload : Nat := 0
deriving DecidableEq, Repr

-- One SKF payload as `ikev2_pld_ef` sees it: its fragment header, the plaintext that
-- `ikev2_msg_decrypt` returns for it (`none` when decryption fails) and the next-payload
-- field of its generic payload header.
structure FragArrival where
  fragNum : Nat
  fragTotal : Nat
  plaintext : Option (List UInt8)
  pldNextpayload : Nat
deriving DecidableEq, Repr

def configFreeFragments (frag : IkedFrag) : IkedFrag :=
  if frag.fragArr.isSome then {} else frag

-- How the copy loop of `ikev2_frags_reassemble` ends.
inductive Copied where
  | done (buf : List UInt8)
  -- `ibuf_seek` refused the span
  | failed
  -- `fatalx("Tried to reassemble shallow frag_arr")`
  | fatal
deriving DecidableEq, Repr

-- The loop over `frag_arr`, copying each entry at the running offset into the buffer
-- `ibuf_new(NULL, frag_total_size)` zeroed.
def reassembleCopy (buf : List UInt8) (offset : Nat) : List (Option (List UInt8)) → Copied
  | [] => .done buf
  | none :: _ => .fatal
  | some data :: rest =>
    if buf.length < offset + data.length then .failed
    else reassembleCopy (writeAt buf offset data) (offset + data.length) rest

-- What handling one SKF payload comes to: its return value, the fragment state it
-- leaves and the buffer and next payload it hands to `ikev2_pld_payloads`, if any; or the
-- process exits in `fatalx`.
inductive EfOutcome where
  | returned (ret : Int) (frag : IkedFrag) (handed : Option (List UInt8 × Nat))
  | fatal
deriving DecidableEq, Repr

-- `ikev2_frags_reassemble`; `payloads` is `ikev2_pld_payloads` on the buffer.
def ikev2FragsReassemble (payloads : List UInt8 → Nat → Int) (frag : IkedFrag) : EfOutcome :=
  -- `ibuf_new` fails above IKED_MSGBUF_MAX
  if ikedMsgbufMax < frag.fragTotalSize then .returned (-1) (configFreeFragments frag) none
  else
    match reassembleCopy (List.replicate frag.fragTotalSize 0) 0 (frag.fragArr.getD []) with
    | .fatal => .fatal
    | .failed => .returned (-1) (configFreeFragments frag) none
    | .done buf =>
      .returned (payloads buf frag.fragNextpayload) (configFreeFragments frag)
        (some (buf, frag.fragNextpayload))

-- What `ikev2_pld_ef` records for a new fragment.
def fragInsert (frag : IkedFrag) (a : FragArrival) (plain : List UInt8) : IkedFrag :=
  -- the first fragment's header determines the next payload
  let frag := if a.fragNum = 1 then { frag with fragNextpayload := a.pldNextpayload } else frag
  { frag with
    fragArr := frag.fragArr.map (·.set (a.fragNum - 1) (some plain)),
    fragTotalSize := frag.fragTotalSize + plain.length,
    fragCount := frag.fragCount + 1 }

-- The end of `ikev2_pld_ef` once the fragment is known to be new: record it, and
-- reassemble when it was the last one.
def ikev2PldEfStore (payloads : List UInt8 → Nat → Int) (frag : IkedFrag) (a : FragArrival)
    (plain : List UInt8) : EfOutcome :=
  let frag := fragInsert frag a plain
  if frag.fragCount = frag.fragTotal then ikev2FragsReassemble payloads frag
  else .returned 0 frag none

def ikev2PldEf (payloads : List UInt8 → Nat → Int) (frag : IkedFrag) (a : FragArrival) :
    EfOutcome :=
  -- `goto dropall`: too many fragments
  if ikedFragTotalMax < a.fragTotal then .returned (-1) (configFreeFragments frag) none
  else if a.fragNum = 0 ∨ a.fragTotal = 0 then .returned (-1) frag none
  else if a.fragTotal < a.fragNum then .returned (-1) frag none
  else
    match a.plaintext with
    | none => .returned (-1) frag none
    | some plain =>
      match frag.fragArr with
      | none =>
        -- a new fragmented message: `recallocarray` gives `frag_total` empty slots
        ikev2PldEfStore payloads
          { frag with fragArr := some (List.replicate a.fragTotal none), fragTotal := a.fragTotal }
          a plain
      | some arr =>
        -- a fragment of another total discards the message collected so far
        if a.fragTotal ≠ frag.fragTotal then .returned (-1) (configFreeFragments frag) none
        else if (arr.getD (a.fragNum - 1) none).isSome then .returned (-1) frag none
        else ikev2PldEfStore payloads frag a plain

-- `ikev2_pld_ef` on one SKF payload after another: what each one hands on, and the
-- fragment state left at the end; `none` when the process exits in `fatalx`.
def ikev2PldEfRun (payloads : List UInt8 → Nat → Int) :
    IkedFrag → List FragArrival → Option (List (Option (List UInt8 × Nat)) × IkedFrag)
  | frag, [] => some ([], frag)
  | frag, a :: rest =>
    match ikev2PldEf payloads frag a with
    | .fatal => none
    | .returned _ frag' handed =>
      (ikev2PldEfRun payloads frag' rest).map fun run => (handed :: run.1, run.2)

/-! ## What reassembly is for -/

-- A message being collected: for each fragment number the first plaintext received,
-- with the next-payload type of the SKF payload that carried it.
structure Collector where
  total : Nat
  slots : List (Option (List UInt8 × Nat))

def WellFormed (a : FragArrival) : Prop :=
  1 ≤ a.fragNum ∧ a.fragNum ≤ a.fragTotal ∧ a.fragTotal ≤ ikedFragTotalMax ∧ a.plaintext.isSome

instance (a : FragArrival) : Decidable (WellFormed a) := inferInstanceAs (Decidable (_ ∧ _))

-- The message of a full collector: the plaintexts in fragment order, with the next
-- payload that fragment 1 carried.
def message (slots : List (Option (List UInt8 × Nat))) : List UInt8 × Nat :=
  ((slots.filterMap id).flatMap Prod.fst,
    match slots with
    | some (_, np) :: _ => np
    | _ => 0)

-- Filling an empty slot; the message is delivered, and the collector emptied, once
-- every slot is filled.
def Collector.fill (c : Collector) (i : Nat) (entry : List UInt8 × Nat) :
    Option Collector × Option (List UInt8 × Nat) :=
  let slots := c.slots.set i (some entry)
  if ∀ s ∈ slots, s.isSome then (none, some (message slots)) else (some ⟨c.total, slots⟩, none)

-- What an arrival fills its slot with.
def entry (a : FragArrival) : List UInt8 × Nat := (a.plaintext.getD [], a.pldNextpayload)

def collect (c : Option Collector) (a : FragArrival) :
    Option Collector × Option (List UInt8 × Nat) :=
  let current := c.getD ⟨a.fragTotal, List.replicate a.fragTotal none⟩
  if a.fragTotal ≠ current.total then (none, none)
  else if (current.slots.getD (a.fragNum - 1) none).isSome then (some current, none)
  else current.fill (a.fragNum - 1) (entry a)

def collectRun : Option Collector → List FragArrival → List (Option (List UInt8 × Nat))
  | _, [] => []
  | c, a :: rest => (collect c a).2 :: collectRun (collect c a).1 rest

-- What the code can hand on of a delivered message: `ibuf_new` takes no more than
-- `IKED_MSGBUF_MAX` bytes.
def fitting (out : Option (List UInt8 × Nat)) : Option (List UInt8 × Nat) :=
  out.filter fun m => m.1.length ≤ ikedMsgbufMax

def collectState (c : Option Collector) (arrivals : List FragArrival) : Option Collector :=
  arrivals.foldl (fun c a => (collect c a).1) c

theorem collectRun_append (c : Option Collector) (xs ys : List FragArrival) :
    collectRun c (xs ++ ys) = collectRun c xs ++ collectRun (collectState c xs) ys := by
  induction xs generalizing c with
  | nil => rfl
  | cons a xs ih => simp [collectRun, collectState, ih]

/-! ### One message, fragment by fragment -/

-- Fragment `n` of a sequence of arrivals: the first arrival numbered `n`.
def firstArrival (arrivals : List FragArrival) (n : Nat) : Option (List UInt8 × Nat) :=
  (arrivals.find? (·.fragNum == n)).map entry

def firstArrivals (total : Nat) (arrivals : List FragArrival) : List (Option (List UInt8 × Nat)) :=
  (List.range total).map fun i => firstArrival arrivals (i + 1)

@[simp] theorem firstArrivals_length (total : Nat) (arrivals : List FragArrival) :
    (firstArrivals total arrivals).length = total := by
  simp [firstArrivals]

theorem firstArrivals_getElem (total : Nat) (arrivals : List FragArrival) (i : Nat)
    (inside : i < (firstArrivals total arrivals).length) :
    (firstArrivals total arrivals)[i] = firstArrival arrivals (i + 1) := by
  simp [firstArrivals]

theorem firstArrivals_nil (total : Nat) : firstArrivals total [] = List.replicate total none := by
  apply List.ext_getElem (by simp)
  intro i _ _
  simp [firstArrivals, firstArrival]

theorem firstArrival_snoc (q : List FragArrival) (a : FragArrival) (n : Nat) :
    firstArrival (q ++ [a]) n =
      (firstArrival q n).or (if a.fragNum = n then some (entry a) else none) := by
  simp only [firstArrival, List.find?_append, Option.map_or, List.find?_singleton, beq_iff_eq]
  split_ifs <;> rfl

theorem firstArrivals_snoc_new (total : Nat) (q : List FragArrival) (a : FragArrival)
    (first : 1 ≤ a.fragNum) (unseen : firstArrival q a.fragNum = none) :
    firstArrivals total (q ++ [a]) = (firstArrivals total q).set (a.fragNum - 1) (some (entry a)) := by
  apply List.ext_getElem (by simp)
  intro i inside _
  rw [List.getElem_set, firstArrivals_getElem _ _ _ inside, firstArrival_snoc,
    firstArrivals_getElem _ _ _ (by simpa using inside)]
  by_cases slot : a.fragNum - 1 = i
  · have number : i + 1 = a.fragNum := by omega
    rw [if_pos slot, number, unseen, if_pos rfl]
    rfl
  · rw [if_neg slot, if_neg (by omega)]
    exact Option.or_none

theorem firstArrivals_snoc_seen (total : Nat) (q : List FragArrival) (a : FragArrival)
    (seen : (firstArrival q a.fragNum).isSome) :
    firstArrivals total (q ++ [a]) = firstArrivals total q := by
  apply List.ext_getElem (by simp)
  intro i inside _
  rw [firstArrivals_getElem _ _ _ inside, firstArrival_snoc,
    firstArrivals_getElem _ _ _ (by simpa using inside)]
  split_ifs with number
  · obtain ⟨e, filled⟩ := Option.isSome_iff_exists.mp seen
    rw [← number, filled]
    rfl
  · exact Option.or_none

theorem firstArrivals_snoc_full (total : Nat) (q : List FragArrival) (a : FragArrival)
    (full : ∀ s ∈ firstArrivals total q, s.isSome) :
    ∀ s ∈ firstArrivals total (q ++ [a]), s.isSome := by
  intro s member
  obtain ⟨i, inside, rfl⟩ := List.getElem_of_mem member
  rw [firstArrivals_getElem _ _ _ inside, firstArrival_snoc]
  have filled := full _ (List.getElem_mem (l := firstArrivals total q) (by simpa using inside))
  rw [firstArrivals_getElem] at filled
  obtain ⟨e, stored⟩ := Option.isSome_iff_exists.mp filled
  rw [stored]
  rfl

/-- While a message is incomplete the collector holds each fragment's first arrival;
the next fragment either leaves it incomplete or completes it and delivers it. -/
theorem collect_firstArrivals (total : Nat) (q : List FragArrival) (c : Option Collector)
    (a : FragArrival) (state : c.getD ⟨total, List.replicate total none⟩ = ⟨total, firstArrivals total q⟩)
    (missing : ¬ ∀ s ∈ firstArrivals total q, s.isSome) (wf : WellFormed a) (same : a.fragTotal = total) :
    collect c a =
      if ∀ s ∈ firstArrivals total (q ++ [a]), s.isSome then
        (none, some (message (firstArrivals total (q ++ [a]))))
      else (some ⟨total, firstArrivals total (q ++ [a])⟩, none) := by
  obtain ⟨first, inside, -, -⟩ := wf
  unfold collect
  dsimp only
  rw [same, state, if_neg (by simp)]
  have slot : (firstArrivals total q).getD (a.fragNum - 1) none = firstArrival q a.fragNum := by
    rw [List.getD_eq_getElem?_getD, List.getElem?_eq_getElem (by simp; omega),
      firstArrivals_getElem, Option.getD_some, Nat.sub_add_cancel first]
  dsimp only
  rw [slot]
  cases seen : firstArrival q a.fragNum with
  | some e =>
    -- a duplicate: the collector stays as it is
    rw [firstArrivals_snoc_seen total q a (by simp [seen]), if_neg missing]
    rfl
  | none =>
    rw [firstArrivals_snoc_new total q a first seen]
    rfl

theorem collectRun_collecting (total : Nat) (pre : List FragArrival)
    (wf : ∀ b ∈ pre, WellFormed b ∧ b.fragTotal = total)
    (missing : ¬ ∀ s ∈ firstArrivals total pre, s.isSome) :
    collectRun none pre = List.replicate pre.length none ∧
      (collectState none pre).getD ⟨total, List.replicate total none⟩ =
        ⟨total, firstArrivals total pre⟩ := by
  induction pre using List.reverseRecOn with
  | nil => exact ⟨rfl, by rw [firstArrivals_nil]; rfl⟩
  | append_singleton q a ih =>
    have qMissing : ¬ ∀ s ∈ firstArrivals total q, s.isSome :=
      fun full => missing (firstArrivals_snoc_full total q a full)
    obtain ⟨outputs, state⟩ := ih (fun b member => wf b (List.mem_append_left _ member)) qMissing
    obtain ⟨wfA, same⟩ := wf a (List.mem_append_right _ List.mem_cons_self)
    have step := collect_firstArrivals total q (collectState none q) a state qMissing wfA same
    rw [if_neg missing] at step
    constructor
    · rw [collectRun_append, outputs, collectRun, step, collectRun, List.length_append,
        List.length_singleton, List.replicate_succ']
    · simp only [collectState, List.foldl_append, List.foldl_cons, List.foldl_nil] at step ⊢
      rw [step]
      rfl

/-- The fragments of one message, in any order and with any duplicates, are delivered
exactly once: at the arrival that gives the last fragment number its first arrival, as
the first plaintexts in fragment order with fragment 1's next payload; the collector
then starts afresh. -/
theorem collectRun_one_message (total : Nat) (pre : List FragArrival) (a : FragArrival)
    (rest : List FragArrival) (wf : ∀ b ∈ pre ++ [a], WellFormed b ∧ b.fragTotal = total)
    (missing : ¬ ∀ s ∈ firstArrivals total pre, s.isSome)
    (complete : ∀ s ∈ firstArrivals total (pre ++ [a]), s.isSome) :
    collectRun none (pre ++ a :: rest) =
      List.replicate pre.length none ++
        some (message (firstArrivals total (pre ++ [a]))) :: collectRun none rest := by
  obtain ⟨outputs, state⟩ :=
    collectRun_collecting total pre (fun b member => wf b (List.mem_append_left _ member)) missing
  obtain ⟨wfA, same⟩ := wf a (List.mem_append_right _ List.mem_cons_self)
  have step := collect_firstArrivals total pre (collectState none pre) a state missing wfA same
  rw [if_pos complete] at step
  rw [collectRun_append, outputs, collectRun, step]

/-! ## The fragment state refines the collector -/

structure Represents (frag : IkedFrag) (c : Collector) : Prop where
  arr : frag.fragArr = some (c.slots.map (Option.map Prod.fst))
  total : frag.fragTotal = c.total
  length : c.slots.length = c.total
  positive : 0 < c.total
  count : frag.fragCount = filled c.slots
  size : frag.fragTotalSize = weight (fun e => e.1.length) c.slots
  first : ∀ p np, c.slots.head? = some (some (p, np)) → frag.fragNextpayload = np

-- Between fragments the state is empty or stands for a collector that still misses
-- a fragment.
def Abstracts (frag : IkedFrag) : Option Collector → Prop
  | none => frag = {}
  | some c => Represents frag c ∧ ¬ ∀ s ∈ c.slots, s.isSome

-- The code's outcome is a step of the collector to `c'` delivering `out`: it hands on
-- what fits of `out`, with the parse's result, and leaves a state that stands for `c'`.
def Matches (payloads : List UInt8 → Nat → Int) (outcome : EfOutcome) (c' : Option Collector)
    (out : Option (List UInt8 × Nat)) : Prop :=
  ∃ ret frag', outcome = .returned ret frag' (fitting out) ∧ Abstracts frag' c' ∧
    ∀ m, fitting out = some m → ret = payloads m.1 m.2

theorem reassembleCopy_chunks (written : List UInt8) (chunks : List (List UInt8)) :
    reassembleCopy (written ++ List.replicate (chunks.map List.length).sum 0) written.length
      (chunks.map some) = .done (written ++ chunks.flatten) := by
  induction chunks generalizing written with
  | nil => simp [reassembleCopy]
  | cons data rest ih =>
    -- the zeroes left have room for `data`
    have room : ¬ (written ++ List.replicate (data.length + (rest.map List.length).sum) 0).length <
        written.length + data.length := by
      simp
    rw [List.map_cons, List.map_cons, List.sum_cons, reassembleCopy, if_neg room, writeAt_after,
      ← List.length_append, ih]
    simp

@[simp] theorem configFreeFragments_of_arr (frag : IkedFrag) (stored : frag.fragArr.isSome) :
    configFreeFragments frag = {} := by
  simp [configFreeFragments, stored]

theorem message_length (slots : List (Option (List UInt8 × Nat))) :
    (message slots).1.length = weight (fun e => e.1.length) slots := by
  simp [message, weight_eq_sum, List.length_flatMap]

/-- Once every slot is filled, `ikev2_frags_reassemble` hands on the collector's message
when it fits, and resets the fragment state either way. -/
theorem ikev2FragsReassemble_of_full (payloads : List UInt8 → Nat → Int) (frag : IkedFrag)
    (c : Collector) (rep : Represents frag c) (full : ∀ s ∈ c.slots, s.isSome) :
    Matches payloads (ikev2FragsReassemble payloads frag) none (some (message c.slots)) := by
  have reset : configFreeFragments frag = {} := configFreeFragments_of_arr frag (by simp [rep.arr])
  unfold ikev2FragsReassemble
  split_ifs with large
  · -- `ibuf_new` refuses the buffer: nothing is handed on
    have notFit : fitting (some (message c.slots)) = none := by
      simp [fitting, message_length, ← rep.size, large]
    refine ⟨-1, {}, by rw [reset, notFit], rfl, by simp [notFit]⟩
  · have fits : fitting (some (message c.slots)) = some (message c.slots) := by
      simp [fitting, message_length, ← rep.size]
      omega
    -- the slots hold the entries in order, so the copy loop lays them end to end
    have entries := eq_map_some_of_full c.slots full
    have copied : reassembleCopy (List.replicate frag.fragTotalSize 0) 0 (frag.fragArr.getD []) =
        .done (message c.slots).1 := by
      have chunks := reassembleCopy_chunks [] ((c.slots.filterMap id).map Prod.fst)
      rw [rep.arr, entries, rep.size, weight_eq_sum]
      simpa [message, List.flatMap, Function.comp_def] using chunks
    have nextpayload : frag.fragNextpayload = (message c.slots).2 := by
      obtain ⟨s, rest, split⟩ := List.exists_cons_of_length_pos (rep.length ▸ rep.positive)
      obtain ⟨⟨p, np⟩, rfl⟩ := Option.isSome_iff_exists.mp (full s (by simp [split]))
      rw [rep.first p np (by simp [split]), split]
      rfl
    unfold Matches
    simp only [copied, reset, fits, nextpayload]
    refine ⟨_, {}, rfl, rfl, ?_⟩
    intro m delivered
    cases delivered
    rfl

@[simp] theorem fragInsert_fragArr (frag : IkedFrag) (a : FragArrival) (plain : List UInt8) :
    (fragInsert frag a plain).fragArr = frag.fragArr.map (·.set (a.fragNum - 1) (some plain)) := by
  unfold fragInsert
  split_ifs <;> rfl

@[simp] theorem fragInsert_fragTotal (frag : IkedFrag) (a : FragArrival) (plain : List UInt8) :
    (fragInsert frag a plain).fragTotal = frag.fragTotal := by
  unfold fragInsert
  split_ifs <;> rfl

@[simp] theorem fragInsert_fragCount (frag : IkedFrag) (a : FragArrival) (plain : List UInt8) :
    (fragInsert frag a plain).fragCount = frag.fragCount + 1 := by
  unfold fragInsert
  split_ifs <;> rfl

@[simp] theorem fragInsert_fragTotalSize (frag : IkedFrag) (a : FragArrival) (plain : List UInt8) :
    (fragInsert frag a plain).fragTotalSize = frag.fragTotalSize + plain.length := by
  unfold fragInsert
  split_ifs <;> rfl

theorem fragInsert_fragNextpayload (frag : IkedFrag) (a : FragArrival) (plain : List UInt8) :
    (fragInsert frag a plain).fragNextpayload =
      if a.fragNum = 1 then a.pldNextpayload else frag.fragNextpayload := by
  unfold fragInsert
  split_ifs <;> rfl

theorem represents_fragInsert (frag : IkedFrag) (c : Collector) (rep : Represents frag c)
    (a : FragArrival) (plain : List UInt8) (first : 1 ≤ a.fragNum)
    (empty : c.slots[a.fragNum - 1]? = some none) :
    Represents (fragInsert frag a plain)
      ⟨c.total, c.slots.set (a.fragNum - 1) (some (plain, a.pldNextpayload))⟩ where
  arr := by simp [rep.arr, List.map_set]
  total := by simp [rep.total]
  length := by simp [rep.length]
  positive := rep.positive
  count := by simp [rep.count, filled_set_empty _ _ _ empty]
  size := by simp [rep.size, weight_set_empty _ _ _ _ empty]
  first p np head := by
    rw [fragInsert_fragNextpayload]
    split_ifs with one
    · -- fragment 1 fills the head slot
      rw [one] at head
      cases slots : c.slots with
      | nil => simp [slots] at empty
      | cons s rest =>
        simp only [slots, Nat.sub_self, List.set_cons_zero, List.head?_cons,
          Option.some.injEq] at head
        cases head
        rfl
    · -- another fragment leaves the head slot alone
      have keeps : (c.slots.set (a.fragNum - 1) (some (plain, a.pldNextpayload))).head? =
          c.slots.head? := by
        cases slots : c.slots with
        | nil => rfl
        | cons s rest =>
          obtain ⟨k, hk⟩ : ∃ k, a.fragNum - 1 = k + 1 := ⟨a.fragNum - 2, by omega⟩
          simp [hk]
      exact rep.first p np (keeps ▸ head)

-- `ikev2_pld_ef` past its checks, on a fragment for an empty slot: the collector's fill
-- step.
theorem ikev2PldEfStore_refines (payloads : List UInt8 → Nat → Int) (frag : IkedFrag)
    (c : Collector) (rep : Represents frag c) (a : FragArrival) (plain : List UInt8)
    (first : 1 ≤ a.fragNum) (empty : c.slots[a.fragNum - 1]? = some none) :
    Matches payloads (ikev2PldEfStore payloads frag a plain)
      (c.fill (a.fragNum - 1) (plain, a.pldNextpayload)).1
      (c.fill (a.fragNum - 1) (plain, a.pldNextpayload)).2 := by
  -- the counter reaches the total exactly when every slot is filled
  have complete : (fragInsert frag a plain).fragCount = (fragInsert frag a plain).fragTotal ↔
      ∀ s ∈ c.slots.set (a.fragNum - 1) (some (plain, a.pldNextpayload)), s.isSome := by
    rw [fragInsert_fragCount, fragInsert_fragTotal, rep.count, rep.total, ← rep.length,
      ← filled_set_empty _ _ (plain, a.pldNextpayload) empty, ← List.length_set, filled_eq_length_iff]
  unfold ikev2PldEfStore Collector.fill
  dsimp only
  by_cases full : ∀ s ∈ c.slots.set (a.fragNum - 1) (some (plain, a.pldNextpayload)), s.isSome
  · rw [if_pos (complete.mpr full), if_pos full]
    exact ikev2FragsReassemble_of_full payloads _ _
      (represents_fragInsert frag c rep a plain first empty) full
  · rw [if_neg (mt complete.mp full), if_neg full]
    exact ⟨0, _, rfl, ⟨represents_fragInsert frag c rep a plain first empty, full⟩,
      by simp [fitting]⟩

/-- Every well-formed fragment is a step of the collector: the code hands on what fits of
what the collector delivers, and keeps a state that stands for the collector's. -/
theorem ikev2PldEf_refines (payloads : List UInt8 → Nat → Int) (frag : IkedFrag)
    (c : Option Collector) (abs : Abstracts frag c) (a : FragArrival) (wf : WellFormed a) :
    Matches payloads (ikev2PldEf payloads frag a) (collect c a).1 (collect c a).2 := by
  obtain ⟨first, inside, bounded, decrypted⟩ := wf
  obtain ⟨plain, decrypted⟩ := Option.isSome_iff_exists.mp decrypted
  have filledWith : entry a = (plain, a.pldNextpayload) := by simp [entry, decrypted]
  -- the header checks of `ikev2_pld_ef` pass
  have notMany : ¬ ikedFragTotalMax < a.fragTotal := Nat.not_lt.mpr bounded
  have notZero : ¬ (a.fragNum = 0 ∨ a.fragTotal = 0) := by omega
  have notBeyond : ¬ a.fragTotal < a.fragNum := Nat.not_lt.mpr inside
  unfold ikev2PldEf
  rw [if_neg notMany, if_neg notZero, if_neg notBeyond, decrypted]
  dsimp only
  unfold collect
  rcases c with _ | c
  · -- the first fragment of a message: a fresh collector of `frag_total` empty slots
    obtain rfl : frag = {} := abs
    have start : Represents
        { ({} : IkedFrag) with fragArr := some (List.replicate a.fragTotal none),
                               fragTotal := a.fragTotal }
        ⟨a.fragTotal, List.replicate a.fragTotal none⟩ :=
      { arr := by simp
        total := rfl
        length := by simp
        positive := show 0 < a.fragTotal by omega
        count := by simp
        size := by simp
        first := fun p np head => by
          cases total : a.fragTotal with
          | zero => omega
          | succ n => simp [total, List.replicate_succ] at head }
    have empty : (List.replicate a.fragTotal (none : Option (List UInt8 × Nat)))[a.fragNum - 1]? =
        some none := by
      simp [List.getElem?_replicate]
      omega
    simp only [Option.getD_none, ne_eq, not_true_eq_false, if_false, List.getD_eq_getElem?_getD,
      empty, Option.getD_some, Option.isSome_none, Bool.false_eq_true, filledWith]
    exact ikev2PldEfStore_refines payloads _ _ start a plain first empty
  · obtain ⟨rep, incomplete⟩ := abs
    simp only [rep.arr, Option.getD_some, ← rep.total]
    by_cases other : a.fragTotal ≠ frag.fragTotal
    · -- `goto dropall`
      rw [if_pos other, if_pos other]
      refine ⟨-1, {}, by simp [rep.arr, fitting], rfl, by simp [fitting]⟩
    rw [if_neg other, if_neg other]
    -- the code's slot holds a plaintext exactly when the collector's does
    have slot : ((c.slots.map (Option.map Prod.fst)).getD (a.fragNum - 1) none).isSome =
        (c.slots.getD (a.fragNum - 1) none).isSome := by
      cases h : c.slots[a.fragNum - 1]? <;> simp [List.getD_eq_getElem?_getD, h]
    rw [slot]
    by_cases stored : (c.slots.getD (a.fragNum - 1) none).isSome
    · -- a duplicate is dropped silently
      rw [if_pos stored, if_pos stored]
      exact ⟨-1, frag, rfl, ⟨rep, incomplete⟩, by simp [fitting]⟩
    · rw [if_neg stored, if_neg stored, filledWith]
      have empty := getElem?_eq_none_slot c.slots (a.fragNum - 1) (by
        have := rep.length
        have := rep.total
        omega) (by simpa using stored)
      exact ikev2PldEfStore_refines payloads frag c rep a plain first empty

/-- The run of `ikev2_pld_ef` over well-formed fragments hands on, arrival by arrival,
what fits of what the collector delivers. -/
theorem ikev2PldEfRun_refines (payloads : List UInt8 → Nat → Int) (arrivals : List FragArrival) :
    ∀ (frag : IkedFrag) (c : Option Collector), Abstracts frag c → (∀ a ∈ arrivals, WellFormed a) →
      ∃ frag' c', ikev2PldEfRun payloads frag arrivals =
        some ((collectRun c arrivals).map fitting, frag') ∧ Abstracts frag' c' := by
  induction arrivals with
  | nil =>
    intro frag c abs _
    exact ⟨frag, c, rfl, abs⟩
  | cons a rest ih =>
    intro frag c abs wf
    obtain ⟨ret, next, step, nextAbs, -⟩ :=
      ikev2PldEf_refines payloads frag c abs a (wf a List.mem_cons_self)
    obtain ⟨last, c', run, lastAbs⟩ :=
      ih next (collect c a).1 nextAbs fun b member => wf b (List.mem_cons_of_mem a member)
    refine ⟨last, c', ?_, lastAbs⟩
    rw [ikev2PldEfRun, step]
    simp [run, collectRun]

-- What `ikev2_pld_ef` keeps of `sa_fragments` between fragments: nothing, or
-- `frag_total` slots of which `frag_count`, fewer than all, are filled, holding
-- `frag_total_size` bytes between them.
def FragInvariant (frag : IkedFrag) : Prop :=
  frag = {} ∨ ∃ arr, frag.fragArr = some arr ∧ arr.length = frag.fragTotal ∧
    frag.fragCount = filled arr ∧ frag.fragCount < frag.fragTotal ∧
    frag.fragTotalSize = weight List.length arr

theorem fragInvariant_of_abstracts (frag : IkedFrag) (c : Option Collector)
    (abs : Abstracts frag c) : FragInvariant frag := by
  rcases c with _ | c
  · exact Or.inl abs
  obtain ⟨rep, incomplete⟩ := abs
  -- some slot is still empty, so fewer slots are filled than there are
  have fewer : filled c.slots < c.slots.length :=
    Nat.lt_of_le_of_ne (filled_le_length c.slots)
      fun eq => incomplete ((filled_eq_length_iff c.slots).mp eq)
  refine Or.inr ⟨_, rep.arr, by simp [rep.length, rep.total], ?_, ?_, ?_⟩
  · rw [rep.count, filled_map_option]
  · rw [rep.count, rep.total, ← rep.length]
    exact fewer
  · rw [rep.size, weight_map_option]
    rfl

-- Fragment 2 of 2 is stored when fragment 1 arrives claiming a total of 3.
def halfCollected : IkedFrag :=
  { fragArr := some [none, some [0x42]], fragCount := 1, fragTotal := 2, fragTotalSize := 1 }

def otherTotalArrival : FragArrival := ⟨1, 3, some [0x41], 35⟩

-- Fragment 2 of 2, then fragment 1, which completes the message.
def secondOfTwo : FragArrival := ⟨2, 2, some [0x42], 0⟩
def firstOfTwo : FragArrival := ⟨1, 2, some [0x41], 35⟩

-- Fragment 2 of 2 arrives before fragment 1.
def twoFragments : List FragArrival := [⟨2, 2, some [0x42], 0⟩, ⟨1, 2, some [0x41], 35⟩]

def filler (byte : UInt8) : List UInt8 := List.replicate 4100 byte

theorem filler_length (byte : UInt8) : (filler byte).length = 4100 := List.length_replicate

-- Two fragments of 4100 bytes of plaintext each, for a message of 8200 bytes.
def largeFragments : List FragArrival :=
  [⟨1, 2, some (filler 0x41), 35⟩, ⟨2, 2, some (filler 0x42), 0⟩]

end OpenIKED.Ikev2.Frag
