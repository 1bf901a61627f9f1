import Mathlib
import OpenIKED.Shared.Run
import OpenIKED.Ikev2.MsgWindow

set_option autoImplicit false

/-!
# The retransmission queues of an IKE SA

`sa_requests` and `sa_responses` hold what `ikev2_msg_send` sent on the SA, for
`ikev2_msg_retransmit_timeout` to send again and for `ikev2_msg_retransmit_response` to
answer a retransmitted request with.  An entry, a `struct iked_msg_retransmit`, holds the
fragments of one message in the order they were sent, and `ikev2_msg_lookup` names it by
the message ID and exchange of its first fragment, which it reads through `TAILQ_FIRST`
without a check: an entry with no fragment would make it read through NULL, and the
model makes that a fault.  A queue is a list of entries, and an entry's position stands
for its pointer.

`WellKeyed` is what the calls keep: every entry has fragments, all of one ID and
exchange, and no two entries share theirs.  Then no call faults, `ikev2_msg_lookup` finds
the one entry of a pair, `ikev2_msg_prevail` is a filter, and the names of the entries
form the queue `MsgWindow` abstracts them to, which the calls move as its operations do.
-/

namespace OpenIKED.Ikev2.MsgQueue

open OpenIKED.Shared
open OpenIKED.Ikev2.MsgWindow (Queued)

def ikedRetransmitTimeout : Nat := 2
def ikedResponseTimeout : Nat := 120
def ikedRetransmitTries : Nat := 5

-- The fields of `struct iked_message` that the queue reads.
structure IkedMessage where
  msgMsgid : UInt32
  msgExchange : UInt8
  msgResponse : Bool
  msgData : List UInt8
deriving DecidableEq, Repr

-- The callbacks `ikev2_msg_enqueue` arms an entry's timer with.
inductive TimerCb where
  | ikev2MsgResponseTimeout
  | ikev2MsgRetransmitTimeout
deriving DecidableEq, Repr

-- `struct iked_timer`: its callback, and the seconds of its last `timer_add`.
structure IkedTimer where
  tmrCb : TimerCb
  tmrTimeout : Nat
deriving DecidableEq, Repr

structure IkedMsgRetransmit where
  mrtFrags : List IkedMessage
  mrtTries : Nat
  mrtTimer : IkedTimer
deriving DecidableEq, Repr

def IkedMessage.queued (msg : IkedMessage) : Queued := ⟨msg.msgMsgid, msg.msgExchange⟩

-- What `ikev2_msg_lookup` compares of an entry: its first fragment's ID and exchange.
def IkedMsgRetransmit.queued? (mr : IkedMsgRetransmit) : Option Queued :=
  mr.mrtFrags.head?.map IkedMessage.queued

-- `ikev2_msg_lookup`: the position of the first entry whose first fragment has the ID of
-- `msg` and the exchange `exchange`.
def ikev2MsgLookup : List IkedMsgRetransmit → IkedMessage → UInt8 → Except Unit (Option Nat)
  | [], _, _ => .ok none
  | mr :: rest, msg, exchange =>
    match mr.mrtFrags with
    | [] => .error ()
    | first :: _ =>
      if first.msgMsgid = msg.msgMsgid ∧ first.msgExchange = exchange then .ok (some 0)
      else Option.map (· + 1) <$> ikev2MsgLookup rest msg exchange

-- `ikev2_msg_enqueue`: the message joins the entry of its ID and exchange as its last
-- fragment, or starts an entry at the end of the queue, with a timer armed for `timeout`
-- seconds.  A failing `calloc` is left out.
def ikev2MsgEnqueue (queue : List IkedMsgRetransmit) (msg : IkedMessage) (timeout : Nat) :
    Except Unit (List IkedMsgRetransmit) := do
  match ← ikev2MsgLookup queue msg msg.msgExchange with
  | some i => pure (queue.modify i fun mr => { mr with mrtFrags := mr.mrtFrags ++ [msg] })
  | none =>
    let cb := if msg.msgResponse then TimerCb.ikev2MsgResponseTimeout
      else TimerCb.ikev2MsgRetransmitTimeout
    pure (queue ++ [⟨[msg], 0, ⟨cb, timeout⟩⟩])

-- `ikev2_msg_dispose` of the entry at position `i`: its fragments and timer go with it.
def ikev2MsgDispose (queue : List IkedMsgRetransmit) (i : Nat) : List IkedMsgRetransmit :=
  queue.eraseIdx i

-- `ikev2_msg_flushqueue`: the first entry is disposed of until none is left.
def ikev2MsgFlushqueue : List IkedMsgRetransmit → List IkedMsgRetransmit
  | [] => []
  | _ :: rest => ikev2MsgFlushqueue rest

-- `ikev2_msg_prevail`: every entry whose first fragment's ID is below that of `msg` is
-- disposed of.
def ikev2MsgPrevail : List IkedMsgRetransmit → IkedMessage → Except Unit (List IkedMsgRetransmit)
  | [], _ => .ok []
  | mr :: rest, msg =>
    match mr.mrtFrags with
    | [] => .error ()
    | first :: _ => do
      let rest ← ikev2MsgPrevail rest msg
      pure (if first.msgMsgid < msg.msgMsgid then rest else mr :: rest)

-- A call on one queue, as `ikev2_msg_send`, `ikev2_recv`, `ikev2_frags_reassemble`, the
-- timers and `sa_free` make them; `dispose` names the entry by its position.
inductive QueueCall where
  | enqueue (msg : IkedMessage) (timeout : Nat)
  | lookup (msg : IkedMessage) (exchange : UInt8)
  | dispose (i : Nat)
  | prevail (msg : IkedMessage)
  | flushqueue
deriving DecidableEq, Repr

def queueStep (queue : List IkedMsgRetransmit) : QueueCall → Except Unit (List IkedMsgRetransmit)
  | .enqueue msg timeout => ikev2MsgEnqueue queue msg timeout
  | .lookup msg exchange => (fun _ => queue) <$> ikev2MsgLookup queue msg exchange
  | .dispose i => .ok (ikev2MsgDispose queue i)
  | .prevail msg => ikev2MsgPrevail queue msg
  | .flushqueue => .ok (ikev2MsgFlushqueue queue)

-- The entries `ikev2_msg_prevail` keeps for `msg`.
def IkedMsgRetransmit.prevails (msg : IkedMessage) (mr : IkedMsgRetransmit) : Bool :=
  mr.mrtFrags.head?.all fun first => !(first.msgMsgid < msg.msgMsgid)

structure WellKeyed (queue : List IkedMsgRetransmit) : Prop where
  frags_ne_nil : ∀ mr ∈ queue, mr.mrtFrags ≠ []
  frags_keyed : ∀ mr ∈ queue, ∀ m ∈ mr.mrtFrags, mr.queued? = some m.queued
  nodup : (queue.map IkedMsgRetransmit.queued?).Nodup

section Lookup

variable (msg : IkedMessage) (exchange : UInt8)

-- The test `ikev2_msg_lookup` makes of each entry.
def keyedBy (mr : IkedMsgRetransmit) : Bool :=
  mr.queued? == some ⟨msg.msgMsgid, exchange⟩

theorem keyedBy_cons {first : IkedMessage} {frags : List IkedMessage} {mr : IkedMsgRetransmit}
    (head : mr.mrtFrags = first :: frags) :
    keyedBy msg exchange mr = decide (first.msgMsgid = msg.msgMsgid ∧ first.msgExchange = exchange) := by
  rw [Bool.eq_iff_iff]
  simp [keyedBy, IkedMsgRetransmit.queued?, head, IkedMessage.queued]

theorem ikev2MsgLookup_eq_findIdx? {queue : List IkedMsgRetransmit}
    (ne_nil : ∀ mr ∈ queue, mr.mrtFrags ≠ []) :
    ikev2MsgLookup queue msg exchange = .ok (queue.findIdx? (keyedBy msg exchange)) := by
  induction queue with
  | nil => rfl
  | cons mr rest ih =>
    obtain ⟨first, frags, head⟩ := List.exists_cons_of_ne_nil (ne_nil mr List.mem_cons_self)
    have restFound := ih fun mr' member => ne_nil mr' (List.mem_cons_of_mem mr member)
    rw [List.findIdx?_cons, keyedBy_cons msg exchange head]
    unfold ikev2MsgLookup
    rw [head]
    by_cases found : first.msgMsgid = msg.msgMsgid ∧ first.msgExchange = exchange
    · simp [found]
    · simp only [found, if_false, decide_false, Bool.false_eq_true, restFound]
      rfl

theorem WellKeyed.index_unique {queue : List IkedMsgRetransmit} (keyed : WellKeyed queue)
    {i j : Nat} (hi : i < queue.length) (hj : j < queue.length)
    (same : queue[i].queued? = queue[j].queued?) : i = j := by
  have inj := List.nodup_iff_injective_get.mp keyed.nodup
  have mapped : (queue.map IkedMsgRetransmit.queued?).get ⟨i, by simpa using hi⟩ =
      (queue.map IkedMsgRetransmit.queued?).get ⟨j, by simpa using hj⟩ := by
    simpa using same
  exact Fin.mk.inj_iff.mp (inj mapped)

-- The entry `ikev2_msg_lookup` finds is the one entry of its pair.
theorem ikev2MsgLookup_eq_some_iff {queue : List IkedMsgRetransmit} (keyed : WellKeyed queue)
    (i : Nat) :
    ikev2MsgLookup queue msg exchange = .ok (some i) ↔
      ∃ h : i < queue.length, queue[i].queued? = some ⟨msg.msgMsgid, exchange⟩ := by
  rw [ikev2MsgLookup_eq_findIdx? msg exchange keyed.frags_ne_nil, Except.ok.injEq,
    List.findIdx?_eq_some_iff_getElem]
  constructor
  · rintro ⟨inside, matched, _⟩
    exact ⟨inside, by simpa [keyedBy] using matched⟩
  · rintro ⟨inside, matched⟩
    refine ⟨inside, by simpa [keyedBy] using matched, ?_⟩
    intro j below earlier
    have sameKey : queue[j].queued? = queue[i].queued? := by
      rw [matched]
      simpa [keyedBy] using earlier
    have := keyed.index_unique (by omega) inside sameKey
    omega

theorem ikev2MsgLookup_eq_none_iff {queue : List IkedMsgRetransmit}
    (ne_nil : ∀ mr ∈ queue, mr.mrtFrags ≠ []) :
    ikev2MsgLookup queue msg exchange = .ok none ↔
      ∀ mr ∈ queue, mr.queued? ≠ some ⟨msg.msgMsgid, exchange⟩ := by
  rw [ikev2MsgLookup_eq_findIdx? msg exchange ne_nil, Except.ok.injEq, List.findIdx?_eq_none_iff]
  simp [keyedBy]

end Lookup

section Keeps

theorem wellKeyed_nil : WellKeyed [] :=
  ⟨fun _ absent => absurd absent List.not_mem_nil, fun _ absent => absurd absent List.not_mem_nil,
    List.nodup_nil⟩

theorem WellKeyed.sublist {queue kept : List IkedMsgRetransmit} (keyed : WellKeyed queue)
    (sub : kept.Sublist queue) : WellKeyed kept where
  frags_ne_nil mr member := keyed.frags_ne_nil mr (sub.subset member)
  frags_keyed mr member := keyed.frags_keyed mr (sub.subset member)
  nodup := keyed.nodup.sublist (sub.map _)

theorem queued?_append_frag {mr : IkedMsgRetransmit} (ne_nil : mr.mrtFrags ≠ [])
    (msg : IkedMessage) :
    ({ mr with mrtFrags := mr.mrtFrags ++ [msg] } : IkedMsgRetransmit).queued? = mr.queued? := by
  obtain ⟨first, frags, head⟩ := List.exists_cons_of_ne_nil ne_nil
  simp [IkedMsgRetransmit.queued?, head]

theorem modify_eq_set {α : Type} {l : List α} {i : Nat} (inside : i < l.length) (f : α → α) :
    l.modify i f = l.set i (f l[i]) := by
  rw [List.modify_eq_set_getElem?, List.getElem?_eq_getElem inside]
  rfl

theorem map_queued?_join {queue : List IkedMsgRetransmit} {i : Nat} (inside : i < queue.length)
    (entryNe : queue[i].mrtFrags ≠ []) (msg : IkedMessage) :
    (queue.modify i fun mr => { mr with mrtFrags := mr.mrtFrags ++ [msg] }).map
      IkedMsgRetransmit.queued? = queue.map IkedMsgRetransmit.queued? := by
  have inMap : i < (queue.map IkedMsgRetransmit.queued?).length := by simpa using inside
  rw [modify_eq_set inside, List.map_set, queued?_append_frag entryNe,
    ← List.getElem_map IkedMsgRetransmit.queued? (h := inMap), List.set_getElem_self]

-- A fragment joins the entry of its own pair: the names stay, and the entry keeps one.
theorem WellKeyed.join {queue : List IkedMsgRetransmit} (keyed : WellKeyed queue) {i : Nat}
    (inside : i < queue.length) {msg : IkedMessage} (named : queue[i].queued? = some msg.queued) :
    WellKeyed (queue.modify i fun mr => { mr with mrtFrags := mr.mrtFrags ++ [msg] }) := by
  have entryNe := keyed.frags_ne_nil _ (List.getElem_mem inside)
  have entryKeyed := keyed.frags_keyed _ (List.getElem_mem inside)
  have names := map_queued?_join inside entryNe msg
  rw [modify_eq_set inside] at names ⊢
  refine ⟨?_, ?_, ?_⟩
  · intro mr member
    rcases List.mem_or_eq_of_mem_set member with old | rfl
    · exact keyed.frags_ne_nil mr old
    · simp
  · intro mr member m fragment
    rcases List.mem_or_eq_of_mem_set member with old | rfl
    · exact keyed.frags_keyed mr old m fragment
    · rw [queued?_append_frag entryNe]
      rcases List.mem_append.mp fragment with earlier | last
      · exact entryKeyed m earlier
      · rw [List.mem_singleton.mp last]
        exact named
  · rw [names]
    exact keyed.nodup

-- A fragment of a pair no entry has starts an entry of its own.
theorem WellKeyed.push {queue : List IkedMsgRetransmit} (keyed : WellKeyed queue)
    {msg : IkedMessage} (fresh : ∀ mr ∈ queue, mr.queued? ≠ some msg.queued) (tries : Nat)
    (timer : IkedTimer) : WellKeyed (queue ++ [⟨[msg], tries, timer⟩]) := by
  have named : IkedMsgRetransmit.queued? ⟨[msg], tries, timer⟩ = some msg.queued := rfl
  refine ⟨?_, ?_, ?_⟩
  · intro mr member
    rcases List.mem_append.mp member with old | last
    · exact keyed.frags_ne_nil mr old
    · simp [List.mem_singleton.mp last]
  · intro mr member m fragment
    rcases List.mem_append.mp member with old | last
    · exact keyed.frags_keyed mr old m fragment
    · rw [List.mem_singleton.mp last] at fragment ⊢
      rw [List.mem_singleton.mp fragment]
      exact named
  · rw [List.map_append, List.nodup_append]
    refine ⟨keyed.nodup, List.nodup_singleton _, ?_⟩
    intro key old key' last same
    rw [List.map_singleton, List.mem_singleton, named] at last
    obtain ⟨mr, member, rfl⟩ := List.mem_map.mp old
    exact fresh mr member (same.trans last)

theorem wellKeyed_ikev2MsgEnqueue {queue : List IkedMsgRetransmit} (keyed : WellKeyed queue)
    (msg : IkedMessage) (timeout : Nat) :
    ∃ queue', ikev2MsgEnqueue queue msg timeout = .ok queue' ∧ WellKeyed queue' := by
  unfold ikev2MsgEnqueue
  rw [ikev2MsgLookup_eq_findIdx? msg msg.msgExchange keyed.frags_ne_nil]
  cases found : queue.findIdx? (keyedBy msg msg.msgExchange) with
  | some i =>
    -- the entry of the message's pair: the fragment joins it
    obtain ⟨inside, matched, _⟩ := List.findIdx?_eq_some_iff_getElem.mp found
    have named : queue[i].queued? = some msg.queued := by
      simpa [keyedBy, IkedMessage.queued] using matched
    exact ⟨_, rfl, keyed.join inside named⟩
  | none =>
    have fresh : ∀ mr ∈ queue, mr.queued? ≠ some msg.queued := by
      intro mr member
      simpa [keyedBy, IkedMessage.queued] using List.findIdx?_eq_none_iff.mp found mr member
    exact ⟨_, rfl, keyed.push fresh 0 _⟩

theorem ikev2MsgPrevail_eq_filter {queue : List IkedMsgRetransmit}
    (ne_nil : ∀ mr ∈ queue, mr.mrtFrags ≠ []) (msg : IkedMessage) :
    ikev2MsgPrevail queue msg = .ok (queue.filter (IkedMsgRetransmit.prevails msg)) := by
  induction queue with
  | nil => rfl
  | cons mr rest ih =>
    obtain ⟨first, frags, head⟩ := List.exists_cons_of_ne_nil (ne_nil mr List.mem_cons_self)
    have restKept := ih fun mr' member => ne_nil mr' (List.mem_cons_of_mem mr member)
    unfold ikev2MsgPrevail
    rw [head]
    simp only [restKept, List.filter_cons, IkedMsgRetransmit.prevails, head, List.head?_cons,
      Option.all_some]
    by_cases older : first.msgMsgid < msg.msgMsgid <;> simp [older, pure, Except.pure, bind,
      Except.bind]

theorem ikev2MsgFlushqueue_eq_nil (queue : List IkedMsgRetransmit) :
    ikev2MsgFlushqueue queue = [] := by
  induction queue with
  | nil => rfl
  | cons _ rest ih => exact ih

-- One call from a well-keyed queue never faults and leaves it well keyed.
theorem wellKeyed_queueStep {queue : List IkedMsgRetransmit} (keyed : WellKeyed queue)
    (call : QueueCall) : ∃ queue', queueStep queue call = .ok queue' ∧ WellKeyed queue' := by
  cases call with
  | enqueue msg timeout => exact wellKeyed_ikev2MsgEnqueue keyed msg timeout
  | lookup msg exchange =>
    refine ⟨queue, ?_, keyed⟩
    simp [queueStep, ikev2MsgLookup_eq_findIdx? msg exchange keyed.frags_ne_nil, Functor.map,
      Except.map]
  | dispose i => exact ⟨_, rfl, keyed.sublist (List.eraseIdx_sublist queue i)⟩
  | prevail msg =>
    exact ⟨_, ikev2MsgPrevail_eq_filter keyed.frags_ne_nil msg,
      keyed.sublist List.filter_sublist⟩
  | flushqueue =>
    refine ⟨[], ?_, wellKeyed_nil⟩
    rw [queueStep, ikev2MsgFlushqueue_eq_nil]

-- Every run of calls on a queue, from the empty queue an SA starts with, ends in a
-- well-keyed queue, on which `ikev2_msg_lookup` finds exactly the entry of a pair and
-- `ikev2_msg_prevail` keeps exactly the entries at or above the message's ID, as they were.
theorem queue_calls_keep_entries_keyed (calls : List QueueCall) :
    ∃ queue, calls.foldlM queueStep [] = .ok queue ∧ WellKeyed queue ∧
      (∀ msg exchange i, ikev2MsgLookup queue msg exchange = .ok (some i) ↔
        ∃ h : i < queue.length, queue[i].queued? = some ⟨msg.msgMsgid, exchange⟩) ∧
      (∀ msg exchange, ikev2MsgLookup queue msg exchange = .ok none ↔
        ∀ mr ∈ queue, mr.queued? ≠ some ⟨msg.msgMsgid, exchange⟩) ∧
      ∀ msg, ikev2MsgPrevail queue msg = .ok (queue.filter (IkedMsgRetransmit.prevails msg)) := by
  obtain ⟨queue, ran, keyed⟩ :=
    foldlM_ok_of_keeps queueStep WellKeyed (fun _ call keyed => wellKeyed_queueStep keyed call)
      calls wellKeyed_nil
  refine ⟨queue, ran, keyed, ?_, ?_, ?_⟩
  · exact fun msg exchange i => ikev2MsgLookup_eq_some_iff msg exchange keyed i
  · exact fun msg exchange => ikev2MsgLookup_eq_none_iff msg exchange keyed.frags_ne_nil
  · exact fun msg => ikev2MsgPrevail_eq_filter keyed.frags_ne_nil msg

end Keeps

section Window

-- The names of a queue's entries: the queue `MsgWindow` keeps of them.
def queuedKeys (queue : List IkedMsgRetransmit) : List Queued :=
  queue.filterMap IkedMsgRetransmit.queued?

-- A call as `MsgWindow` sees it, on the names of the entries.
def windowStep (keys : List Queued) : QueueCall → List Queued
  | .enqueue msg _ => MsgWindow.ikev2MsgEnqueue keys msg.queued
  | .lookup _ _ => keys
  | .dispose i =>
    match keys[i]? with
    | some entry => keys.erase entry
    | none => keys
  | .prevail msg => MsgWindow.ikev2MsgPrevail keys msg.msgMsgid
  | .flushqueue => []

theorem queuedKeys_eq (queue : List IkedMsgRetransmit) :
    queuedKeys queue = (queue.map IkedMsgRetransmit.queued?).filterMap id := by
  rw [List.filterMap_map]
  rfl

theorem map_some_queuedKeys {queue : List IkedMsgRetransmit}
    (ne_nil : ∀ mr ∈ queue, mr.mrtFrags ≠ []) :
    (queuedKeys queue).map some = queue.map IkedMsgRetransmit.queued? := by
  rw [queuedKeys, List.map_filterMap_some_eq_filter_map_isSome, List.filter_eq_self]
  intro key member
  obtain ⟨mr, inQueue, rfl⟩ := List.mem_map.mp member
  obtain ⟨first, frags, head⟩ := List.exists_cons_of_ne_nil (ne_nil mr inQueue)
  simp [IkedMsgRetransmit.queued?, head]

theorem WellKeyed.queuedKeys_nodup {queue : List IkedMsgRetransmit} (keyed : WellKeyed queue) :
    (queuedKeys queue).Nodup := by
  apply List.Nodup.of_map some
  rw [map_some_queuedKeys keyed.frags_ne_nil]
  exact keyed.nodup

theorem queuedKeys_ikev2MsgEnqueue {queue queue' : List IkedMsgRetransmit}
    (keyed : WellKeyed queue) {msg : IkedMessage} {timeout : Nat}
    (enqueued : ikev2MsgEnqueue queue msg timeout = .ok queue') :
    queuedKeys queue' = MsgWindow.ikev2MsgEnqueue (queuedKeys queue) msg.queued := by
  unfold ikev2MsgEnqueue at enqueued
  rw [ikev2MsgLookup_eq_findIdx? msg msg.msgExchange keyed.frags_ne_nil] at enqueued
  unfold MsgWindow.ikev2MsgEnqueue
  cases found : queue.findIdx? (keyedBy msg msg.msgExchange) with
  | some i =>
    rw [found] at enqueued
    cases enqueued
    obtain ⟨inside, matched, _⟩ := List.findIdx?_eq_some_iff_getElem.mp found
    have named : queue[i].queued? = some msg.queued := by
      simpa [keyedBy, IkedMessage.queued] using matched
    have present : msg.queued ∈ queuedKeys queue :=
      List.mem_filterMap.mpr ⟨queue[i], List.getElem_mem inside, named⟩
    have entryNe := keyed.frags_ne_nil _ (List.getElem_mem inside)
    rw [if_pos (List.elem_iff.mpr present), queuedKeys_eq, map_queued?_join inside entryNe,
      queuedKeys_eq]
  | none =>
    rw [found] at enqueued
    cases enqueued
    have absent : msg.queued ∉ queuedKeys queue := by
      intro present
      obtain ⟨mr, member, named⟩ := List.mem_filterMap.mp present
      have unmatched := List.findIdx?_eq_none_iff.mp found mr member
      simp [keyedBy, named, IkedMessage.queued] at unmatched
    rw [if_neg (fun present => absent (List.elem_iff.mp present)), queuedKeys,
      List.filterMap_append]
    rfl

theorem queuedKeys_filter_prevails (queue : List IkedMsgRetransmit) (msg : IkedMessage) :
    queuedKeys (queue.filter (IkedMsgRetransmit.prevails msg)) =
      MsgWindow.ikev2MsgPrevail (queuedKeys queue) msg.msgMsgid := by
  unfold queuedKeys MsgWindow.ikev2MsgPrevail
  rw [List.filter_filterMap, List.filterMap_filter]
  apply List.filterMap_congr
  intro mr _
  -- an entry's fragments decide both its name and whether it stays
  cases frags : mr.mrtFrags with
  | nil => simp [IkedMsgRetransmit.prevails, IkedMsgRetransmit.queued?, frags]
  | cons first _ =>
    by_cases older : first.msgMsgid < msg.msgMsgid <;>
      simp [IkedMsgRetransmit.prevails, IkedMsgRetransmit.queued?, frags, IkedMessage.queued, older,
        Option.filter_some]

theorem queuedKeys_eraseIdx {queue : List IkedMsgRetransmit}
    (ne_nil : ∀ mr ∈ queue, mr.mrtFrags ≠ []) (i : Nat) :
    queuedKeys (queue.eraseIdx i) = (queuedKeys queue).eraseIdx i := by
  induction queue generalizing i with
  | nil => rfl
  | cons mr rest ih =>
    obtain ⟨first, frags, head⟩ := List.exists_cons_of_ne_nil (ne_nil mr List.mem_cons_self)
    have named : mr.queued? = some first.queued := by simp [IkedMsgRetransmit.queued?, head]
    have restErased := ih fun mr' member => ne_nil mr' (List.mem_cons_of_mem mr member)
    cases i with
    | zero => simp [queuedKeys, named]
    | succ i =>
      simp only [List.eraseIdx_cons_succ, queuedKeys, List.filterMap_cons, named] at restErased ⊢
      rw [restErased]

-- With distinct names, dropping the `i`th name is erasing it.
theorem erase_getElem?_eq_eraseIdx {keys : List Queued} (nodup : keys.Nodup) (i : Nat) :
    (match keys[i]? with
      | some entry => keys.erase entry
      | none => keys) = keys.eraseIdx i := by
  by_cases inside : i < keys.length
  · rw [List.getElem?_eq_getElem inside]
    exact nodup.erase_getElem i inside
  · rw [List.getElem?_eq_none (by omega), List.eraseIdx_of_length_le (by omega)]

theorem queueStep_refines {queue : List IkedMsgRetransmit} (keyed : WellKeyed queue)
    (call : QueueCall) :
    ∃ queue', queueStep queue call = .ok queue' ∧ WellKeyed queue' ∧
      queuedKeys queue' = windowStep (queuedKeys queue) call := by
  obtain ⟨queue', stepped, keyed'⟩ := wellKeyed_queueStep keyed call
  refine ⟨queue', stepped, keyed', ?_⟩
  cases call with
  | enqueue msg timeout => exact queuedKeys_ikev2MsgEnqueue keyed stepped
  | lookup msg exchange =>
    simp only [queueStep, ikev2MsgLookup_eq_findIdx? msg exchange keyed.frags_ne_nil] at stepped
    cases stepped
    rfl
  | dispose i =>
    cases stepped
    rw [windowStep, erase_getElem?_eq_eraseIdx keyed.queuedKeys_nodup, ikev2MsgDispose,
      queuedKeys_eraseIdx keyed.frags_ne_nil]
  | prevail msg =>
    rw [queueStep, ikev2MsgPrevail_eq_filter keyed.frags_ne_nil, Except.ok.injEq] at stepped
    rw [← stepped, queuedKeys_filter_prevails]
    rfl
  | flushqueue =>
    cases stepped
    rw [ikev2MsgFlushqueue_eq_nil]
    rfl

theorem ikev2MsgLookup_found_iff {queue : List IkedMsgRetransmit}
    (ne_nil : ∀ mr ∈ queue, mr.mrtFrags ≠ []) (msg : IkedMessage) (exchange : UInt8) :
    (∃ i, ikev2MsgLookup queue msg exchange = .ok (some i)) ↔
      MsgWindow.ikev2MsgLookup (queuedKeys queue) msg.msgMsgid exchange = true := by
  have missing := ikev2MsgLookup_eq_none_iff msg exchange ne_nil
  rw [ikev2MsgLookup_eq_findIdx? msg exchange ne_nil] at missing ⊢
  rw [MsgWindow.ikev2MsgLookup, List.elem_iff, queuedKeys, List.mem_filterMap]
  cases found : queue.findIdx? (keyedBy msg exchange) with
  | none =>
    rw [found] at missing
    constructor
    · rintro ⟨i, impossible⟩
      cases impossible
    · rintro ⟨mr, member, named⟩
      exact absurd named (missing.mp rfl mr member)
  | some i =>
    rw [found] at missing
    obtain ⟨inside, matched, _⟩ := List.findIdx?_eq_some_iff_getElem.mp found
    refine ⟨fun _ => ⟨queue[i], List.getElem_mem inside, ?_⟩, fun _ => ⟨i, rfl⟩⟩
    simpa [keyedBy] using matched

-- The fragment-level queue refines the queue of names `MsgWindow` keeps: over every run of
-- calls from the empty queue, the names of the entries are what the window's own
-- operations make of the same calls, and `ikev2_msg_lookup` finds an entry exactly when
-- the window's lookup finds the name.
end Window

section Timers

-- What `ikev2_msg_retransmit_timeout` leaves of an entry of `sa_requests`: the entry with
-- its timer armed again, or the SA freed by `sa_free`, queues and all.
inductive Retransmitted where
  | rearmed (mr : IkedMsgRetransmit)
  | saFree
deriving DecidableEq, Repr

-- `ikev2_msg_retransmit_timeout`: below the limit every fragment is sent again and the
-- timer armed for twice the last delay; `sendtofrom` says which sends succeed, and a
-- failed one frees the SA as the limit does.
def ikev2MsgRetransmitTimeout (sendtofrom : IkedMessage → Bool) (mr : IkedMsgRetransmit) :
    Retransmitted :=
  if mr.mrtTries < ikedRetransmitTries then
    if mr.mrtFrags.all sendtofrom then
      -- "Exponential timeout"
      .rearmed { mr with
        mrtTries := mr.mrtTries + 1
        mrtTimer := { mr.mrtTimer with
          tmrTimeout := ikedRetransmitTimeout * (2 <<< mr.mrtTries) } }
    else .saFree
  else .saFree

-- The timer of a request's entry firing once more.
def Retransmitted.fire (sendtofrom : IkedMessage → Bool) : Retransmitted → Retransmitted
  | .rearmed mr => ikev2MsgRetransmitTimeout sendtofrom mr
  | .saFree => .saFree

variable (sendtofrom : IkedMessage → Bool)

theorem fire_iterate_saFree (n : Nat) : (Retransmitted.fire sendtofrom)^[n] .saFree = .saFree :=
  Function.iterate_fixed rfl n

-- However the sends go, the timer of an entry that has been sent again `mrtTries` times
-- frees the SA at the latest on its `IKED_RETRANSMIT_TRIES - mrtTries + 1`st firing.
theorem retransmit_limit_frees_sa (mr : IkedMsgRetransmit) (n : Nat)
    (enough : ikedRetransmitTries ≤ n + mr.mrtTries) :
    (Retransmitted.fire sendtofrom)^[n + 1] (.rearmed mr) = .saFree := by
  induction n generalizing mr with
  | zero =>
    have limit : ¬mr.mrtTries < ikedRetransmitTries := by omega
    simp [Retransmitted.fire, ikev2MsgRetransmitTimeout, limit]
  | succ n ih =>
    rw [Function.iterate_succ_apply]
    by_cases below : mr.mrtTries < ikedRetransmitTries
    · by_cases sent : mr.mrtFrags.all sendtofrom
      · -- sent again: one try more, one firing fewer
        simp only [Retransmitted.fire, ikev2MsgRetransmitTimeout, if_pos below, if_pos sent]
        exact ih _ (by simp only; omega)
      · simp [Retransmitted.fire, ikev2MsgRetransmitTimeout, below, sent, fire_iterate_saFree]
    · simp [Retransmitted.fire, ikev2MsgRetransmitTimeout, below, fire_iterate_saFree]

-- An INFORMATIONAL request of one fragment, as `ikev2_msg_enqueue` queues it.
def informationalEntry : IkedMsgRetransmit :=
  ⟨[⟨1, 37, false, []⟩], 0, ⟨.ikev2MsgRetransmitTimeout, ikedRetransmitTimeout⟩⟩

theorem retransmit_limit_frees_sa_unsent :
    ikedRetransmitTries ≤ 5 + informationalEntry.mrtTries ∧
      (Retransmitted.fire (fun _ => false))^[5 + 1] (.rearmed informationalEntry) = .saFree :=
  ⟨by decide, retransmit_limit_frees_sa (fun _ => false) informationalEntry 5 (by decide)⟩

theorem two_shiftLeft (n : Nat) : ikedRetransmitTimeout * (2 <<< n) = ikedRetransmitTimeout * 2 ^ (n + 1) := by
  rw [Nat.shiftLeft_eq, Nat.pow_succ, Nat.mul_comm 2 (2 ^ n)]

-- While every fragment goes out, a request first armed for `IKED_RETRANSMIT_TIMEOUT`
-- seconds is sent again `IKED_RETRANSMIT_TRIES` times, the `n`th time armed for
-- `IKED_RETRANSMIT_TIMEOUT * 2^n` seconds, and the firing after that frees the SA.
theorem retransmit_backoff (mr : IkedMsgRetransmit) (fresh : mr.mrtTries = 0)
    (armed : mr.mrtTimer.tmrTimeout = ikedRetransmitTimeout)
    (delivered : ∀ m ∈ mr.mrtFrags, sendtofrom m = true) :
    (∀ n ≤ ikedRetransmitTries, (Retransmitted.fire sendtofrom)^[n] (.rearmed mr) =
      .rearmed { mr with
        mrtTries := n
        mrtTimer := { mr.mrtTimer with tmrTimeout := ikedRetransmitTimeout * 2 ^ n } }) ∧
    (Retransmitted.fire sendtofrom)^[ikedRetransmitTries + 1] (.rearmed mr) = .saFree := by
  have allSent : mr.mrtFrags.all sendtofrom = true := List.all_eq_true.mpr delivered
  have schedule : ∀ n ≤ ikedRetransmitTries, (Retransmitted.fire sendtofrom)^[n] (.rearmed mr) =
      .rearmed { mr with
        mrtTries := n
        mrtTimer := { mr.mrtTimer with tmrTimeout := ikedRetransmitTimeout * 2 ^ n } } := by
    intro n
    induction n with
    | zero =>
      intro _
      rw [Function.iterate_zero_apply, Nat.pow_zero, Nat.mul_one, ← armed, ← fresh]
    | succ n ih =>
      -- the `n`th firing left `n` tries, so the next one is still below the limit
      intro within
      have below : n < ikedRetransmitTries := by omega
      rw [Function.iterate_succ_apply', ih (by omega)]
      simp [Retransmitted.fire, ikev2MsgRetransmitTimeout, below, allSent, two_shiftLeft]
  exact ⟨schedule, retransmit_limit_frees_sa sendtofrom mr ikedRetransmitTries (by omega)⟩

theorem retransmit_backoff_informational :
    informationalEntry.mrtTries = 0 ∧
      informationalEntry.mrtTimer.tmrTimeout = ikedRetransmitTimeout ∧
      (Retransmitted.fire (fun _ => true))^[2] (.rearmed informationalEntry) =
        .rearmed { informationalEntry with
          mrtTries := 2
          mrtTimer := { informationalEntry.mrtTimer with
            tmrTimeout := ikedRetransmitTimeout * 2 ^ 2 } } ∧
      (Retransmitted.fire (fun _ => true))^[ikedRetransmitTries + 1] (.rearmed informationalEntry) =
        .saFree :=
  have backoff := retransmit_backoff (fun _ => true) informationalEntry rfl rfl (fun _ _ => rfl)
  ⟨rfl, rfl, backoff.1 2 (by decide), backoff.2⟩

end Timers

end OpenIKED.Ikev2.MsgQueue
