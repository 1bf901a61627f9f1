import Mathlib.Data.List.Pairwise
import Mathlib.Tactic.Common
import OpenIKED.Shared.Run

set_option autoImplicit false

/-!
# The message-ID window of `ikev2_recv`

One IKE SA's side of the message IDs: `sa_reqid`, the next ID it sends a request with
(`ikev2_msg_id`); `sa_msgid` and `sa_msgid_set`, the last valid request received;
`sa_msgid_current`, the request being answered; and the queues of the requests sent and
responses sent, each entry named by the message ID and exchange of its first fragment.
`ikev2_recv` checks an incoming datagram against these before it hands it to
`ikev2_init_recv` or `ikev2_resp_recv`.  The handlers themselves are outside the model:
a datagram carries what they make of it, and the SA's own sends, timers and flag changes
are events of their own, in any order.
-/

namespace OpenIKED.Ikev2.MsgWindow

open OpenIKED.Shared

def ikev2ExchangeIkeSaInit : UInt8 := 34
def ikev2ExchangeIkeAuth : UInt8 := 35
def ikev2ExchangeCreateChildSa : UInt8 := 36
def ikev2ExchangeInformational : UInt8 := 37

def ikev2PayloadSk : UInt8 := 46
def ikev2PayloadSkf : UInt8 := 53

def ikedReqChildsa : UInt32 := 0x0080
def ikedReqInf : UInt32 := 0x0100

-- The fields of `struct ike_header` that `ikev2_recv` reads.
structure IkeHeader where
  ikeExchange : UInt8
  -- `IKEV2_FLAG_RESPONSE` and `IKEV2_FLAG_INITIATOR`
  response : Bool
  initiator : Bool
  ikeNextpayload : UInt8
  ikeMsgid : UInt32
deriving DecidableEq, Repr

structure Message (Data : Type) where
  hdr : IkeHeader
  msgData : Data
  -- `msg_frag_num` as `ikev2_pld_parse_quick` finds it in an SKF message, none if it fails
  msgFragNum : Option Nat

-- An entry of `sa_requests` or `sa_responses`: the ID and exchange of its first fragment.
structure Queued where
  msgid : UInt32
  exchange : UInt8
deriving DecidableEq, Repr

-- What the exchange handler made of a message: `msg_valid`, and whether it left the SA
-- in state CLOSED.
structure Handling where
  msgValid : Bool
  closed : Bool

-- Not in the source: a message `ikev2_recv` handed to `ikev2_init_recv` (`toInit`) or to
-- `ikev2_resp_recv`, with `sa_reqid` at that moment.
structure Delivery where
  msgid : UInt32
  exchange : UInt8
  response : Bool
  toInit : Bool
  msgValid : Bool
  reqid : UInt32
deriving DecidableEq, Repr

structure Sa (Data : Type) where
  saReqid : UInt32
  saMsgid : UInt32
  saMsgidSet : Bool
  saMsgidCurrent : UInt32
  saStateflags : UInt32
  saRequests : List Queued
  saResponses : List Queued
  -- `sa_fragments.frag_count`
  fragCount : Nat
  -- `sa_state == IKEV2_STATE_CLOSED`
  closed : Bool
  sa1stmsg : Option Data
  -- `sa_free` has run: datagrams no longer find the SA
  released : Bool
  -- not in the source: what was handed to the handlers, and every request sent
  deliveries : List Delivery
  sent : List Queued

section Model

variable {Data : Type} [DecidableEq Data]

-- `ikev2_msg_lookup` finds an entry.
def ikev2MsgLookup (queue : List Queued) (msgid : UInt32) (exchange : UInt8) : Bool :=
  queue.contains ⟨msgid, exchange⟩

-- `ikev2_msg_enqueue`: a further fragment of a queued message joins its entry.
def ikev2MsgEnqueue (queue : List Queued) (entry : Queued) : List Queued :=
  if queue.contains entry then queue else queue ++ [entry]

-- `ikev2_msg_prevail`: drop the responses to requests older than `msgid`.
def ikev2MsgPrevail (queue : List Queued) (msgid : UInt32) : List Queued :=
  queue.filter (fun entry => !(entry.msgid < msgid))

-- `ikev2_msg_retransmit_response`: -2 if no response is queued for the request, -1 if
-- sending it again fails, 0 otherwise (also for a fragment other than the first).
def ikev2MsgRetransmitResponse (sa : Sa Data) (msg : Message Data) (sendFails : Bool) : Int :=
  if !ikev2MsgLookup sa.saResponses msg.hdr.ikeMsgid msg.hdr.ikeExchange then -2
  else if msg.hdr.ikeNextpayload = ikev2PayloadSkf ∧ msg.msgFragNum ≠ some 1 then 0
  else if sendFails then -1
  else 0

def Sa.release (sa : Sa Data) : Sa Data := { sa with released := true }

-- From the `done:` label of `ikev2_recv` on, for a message of this SA.
def ikev2RecvDone (sa : Sa Data) (msg : Message Data) (handling : Handling) (initiator : Bool) :
    Sa Data :=
  let sa := { sa with deliveries := sa.deliveries ++
    [⟨msg.hdr.ikeMsgid, msg.hdr.ikeExchange, msg.hdr.response, initiator, handling.msgValid,
      sa.saReqid⟩] }
  -- "If it's a valid request, make sure to update the peer's message ID"
  let sa := if !msg.hdr.response && handling.msgValid then
      { sa with
        saMsgid := sa.saMsgidCurrent, saMsgidSet := true,
        saResponses := ikev2MsgPrevail sa.saResponses msg.hdr.ikeMsgid }
    else sa
  if handling.closed then Sa.release { sa with closed := true } else sa

-- The response branch of `ikev2_recv`.
def ikev2RecvResponse (sa : Sa Data) (msg : Message Data) (handling : Handling)
    (flag : UInt32) (initiator : Bool) : Sa Data :=
  let hdr := msg.hdr
  if hdr.ikeMsgid > sa.saReqid then sa
  else
    let found := ikev2MsgLookup sa.saRequests hdr.ikeMsgid hdr.ikeExchange
    if hdr.ikeExchange ≠ ikev2ExchangeInformational ∧ !found ∧ sa.fragCount = 0 then sa
    else if flag ≠ 0 ∧ sa.saStateflags &&& flag = 0 then sa
    else
      -- "We have initiated this exchange, even if we are not the initiator of the IKE SA."
      let initiator := if flag ≠ 0 then true else initiator
      -- "There's no need to keep the request (fragments) around"
      let sa := if found ∧ hdr.ikeNextpayload ≠ ikev2PayloadSkf then
          { sa with saRequests := sa.saRequests.erase ⟨hdr.ikeMsgid, hdr.ikeExchange⟩ }
        else sa
      ikev2RecvDone sa msg handling initiator

-- The request branch of `ikev2_recv`.
def ikev2RecvRequest (sa : Sa Data) (msg : Message Data) (handling : Handling) (sendFails : Bool)
    (flag : UInt32) (initiator : Bool) : Sa Data :=
  let hdr := msg.hdr
  -- "IKE_SA_INIT is special since it always uses the message id 0": a different first
  -- message frees a closed SA and starts a new one
  let restarted := match sa.sa1stmsg with
    | some first => sa.closed && hdr.ikeExchange == ikev2ExchangeIkeSaInit && hdr.ikeMsgid == 0 &&
        msg.msgData != first
    | none => false
  if restarted then sa.release
  else if hdr.ikeMsgid < sa.saMsgid then sa
  else
    let initiator := if flag ≠ 0 then false else initiator
    let r := ikev2MsgRetransmitResponse sa msg sendFails
    -- "See if we have responded to this request before"
    if r ≠ -2 then (if r = -1 then sa.release else sa)
    -- "Response is being worked on"
    else if sa.saMsgidSet ∧ hdr.ikeMsgid = sa.saMsgid then sa
    else ikev2RecvDone { sa with saMsgidCurrent := hdr.ikeMsgid } msg handling initiator

-- `ikev2_recv` for a datagram that `sa_lookup` and `policy_lookup` put on this SA.
def ikev2Recv (sa : Sa Data) (msg : Message Data) (handling : Handling) (sendFails : Bool) :
    Sa Data :=
  let hdr := msg.hdr
  let flag := if hdr.ikeExchange = ikev2ExchangeCreateChildSa then ikedReqChildsa
    else if hdr.ikeExchange = ikev2ExchangeInformational then ikedReqInf else 0
  let initiator := !hdr.initiator
  if sa.released then sa
  else if hdr.ikeExchange ≠ ikev2ExchangeIkeSaInit ∧ hdr.ikeNextpayload ≠ ikev2PayloadSk ∧
      hdr.ikeNextpayload ≠ ikev2PayloadSkf then sa
  else if hdr.response then ikev2RecvResponse sa msg handling flag initiator
  else ikev2RecvRequest sa msg handling sendFails flag initiator

-- `ikev2_msg_send` of a request: its ID from `ikev2_msg_id`, its entry in `sa_requests`,
-- and the flag every sender of a CREATE_CHILD_SA or INFORMATIONAL request sets.
def sendRequest (sa : Sa Data) (exchange : UInt8) : Sa Data :=
  let entry : Queued := ⟨sa.saReqid, exchange⟩
  let flag := if exchange = ikev2ExchangeCreateChildSa then ikedReqChildsa
    else if exchange = ikev2ExchangeInformational then ikedReqInf else 0
  { sa with
    saReqid := sa.saReqid + 1, saRequests := ikev2MsgEnqueue sa.saRequests entry,
    saStateflags := sa.saStateflags ||| flag, sent := sa.sent ++ [entry] }

-- `ikev2_msg_send` of a response, with the ID `sa_msgid_current`.
def sendResponse (sa : Sa Data) (exchange : UInt8) : Sa Data :=
  { sa with saResponses := ikev2MsgEnqueue sa.saResponses ⟨sa.saMsgidCurrent, exchange⟩ }

inductive Event (Data : Type) where
  | recv (msg : Message Data) (handling : Handling) (sendFails : Bool)
  | sendRequest (exchange : UInt8)
  | sendResponse (exchange : UInt8)
  -- `ikev2_msg_response_timeout`, or a request's entry disposed of by its handler
  | disposeResponse (entry : Queued)
  | disposeRequest (entry : Queued)
  -- `ikev2_msg_retransmit_timeout` at its retry limit or failing to send
  | retransmitLimit
  | clearFlags (flags : UInt32)
  -- `sa_fragments` collecting the fragments of a message
  | fragments (count : Nat)
  | close
  | firstMessage (data : Data)

def step (sa : Sa Data) : Event Data → Sa Data
  | .recv msg handling sendFails => ikev2Recv sa msg handling sendFails
  | .sendRequest exchange => if sa.released then sa else sendRequest sa exchange
  | .sendResponse exchange => if sa.released then sa else sendResponse sa exchange
  | .disposeResponse entry => { sa with saResponses := sa.saResponses.erase entry }
  | .disposeRequest entry => { sa with saRequests := sa.saRequests.erase entry }
  | .retransmitLimit => sa.release
  | .clearFlags flags => { sa with saStateflags := sa.saStateflags &&& (0xffffffff ^^^ flags) }
  | .fragments count => { sa with fragCount := count }
  | .close => { sa with closed := true }
  | .firstMessage data => { sa with sa1stmsg := some data }

def run (sa : Sa Data) (events : List (Event Data)) : Sa Data := events.foldl step sa

-- The SA as `sa_new` makes it.
def start : Sa Data :=
  { saReqid := 0, saMsgid := 0, saMsgidSet := false, saMsgidCurrent := 0, saStateflags := 0,
    saRequests := [], saResponses := [], fragCount := 0, closed := false, sa1stmsg := none,
    released := false, deliveries := [], sent := [] }

end Model

section Window

variable {Data : Type}

-- The IDs of the valid requests handed to a handler, in order.
def validRequestIds (log : List Delivery) : List UInt32 :=
  (log.filter (fun d => !d.response && d.msgValid)).map (·.msgid)

-- What `ikev2_recv` compares a request with: the log of deliveries, `sa_msgid` and
-- `sa_msgid_set`.
def SameWindow (after before : Sa Data) : Prop :=
  after.deliveries = before.deliveries ∧ after.saMsgid = before.saMsgid ∧
    after.saMsgidSet = before.saMsgidSet

-- The window after a delivery: a valid request moves it to its ID.
def Sa.advance (sa : Sa Data) (d : Delivery) : Sa Data :=
  if !d.response && d.msgValid then
    { sa with deliveries := sa.deliveries ++ [d], saMsgid := d.msgid, saMsgidSet := true }
  else { sa with deliveries := sa.deliveries ++ [d] }

-- The checks a message of this SA passed before it is handed over: a response names at
-- most `sa_reqid`, a request lies above the window.
def Admits (sa : Sa Data) (hdr : IkeHeader) : Prop :=
  match hdr.response with
  | true => hdr.ikeMsgid ≤ sa.saReqid
  | false => ¬ hdr.ikeMsgid < sa.saMsgid ∧ ¬ (sa.saMsgidSet = true ∧ hdr.ikeMsgid = sa.saMsgid)

theorem sameWindow_refl (sa : Sa Data) : SameWindow sa sa := ⟨rfl, rfl, rfl⟩

theorem sameWindow_release (sa : Sa Data) : SameWindow sa.release sa := ⟨rfl, rfl, rfl⟩

theorem SameWindow.trans {a b c : Sa Data} (first : SameWindow a b) (second : SameWindow b c) :
    SameWindow a c :=
  ⟨first.1.trans second.1, first.2.1.trans second.2.1, first.2.2.trans second.2.2⟩

theorem SameWindow.advance {a b : Sa Data} (same : SameWindow a b) (d : Delivery) :
    SameWindow (a.advance d) (b.advance d) := by
  obtain ⟨deliveries, msgid, set⟩ := same
  unfold Sa.advance
  split <;> simp [SameWindow, deliveries, msgid, set]

theorem ikev2RecvDone_window (sa : Sa Data) (msg : Message Data) (handling : Handling)
    (initiator : Bool) (current : msg.hdr.response = false → sa.saMsgidCurrent = msg.hdr.ikeMsgid) :
    SameWindow (ikev2RecvDone sa msg handling initiator)
      (sa.advance ⟨msg.hdr.ikeMsgid, msg.hdr.ikeExchange, msg.hdr.response, initiator,
        handling.msgValid, sa.saReqid⟩) := by
  unfold ikev2RecvDone Sa.advance SameWindow
  cases response : msg.hdr.response <;> cases valid : handling.msgValid <;>
    cases closed : handling.closed <;> simp [Sa.release, response, current]

theorem ikev2RecvResponse_cases (sa : Sa Data) (msg : Message Data) (handling : Handling)
    (flag : UInt32) (initiator : Bool) (response : msg.hdr.response = true) :
    SameWindow (ikev2RecvResponse sa msg handling flag initiator) sa ∨
      ∃ toInit, Admits sa msg.hdr ∧ SameWindow (ikev2RecvResponse sa msg handling flag initiator)
        (sa.advance ⟨msg.hdr.ikeMsgid, msg.hdr.ikeExchange, true, toInit, handling.msgValid,
          sa.saReqid⟩) := by
  have admits (below : ¬ msg.hdr.ikeMsgid > sa.saReqid) : Admits sa msg.hdr := by
    simp only [Admits, response]
    exact UInt32.not_lt.mp below
  have done (sa' : Sa Data) (same : SameWindow sa' sa) (reqid : sa'.saReqid = sa.saReqid)
      (toInit : Bool) :
      SameWindow (ikev2RecvDone sa' msg handling toInit)
        (sa.advance ⟨msg.hdr.ikeMsgid, msg.hdr.ikeExchange, true, toInit, handling.msgValid,
          sa.saReqid⟩) := by
    have window := ikev2RecvDone_window sa' msg handling toInit (by simp [response])
    rw [response, reqid] at window
    exact window.trans (same.advance _)
  unfold ikev2RecvResponse
  simp only
  split_ifs with beyond
  · exact Or.inl (sameWindow_refl sa)
  · exact Or.inl (sameWindow_refl sa)
  · exact Or.inl (sameWindow_refl sa)
  all_goals
    refine Or.inr ⟨_, admits beyond, done _ ?_ ?_ _⟩
    · exact ⟨rfl, rfl, rfl⟩
    · rfl

variable [DecidableEq Data]

theorem ikev2RecvRequest_cases (sa : Sa Data) (msg : Message Data) (handling : Handling)
    (sendFails : Bool) (flag : UInt32) (initiator : Bool) (request : msg.hdr.response = false) :
    SameWindow (ikev2RecvRequest sa msg handling sendFails flag initiator) sa ∨
      ∃ toInit, Admits sa msg.hdr ∧
        SameWindow (ikev2RecvRequest sa msg handling sendFails flag initiator)
          (sa.advance ⟨msg.hdr.ikeMsgid, msg.hdr.ikeExchange, false, toInit, handling.msgValid,
            sa.saReqid⟩) := by
  have done (toInit : Bool) :
      SameWindow (ikev2RecvDone { sa with saMsgidCurrent := msg.hdr.ikeMsgid } msg handling toInit)
        (sa.advance ⟨msg.hdr.ikeMsgid, msg.hdr.ikeExchange, false, toInit, handling.msgValid,
          sa.saReqid⟩) := by
    have window := ikev2RecvDone_window { sa with saMsgidCurrent := msg.hdr.ikeMsgid } msg
      handling toInit (fun _ => rfl)
    have same : SameWindow { sa with saMsgidCurrent := msg.hdr.ikeMsgid } sa := ⟨rfl, rfl, rfl⟩
    rw [request] at window
    exact window.trans (same.advance _)
  unfold ikev2RecvRequest
  simp only
  split_ifs with restarted stale resent failed busy
  · exact Or.inl (sameWindow_release sa)
  · exact Or.inl (sameWindow_refl sa)
  · exact Or.inl (sameWindow_release sa)
  · exact Or.inl (sameWindow_refl sa)
  · exact Or.inl (sameWindow_refl sa)
  all_goals
    refine Or.inr ⟨_, ?_, done _⟩
    simp only [Admits, request]
    exact ⟨stale, busy⟩

-- The dispatch of `ikev2_recv`: a released SA or a dropped datagram changes nothing,
-- otherwise the branch of the message's kind runs.
theorem ikev2Recv_eq (sa : Sa Data) (msg : Message Data) (handling : Handling) (sendFails : Bool) :
    ikev2Recv sa msg handling sendFails = sa ∨
      (msg.hdr.response = true ∧ ∃ flag initiator,
        ikev2Recv sa msg handling sendFails = ikev2RecvResponse sa msg handling flag initiator) ∨
      (msg.hdr.response = false ∧ ∃ flag initiator,
        ikev2Recv sa msg handling sendFails =
          ikev2RecvRequest sa msg handling sendFails flag initiator) := by
  unfold ikev2Recv
  simp only
  by_cases released : sa.released = true
  · exact Or.inl (if_pos released)
  rw [if_neg released]
  by_cases dropped : msg.hdr.ikeExchange ≠ ikev2ExchangeIkeSaInit ∧
      msg.hdr.ikeNextpayload ≠ ikev2PayloadSk ∧ msg.hdr.ikeNextpayload ≠ ikev2PayloadSkf
  · exact Or.inl (if_pos dropped)
  rw [if_neg dropped]
  cases response : msg.hdr.response
  · exact Or.inr (Or.inr ⟨rfl, _, _, if_neg Bool.false_ne_true⟩)
  · exact Or.inr (Or.inl ⟨rfl, _, _, if_pos rfl⟩)

/-- What one datagram can do to the window: nothing, or hand over a message that passed
the checks of `ikev2_recv`, moving the window to a request the handler finds valid. -/
theorem ikev2Recv_cases (sa : Sa Data) (msg : Message Data) (handling : Handling)
    (sendFails : Bool) :
    SameWindow (ikev2Recv sa msg handling sendFails) sa ∨
      ∃ toInit, Admits sa msg.hdr ∧ SameWindow (ikev2Recv sa msg handling sendFails)
        (sa.advance ⟨msg.hdr.ikeMsgid, msg.hdr.ikeExchange, msg.hdr.response, toInit,
          handling.msgValid, sa.saReqid⟩) := by
  rcases ikev2Recv_eq sa msg handling sendFails with
    same | ⟨response, flag, initiator, recv⟩ | ⟨request, flag, initiator, recv⟩
  · rw [same]
    exact Or.inl (sameWindow_refl sa)
  · rw [recv, response]
    exact ikev2RecvResponse_cases sa msg handling flag initiator response
  · rw [recv, request]
    exact ikev2RecvRequest_cases sa msg handling sendFails flag initiator request

theorem step_cases (sa : Sa Data) (event : Event Data) :
    SameWindow (step sa event) sa ∨
      ∃ msg handling sendFails toInit, event = .recv msg handling sendFails ∧ Admits sa msg.hdr ∧
        SameWindow (step sa event) (sa.advance ⟨msg.hdr.ikeMsgid, msg.hdr.ikeExchange,
          msg.hdr.response, toInit, handling.msgValid, sa.saReqid⟩) := by
  cases event with
  | recv msg handling sendFails =>
    rcases ikev2Recv_cases sa msg handling sendFails with same | ⟨toInit, admits, window⟩
    · exact Or.inl same
    · exact Or.inr ⟨msg, handling, sendFails, toInit, rfl, admits, window⟩
  | sendRequest exchange =>
    left
    simp only [step]
    split
    · exact sameWindow_refl sa
    · exact ⟨rfl, rfl, rfl⟩
  | sendResponse exchange =>
    left
    simp only [step]
    split
    · exact sameWindow_refl sa
    · exact ⟨rfl, rfl, rfl⟩
  | disposeResponse | disposeRequest | retransmitLimit | clearFlags | fragments | close
  | firstMessage => exact Or.inl ⟨rfl, rfl, rfl⟩

end Window

section Requests

variable {Data : Type}

theorem validRequestIds_append (log : List Delivery) (d : Delivery) :
    validRequestIds (log ++ [d]) =
      validRequestIds log ++ (if !d.response && d.msgValid then [d.msgid] else []) := by
  unfold validRequestIds
  split <;> simp [List.filter_append, *]

-- The valid requests handed over lie at or below `sa_msgid`, which is then set, and their
-- IDs increase.
structure WindowInv (sa : Sa Data) : Prop where
  below : ∀ m ∈ validRequestIds sa.deliveries, m ≤ sa.saMsgid
  set : validRequestIds sa.deliveries ≠ [] → sa.saMsgidSet = true
  increasing : (validRequestIds sa.deliveries).Pairwise (· < ·)

theorem WindowInv.of_sameWindow {a b : Sa Data} (same : SameWindow a b) (inv : WindowInv b) :
    WindowInv a := by
  obtain ⟨deliveries, msgid, set⟩ := same
  refine ⟨?_, ?_, ?_⟩
  · rw [deliveries, msgid]
    exact inv.below
  · rw [deliveries, set]
    exact inv.set
  · rw [deliveries]
    exact inv.increasing

theorem windowInv_start : WindowInv (start : Sa Data) :=
  ⟨by simp [start, validRequestIds], by simp [start, validRequestIds],
    by simp [start, validRequestIds]⟩

theorem WindowInv.advance {sa : Sa Data} (inv : WindowInv sa) (d : Delivery)
    (above : d.response = false →
      ¬ d.msgid < sa.saMsgid ∧ ¬ (sa.saMsgidSet = true ∧ d.msgid = sa.saMsgid)) :
    WindowInv (sa.advance d) := by
  unfold Sa.advance
  by_cases moves : (!d.response && d.msgValid) = true
  · rw [if_pos moves]
    have request : d.response = false := by
      cases response : d.response <;> simp_all
    obtain ⟨notBelow, notCurrent⟩ := above request
    -- the window was set by the requests before, and `d` lies past it
    have past : ∀ m ∈ validRequestIds sa.deliveries, m < d.msgid := by
      intro m member
      have set := inv.set (List.ne_nil_of_mem member)
      have differs : sa.saMsgid ≠ d.msgid := fun same => notCurrent ⟨set, same.symm⟩
      exact UInt32.lt_of_le_of_lt (inv.below m member)
        (UInt32.lt_of_le_of_ne (UInt32.not_lt.mp notBelow) differs)
    refine ⟨?_, fun _ => rfl, ?_⟩
    · intro m member
      simp only [validRequestIds_append, moves, if_true, List.mem_append,
        List.mem_singleton] at member
      rcases member with old | rfl
      · exact UInt32.le_of_lt (past m old)
      · exact UInt32.le_refl _
    · simp only [validRequestIds_append, moves, if_true]
      refine List.pairwise_append.mpr ⟨inv.increasing, List.pairwise_singleton _ _, ?_⟩
      intro m member later after
      simp only [List.mem_singleton] at after
      rw [after]
      exact past m member
  · rw [if_neg moves]
    have same : validRequestIds (sa.deliveries ++ [d]) = validRequestIds sa.deliveries := by
      rw [validRequestIds_append, if_neg moves, List.append_nil]
    exact ⟨by simpa [same] using inv.below, by simpa [same] using inv.set,
      by simpa [same] using inv.increasing⟩

theorem admits_above {sa : Sa Data} {hdr : IkeHeader} (admits : Admits sa hdr) :
    hdr.response = false →
      ¬ hdr.ikeMsgid < sa.saMsgid ∧ ¬ (sa.saMsgidSet = true ∧ hdr.ikeMsgid = sa.saMsgid) := by
  intro request
  simpa only [Admits, request] using admits

variable [DecidableEq Data]

theorem windowInv_step {sa : Sa Data} (inv : WindowInv sa) (event : Event Data) :
    WindowInv (step sa event) := by
  rcases step_cases sa event with same | ⟨msg, handling, sendFails, toInit, -, admits, window⟩
  · exact inv.of_sameWindow same
  · exact (inv.advance _ (admits_above admits)).of_sameWindow window

theorem windowInv_run {sa : Sa Data} (inv : WindowInv sa) (events : List (Event Data)) :
    WindowInv (run sa events) := by
  induction events generalizing sa with
  | nil => exact inv
  | cons event events ih => exact ih (windowInv_step inv event)

/-- Over every run, the valid requests of the SA reach the handlers with strictly
increasing message IDs. -/
theorem run_validRequestIds_increasing (events : List (Event Data)) :
    (validRequestIds (run start events).deliveries).Pairwise (· < ·) :=
  (windowInv_run windowInv_start events).increasing

omit [DecidableEq Data] in
theorem advance_deliveries (sa : Sa Data) (d : Delivery) :
    (sa.advance d).deliveries = sa.deliveries ++ [d] := by
  unfold Sa.advance
  split <;> rfl

-- The initiator's IKE_AUTH request 0, and the response to it.
def answeredRun : List (Event (List UInt8)) :=
  [.sendRequest ikev2ExchangeIkeAuth,
    .recv ⟨⟨ikev2ExchangeIkeAuth, true, false, ikev2PayloadSk, 0⟩, [], none⟩ ⟨true, false⟩ false]

/-- A request at or below the last valid one, once there is one, is dropped, reported
busy or answered from the response queue: no handler sees it and the window stays. -/
theorem ikev2Recv_stale_request (sa : Sa Data) (msg : Message Data) (handling : Handling)
    (sendFails : Bool) (request : msg.hdr.response = false) (set : sa.saMsgidSet = true)
    (stale : msg.hdr.ikeMsgid ≤ sa.saMsgid) :
    SameWindow (ikev2Recv sa msg handling sendFails) sa := by
  rcases ikev2Recv_cases sa msg handling sendFails with same | ⟨toInit, admits, -⟩
  · exact same
  · obtain ⟨notBelow, notCurrent⟩ := admits_above admits request
    exact absurd ⟨set, UInt32.le_antisymm stale (UInt32.not_lt.mp notBelow)⟩ notCurrent

-- The responder of an IKE SA that took IKE_AUTH request 1, and that request again.
def authAnswered : Sa (List UInt8) :=
  { (start : Sa (List UInt8)) with saMsgid := 1, saMsgidSet := true, saMsgidCurrent := 1 }

def authRetransmitted : Message (List UInt8) :=
  ⟨⟨ikev2ExchangeIkeAuth, false, true, ikev2PayloadSk, 1⟩, [], none⟩

theorem ikev2Recv_stale_request_of_retransmit :
    authRetransmitted.hdr.response = false ∧ authAnswered.saMsgidSet = true ∧
    authRetransmitted.hdr.ikeMsgid ≤ authAnswered.saMsgid ∧
    SameWindow (ikev2Recv authAnswered authRetransmitted ⟨true, false⟩ false) authAnswered :=
  ⟨rfl, rfl, by decide,
    ikev2Recv_stale_request authAnswered authRetransmitted ⟨true, false⟩ false rfl rfl (by decide)⟩

end Requests

section Responses

variable {Data : Type} [DecidableEq Data]

-- Every request queued was sent.
def RequestsSent (sa : Sa Data) : Prop := ∀ entry ∈ sa.saRequests, entry ∈ sa.sent

omit [DecidableEq Data] in
theorem ikev2RecvDone_requests (sa : Sa Data) (msg : Message Data) (handling : Handling)
    (initiator : Bool) :
    (ikev2RecvDone sa msg handling initiator).saRequests = sa.saRequests ∧
      (ikev2RecvDone sa msg handling initiator).sent = sa.sent := by
  unfold ikev2RecvDone
  split_ifs <;> simp [Sa.release]

omit [DecidableEq Data] in
theorem ikev2RecvResponse_requests (sa : Sa Data) (msg : Message Data) (handling : Handling)
    (flag : UInt32) (initiator : Bool) :
    (∀ entry ∈ (ikev2RecvResponse sa msg handling flag initiator).saRequests,
      entry ∈ sa.saRequests) ∧ (ikev2RecvResponse sa msg handling flag initiator).sent = sa.sent := by
  unfold ikev2RecvResponse
  simp only
  split_ifs
  · exact ⟨fun _ member => member, rfl⟩
  · exact ⟨fun _ member => member, rfl⟩
  · exact ⟨fun _ member => member, rfl⟩
  -- the response disposes of the request it answers
  all_goals
    rw [(ikev2RecvDone_requests _ _ _ _).1, (ikev2RecvDone_requests _ _ _ _).2]
    first
      | exact ⟨fun _ member => List.mem_of_mem_erase member, rfl⟩
      | exact ⟨fun _ member => member, rfl⟩

theorem ikev2RecvRequest_requests (sa : Sa Data) (msg : Message Data) (handling : Handling)
    (sendFails : Bool) (flag : UInt32) (initiator : Bool) :
    (ikev2RecvRequest sa msg handling sendFails flag initiator).saRequests = sa.saRequests ∧
      (ikev2RecvRequest sa msg handling sendFails flag initiator).sent = sa.sent := by
  unfold ikev2RecvRequest
  simp only
  split_ifs <;> simp [Sa.release, ikev2RecvDone_requests]

-- `ikev2_recv` only ever disposes of a queued request.
theorem ikev2Recv_requests (sa : Sa Data) (msg : Message Data) (handling : Handling)
    (sendFails : Bool) :
    (∀ entry ∈ (ikev2Recv sa msg handling sendFails).saRequests, entry ∈ sa.saRequests) ∧
      (ikev2Recv sa msg handling sendFails).sent = sa.sent := by
  rcases ikev2Recv_eq sa msg handling sendFails with
    same | ⟨-, flag, initiator, recv⟩ | ⟨-, flag, initiator, recv⟩
  · rw [same]
    exact ⟨fun _ member => member, rfl⟩
  · rw [recv]
    exact ikev2RecvResponse_requests sa msg handling flag initiator
  · obtain ⟨requests, sent⟩ := ikev2RecvRequest_requests sa msg handling sendFails flag initiator
    rw [recv, requests, sent]
    exact ⟨fun _ member => member, rfl⟩

omit [DecidableEq Data] in
theorem requestsSent_start : RequestsSent (start : Sa Data) := by
  simp [RequestsSent, start]

theorem requestsSent_step {sa : Sa Data} (sent : RequestsSent sa) (event : Event Data) :
    RequestsSent (step sa event) := by
  cases event with
  | recv msg handling sendFails =>
    obtain ⟨shrinks, same⟩ := ikev2Recv_requests sa msg handling sendFails
    intro entry member
    simp only [step, same] at member ⊢
    exact sent entry (shrinks entry member)
  | sendRequest exchange =>
    simp only [step]
    split
    · exact sent
    · intro entry member
      simp only [sendRequest, ikev2MsgEnqueue] at member ⊢
      split at member
      · exact List.mem_append_left _ (sent entry member)
      · rcases List.mem_append.mp member with old | new
        · exact List.mem_append_left _ (sent entry old)
        · exact List.mem_append_right _ new
  | disposeRequest entry =>
    intro other member
    exact sent other (List.mem_of_mem_erase member)
  | sendResponse exchange =>
    simp only [step]
    split
    · exact sent
    · exact sent
  | disposeResponse | retransmitLimit | clearFlags | fragments | close | firstMessage =>
    exact sent

omit [DecidableEq Data] in
theorem ikev2RecvResponse_of_unknown (sa : Sa Data) (msg : Message Data) (handling : Handling)
    (flag : UInt32) (initiator : Bool) (exchange : msg.hdr.ikeExchange ≠ ikev2ExchangeInformational)
    (whole : sa.fragCount = 0)
    (unknown : (⟨msg.hdr.ikeMsgid, msg.hdr.ikeExchange⟩ : Queued) ∉ sa.saRequests) :
    ikev2RecvResponse sa msg handling flag initiator = sa := by
  have missing : ikev2MsgLookup sa.saRequests msg.hdr.ikeMsgid msg.hdr.ikeExchange = false := by
    simpa [ikev2MsgLookup] using unknown
  unfold ikev2RecvResponse
  simp only [missing, exchange, whole, ne_eq, not_false_eq_true, Bool.not_false, and_self,
    if_true]
  split <;> rfl

-- The initiator after sending IKE_AUTH request 0, and the responder's answer to it.
def authRequested : Sa (List UInt8) := run start [.sendRequest ikev2ExchangeIkeAuth]

def authAnswer : Message (List UInt8) :=
  ⟨⟨ikev2ExchangeIkeAuth, true, false, ikev2PayloadSk, 0⟩, [], none⟩

-- An INFORMATIONAL request sent, then an INFORMATIONAL response carrying the ID after it.
def unsentResponseEvents : List (Event (List UInt8)) :=
  [.sendRequest ikev2ExchangeInformational,
    .recv ⟨⟨ikev2ExchangeInformational, true, false, ikev2PayloadSk, 1⟩, [], none⟩ ⟨false, false⟩
      false]

theorem informational_response_to_unsent_request_reaches_init_recv :
    ∃ d ∈ (run start unsentResponseEvents).deliveries, d.response = true ∧ d.toInit = true ∧
      ¬ d.msgid < d.reqid ∧ (⟨d.msgid, d.exchange⟩ : Queued) ∉ (run start unsentResponseEvents).sent := by
  decide

end Responses

end OpenIKED.Ikev2.MsgWindow
