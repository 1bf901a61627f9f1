import OpenIKED.Ikev2.AddrPool
import OpenIKED.Shared.Run

set_option autoImplicit false

/-!
# The destination-ID index over whole runs

`sc_dstid_sas` changes in seven places: `ikev2_record_dstid` when an SA is established, the
sticky path of `ikev2_cp_setaddr_pool`, the transfer of `ikev2_ikesa_enable`, the three
removals of `sa_free` and the one of `config_doreset`.  The key of an SA, `IKESA_DSTID`, is
written when `sa_new` allocates the SA, when `ikev2_ike_auth_recv` stores the peer's ID, and
by the ID copy of `ikev2_ikesa_enable`; `sa_new` also writes the local ID, the other of
`sa_iid` and `sa_rid`.  These are the events of `indexStep`, over the state of the address
pools (`PoolEnv`).

Two facts of the message layer are the guards of the events, where the daemon does not take
them otherwise: an IKE_AUTH message is processed, and the peer's ID stored, only for an SA
that is not established yet, and an SA is established or given an address only after its
peer's AUTH was checked, which `ikev2_msg_auth` refuses for a peer ID of type 0.  A rekeyed SA
`nsa` comes from a CREATE_CHILD_SA exchange and was never established.

From these, every event keeps `DstidInv` (the members are the established SAs, live, with
well-formed and pairwise distinct keys), no `fatalx` of the index is reached, and the key of a
member never changes (`indexStep_keeps`); so over every run from the empty daemon
(`dstid_index_consistent_on_every_run`).
-/

namespace OpenIKED.Ikev2.DstidIndex

open OpenIKED.Shared OpenIKED.Util
open OpenIKED.Ikev2.AddrPool
open OpenIKED.Ikev2.TrafficSel (SaCp)
open OpenIKED.Parse.Flows (IkedAddr)
open OpenIKED.Policy.Dstid

/-! ## The events -/

-- A `calloc`ed `struct iked_id`.
def emptyId : IkedId := ⟨0, 0, none⟩

-- `IKESA_DSTID` is `sa_rid` of an initiator and `sa_iid` of a responder; the other is the
-- local ID.
def setDstid (s : DstidSa) (id : IkedId) : DstidSa :=
  if s.saInitiator then { s with saRid := id } else { s with saIid := id }

def setLocalid (s : DstidSa) (id : IkedId) : DstidSa :=
  if s.saInitiator then { s with saIid := id } else { s with saRid := id }

/-- "Preserve ID information": the new SA takes the old one's IDs, swapped when the roles
swapped. -/
def ikesaEnableIds (old new : DstidSa) : DstidSa :=
  if old.saInitiator = new.saInitiator then { new with saIid := old.saIid, saRid := old.saRid }
  else { new with saIid := old.saRid, saRid := old.saIid }

def setSa (env : PoolEnv) (sa : Nat) (f : DstidSa → DstidSa) : PoolEnv :=
  { env with sas := Function.update env.sas sa (f (env.sas sa)) }

/-- `config_new_sa` and the `RB_INSERT` into `sc_sas` of `sa_new`: a zeroed SA. -/
def configNewSa (env : PoolEnv) (sa : Nat) (initiator : Bool) : PoolEnv :=
  let env := setSa env sa fun _ => ⟨initiator, emptyId, emptyId, false⟩
  let env := env.setPool sa fun _ => ⟨SaCp.none, none, none, none, none⟩
  { env with scSas := sa :: env.scSas }

def setAddrOf (family : Nat) (a : Option IkedAddr) (p : PoolSa) : PoolSa :=
  if family = afInet then { p with saAddrpool := a } else { p with saAddrpool6 := a }

/-- One family of "Transfer sa_addrpool address": the old SA leaves the tree, its address
moves to the new SA, and the new SA goes in. -/
def transferAddrpool (env : PoolEnv) (family sa nsa : Nat) : PoolEnv :=
  match PoolSa.addrOf family (env.pools sa) with
  | some a =>
    let env := env.setTree family ((env.tree family).erase sa)
    let env := env.setPool nsa (setAddrOf family (some a))
    let env := env.setPool sa (setAddrOf family none)
    env.setTree family
      (addrpoolInsert env.pools (PoolSa.addrOf family) (env.tree family) nsa a.addr)
  | none => env

def transferAddresses (env : PoolEnv) (sa nsa : Nat) : PoolEnv :=
  let env := transferAddrpool (transferAddrpool env afInet sa nsa) afInet6 sa nsa
  let old := env.pools sa
  let env := env.setPool nsa fun p =>
    { p with saCp := old.saCp, saCpAddr := old.saCpAddr, saCpAddr6 := old.saCpAddr6 }
  env.setPool sa fun p => { p with saCpAddr := none, saCpAddr6 := none }

/-- `ikev2_ikesa_enable` from the ID copy to the index transfer: `sa_dstid_insert`'s answer
is not looked at. -/
def ikev2IkesaEnable (env : PoolEnv) (sa nsa : Nat) : Except String PoolEnv := do
  let env := setSa env nsa (ikesaEnableIds (env.sas sa))
  let env := transferAddresses env sa nsa
  if (env.sas sa).saDstidEntryValid then
    let dstids ← saDstidRemove env.toDstidEnv sa
    let (dstids, _) ← saDstidInsert dstids nsa
    pure { env with toDstidEnv := dstids }
  else pure env

-- Freeing one SA, as far as the index sees it: `RB_REMOVE` from `sc_sas`, and
-- `sa_dstid_remove` while it is established.
def freeSa (env : PoolEnv) (sa : Nat) : Except String PoolEnv := do
  let env := { env with scSas := env.scSas.erase sa }
  if (env.sas sa).saDstidEntryValid then
    let dstids ← saDstidRemove env.toDstidEnv sa
    pure { env with toDstidEnv := dstids }
  else pure env

-- `if (sa->sa_nexti)` and `if (sa->sa_nextr)`: the SA of a running rekey, if there is one.
def freeRekeyed (env : PoolEnv) : Option Nat → Except String PoolEnv
  | some next => freeSa env next
  | none => pure env

/-- `sa_free`, with the SA's `sa_nexti` and `sa_nextr`: the SAs of a running rekey go
first. -/
def saFree (env : PoolEnv) (sa : Nat) (nexti nextr : Option Nat) : Except String PoolEnv := do
  let env ← freeRekeyed env nexti
  let env ← freeRekeyed env nextr
  freeSa env sa

-- `config_doreset` flushing the SAs: under `RESET_SA` an established SA is sent a DELETE
-- first, and freed when the loop meets it again.
def configDoreset (env : PoolEnv) : Except String PoolEnv :=
  env.scSas.foldlM freeSa env

inductive IndexEvent where
  | saNew (sa : Nat) (initiator : Bool)
  | peerId (sa : Nat) (id : IkedId)
  | localId (sa : Nat) (id : IkedId)
  | established (sa : Nat)
  | cpSetaddr (sa : Nat) (cfgs : List IkedCfg) (family : Nat) (rand : Nat → Nat → UInt32)
  | ikesaEnable (sa nsa : Nat)
  | saFree (sa : Nat) (nexti nextr : Option Nat)
  | reset

def indexStep (env : PoolEnv) : IndexEvent → Except String PoolEnv
  | .saNew sa initiator =>
    -- `calloc` returns memory that no live SA holds
    if sa ∈ env.scSas then pure env else pure (configNewSa env sa initiator)
  | .peerId sa id =>
    -- IKE_AUTH is processed only before establishment, and `ikev2_pld_id` keeps only an ID
    -- that `ikev2_print_id` prints
    if (env.sas sa).saDstidEntryValid ∨ sa ∉ env.scSas ∨ dstidChecked id = false then pure env
    -- `if (msg->msg_peerid.id_type)`
    else if id.idType = 0 then pure env
    else pure (setSa env sa fun s => setDstid s id)
  | .localId sa id => pure (setSa env sa fun s => setLocalid s id)
  | .established sa =>
    if sa ∉ env.scSas ∨ (env.dstid sa).idType = 0 then pure env
    else do
      let (dstids, _) ← ikev2RecordDstid env.toDstidEnv sa
      pure { env with toDstidEnv := dstids }
  | .cpSetaddr sa cfgs family rand =>
    if sa ∉ env.scSas ∨ (env.dstid sa).idType = 0 then pure env
    else
      match ikev2CpSetaddr env sa cfgs family rand with
      | .ok env => pure env
      | .failed env _ => pure env
      | .fatal msg => .error msg
  | .ikesaEnable sa nsa =>
    if sa = nsa ∨ sa ∉ env.scSas ∨ nsa ∉ env.scSas ∨ (env.sas nsa).saDstidEntryValid then
      pure env
    else ikev2IkesaEnable env sa nsa
  | .saFree sa nexti nextr => saFree env sa nexti nextr
  | .reset => configDoreset env

-- The daemon after startup: no SA, and the pools empty.
def startEnv (sticky : Bool) : PoolEnv where
  sas := fun _ => ⟨false, emptyId, emptyId, false⟩
  scSas := []
  scDstidSas := []
  pools := fun _ => ⟨SaCp.none, none, none, none, none⟩
  scAddrpool := []
  scAddrpool6 := []
  scStickyaddress := sticky

/-! ## What the events write -/

section Writes

variable {env : PoolEnv}

@[simp] theorem ikesaDstid_setDstid (s : DstidSa) (id : IkedId) :
    ikesaDstid (setDstid s id) = id := by
  unfold setDstid ikesaDstid
  split <;> simp [*]

@[simp] theorem ikesaDstid_setLocalid (s : DstidSa) (id : IkedId) :
    ikesaDstid (setLocalid s id) = ikesaDstid s := by
  unfold setLocalid ikesaDstid
  split <;> simp [*]

@[simp] theorem setDstid_saDstidEntryValid (s : DstidSa) (id : IkedId) :
    (setDstid s id).saDstidEntryValid = s.saDstidEntryValid := by
  unfold setDstid
  split <;> rfl

@[simp] theorem setLocalid_saDstidEntryValid (s : DstidSa) (id : IkedId) :
    (setLocalid s id).saDstidEntryValid = s.saDstidEntryValid := by
  unfold setLocalid
  split <;> rfl

-- The copy keeps the key across a role swap.
@[simp] theorem ikesaDstid_ikesaEnableIds (old new : DstidSa) :
    ikesaDstid (ikesaEnableIds old new) = ikesaDstid old := by
  unfold ikesaEnableIds ikesaDstid
  by_cases same : old.saInitiator = new.saInitiator
  · simp [same]
  · cases h : old.saInitiator <;> simp_all

@[simp] theorem ikesaEnableIds_saDstidEntryValid (old new : DstidSa) :
    (ikesaEnableIds old new).saDstidEntryValid = new.saDstidEntryValid := by
  unfold ikesaEnableIds
  split <;> rfl

@[simp] theorem setSa_sas_self (env : PoolEnv) (sa : Nat) (f : DstidSa → DstidSa) :
    (setSa env sa f).sas sa = f (env.sas sa) := by
  simp [setSa]

@[simp] theorem setSa_sas_of_ne (env : PoolEnv) {sa other : Nat} (f : DstidSa → DstidSa)
    (differ : other ≠ sa) : (setSa env sa f).sas other = env.sas other := by
  simp [setSa, differ]

@[simp] theorem setSa_scSas (env : PoolEnv) (sa : Nat) (f : DstidSa → DstidSa) :
    (setSa env sa f).scSas = env.scSas := rfl

@[simp] theorem setSa_scDstidSas (env : PoolEnv) (sa : Nat) (f : DstidSa → DstidSa) :
    (setSa env sa f).scDstidSas = env.scDstidSas := rfl

@[simp] theorem setSa_pools (env : PoolEnv) (sa : Nat) (f : DstidSa → DstidSa) :
    (setSa env sa f).pools = env.pools := rfl

@[simp] theorem PoolEnv.setPool_toDstidEnv (env : PoolEnv) (sa : Nat) (f : PoolSa → PoolSa) :
    (env.setPool sa f).toDstidEnv = env.toDstidEnv := rfl

@[simp] theorem PoolEnv.setTree_toDstidEnv (env : PoolEnv) (family : Nat) (members : List Nat) :
    (env.setTree family members).toDstidEnv = env.toDstidEnv := by
  unfold PoolEnv.setTree
  split <;> rfl

@[simp] theorem PoolEnv.moveAddresses_toDstidEnv (env : PoolEnv) (sa osa : Nat) :
    (env.moveAddresses sa osa).toDstidEnv = env.toDstidEnv := rfl

@[simp] theorem PoolEnv.insertHeld_toDstidEnv (env : PoolEnv) (sa : Nat) :
    (env.insertHeld sa).toDstidEnv = env.toDstidEnv := rfl

@[simp] theorem transferAddrpool_toDstidEnv (env : PoolEnv) (family sa nsa : Nat) :
    (transferAddrpool env family sa nsa).toDstidEnv = env.toDstidEnv := by
  unfold transferAddrpool
  split <;> simp

@[simp] theorem transferAddresses_toDstidEnv (env : PoolEnv) (sa nsa : Nat) :
    (transferAddresses env sa nsa).toDstidEnv = env.toDstidEnv := by
  simp [transferAddresses]

end Writes

/-! ## The invariant and the states that keep it -/

/-- The index is consistent, and a peer ID of nonzero type came through `ikev2_pld_id`, so it
has bytes past its header. -/
structure IndexInv (env : PoolEnv) : Prop where
  index : DstidInv env.toDstidEnv
  peerIds : ∀ sa, (env.dstid sa).idType ≠ 0 → dstidChecked (env.dstid sa) = true

/-- A later state that keeps the invariant and every key. -/
structure KeepsIndex (env env' : PoolEnv) : Prop where
  inv : IndexInv env'
  keys : ∀ m, env'.dstid m = env.dstid m

section Invariant

variable {env env' env'' : PoolEnv}

theorem KeepsIndex.of_index (inv : IndexInv env) (index : DstidInv env'.toDstidEnv)
    (keys : ∀ m, env'.dstid m = env.dstid m) : KeepsIndex env env' where
  inv := ⟨index, fun sa typed => by
    rw [keys] at typed ⊢
    exact inv.peerIds sa typed⟩
  keys := keys

-- A state with the same index part.
theorem KeepsIndex.of_same (inv : IndexInv env) (same : env'.toDstidEnv = env.toDstidEnv) :
    KeepsIndex env env' :=
  .of_index inv (same ▸ inv.index) fun m => by rw [same]

theorem KeepsIndex.trans (first : KeepsIndex env env') (second : KeepsIndex env' env'') :
    KeepsIndex env env'' :=
  ⟨second.inv, fun m => (second.keys m).trans (first.keys m)⟩

theorem startEnv_inv (sticky : Bool) : IndexInv (startEnv sticky) where
  index := ⟨fun sa => by simp [startEnv], fun _ member => (by cases member),
    fun _ member => (by cases member), List.Pairwise.nil⟩
  peerIds sa typed := by
    simp [startEnv, DstidEnv.dstid, ikesaDstid, emptyId] at typed

/-- Writing the record of one SA keeps the invariant when the flag stays and the SA is not a
member or keeps its key, and the new key of a peer ID of nonzero type is well formed. -/
theorem IndexInv.setSa_keeps (inv : IndexInv env) (sa : Nat) (f : DstidSa → DstidSa)
    (flag : (f (env.sas sa)).saDstidEntryValid = (env.sas sa).saDstidEntryValid)
    (outside : sa ∉ env.scDstidSas ∨ ikesaDstid (f (env.sas sa)) = ikesaDstid (env.sas sa))
    (peer : (ikesaDstid (f (env.sas sa))).idType ≠ 0 →
      dstidChecked (ikesaDstid (f (env.sas sa))) = true) :
    IndexInv (setSa env sa f) ∧ ∀ m ∈ env.scDstidSas, (setSa env sa f).dstid m = env.dstid m := by
  have others : ∀ m, m ≠ sa → (setSa env sa f).dstid m = env.dstid m := fun m differ => by
    simp [DstidEnv.dstid, differ]
  have keys : ∀ m ∈ env.scDstidSas, (setSa env sa f).dstid m = env.dstid m := by
    intro m member
    by_cases same : m = sa
    · subst same
      rcases outside with notMember | kept
      · exact absurd member notMember
      · simpa [DstidEnv.dstid] using kept
    · exact others m same
  refine ⟨⟨inv.index.of_agree rfl ?_ keys inv.index.mem_sas, ?_⟩, keys⟩
  · intro x
    by_cases same : x = sa
    · subst same
      simpa using flag
    · simp [same]
  · intro x
    by_cases same : x = sa
    · subst same
      simpa [DstidEnv.dstid] using peer
    · rw [others x same]
      exact inv.peerIds x

theorem IndexInv.withSas (inv : IndexInv env) {live : List Nat}
    (kept : ∀ m ∈ env.scDstidSas, m ∈ live) : IndexInv { env with scSas := live } where
  index := inv.index.of_agree rfl (fun _ => rfl) (fun _ _ => rfl) kept
  peerIds := inv.peerIds

end Invariant

/-! ## Each place keeps the invariant -/

section Places

variable {env : PoolEnv}

theorem configNewSa_keeps (inv : IndexInv env) {sa : Nat} (fresh : sa ∉ env.scSas)
    (initiator : Bool) :
    IndexInv (configNewSa env sa initiator) ∧
      ∀ m ∈ env.scDstidSas, (configNewSa env sa initiator).dstid m = env.dstid m := by
  have notMember : sa ∉ env.scDstidSas := fun member => fresh (inv.index.mem_sas sa member)
  have notValid : (env.sas sa).saDstidEntryValid = false := by
    simpa [inv.index.valid_iff sa] using notMember
  obtain ⟨written, keys⟩ := inv.setSa_keeps sa (fun _ => ⟨initiator, emptyId, emptyId, false⟩)
    (by simp [notValid]) (.inl notMember) (by cases initiator <;> simp [ikesaDstid, emptyId])
  refine ⟨(KeepsIndex.of_same written ?_).inv.withSas ?_, keys⟩
  · rfl
  · exact fun m member => List.mem_cons_of_mem sa (written.index.mem_sas m member)

/-- `sa_dstid_remove` does not read `sc_sas`. -/
theorem saDstidRemove_withSas (dstids : DstidEnv) (live : List Nat) (sa : Nat) :
    saDstidRemove { dstids with scSas := live } sa =
      (saDstidRemove dstids sa).map fun removed => { removed with scSas := live } := by
  unfold saDstidRemove
  have sameKey : ({ dstids with scSas := live } : DstidEnv).dstid sa = dstids.dstid sa := rfl
  rw [sameKey]
  by_cases valid : (dstids.sas sa).saDstidEntryValid
  · by_cases checked : dstidChecked (dstids.dstid sa)
    · simp [valid, checked]
      rfl
    · simp [valid, checked]
      rfl
  · simp [valid]
    rfl

theorem freeSa_keeps (inv : IndexInv env) (sa : Nat) :
    ∃ env', freeSa env sa = .ok env' ∧ KeepsIndex env env' := by
  by_cases valid : (env.sas sa).saDstidEntryValid
  · -- an established SA leaves the index as well
    have member := (inv.index.valid_iff sa).mpr valid
    obtain ⟨dstids, removed, index, gone, -, live, keys⟩ := saDstidRemove_keeps inv.index member
    refine ⟨{ env with toDstidEnv := { dstids with scSas := env.scSas.erase sa } }, ?_, ?_⟩
    · have removed' := saDstidRemove_withSas env.toDstidEnv (env.scSas.erase sa) sa
      rw [removed] at removed'
      simp only [freeSa, valid, if_true]
      rw [removed']
      rfl
    · refine .of_index inv (index.of_agree rfl (fun _ => rfl) (fun _ _ => rfl) ?_) keys
      intro m inIndex
      have differ : m ≠ sa := fun same => gone (same ▸ inIndex)
      exact List.mem_erase_of_ne differ |>.mpr (live ▸ index.mem_sas m inIndex)
  · -- otherwise it only leaves `sc_sas`
    have notMember : sa ∉ env.scDstidSas := fun member => by
      simp [(inv.index.valid_iff sa).mp member] at valid
    refine ⟨{ env with scSas := env.scSas.erase sa }, by simp [freeSa, valid, pure, Except.pure], ?_⟩
    refine ⟨inv.withSas fun m member => ?_, fun _ => rfl⟩
    have differ : m ≠ sa := fun same => notMember (same ▸ member)
    exact (List.mem_erase_of_ne differ).mpr (inv.index.mem_sas m member)

theorem freeRekeyed_keeps (inv : IndexInv env) (next : Option Nat) :
    ∃ env', freeRekeyed env next = .ok env' ∧ KeepsIndex env env' := by
  cases next with
  | some next => exact freeSa_keeps inv next
  | none => exact ⟨env, rfl, .of_same inv rfl⟩

theorem saFree_keeps (inv : IndexInv env) (sa : Nat) (nexti nextr : Option Nat) :
    ∃ env', saFree env sa nexti nextr = .ok env' ∧ KeepsIndex env env' := by
  obtain ⟨env1, freed1, kept1⟩ := freeRekeyed_keeps inv nexti
  obtain ⟨env2, freed2, kept2⟩ := freeRekeyed_keeps kept1.inv nextr
  obtain ⟨env3, freed3, kept3⟩ := freeSa_keeps kept2.inv sa
  refine ⟨env3, ?_, (kept1.trans kept2).trans kept3⟩
  simp only [saFree, freed1, freed2, bind, Except.bind]
  exact freed3

theorem configDoreset_keeps (inv : IndexInv env) :
    ∃ env', configDoreset env = .ok env' ∧ KeepsIndex env env' :=
  foldlM_ok_of_keeps freeSa (KeepsIndex env)
    (fun _ sa kept => (freeSa_keeps kept.inv sa).imp fun _ freed => ⟨freed.1, kept.trans freed.2⟩)
    env.scSas (.of_same inv rfl)

/-- Establishment records the SA in the index. -/
theorem ikev2RecordDstid_step (inv : IndexInv env) {sa : Nat} (live : sa ∈ env.scSas)
    (typed : (env.dstid sa).idType ≠ 0) :
    ∃ dstids, ikev2RecordDstid env.toDstidEnv sa = .ok (dstids, 0) ∧
      KeepsIndex env { env with toDstidEnv := dstids } := by
  obtain ⟨dstids, recorded, index, -, -, keys⟩ :=
    ikev2RecordDstid_keeps inv.index live (inv.peerIds sa typed)
  exact ⟨dstids, recorded, .of_index inv index keys⟩

end Places

/-! ## The address calls -/

-- What an address call leaves: a state that keeps the invariant and the keys, never a
-- `fatalx`.
def ResultKeeps (env : PoolEnv) : PoolResult → Prop
  | .ok env' => KeepsIndex env env'
  | .failed env' _ => KeepsIndex env env'
  | .fatal _ => False

def LoopKeeps (env : PoolEnv) : CfgLoop → Prop
  | .assigned env' => KeepsIndex env env'
  | .next env' _ _ => KeepsIndex env env'
  | .fatal _ => False

section Address

variable {env : PoolEnv} {sa : Nat}

/-- The sticky lookup succeeds on a well-formed key, and what it finds is a member. -/
theorem stickySource_keeps (inv : IndexInv env) (checked : dstidChecked (env.dstid sa) = true)
    (family : Nat) :
    ∃ source, stickySource env sa family = .ok source ∧
      ∀ osa, source = some osa → osa ∈ env.scDstidSas := by
  unfold stickySource
  split
  · rw [saDstidLookup_eq inv.index checked]
    cases found : env.scDstidSas.find? fun m => (env.dstid m).key == (env.dstid sa).key with
    | none => exact ⟨none, rfl, by simp⟩
    | some osa =>
      have member := List.mem_of_find?_eq_some found
      simp only [bind, Except.bind]
      split
      · exact ⟨some osa, rfl, fun _ same => Option.some.inj same ▸ member⟩
      · exact ⟨none, rfl, by simp⟩
  · exact ⟨none, rfl, by simp⟩

theorem stickyTransfer_keeps (inv : IndexInv env) (sa : Nat) {osa : Nat} (member : osa ∈ env.scDstidSas) :
    ∃ env', stickyTransfer env sa osa = .ok env' ∧ KeepsIndex env env' := by
  obtain ⟨dstids, removed, index, -, -, -, keys⟩ := saDstidRemove_keeps inv.index member
  exact ⟨_, stickyTransfer_eq removed, .of_index inv (by simpa using index) fun m => by
    simpa using keys m⟩

theorem requestedAddress_keeps (inv : IndexInv env) (cfg : IkedCfg) (requested : IkedAddr) :
    ResultKeeps env (requestedAddress env sa cfg requested) := by
  dsimp only [requestedAddress]
  split_ifs <;> exact KeepsIndex.of_same inv rfl

theorem searchAddress_keeps (inv : IndexInv env) (cfg : IkedCfg) (family : Nat) (r : UInt32) :
    ResultKeeps env (searchAddress env sa cfg family r) := by
  dsimp only [searchAddress]
  split
  · -- the address goes to the field of the family, either way a pool field
    exact KeepsIndex.of_same inv (by split <;> simp)
  · exact KeepsIndex.of_same inv rfl
  · exact KeepsIndex.of_same inv rfl

/-- `ikev2_cp_setaddr_pool` of an SA with a well-formed key reaches no `fatalx`: the sticky
lookup succeeds, and only a member leaves the index. -/
theorem ikev2CpSetaddrPool_keeps (inv : IndexInv env) (checked : dstidChecked (env.dstid sa) = true)
    (cfg : IkedCfg) (family : Nat) (r : UInt32) :
    ResultKeeps env (ikev2CpSetaddrPool env sa cfg family r) := by
  obtain ⟨source, sourced, older⟩ := stickySource_keeps inv checked family
  unfold ikev2CpSetaddrPool
  split
  · exact KeepsIndex.of_same inv rfl
  · rw [sourced]
    cases source with
    | some osa =>
      obtain ⟨env', moved, kept⟩ := stickyTransfer_keeps inv sa (older osa rfl)
      simp only [moved]
      exact kept
    | none =>
      dsimp only
      split
      · split
        · exact requestedAddress_keeps inv cfg _
        · exact searchAddress_keeps inv cfg family r
      · split
        · exact searchAddress_keeps inv cfg family r
        · exact KeepsIndex.of_same inv rfl

section Passes

variable {env0 : PoolEnv} (checked : dstidChecked (env0.dstid sa) = true) (family : Nat)
include checked

-- One pass over the configurations: each pool call starts where the last one left the index.
theorem setaddrPass_keeps (rand : Nat → UInt32) :
    ∀ (cfgs : List IkedCfg) (env : PoolEnv) (ret : Int) (errstr : Option String) (i : Nat),
      KeepsIndex env0 env → LoopKeeps env0 (setaddrPass sa family rand env ret errstr i cfgs)
  | [], _, _, _, _, kept => kept
  | cfg :: rest, env, ret, errstr, i, kept => by
    unfold setaddrPass
    split
    · exact setaddrPass_keeps rand rest env ret errstr (i + 1) kept
    · have call := ikev2CpSetaddrPool_keeps kept.inv (by rw [kept.keys sa]; exact checked) cfg
        family (rand i)
      split
      · rename_i env' assigned
        rw [assigned] at call
        exact kept.trans call
      · rename_i env' msg failed
        rw [failed] at call
        exact setaddrPass_keeps rand rest env' (-1) (msg.or errstr) (i + 1) (kept.trans call)
      · rename_i msg fatal
        rw [fatal] at call
        exact call.elim

theorem setaddrPasses_keeps (cfgs : List IkedCfg) (rand : Nat → Nat → UInt32) :
    ∀ (pass left : Nat) (env : PoolEnv) (ret : Int) (errstr : Option String),
      KeepsIndex env0 env → ResultKeeps env0 (setaddrPasses sa family cfgs rand pass left env ret errstr)
  | _, 0, _, ret, _, kept => by
    unfold setaddrPasses
    split
    · exact kept
    · exact kept
  | pass, left + 1, env, ret, errstr, kept => by
    have loop := setaddrPass_keeps checked family (rand pass) cfgs env ret errstr 0 kept
    unfold setaddrPasses
    split
    · rename_i env' assigned
      rw [assigned] at loop
      exact loop
    · rename_i msg fatal
      rw [fatal] at loop
      exact loop.elim
    · rename_i env' ret' errstr' next
      rw [next] at loop
      -- the requested addresses are dropped, which the index does not see
      exact setaddrPasses_keeps cfgs rand (pass + 1) left _ ret' errstr'
        (loop.trans (.of_same loop.inv rfl))

end Passes

theorem ikev2CpSetaddr_keeps (inv : IndexInv env) (checked : dstidChecked (env.dstid sa) = true)
    (cfgs : List IkedCfg) (family : Nat) (rand : Nat → Nat → UInt32) :
    ResultKeeps env (ikev2CpSetaddr env sa cfgs family rand) := by
  unfold ikev2CpSetaddr
  split
  · exact KeepsIndex.of_same inv rfl
  · split
    · exact KeepsIndex.of_same inv rfl
    · split
      · exact KeepsIndex.of_same inv rfl
      · split
        · exact KeepsIndex.of_same inv rfl
        · exact setaddrPasses_keeps checked family cfgs rand 0 _ env 0 none (.of_same inv rfl)

end Address

/-! ## The rekey transfer -/

section Rekey

variable {env : PoolEnv} {sa nsa : Nat}

/-- `ikev2_ikesa_enable` into a new SA outside the index: the copy gives it the old SA's key,
and the entry moves from the old SA to the new one, whose key no other member has. -/
theorem ikev2IkesaEnable_keeps (inv : IndexInv env) (differ : sa ≠ nsa) (liveNsa : nsa ∈ env.scSas)
    (fresh : (env.sas nsa).saDstidEntryValid = false) :
    ∃ env', ikev2IkesaEnable env sa nsa = .ok env' ∧ IndexInv env' ∧
      ∀ m ∈ env.scDstidSas, env'.dstid m = env.dstid m := by
  have notMember : nsa ∉ env.scDstidSas := fun member => by
    simp [(inv.index.valid_iff nsa).mp member] at fresh
  obtain ⟨copied, keys1⟩ := inv.setSa_keeps nsa (ikesaEnableIds (env.sas sa))
    (by simp) (.inl notMember) (by simpa [DstidEnv.dstid] using inv.peerIds sa)
  let env2 := transferAddresses (setSa env nsa (ikesaEnableIds (env.sas sa))) sa nsa
  have kept2 : KeepsIndex (setSa env nsa (ikesaEnableIds (env.sas sa))) env2 :=
    KeepsIndex.of_same copied (by simp [env2])
  have members2 : env2.scDstidSas = env.scDstidSas := by simp [env2]
  have sameSa : env2.sas sa = env.sas sa := by simp [env2, differ]
  have nsaKey : env2.dstid nsa = env.dstid sa := by simp [env2, DstidEnv.dstid]
  have keys2 : ∀ m ∈ env.scDstidSas, env2.dstid m = env.dstid m :=
    fun m member => (kept2.keys m).trans (keys1 m member)
  have unfolded : ikev2IkesaEnable env sa nsa =
      if (env2.sas sa).saDstidEntryValid then do
        let dstids ← saDstidRemove env2.toDstidEnv sa
        let (dstids, _) ← saDstidInsert dstids nsa
        pure { env2 with toDstidEnv := dstids }
      else pure env2 := rfl
  by_cases valid : (env.sas sa).saDstidEntryValid
  · -- the entry moves: the old SA leaves, then the new one goes in with the freed key
    have member : sa ∈ env.scDstidSas := (inv.index.valid_iff sa).mpr valid
    obtain ⟨d3, removed, index3, gone, shrunk, live3, keys3⟩ :=
      saDstidRemove_keeps kept2.inv.index (members2 ▸ member)
    have fresh3 : ∀ m ∈ d3.scDstidSas, (d3.dstid m).key ≠ (d3.dstid nsa).key := by
      intro m member3 same
      have before : m ∈ env.scDstidSas := members2 ▸ shrunk member3
      have notSa : m ≠ sa := fun eq => gone (eq ▸ member3)
      rw [keys3, keys3, nsaKey, keys2 m before] at same
      exact inv.index.key_ne before member notSa same
    obtain ⟨d4, inserted, index4, -, -, keys4⟩ := saDstidInsert_of_fresh index3
      (by rw [live3]; simpa [env2] using liveNsa)
      (by rw [keys3, nsaKey]; exact inv.index.checked sa member) fresh3
    refine ⟨{ env2 with toDstidEnv := d4 }, ?_, (KeepsIndex.of_index kept2.inv index4 ?_).inv,
      fun m member' => ?_⟩
    · rw [unfolded, if_pos (sameSa ▸ valid)]
      simp only [removed, inserted, bind, Except.bind]
      rfl
    · exact fun m => (keys4 m).trans (keys3 m)
    · exact ((keys4 m).trans (keys3 m)).trans (keys2 m member')
  · -- the old SA was not in the index: only the copy and the addresses
    refine ⟨env2, ?_, kept2.inv, keys2⟩
    rw [unfolded, if_neg (sameSa ▸ valid)]
    rfl

end Rekey

/-! ## Every event, every run -/

section Runs

variable {env : PoolEnv}

/-- From a state of the invariant every event succeeds, keeps the invariant, and leaves the
key of every member as it was. -/
theorem indexStep_keeps (inv : IndexInv env) (event : IndexEvent) :
    ∃ env', indexStep env event = .ok env' ∧ IndexInv env' ∧
      ∀ m ∈ env.scDstidSas, env'.dstid m = env.dstid m := by
  cases event with
  | saNew sa initiator =>
    by_cases live : sa ∈ env.scSas
    · exact ⟨env, by simp [indexStep, live, pure, Except.pure], inv, fun _ _ => rfl⟩
    · obtain ⟨inv', keys⟩ := configNewSa_keeps inv live initiator
      exact ⟨_, by simp [indexStep, live, pure, Except.pure], inv', keys⟩
  | peerId sa id =>
    by_cases gated : (env.sas sa).saDstidEntryValid ∨ sa ∉ env.scSas ∨ dstidChecked id = false
    · exact ⟨env, by simp only [indexStep, if_pos gated]; rfl, inv, fun _ _ => rfl⟩
    by_cases untyped : id.idType = 0
    · exact ⟨env, by simp only [indexStep, if_neg gated, if_pos untyped]; rfl, inv, fun _ _ => rfl⟩
    -- an SA outside the index takes a well-formed key
    have notMember : sa ∉ env.scDstidSas := fun member =>
      gated (.inl ((inv.index.valid_iff sa).mp member))
    have checked : dstidChecked id = true := by simpa using fun unchecked => gated (.inr (.inr unchecked))
    obtain ⟨inv', keys⟩ := inv.setSa_keeps sa (fun s => setDstid s id) (by simp)
      (.inl notMember) (by simp [checked])
    exact ⟨_, by simp only [indexStep, if_neg gated, if_neg untyped]; rfl, inv', keys⟩
  | localId sa id =>
    obtain ⟨inv', keys⟩ := inv.setSa_keeps sa (fun s => setLocalid s id) (by simp)
      (.inr (by simp)) (by simpa [DstidEnv.dstid] using inv.peerIds sa)
    exact ⟨_, rfl, inv', keys⟩
  | established sa =>
    by_cases gated : sa ∉ env.scSas ∨ (env.dstid sa).idType = 0
    · exact ⟨env, by simp only [indexStep, if_pos gated]; rfl, inv, fun _ _ => rfl⟩
    have live : sa ∈ env.scSas := by simpa using fun dead => gated (.inl dead)
    have typed : (env.dstid sa).idType ≠ 0 := fun untyped => gated (.inr untyped)
    obtain ⟨dstids, recorded, kept⟩ := ikev2RecordDstid_step inv live typed
    refine ⟨_, ?_, kept.inv, fun m _ => kept.keys m⟩
    simp only [indexStep, if_neg gated, recorded, bind, Except.bind]
    rfl
  | cpSetaddr sa cfgs family rand =>
    by_cases gated : sa ∉ env.scSas ∨ (env.dstid sa).idType = 0
    · exact ⟨env, by simp only [indexStep, if_pos gated]; rfl, inv, fun _ _ => rfl⟩
    have typed : (env.dstid sa).idType ≠ 0 := fun untyped => gated (.inr untyped)
    have result := ikev2CpSetaddr_keeps inv (inv.peerIds sa typed) cfgs family rand
    simp only [indexStep, if_neg gated]
    revert result
    cases ikev2CpSetaddr env sa cfgs family rand with
    | ok env' => exact fun kept => ⟨env', rfl, kept.inv, fun m _ => kept.keys m⟩
    | failed env' _ => exact fun kept => ⟨env', rfl, kept.inv, fun m _ => kept.keys m⟩
    | fatal _ => exact fun never => never.elim
  | ikesaEnable sa nsa =>
    by_cases gated : sa = nsa ∨ sa ∉ env.scSas ∨ nsa ∉ env.scSas ∨
        (env.sas nsa).saDstidEntryValid
    · exact ⟨env, by simp only [indexStep, if_pos gated]; rfl, inv, fun _ _ => rfl⟩
    simp only [not_or, not_not, Bool.not_eq_true] at gated
    obtain ⟨differ, liveSa, liveNsa, fresh⟩ := gated
    obtain ⟨env', enabled, inv', keys⟩ := ikev2IkesaEnable_keeps inv differ liveNsa fresh
    refine ⟨env', ?_, inv', keys⟩
    simpa [indexStep, differ, liveSa, liveNsa, fresh] using enabled
  | saFree sa nexti nextr =>
    obtain ⟨env', freed, kept⟩ := saFree_keeps inv sa nexti nextr
    exact ⟨env', freed, kept.inv, fun m _ => kept.keys m⟩
  | reset =>
    obtain ⟨env', flushed, kept⟩ := configDoreset_keeps inv
    exact ⟨env', flushed, kept.inv, fun m _ => kept.keys m⟩

/-- Over every run of the daemon's index events from startup, the index stays consistent:
its members are exactly the established SAs, each in `sc_sas` with a well-formed ID, no two
with one key; and from every state reached, the next event reaches no `fatalx` of the index
and changes the key of no member. -/
theorem dstid_index_consistent_on_every_run (sticky : Bool) (events : List IndexEvent) :
    ∃ env, events.foldlM indexStep (startEnv sticky) = .ok env ∧ DstidInv env.toDstidEnv ∧
      ∀ event, ∃ env', indexStep env event = .ok env' ∧
        ∀ m ∈ env.scDstidSas, env'.dstid m = env.dstid m := by
  obtain ⟨env, ran, inv⟩ := foldlM_ok_of_keeps indexStep IndexInv
    (fun _ event inv => (indexStep_keeps inv event).imp fun _ stepped => ⟨stepped.1, stepped.2.1⟩)
    events (startEnv_inv sticky)
  exact ⟨env, ran, inv.index, fun event =>
    (indexStep_keeps inv event).imp fun _ stepped => ⟨stepped.1, stepped.2.2⟩⟩

end Runs

end OpenIKED.Ikev2.DstidIndex
