import OpenIKED.Shared.Memcmp
import Mathlib.Data.Prod.Lex
import Mathlib.Data.List.Pairwise

set_option autoImplicit false

/-!
# The destination-ID index

`sc_dstid_sas` holds the established IKE SAs keyed by the peer's ID, `IKESA_DSTID`: `sa_rid`
for an initiator and `sa_iid` for a responder.  `sa_dstid_lookup`, `sa_dstid_insert` and
`sa_dstid_remove` call `fatalx` on a key without ID bytes, on an entry whose
`sa_dstid_entry_valid` disagrees with its membership, and `sa_dstid_cmp` on a member without
ID bytes; the model returns the message as an error.

`sa_dstid_cmp` orders well-formed IDs by type (larger first), body length (longer first) and
bytes: it is the order of `dstidRank` (`saDstidCmp_neg_iff`).  Over a state where the members
are the valid SAs, all with well-formed IDs and no two with one key (`DstidInv`), each tree
call succeeds on an SA with a well-formed ID and keeps the invariant.
-/

namespace OpenIKED.Policy.Dstid

open OpenIKED.Shared

structure IkedId where
  idType : UInt8
  idOffset : Nat
  -- `none` for a missing buffer or one without data
  idBuf : Option (List UInt8)
deriving DecidableEq, Repr

/-- `sa_dstid_checked`: the ID has bytes past its header. -/
def dstidChecked (id : IkedId) : Bool :=
  match id.idBuf with
  | none => false
  | some buf => decide (id.idOffset < buf.length)

-- The bytes after the header, which `sa_dstid_cmp` compares.
def IkedId.body (id : IkedId) : List UInt8 := (id.idBuf.getD []).drop id.idOffset

-- What `sa_dstid_cmp` tells apart: the type and the body.
def IkedId.key (id : IkedId) : UInt8 × List UInt8 := (id.idType, id.body)

def saDstidCmp (a b : IkedId) : Except String Int :=
  if !(dstidChecked a && dstidChecked b) then .error "corrupt IDs"
  else if a.idType > b.idType then .ok (-1)
  else if a.idType < b.idType then .ok 1
  else
    -- `corrupt ID bufs` and `corrupt ID lens` test again what `sa_dstid_checked` did
    let alen := a.body.length
    let blen := b.body.length
    if alen > blen then .ok (-1)
    else if alen < blen then .ok 1
    else .ok (memcmp a.body b.body alen)

-- The fields of `struct iked_sa` that the index reads and writes.
structure DstidSa where
  saInitiator : Bool
  saIid : IkedId
  saRid : IkedId
  saDstidEntryValid : Bool
deriving DecidableEq, Repr

def ikesaDstid (sa : DstidSa) : IkedId := if sa.saInitiator then sa.saRid else sa.saIid

-- The SA each pointer names, the SAs of `sc_sas` and the members of `sc_dstid_sas`.
structure DstidEnv where
  sas : Nat → DstidSa
  scSas : List Nat
  scDstidSas : List Nat

def DstidEnv.dstid (env : DstidEnv) (sa : Nat) : IkedId := ikesaDstid (env.sas sa)

def DstidEnv.setValid (env : DstidEnv) (sa : Nat) (valid : Bool) : DstidEnv :=
  { env with sas := Function.update env.sas sa { env.sas sa with saDstidEntryValid := valid } }

/-- `RB_FIND` over the members: `sa_dstid_cmp(key, member)` until one compares equal.  The
tree compares the key with the members of one path; the model tries them in order. -/
def dstidFind (env : DstidEnv) (key : IkedId) : List Nat → Except String (Option Nat)
  | [] => .ok none
  | m :: rest => do
    let c ← saDstidCmp key (env.dstid m)
    if c = 0 then pure (some m) else dstidFind env key rest

def saDstidLookup (env : DstidEnv) (key : Nat) : Except String (Option Nat) :=
  if !dstidChecked (env.dstid key) then .error "sa_dstid_lookup: no id for key"
  else do
    match ← dstidFind env (env.dstid key) env.scDstidSas with
    | some sa =>
      if !(env.sas sa).saDstidEntryValid then .error "sa_dstid_lookup: sa not estab"
      else pure (some sa)
    | none => pure none

/-- `sa_dstid_insert`: `none` when the SA went in, the member with its key otherwise. -/
def saDstidInsert (env : DstidEnv) (sa : Nat) : Except String (DstidEnv × Option Nat) :=
  if (env.sas sa).saDstidEntryValid then .error "sa_dstid_insert: sa is estab"
  else if !dstidChecked (env.dstid sa) then .error "sa_dstid_insert: no id for sa"
  else do
    match ← dstidFind env (env.dstid sa) env.scDstidSas with
    | none =>
      -- `RB_INSERT` meets no equal member either, so its duplicate branch is dead
      pure ({ env.setValid sa true with scDstidSas := sa :: env.scDstidSas }, none)
    | some osa =>
      if !(env.sas osa).saDstidEntryValid then .error "sa_dstid_insert: osa not estab"
      else pure (env, some osa)

-- `RB_REMOVE` unlinks the node itself and compares nothing.
def saDstidRemove (env : DstidEnv) (sa : Nat) : Except String DstidEnv :=
  if !(env.sas sa).saDstidEntryValid then .error "sa_dstid_remove: sa is not estab"
  else if !dstidChecked (env.dstid sa) then .error "sa_dstid_remove: no id for sa"
  else pure { env.setValid sa false with scDstidSas := env.scDstidSas.erase sa }

/-- `ikev2_record_dstid` at establishment: the SA takes the place of an older one with its
key.  Under `sc_enforcesingleikesa` the older SA is also deleted, which the index does not
see. -/
def ikev2RecordDstid (env : DstidEnv) (sa : Nat) : Except String (DstidEnv × Int) := do
  let osa ← saDstidLookup env sa
  if osa = some sa then return (env, 0)
  let env ← match osa with
    | some osa => saDstidRemove env osa
    | none => pure env
  let (env, osa) ← saDstidInsert env sa
  -- "could not replace old IKESA"
  return (env, if osa.isSome then -1 else 0)

/-! ## `sa_dstid_cmp` is an order -/

section Cmp

variable {a b : IkedId}

theorem saDstidCmp_of_checked (checkedA : dstidChecked a = true)
    (checkedB : dstidChecked b = true) :
    saDstidCmp a b =
      .ok (if a.idType > b.idType then -1 else if a.idType < b.idType then 1
        else if a.body.length > b.body.length then -1
        else if a.body.length < b.body.length then 1
        else memcmp a.body b.body a.body.length) := by
  unfold saDstidCmp
  simp only [checkedA, checkedB, Bool.and_self, Bool.not_true, Bool.false_eq_true, if_false]
  split
  · rfl
  · split
    · rfl
    · split
      · rfl
      · split
        · rfl
        · rfl

-- The key of the order, each part in the direction `sa_dstid_cmp` sorts it.
def dstidRank (id : IkedId) : Lex (ℕᵒᵈ × Lex (ℕᵒᵈ × List ℕ)) :=
  toLex (OrderDual.toDual id.idType.toNat,
    toLex (OrderDual.toDual id.body.length, byteValues id.body))

/-- On well-formed IDs a negative `sa_dstid_cmp` is the order of `dstidRank`: type, then
length, both larger first, then the bytes. -/
theorem saDstidCmp_neg_iff (checkedA : dstidChecked a = true)
    (checkedB : dstidChecked b = true) {c : Int} (cmp : saDstidCmp a b = .ok c) :
    c < 0 ↔ dstidRank a < dstidRank b := by
  rw [saDstidCmp_of_checked checkedA checkedB, Except.ok.injEq] at cmp
  subst cmp
  simp only [dstidRank, Prod.Lex.toLex_lt_toLex, OrderDual.toDual_lt_toDual,
    UInt8.lt_iff_toNat_lt, gt_iff_lt]
  by_cases typeBelow : b.idType.toNat < a.idType.toNat
  · simp [typeBelow]
  by_cases typeAbove : a.idType.toNat < b.idType.toNat
  · simp [typeAbove]
    omega
  have sameType : a.idType.toNat = b.idType.toNat := by omega
  simp only [sameType, if_false, lt_self_iff_false, true_and, false_or]
  by_cases longer : b.body.length < a.body.length
  · simp [longer]
  by_cases shorter : a.body.length < b.body.length
  · simp [shorter]
    omega
  have sameLength : a.body.length = b.body.length := by omega
  simp only [sameLength, if_false, lt_self_iff_false, false_or, true_and]
  rw [← sameLength]
  exact memcmp_neg_iff sameLength

-- Two FQDN IDs of one length, `a` and `b`.
def fqdnA : IkedId := ⟨2, 4, some [2, 0, 0, 0, 0x61]⟩
def fqdnB : IkedId := ⟨2, 4, some [2, 0, 0, 0, 0x62]⟩

theorem saDstidCmp_neg_iff_fqdn :
    dstidChecked fqdnA = true ∧ dstidChecked fqdnB = true ∧ saDstidCmp fqdnA fqdnB = .ok (-1) ∧
      ((-1 : Int) < 0 ↔ dstidRank fqdnA < dstidRank fqdnB) :=
  ⟨rfl, rfl, rfl, saDstidCmp_neg_iff rfl rfl rfl⟩

/-- A comparison that does not call `fatalx` has met two well-formed IDs. -/
theorem saDstidCmp_checked {c : Int} (cmp : saDstidCmp a b = .ok c) :
    dstidChecked a = true ∧ dstidChecked b = true := by
  unfold saDstidCmp at cmp
  split at cmp
  · cases cmp
  · rename_i both
    simpa using both

/-- On well-formed IDs `sa_dstid_cmp` answers 0 exactly on one key. -/
theorem saDstidCmp_eq_zero_iff (checkedA : dstidChecked a = true)
    (checkedB : dstidChecked b = true) : saDstidCmp a b = .ok 0 ↔ a.key = b.key := by
  rw [saDstidCmp_of_checked checkedA checkedB, Except.ok.injEq]
  simp only [IkedId.key, Prod.mk.injEq, gt_iff_lt, UInt8.lt_iff_toNat_lt]
  by_cases sameType : a.idType = b.idType
  · by_cases sameLength : a.body.length = b.body.length
    · simp only [sameType, sameLength, lt_self_iff_false, if_false, true_and]
      rw [← sameLength]
      exact memcmp_eq_zero_iff sameLength
    · have differ : a.body ≠ b.body := fun same => sameLength (congrArg List.length same)
      simp only [sameType, lt_self_iff_false, if_false, differ, and_false, iff_false]
      split
      · omega
      · split <;> omega
  · have : a.idType.toNat ≠ b.idType.toNat := fun same => sameType (UInt8.toNat_inj.mp same)
    simp only [sameType, false_and, iff_false]
    split
    · omega
    · split <;> omega

end Cmp

/-! ## The tree calls on a consistent index -/

/-- The index is consistent: its members are exactly the SAs marked valid, each one is in
`sc_sas` with a well-formed ID, and no two share a key. -/
structure DstidInv (env : DstidEnv) : Prop where
  valid_iff : ∀ sa, sa ∈ env.scDstidSas ↔ (env.sas sa).saDstidEntryValid = true
  mem_sas : ∀ sa ∈ env.scDstidSas, sa ∈ env.scSas
  checked : ∀ sa ∈ env.scDstidSas, dstidChecked (env.dstid sa) = true
  apart : env.scDstidSas.Pairwise fun a b => (env.dstid a).key ≠ (env.dstid b).key

section Calls

variable {env : DstidEnv}

@[simp] theorem DstidEnv.setValid_sas_self (env : DstidEnv) (sa : Nat) (valid : Bool) :
    (env.setValid sa valid).sas sa = { env.sas sa with saDstidEntryValid := valid } := by
  simp [DstidEnv.setValid]

@[simp] theorem DstidEnv.setValid_sas_of_ne (env : DstidEnv) {sa other : Nat} (valid : Bool)
    (differ : other ≠ sa) : (env.setValid sa valid).sas other = env.sas other := by
  simp [DstidEnv.setValid, differ]

-- The flag is not part of the key.
@[simp] theorem DstidEnv.dstid_with_members (env : DstidEnv) (members : List Nat) (sa : Nat) :
    ({ env with scDstidSas := members } : DstidEnv).dstid sa = env.dstid sa := rfl

@[simp] theorem DstidEnv.setValid_dstid (env : DstidEnv) (sa other : Nat) (valid : Bool) :
    (env.setValid sa valid).dstid other = env.dstid other := by
  by_cases same : other = sa
  · subst same
    simp [DstidEnv.dstid, ikesaDstid]
  · simp [DstidEnv.dstid, same]

/-- With a well-formed key and well-formed members, `RB_FIND` succeeds and finds the first
member with the key. -/
theorem dstidFind_eq {key : IkedId} (keyChecked : dstidChecked key = true) :
    ∀ members : List Nat, (∀ m ∈ members, dstidChecked (env.dstid m) = true) →
      dstidFind env key members = .ok (members.find? fun m => (env.dstid m).key == key.key)
  | [], _ => rfl
  | m :: rest, checked => by
    have head := saDstidCmp_eq_zero_iff keyChecked (checked m (by simp))
    obtain ⟨c, cmp⟩ : ∃ c, saDstidCmp key (env.dstid m) = .ok c :=
      ⟨_, saDstidCmp_of_checked keyChecked (checked m (by simp))⟩
    have tail := dstidFind_eq keyChecked rest fun m' member => checked m' (by simp [member])
    simp only [dstidFind, cmp, List.find?_cons, bind, Except.bind]
    by_cases zero : c = 0
    · subst zero
      have same := head.mp cmp
      simp [same]
      rfl
    · have differ : (env.dstid m).key ≠ key.key := fun same => zero (by
        rw [head.mpr same.symm] at cmp
        exact (Except.ok.inj cmp).symm)
      have skipped : ((env.dstid m).key == key.key) = false := by simpa using differ
      simp [zero, skipped, tail]

theorem dstidFind_some_checked {key : IkedId} :
    ∀ {members : List Nat} {m : Nat}, dstidFind env key members = .ok (some m) →
      dstidChecked (env.dstid m) = true
  | [], _, found => by cases found
  | head :: rest, m, found => by
    simp only [dstidFind, bind, Except.bind] at found
    split at found
    · cases found
    · rename_i c cmp
      split at found
      · cases found
        exact (saDstidCmp_checked cmp).2
      · exact dstidFind_some_checked found

/-- What a lookup finds is a valid member with a well-formed ID, whatever the index holds. -/
theorem saDstidLookup_some {key osa : Nat} (found : saDstidLookup env key = .ok (some osa)) :
    (env.sas osa).saDstidEntryValid = true ∧ dstidChecked (env.dstid osa) = true := by
  unfold saDstidLookup at found
  split at found
  · cases found
  · simp only [bind, Except.bind] at found
    split at found
    · cases found
    · rename_i result inTree
      split at found
      · split at found
        · cases found
        · cases found
          rename_i notValid
          exact ⟨by simpa using notValid, dstidFind_some_checked inTree⟩
      · cases found

/-- A valid SA with a well-formed ID leaves the index. -/
theorem saDstidRemove_eq {sa : Nat} (valid : (env.sas sa).saDstidEntryValid = true)
    (checked : dstidChecked (env.dstid sa) = true) :
    saDstidRemove env sa = .ok { env.setValid sa false with scDstidSas := env.scDstidSas.erase sa } := by
  simp [saDstidRemove, valid, checked]
  rfl

/-- On a consistent index a lookup of a well-formed key succeeds, and finds the member with
its key. -/
theorem saDstidLookup_eq (inv : DstidInv env) {key : Nat}
    (keyChecked : dstidChecked (env.dstid key) = true) :
    saDstidLookup env key =
      .ok (env.scDstidSas.find? fun m => (env.dstid m).key == (env.dstid key).key) := by
  unfold saDstidLookup
  simp only [keyChecked, Bool.not_true, Bool.false_eq_true, if_false,
    dstidFind_eq keyChecked env.scDstidSas inv.checked]
  cases found : env.scDstidSas.find? fun m => (env.dstid m).key == (env.dstid key).key with
  | none => rfl
  | some sa =>
    have valid := (inv.valid_iff sa).mp (List.mem_of_find?_eq_some found)
    simp [bind, Except.bind, valid]
    rfl

/-! ## The index calls keep the invariant -/

theorem DstidInv.nodup (inv : DstidInv env) : env.scDstidSas.Nodup :=
  inv.apart.imp fun differ same => differ (by rw [same])

-- Two members have two keys.
theorem DstidInv.key_ne (inv : DstidInv env) {a b : Nat} (memberA : a ∈ env.scDstidSas)
    (memberB : b ∈ env.scDstidSas) (differ : a ≠ b) : (env.dstid a).key ≠ (env.dstid b).key := by
  have : Std.Symm fun a b => (env.dstid a).key ≠ (env.dstid b).key := ⟨fun _ _ apart => apart.symm⟩
  exact inv.apart.forall memberA memberB differ

/-- The invariant reads the members, the flags, the members' keys and `sc_sas`: a state
that agrees on them keeps it. -/
theorem DstidInv.of_agree {env' : DstidEnv} (inv : DstidInv env)
    (members : env'.scDstidSas = env.scDstidSas)
    (flags : ∀ sa, (env'.sas sa).saDstidEntryValid = (env.sas sa).saDstidEntryValid)
    (keys : ∀ m ∈ env.scDstidSas, env'.dstid m = env.dstid m)
    (live : ∀ m ∈ env.scDstidSas, m ∈ env'.scSas) : DstidInv env' where
  valid_iff sa := by
    rw [members, flags]
    exact inv.valid_iff sa
  mem_sas m member := live m (members ▸ member)
  checked m member := by
    rw [members] at member
    rw [keys m member]
    exact inv.checked m member
  apart := by
    rw [members]
    exact inv.apart.imp_of_mem fun memberA memberB apart => by
      rwa [keys _ memberA, keys _ memberB]

/-- `sa_dstid_remove` of a member succeeds, keeps the invariant, and changes only the
member's flag and membership. -/
theorem saDstidRemove_keeps (inv : DstidInv env) {sa : Nat} (member : sa ∈ env.scDstidSas) :
    ∃ env', saDstidRemove env sa = .ok env' ∧ DstidInv env' ∧ sa ∉ env'.scDstidSas ∧
      env'.scDstidSas ⊆ env.scDstidSas ∧ env'.scSas = env.scSas ∧
      ∀ m, env'.dstid m = env.dstid m := by
  have valid := (inv.valid_iff sa).mp member
  have gone : sa ∉ env.scDstidSas.erase sa := inv.nodup.not_mem_erase
  have kept : ∀ m, m ≠ sa → (m ∈ env.scDstidSas.erase sa ↔ m ∈ env.scDstidSas) :=
    fun m differ => List.mem_erase_of_ne differ
  refine ⟨_, saDstidRemove_eq valid (inv.checked sa member), ⟨?_, ?_, ?_, ?_⟩, gone,
    fun m inErased => List.mem_of_mem_erase inErased, rfl, fun m => by simp⟩
  · intro m
    by_cases same : m = sa
    · subst same
      simp [gone]
    · simp only [kept m same, DstidEnv.setValid_sas_of_ne _ _ same]
      exact inv.valid_iff m
  · exact fun m inErased => inv.mem_sas m (List.mem_of_mem_erase inErased)
  · intro m inErased
    simp only [DstidEnv.dstid_with_members, DstidEnv.setValid_dstid]
    exact inv.checked m (List.mem_of_mem_erase inErased)
  · simp only [DstidEnv.dstid_with_members, DstidEnv.setValid_dstid]
    exact inv.apart.sublist List.erase_sublist

/-- `sa_dstid_insert` of a live SA with a well-formed ID that no member shares puts it in. -/
theorem saDstidInsert_of_fresh (inv : DstidInv env) {sa : Nat} (live : sa ∈ env.scSas)
    (checked : dstidChecked (env.dstid sa) = true)
    (fresh : ∀ m ∈ env.scDstidSas, (env.dstid m).key ≠ (env.dstid sa).key) :
    ∃ env', saDstidInsert env sa = .ok (env', none) ∧ DstidInv env' ∧ sa ∈ env'.scDstidSas ∧
      env'.scSas = env.scSas ∧ ∀ m, env'.dstid m = env.dstid m := by
  have notMember : sa ∉ env.scDstidSas := fun member => fresh sa member rfl
  have notValid : (env.sas sa).saDstidEntryValid = false := by
    simpa [inv.valid_iff sa] using notMember
  have missing : (env.scDstidSas.find? fun m => (env.dstid m).key == (env.dstid sa).key) = none :=
    List.find?_eq_none.mpr fun m member => by simpa using fresh m member
  have inserted : saDstidInsert env sa =
      .ok ({ env.setValid sa true with scDstidSas := sa :: env.scDstidSas }, none) := by
    simp only [saDstidInsert, notValid, checked, Bool.false_eq_true, Bool.not_true, if_false,
      dstidFind_eq checked env.scDstidSas inv.checked, missing]
    rfl
  refine ⟨_, inserted, ⟨?_, ?_, ?_, ?_⟩, List.mem_cons_self, rfl, fun m => by simp⟩
  · intro m
    by_cases same : m = sa
    · subst same
      simp
    · simp only [List.mem_cons, same, false_or, DstidEnv.setValid_sas_of_ne _ _ same]
      exact inv.valid_iff m
  · intro m member
    rcases List.mem_cons.mp member with rfl | older
    · exact live
    · exact inv.mem_sas m older
  · intro m member
    simp only [DstidEnv.dstid_with_members, DstidEnv.setValid_dstid]
    rcases List.mem_cons.mp member with rfl | older
    · exact checked
    · exact inv.checked m older
  · simp only [DstidEnv.dstid_with_members, DstidEnv.setValid_dstid]
    exact List.pairwise_cons.mpr ⟨fun m member same => fresh m member same.symm, inv.apart⟩

/-- `ikev2_record_dstid` of a live SA with a well-formed ID succeeds on a consistent index:
the SA ends up a member, and "could not replace old IKESA" is never taken. -/
theorem ikev2RecordDstid_keeps (inv : DstidInv env) {sa : Nat} (live : sa ∈ env.scSas)
    (checked : dstidChecked (env.dstid sa) = true) :
    ∃ env', ikev2RecordDstid env sa = .ok (env', 0) ∧ DstidInv env' ∧ sa ∈ env'.scDstidSas ∧
      env'.scSas = env.scSas ∧ ∀ m, env'.dstid m = env.dstid m := by
  have looked := saDstidLookup_eq inv checked
  cases found : env.scDstidSas.find? fun m => (env.dstid m).key == (env.dstid sa).key with
  | none =>
    -- no member has the key: the SA goes in
    have fresh : ∀ m ∈ env.scDstidSas, (env.dstid m).key ≠ (env.dstid sa).key :=
      fun m member same => by simpa [same] using List.find?_eq_none.mp found m member
    obtain ⟨env', inserted, inv', member', live', keys⟩ :=
      saDstidInsert_of_fresh inv live checked fresh
    refine ⟨env', ?_, inv', member', live', keys⟩
    simp [ikev2RecordDstid, looked, found, inserted, bind, Except.bind, pure, Except.pure]
  | some osa =>
    have member : osa ∈ env.scDstidSas := List.mem_of_find?_eq_some found
    have sameKey : (env.dstid osa).key = (env.dstid sa).key := by
      simpa using List.find?_some found
    by_cases itself : osa = sa
    · -- the SA is the member already
      subst itself
      refine ⟨env, ?_, inv, member, rfl, fun m => rfl⟩
      simp [ikev2RecordDstid, looked, found, bind, Except.bind, pure, Except.pure]
    · -- the older SA with the key leaves, so the key is free for the SA
      obtain ⟨env1, removed, inv1, gone, shrunk, live1, keys1⟩ := saDstidRemove_keeps inv member
      have fresh : ∀ m ∈ env1.scDstidSas, (env1.dstid m).key ≠ (env1.dstid sa).key := by
        intro m member1 same
        rw [keys1, keys1, ← sameKey] at same
        have differ : m ≠ osa := fun eq => gone (eq ▸ member1)
        exact inv.key_ne (shrunk member1) member differ same
      obtain ⟨env', inserted, inv', member', live', keys'⟩ :=
        saDstidInsert_of_fresh inv1 (live1 ▸ live) (keys1 sa ▸ checked) fresh
      refine ⟨env', ?_, inv', member', live'.trans live1, fun m => (keys' m).trans (keys1 m)⟩
      simp [ikev2RecordDstid, looked, found, itself, removed, inserted, bind, Except.bind, pure,
        Except.pure]

end Calls

end OpenIKED.Policy.Dstid
