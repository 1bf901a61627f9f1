import OpenIKED.Ikev2.SaKeys

set_option autoImplicit false

/-!
# The child SAs of an IKE SA and their deletion by SPI

`sa_childsas` holds both records of every pair `ikev2_childsa_negotiate` creates: the
outbound one carries the SPI the peer chose, the inbound one the SPI this side chose, the
two are linked by `csa_peersa`, and each may carry an IPCOMP SA in `csa_bundled`.
`childsa_lookup` finds a record by its own SPI; `ikev2_childsa_delete` removes every record
whose own or peer SPI is the given one; `ikev2_handle_delete` runs the two for each SPI of a
received Delete payload.  The records left by a deletion are exactly those its loop skips
(`ikev2ChildsaDelete_unlinked`); since the test is on a bare SPI, a Delete that names the
SPI this side chose for a pair removes that pair too
(`ikev2HandleDelete_removes_pair_of_inbound_spi`).
-/

namespace OpenIKED.Ikev2.ChildSas

open OpenIKED.Ikev2.SaKeys (IkedChildsa ChildsaPair ikev2SaprotoIke XfTables Getspi IkedProposal
  IkedTransform CreateState csaOf createChildsa createChildsa_cases)

/-- A record of `sa_childsas`: its address, the address its `csa_peersa` points to, and the
IPCOMP SA its `csa_bundled` points to, which is not in the list. -/
structure ChildsaEntry where
  csaId : Nat
  csa : IkedChildsa
  csaPeersa : Option Nat
  csaBundled : Option IkedChildsa
deriving DecidableEq, Repr

/-- A record apart from its `csa_peersa` link, the one field `childsa_free` changes in the
records it leaves. -/
def ChildsaEntry.unlinked (e : ChildsaEntry) : ChildsaEntry := { e with csaPeersa := none }

@[simp] theorem ChildsaEntry.unlinked_csaId (e : ChildsaEntry) : e.unlinked.csaId = e.csaId := rfl

@[simp] theorem ChildsaEntry.unlinked_csa (e : ChildsaEntry) : e.unlinked.csa = e.csa := rfl

/-- What creating and deleting child SAs touches: `sa_childsas`, whose records live at
distinct addresses, the addresses in `sc_activesas`, and the SAs the kernel was asked to
delete, in order. -/
structure ChildsaState where
  saChildsas : List ChildsaEntry
  scActivesas : List Nat
  kernelDeleted : List IkedChildsa
  distinct : (saChildsas.map ChildsaEntry.csaId).Nodup

/-- `childsa_lookup`: the first record with the SPI and the protocol; none for a zero SPI or
protocol. -/
def childsaLookup (childsas : List ChildsaEntry) (spi : UInt64) (protoid : UInt8) :
    Option ChildsaEntry :=
  if spi = 0 ∨ protoid = 0 then none
  else childsas.find? fun e => e.csa.csaSpi.spiProtoid == protoid && e.csa.csaSpi.spi == spi

/-! ## Inserting the pairs of `ikev2_childsa_negotiate` -/

-- A fresh address, past every record of the list.
def nextId (childsas : List ChildsaEntry) : Nat :=
  (childsas.map ChildsaEntry.csaId).foldr max 0 + 1

theorem lt_nextId {childsas : List ChildsaEntry} {e : ChildsaEntry} (mem : e ∈ childsas) :
    e.csaId < nextId childsas := by
  induction childsas with
  | nil => cases mem
  | cons f rest ih =>
    simp only [nextId, List.map_cons, List.foldr_cons] at ih ⊢
    rcases List.mem_cons.mp mem with rfl | later
    · omega
    · have := ih later
      omega

/-- The two records of a pair at addresses `id` and `id + 1` as `TAILQ_INSERT_TAIL` puts
them, linked to each other by `csa_peersa` and each to its IPCOMP SA. -/
def pairEntries (id : Nat) (pair : ChildsaPair) : List ChildsaEntry :=
  [⟨id, pair.csa, some (id + 1), pair.ipcomp.map Prod.fst⟩,
    ⟨id + 1, pair.csb, some id, pair.ipcomp.map Prod.snd⟩]

theorem nodup_insertPair (childsas : List ChildsaEntry)
    (distinct : (childsas.map ChildsaEntry.csaId).Nodup) (pair : ChildsaPair) :
    ((childsas ++ pairEntries (nextId childsas) pair).map ChildsaEntry.csaId).Nodup := by
  have fresh : ∀ e ∈ childsas, e.csaId < nextId childsas := fun _ mem => lt_nextId mem
  simp only [List.map_append, pairEntries, List.map_cons, List.map_nil]
  refine List.nodup_append.mpr ⟨distinct, by simp, ?_⟩
  intro a ha b hb
  obtain ⟨e, mem, rfl⟩ := List.mem_map.mp ha
  have := fresh e mem
  simp only [List.mem_cons, List.not_mem_nil, or_false] at hb
  omega

def ChildsaState.empty : ChildsaState := ⟨[], [], [], List.nodup_nil⟩

/-- The end of the last loop of `ikev2_childsa_negotiate` for one pair. -/
def ChildsaState.insertPair (st : ChildsaState) (pair : ChildsaPair) : ChildsaState where
  saChildsas := st.saChildsas ++ pairEntries (nextId st.saChildsas) pair
  scActivesas := st.scActivesas
  kernelDeleted := st.kernelDeleted
  distinct := nodup_insertPair st.saChildsas st.distinct pair

/-- The pairs inserted go after the records already there. -/
theorem foldl_insertPair_saChildsas (created : List ChildsaPair) (st : ChildsaState) :
    ∃ more, (created.foldl ChildsaState.insertPair st).saChildsas = st.saChildsas ++ more := by
  induction created generalizing st with
  | nil => exact ⟨[], by simp⟩
  | cons pair rest ih =>
    obtain ⟨more, after⟩ := ih (st.insertPair pair)
    exact ⟨_, by rw [List.foldl_cons, after, ChildsaState.insertPair, List.append_assoc]⟩

theorem childsaLookup_some {childsas : List ChildsaEntry} {spi : UInt64} {protoid : UInt8}
    {e : ChildsaEntry} (found : childsaLookup childsas spi protoid = some e) :
    e ∈ childsas ∧ e.csa.csaSpi.spi = spi ∧ e.csa.csaSpi.spiProtoid = protoid := by
  unfold childsaLookup at found
  split at found
  · cases found
  · have hit := List.find?_some found
    simp only [Bool.and_eq_true, beq_iff_eq] at hit
    exact ⟨List.mem_of_find?_eq_some found, hit.2, hit.1⟩

/-- Records added at the end do not hide a record the lookup finds. -/
theorem childsaLookup_append {childsas : List ChildsaEntry} {spi : UInt64} {protoid : UInt8}
    {e : ChildsaEntry} (found : childsaLookup childsas spi protoid = some e) (more : List ChildsaEntry) :
    childsaLookup (childsas ++ more) spi protoid = some e := by
  unfold childsaLookup at found ⊢
  split at found
  · cases found
  · rename_i nonzero
    rw [if_neg nonzero, List.find?_append, found]
    rfl

/-! ## `ikev2_childsa_delete` -/

/-- The `continue` of the loop of `ikev2_childsa_delete`: another protocol, neither SPI equal
to `spi`, or a loaded SA under `cleanup`; a zero `saproto` or `spi` matches every record. -/
def deleteSkips (saproto : UInt8) (spi : UInt64) (cleanup : Bool) (csa : IkedChildsa) : Bool :=
  (saproto != 0 && csa.csaSaproto != saproto) ||
    (spi != 0 && (csa.csaSpi.spi != spi && csa.csaPeerspi != spi)) ||
    (cleanup && csa.csaLoaded)

/-- `pfkey_sa_delete`: the kernel is asked only for a loaded SA with an SPI. -/
def pfkeySaDelete (csa : IkedChildsa) : List IkedChildsa :=
  if csa.csaLoaded && csa.csaSpi.spi != 0 then [csa] else []

/-- `TAILQ_REMOVE` and `childsa_free`: the record at `id` leaves the list, and the record its
`csa_peersa` points to loses its link. -/
def childsaRemove (childsas : List ChildsaEntry) (id : Nat) : List ChildsaEntry :=
  let peersa := (childsas.find? (·.csaId == id)).bind ChildsaEntry.csaPeersa
  (childsas.filter (·.csaId != id)).map fun f =>
    if peersa = some f.csaId then { f with csaPeersa := none } else f

theorem childsaRemove_unlinked (childsas : List ChildsaEntry) (id : Nat) :
    (childsaRemove childsas id).map ChildsaEntry.unlinked =
      (childsas.filter (·.csaId != id)).map ChildsaEntry.unlinked := by
  simp only [childsaRemove, List.map_map]
  apply List.map_congr_left
  intro f _
  simp only [Function.comp_apply]
  split <;> rfl

theorem map_csaId_unlinked (childsas : List ChildsaEntry) :
    (childsas.map ChildsaEntry.unlinked).map ChildsaEntry.csaId = childsas.map ChildsaEntry.csaId := by
  simp [List.map_map, Function.comp_def]

theorem nodup_childsaRemove {childsas : List ChildsaEntry}
    (distinct : (childsas.map ChildsaEntry.csaId).Nodup) (id : Nat) :
    ((childsaRemove childsas id).map ChildsaEntry.csaId).Nodup := by
  rw [← map_csaId_unlinked, childsaRemove_unlinked, map_csaId_unlinked]
  exact distinct.sublist (List.filter_sublist.map _)

/-- One deleted record: out of the list and of `sc_activesas` if loaded, and handed to the
kernel with its IPCOMP SA if that one is loaded. -/
def ChildsaState.removeEntry (st : ChildsaState) (e : ChildsaEntry) : ChildsaState where
  saChildsas := childsaRemove st.saChildsas e.csaId
  scActivesas := if e.csa.csaLoaded then st.scActivesas.erase e.csaId else st.scActivesas
  kernelDeleted := st.kernelDeleted ++ pfkeySaDelete e.csa ++
    ((e.csaBundled.filter IkedChildsa.csaLoaded).map pfkeySaDelete).getD []
  distinct := nodup_childsaRemove st.distinct e.csaId

/-- What the loop of `ikev2_childsa_delete` carries: the records deleted, the peer SPI of the
last deleted record whose own SPI is `spi`, and the state. -/
structure DeleteRun where
  found : Nat
  peerspi : UInt64
  st : ChildsaState

def childsaDeleteStep (saproto : UInt8) (spi : UInt64) (cleanup : Bool) (run : DeleteRun)
    (e : ChildsaEntry) : DeleteRun :=
  if deleteSkips saproto spi cleanup e.csa then run
  else
    { found := run.found + 1
      peerspi := if spi != 0 && e.csa.csaSpi.spi == spi then e.csa.csaPeerspi else run.peerspi
      st := run.st.removeEntry e }

/-- `ikev2_childsa_delete`: 0 when a record was deleted and -1 otherwise, the SPI written to
`*spiptr`, and the state.  `TAILQ_FOREACH_SAFE` visits the records in their order, and a
deletion changes no record still to be visited but for its `csa_peersa`, which the test does
not read; so the loop runs over the list as it was. -/
def ikev2ChildsaDelete (saproto : UInt8) (spi : UInt64) (cleanup : Bool) (st : ChildsaState) :
    Int × UInt64 × ChildsaState :=
  let run := st.saChildsas.foldl (childsaDeleteStep saproto spi cleanup) ⟨0, 0, st⟩
  (if run.found = 0 then -1 else 0, run.peerspi, run.st)

section Delete

variable (saproto : UInt8) (spi : UInt64) (cleanup : Bool)

theorem filter_csaId_unlinked (childsas : List ChildsaEntry) (id : Nat) :
    (childsas.filter (·.csaId != id)).map ChildsaEntry.unlinked =
      (childsas.map ChildsaEntry.unlinked).filter (·.csaId != id) := by
  rw [List.filter_map]
  rfl

theorem removeEntry_unlinked (st : ChildsaState) (e : ChildsaEntry) :
    (st.removeEntry e).saChildsas.map ChildsaEntry.unlinked =
      (st.saChildsas.map ChildsaEntry.unlinked).filter (·.csaId != e.csaId) := by
  rw [ChildsaState.removeEntry, childsaRemove_unlinked, filter_csaId_unlinked]

/-- The run lemma of the loop: with `kept` the records already passed over and `todo` the
ones still to visit, the list ends as the kept records followed by those of `todo` the loop
skips.  Distinct addresses make the removal by address remove the visited record only. -/
theorem foldl_childsaDeleteStep_unlinked (todo : List ChildsaEntry) (run : DeleteRun)
    (kept : List ChildsaEntry)
    (now : run.st.saChildsas.map ChildsaEntry.unlinked = kept ++ todo.map ChildsaEntry.unlinked) :
    (todo.foldl (childsaDeleteStep saproto spi cleanup) run).st.saChildsas.map ChildsaEntry.unlinked =
      kept ++ (todo.filter fun e => deleteSkips saproto spi cleanup e.csa).map ChildsaEntry.unlinked := by
  induction todo generalizing run kept with
  | nil => simpa using now
  | cons e rest ih =>
    by_cases skip : deleteSkips saproto spi cleanup e.csa = true
    · have step : childsaDeleteStep saproto spi cleanup run e = run := by
        simp [childsaDeleteStep, skip]
      rw [List.foldl_cons, step, ih run (kept ++ [e.unlinked]) (by simpa using now)]
      simp [skip]
    · -- the visited record's address is in neither the kept records nor the rest
      have ids := run.st.distinct
      rw [← map_csaId_unlinked, now] at ids
      simp only [List.map_append, List.map_map, List.map_cons, Function.comp_def,
        ChildsaEntry.unlinked_csaId] at ids
      obtain ⟨-, later, apart⟩ := List.nodup_append.mp ids
      have removed : (childsaDeleteStep saproto spi cleanup run e).st.saChildsas.map
          ChildsaEntry.unlinked = kept ++ rest.map ChildsaEntry.unlinked := by
        have notKept : ∀ f ∈ kept, (f.csaId != e.csaId) = true := fun f mem => by
          simpa using apart f.csaId (List.mem_map_of_mem mem) e.csaId (by simp)
        have notRest : ∀ f ∈ rest.map ChildsaEntry.unlinked, (f.csaId != e.csaId) = true := by
          intro f mem
          obtain ⟨g, gmem, rfl⟩ := List.mem_map.mp mem
          have listed : g.csaId ∈ rest.map ChildsaEntry.csaId := List.mem_map_of_mem gmem
          have fresh : e.csaId ∉ rest.map ChildsaEntry.csaId := (List.nodup_cons.mp later).1
          simp only [ChildsaEntry.unlinked_csaId, bne_iff_ne, ne_eq]
          exact fun same => fresh (same ▸ listed)
        simp only [childsaDeleteStep, skip, Bool.false_eq_true, if_false, removeEntry_unlinked,
          now, List.map_cons, List.filter_append, List.filter_cons, ChildsaEntry.unlinked_csaId,
          bne_self_eq_false]
        rw [List.filter_eq_self.mpr notKept, List.filter_eq_self.mpr notRest]
      rw [List.foldl_cons, ih _ kept removed]
      simp [skip]

/-- The frame of `ikev2_childsa_delete`: the records it leaves are exactly the ones its loop
skips, in their order, changed at most in their `csa_peersa` link. -/
theorem ikev2ChildsaDelete_unlinked (st : ChildsaState) :
    (ikev2ChildsaDelete saproto spi cleanup st).2.2.saChildsas.map ChildsaEntry.unlinked =
      (st.saChildsas.filter fun e => deleteSkips saproto spi cleanup e.csa).map ChildsaEntry.unlinked :=
  foldl_childsaDeleteStep_unlinked saproto spi cleanup st.saChildsas ⟨0, 0, st⟩ [] rfl

/-- A record is left by a deletion iff it was there and the loop skips it. -/
theorem mem_ikev2ChildsaDelete {st : ChildsaState} {r : ChildsaEntry} :
    r ∈ (ikev2ChildsaDelete saproto spi cleanup st).2.2.saChildsas.map ChildsaEntry.unlinked ↔
      r ∈ st.saChildsas.map ChildsaEntry.unlinked ∧ deleteSkips saproto spi cleanup r.csa := by
  rw [ikev2ChildsaDelete_unlinked]
  constructor
  · intro mem
    obtain ⟨e, kept, rfl⟩ := List.mem_map.mp mem
    have ⟨listed, skips⟩ := List.mem_filter.mp kept
    exact ⟨List.mem_map_of_mem listed, skips⟩
  · rintro ⟨mem, skips⟩
    obtain ⟨e, listed, rfl⟩ := List.mem_map.mp mem
    exact List.mem_map_of_mem (List.mem_filter.mpr ⟨listed, skips⟩)

end Delete

/-- Two records that are the halves of one pair of protocol `protoid`: each one's peer SPI is
the other's own SPI. -/
structure Halves (protoid : UInt8) (a b : IkedChildsa) : Prop where
  saproto_a : a.csaSaproto = protoid
  saproto_b : b.csaSaproto = protoid
  peerspi_b : b.csaPeerspi = a.csaSpi.spi
  peerspi_a : a.csaPeerspi = b.csaSpi.spi

/-- The two halves of a pair are skipped together or deleted together. -/
theorem Halves.deleteSkips_eq {protoid : UInt8} {a b : IkedChildsa} (halves : Halves protoid a b)
    (saproto : UInt8) (spi : UInt64) :
    deleteSkips saproto spi false a = deleteSkips saproto spi false b := by
  simp [deleteSkips, halves.saproto_a, halves.saproto_b, halves.peerspi_a, halves.peerspi_b,
    Bool.and_comm]

theorem Halves.symm {protoid : UInt8} {a b : IkedChildsa} (halves : Halves protoid a b) :
    Halves protoid b a :=
  ⟨halves.saproto_b, halves.saproto_a, halves.peerspi_a, halves.peerspi_b⟩

section Negotiate

variable (tables : XfTables) (getspi : Getspi) (initiator useTransport : Bool) (pfsgrp : UInt16)

theorem csaOf_protoid {calls calls' : Nat} {prop prop' : IkedProposal}
    {encrxf integrxf : Option IkedTransform} {esn : Bool} {csa : IkedChildsa}
    (made : csaOf getspi initiator useTransport pfsgrp calls prop encrxf integrxf esn =
      some (csa, calls', prop')) :
    csa.csaSaproto = prop'.propProtoid ∧ csa.csaSpi.spiProtoid = prop'.propProtoid := by
  unfold csaOf at made
  split at made
  · cases made
    exact ⟨rfl, rfl⟩
  · split at made
    · cases made
    · cases made
      exact ⟨rfl, rfl⟩

/-- The two records `ikev2_childsa_negotiate` inserts for a proposal are the halves of a pair
of the proposal's protocol, with that protocol as their SPI protocol. -/
theorem createChildsa_halves {st st' : CreateState} {prop prop' : IkedProposal}
    {pair : ChildsaPair}
    (created : createChildsa tables getspi initiator useTransport pfsgrp st prop =
      some (st', some pair, prop')) :
    Halves prop'.propProtoid pair.csa pair.csb ∧ pair.csa.csaSpi.spiProtoid = prop'.propProtoid ∧
      pair.csb.csaSpi.spiProtoid = prop'.propProtoid := by
  rcases createChildsa_cases tables getspi initiator useTransport pfsgrp created with
    ⟨-, -, none, -⟩ | ⟨_, _, _, csa, _, keysA, _, keysB, _, -, made, -, -, bundled⟩
  · cases none
  obtain ⟨saproto, spiProtoid⟩ := csaOf_protoid getspi initiator useTransport pfsgrp made
  rcases bundled with ⟨-, _, _, _, -, -, inserted⟩ | ⟨-, -, inserted⟩ <;>
    · cases Option.some.inj inserted
      exact ⟨⟨saproto, saproto, rfl, rfl⟩, spiProtoid, spiProtoid⟩

end Negotiate

/-! ## `ikev2_handle_delete` -/

/-- The Delete payload of a request as `ikev2_pld_delete` leaves it in the message:
`msg_del_protoid`, `msg_del_spisize`, `msg_del_cnt` and the bytes of `msg_del_buf`. -/
structure DelPayload where
  delProtoid : UInt8
  delSpisize : UInt8
  delCnt : Nat
  delBuf : List UInt8
deriving DecidableEq, Repr

/-- The Delete payload `ikev2_handle_delete` writes into the response. -/
structure DelReply where
  replyProtoid : UInt8
  replySpisize : UInt8
  replyNspi : UInt16
  replySpis : List UInt64
deriving DecidableEq, Repr

inductive DeleteOutcome where
  -- no protocol: nothing to do
  | ignored
  -- SPI size 0 for the IKE SA: `ikev2_ikesa_recv_delete`
  | ikeSa
  -- a bad SPI size, or a length that does not give the count: -1
  | failed
  -- the state after the deletions and the Delete payload of the response, if any
  | handled (st : ChildsaState) (reply : Option DelReply)

/-- `betoh32` or `betoh64` of the `sz` bytes at `buf + i * sz`. -/
def delSpi (buf : List UInt8) (sz i : Nat) : UInt64 :=
  ((buf.drop (i * sz)).take sz).foldl (fun acc b => acc * 256 + b.toUInt64) 0

def delSpis (del : DelPayload) : List UInt64 :=
  (List.range del.delCnt).map (delSpi del.delBuf del.delSpisize.toNat)

/-- What the loop over the SPIs carries: `found`, the array `localspi` and the state. -/
structure HandleRun where
  found : Nat
  localspi : List UInt64
  st : ChildsaState

/-- One SPI: nothing for an SPI no record has, otherwise `ikev2_childsa_delete`, counted when
it deleted something, with the SPI it reports kept for the response. -/
def handleDeleteStep (protoid : UInt8) (run : HandleRun) (spi : UInt64) : HandleRun :=
  match childsaLookup run.st.saChildsas spi protoid with
  | none => { run with localspi := run.localspi ++ [0] }
  | some _ =>
    let deleted := ikev2ChildsaDelete protoid spi false run.st
    { found := if deleted.1 = -1 then run.found else run.found + 1
      localspi := run.localspi ++ [deleted.2.1]
      st := deleted.2.2 }

-- `htobe32` keeps the low 32 bits of the `uint64_t` SPI.
def replySpi (sz : Nat) (spi : UInt64) : UInt64 :=
  if sz = 4 then spi.toUInt32.toUInt64 else spi

/-- `ikev2_handle_delete`; `resp` is false for a Delete received in a response. -/
def ikev2HandleDelete (resp : Bool) (del : DelPayload) (st : ChildsaState) : DeleteOutcome :=
  let sz := del.delSpisize.toNat
  if del.delProtoid = 0 then .ignored
  else if sz = 0 then
    if del.delProtoid = ikev2SaprotoIke then .ikeSa else .failed
  else if sz ≠ 4 ∧ sz ≠ 8 then .failed
  else if del.delBuf.length / sz ≠ del.delCnt then .failed
  else
    let run := (delSpis del).foldl (handleDeleteStep del.delProtoid) ⟨0, [], st⟩
    if !resp || run.found = 0 then .handled run.st none
    else .handled run.st (some ⟨del.delProtoid, del.delSpisize, run.found.toUInt16,
      (run.localspi.filter (· != 0)).map (replySpi sz)⟩)

theorem ikev2HandleDelete_handled {resp : Bool} {del : DelPayload} {st st' : ChildsaState}
    {reply : Option DelReply} (handled : ikev2HandleDelete resp del st = .handled st' reply) :
    del.delProtoid ≠ 0 ∧
      st' = ((delSpis del).foldl (handleDeleteStep del.delProtoid) ⟨0, [], st⟩).st := by
  unfold ikev2HandleDelete at handled
  dsimp only at handled
  split at handled
  · cases handled
  rename_i proto
  split at handled
  · split at handled <;> cases handled
  split at handled
  · cases handled
  split at handled
  · cases handled
  split at handled <;> cases handled <;> exact ⟨proto, rfl⟩

theorem handleDeleteStep_st (protoid : UInt8) (run : HandleRun) (spi : UInt64) :
    (handleDeleteStep protoid run spi).st =
      if (childsaLookup run.st.saChildsas spi protoid).isSome then
        (ikev2ChildsaDelete protoid spi false run.st).2.2
      else run.st := by
  unfold handleDeleteStep
  split <;> simp_all

/-- No SPI adds a record. -/
theorem handleDeleteStep_sub (protoid : UInt8) (run : HandleRun) (spi : UInt64) {r : ChildsaEntry}
    (mem : r ∈ (handleDeleteStep protoid run spi).st.saChildsas.map ChildsaEntry.unlinked) :
    r ∈ run.st.saChildsas.map ChildsaEntry.unlinked := by
  rw [handleDeleteStep_st] at mem
  split at mem
  · exact ((mem_ikev2ChildsaDelete _ _ _).mp mem).1
  · exact mem

theorem foldl_handleDeleteStep_sub (protoid : UInt8) (spis : List UInt64) (run : HandleRun)
    {r : ChildsaEntry}
    (mem : r ∈ (spis.foldl (handleDeleteStep protoid) run).st.saChildsas.map ChildsaEntry.unlinked) :
    r ∈ run.st.saChildsas.map ChildsaEntry.unlinked := by
  induction spis generalizing run with
  | nil => exact mem
  | cons spi rest ih => exact handleDeleteStep_sub protoid run spi (ih _ mem)

section Pair

variable {protoid : UInt8} {qin qout : IkedChildsa}

-- The two halves of a pair are in the list together or gone together.
def Together (qin qout : ChildsaEntry) (st : ChildsaState) : Prop :=
  qin.unlinked ∈ st.saChildsas.map ChildsaEntry.unlinked ↔
    qout.unlinked ∈ st.saChildsas.map ChildsaEntry.unlinked

theorem handleDeleteStep_together {qin qout : ChildsaEntry} (halves : Halves protoid qin.csa qout.csa)
    (run : HandleRun) (spi : UInt64) (together : Together qin qout run.st) :
    Together qin qout (handleDeleteStep protoid run spi).st := by
  rw [Together, handleDeleteStep_st]
  split
  · rw [mem_ikev2ChildsaDelete, mem_ikev2ChildsaDelete, ChildsaEntry.unlinked_csa,
      ChildsaEntry.unlinked_csa, halves.deleteSkips_eq]
    exact and_congr_left' together
  · exact together

/-- The SPI of the inbound half: the lookup finds a record as long as that half is there, and
the deletion then takes it. -/
theorem handleDeleteStep_removes {qin qout : ChildsaEntry} (halves : Halves protoid qin.csa qout.csa)
    (spiProtoid : qin.csa.csaSpi.spiProtoid = protoid) (proto : protoid ≠ 0)
    (nonzero : qin.csa.csaSpi.spi ≠ 0) (run : HandleRun) :
    qin.unlinked ∉
      (handleDeleteStep protoid run qin.csa.csaSpi.spi).st.saChildsas.map ChildsaEntry.unlinked := by
  intro mem
  obtain ⟨e, listed, same⟩ := List.mem_map.mp (handleDeleteStep_sub protoid run _ mem)
  have hit : e.csa = qin.csa := by rw [← ChildsaEntry.unlinked_csa e, same, ChildsaEntry.unlinked_csa]
  have found : (childsaLookup run.st.saChildsas qin.csa.csaSpi.spi protoid).isSome := by
    simp only [childsaLookup, nonzero, proto, or_self, if_false, List.find?_isSome]
    exact ⟨e, listed, by simp [hit, spiProtoid]⟩
  rw [handleDeleteStep_st, if_pos found, mem_ikev2ChildsaDelete] at mem
  simp [deleteSkips, halves.saproto_a] at mem

/-- The run over the SPIs: once the inbound half's SPI has come up, or that half is gone,
neither half is left. -/
theorem foldl_handleDeleteStep_removes {qin qout : ChildsaEntry}
    (halves : Halves protoid qin.csa qout.csa) (spiProtoid : qin.csa.csaSpi.spiProtoid = protoid)
    (proto : protoid ≠ 0) (nonzero : qin.csa.csaSpi.spi ≠ 0) (spis : List UInt64) (run : HandleRun)
    (together : Together qin qout run.st)
    (hit : qin.csa.csaSpi.spi ∈ spis ∨ qin.unlinked ∉ run.st.saChildsas.map ChildsaEntry.unlinked) :
    qin.unlinked ∉ (spis.foldl (handleDeleteStep protoid) run).st.saChildsas.map ChildsaEntry.unlinked ∧
      qout.unlinked ∉
        (spis.foldl (handleDeleteStep protoid) run).st.saChildsas.map ChildsaEntry.unlinked := by
  induction spis generalizing run with
  | nil =>
    have gone : qin.unlinked ∉ run.st.saChildsas.map ChildsaEntry.unlinked := by simpa using hit
    exact ⟨gone, fun mem => gone (together.mpr mem)⟩
  | cons spi rest ih =>
    apply ih _ (handleDeleteStep_together halves run spi together)
    rcases hit with listed | gone
    · rcases List.mem_cons.mp listed with now | later
      · rw [← now]
        exact .inr (handleDeleteStep_removes halves spiProtoid proto nonzero run)
      · exact .inl later
    · exact .inr fun mem => gone (handleDeleteStep_sub protoid run spi mem)

end Pair

/-- A Delete payload that lists the SPI this side chose for the inbound half of a pair removes
both halves of that pair, whatever SPI the outbound half has. -/
theorem ikev2HandleDelete_removes_pair_of_inbound_spi {resp : Bool} {del : DelPayload}
    {st st' : ChildsaState} {reply : Option DelReply} {qin qout : ChildsaEntry}
    (hin : qin ∈ st.saChildsas) (hout : qout ∈ st.saChildsas)
    (halves : Halves del.delProtoid qin.csa qout.csa)
    (spiProtoid : qin.csa.csaSpi.spiProtoid = del.delProtoid) (nonzero : qin.csa.csaSpi.spi ≠ 0)
    (listed : qin.csa.csaSpi.spi ∈ delSpis del)
    (handled : ikev2HandleDelete resp del st = .handled st' reply) :
    ∀ e ∈ st'.saChildsas, e.csaId ≠ qin.csaId ∧ e.csaId ≠ qout.csaId := by
  obtain ⟨proto, rfl⟩ := ikev2HandleDelete_handled handled
  have together : Together qin qout st :=
    ⟨fun _ => List.mem_map_of_mem hout, fun _ => List.mem_map_of_mem hin⟩
  obtain ⟨inGone, outGone⟩ :=
    foldl_handleDeleteStep_removes halves spiProtoid proto nonzero _ ⟨0, [], st⟩ together (.inl listed)
  intro e left
  have kept := List.mem_map_of_mem (f := ChildsaEntry.unlinked) left
  obtain ⟨g, orig, same⟩ := List.mem_map.mp (foldl_handleDeleteStep_sub _ _ _ kept)
  -- a record left at the address of a half would be that half: addresses are distinct
  have atAddress : ∀ q ∈ st.saChildsas, e.csaId = q.csaId → e.unlinked = q.unlinked := by
    intro q mem sameId
    have gq : g = q := List.inj_on_of_nodup_map st.distinct orig mem (by
      rw [← sameId, ← ChildsaEntry.unlinked_csaId g, same, ChildsaEntry.unlinked_csaId])
    rw [← same, gq]
  exact ⟨fun sameId => inGone (atAddress qin hin sameId ▸ kept),
    fun sameId => outGone (atAddress qout hout sameId ▸ kept)⟩



-- The inbound SA of pair `Q`, set up as responder: the SPI 0x1000 chosen here, the outbound
-- SPI 0x3000 chosen by the peer.
def collidingInbound : IkedChildsa :=
  ⟨3, .dirIn, 0x3000, false, true, true, false, ⟨0x1000, 4, 3⟩, none, 12, none, 12, .saPeer,
    .saLocal, 0⟩

-- Pair `P`, set up as initiator, whose outbound SPI 0x1000 the peer chose, then pair `Q`.
def collidingPairs : ChildsaState :=
  (ChildsaState.empty.insertPair
      ⟨⟨3, .dirOut, 0x2000, false, false, true, false, ⟨0x1000, 4, 3⟩, none, 12, none, 12,
          .saLocal, .saPeer, 0⟩,
        IkedChildsa.mirror ⟨3, .dirOut, 0x2000, false, false, true, false, ⟨0x1000, 4, 3⟩,
          none, 12, none, 12, .saLocal, .saPeer, 0⟩, none⟩).insertPair
    ⟨collidingInbound, collidingInbound.mirror, none⟩

-- The peer's Delete of `P` lists 0x1000 and takes `Q`, at addresses 3 and 4, with it, though
-- the outbound SPI of `Q` is not listed.
theorem ikev2HandleDelete_removes_pair_of_inbound_spi_of_collision :
    collidingInbound.mirror.csaSpi.spi ∉ delSpis ⟨3, 4, 1, [0, 0, 0x10, 0]⟩ ∧
      ∃ st' reply, ikev2HandleDelete true ⟨3, 4, 1, [0, 0, 0x10, 0]⟩ collidingPairs =
        .handled st' reply ∧ ∀ e ∈ st'.saChildsas, e.csaId ≠ 3 ∧ e.csaId ≠ 4 :=
  ⟨by decide, _, _, rfl,
    @ikev2HandleDelete_removes_pair_of_inbound_spi true ⟨3, 4, 1, [0, 0, 0x10, 0]⟩ collidingPairs
      _ _ ⟨3, collidingInbound, some 4, none⟩ ⟨4, collidingInbound.mirror, some 3, none⟩
      (by decide) (by decide) ⟨rfl, rfl, rfl, rfl⟩ rfl (by decide) (by decide) rfl⟩

end OpenIKED.Ikev2.ChildSas
