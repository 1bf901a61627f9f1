import OpenIKED.Ikev2.ChildSas
import OpenIKED.Shared.Memcmp

set_option autoImplicit false

/-!
# Simultaneous rekeying

When both peers start a CREATE_CHILD_SA rekey of the same SA and each gets the other's
request before the answer to its own, two new SAs exist and one must go.  For an IKE SA,
`ikev2_init_create_child_sa` compares the least nonce of the exchange it started
(`sa_nexti`) with that of the one it answered (`sa_nextr`) and deletes the smaller; for a
CHILD SA pair, `ikev2_resp_create_child_sa` records the least nonce of the exchange it
answered in `sa_simult`, and the initiator's side deletes its own proposal when its least
nonce is the smaller one.  Both rest on `ikev2_nonce_cmp`, which is the lexicographic order
of the bytes (`ikev2NonceCmp_neg_iff`); the two peers then take the same decision
(`ikev2_simultaneous_rekeys_agree`).
-/

namespace OpenIKED.Ikev2.Rekey

open OpenIKED.Shared
open OpenIKED.Ikev2.SaKeys (ChildsaPair ikedNonceMin)
open OpenIKED.Ikev2.ChildSas (ChildsaEntry ChildsaState childsaLookup childsaLookup_some
  childsaLookup_append foldl_insertPair_saChildsas)

def ikedNonceSize : Nat := 32

/-! ## `ikev2_nonce_cmp` -/

/-- `ikev2_nonce_cmp`: `memcmp` over the shorter length, then the shorter nonce first; two
equal nonces compare as 1. -/
def ikev2NonceCmp (a b : List UInt8) : Int :=
  let len := min a.length b.length
  let ret := memcmp a b len
  if ret = 0 then (if a.length < b.length then -1 else 1) else ret

/-- The nonce the code keeps as the least of two: `a` when it compares below `b`. -/
def minNonce (a b : List UInt8) : List UInt8 :=
  if ikev2NonceCmp a b < 0 then a else b

@[simp] theorem ikev2NonceCmp_nil_nil : ikev2NonceCmp [] [] = 1 := rfl

@[simp] theorem ikev2NonceCmp_nil_cons (y : UInt8) (ys : List UInt8) :
    ikev2NonceCmp [] (y :: ys) = -1 := by
  simp [ikev2NonceCmp, memcmp]

@[simp] theorem ikev2NonceCmp_cons_nil (x : UInt8) (xs : List UInt8) :
    ikev2NonceCmp (x :: xs) [] = 1 := by
  simp [ikev2NonceCmp, memcmp]

/-- The recursion of `ikev2_nonce_cmp`: equal first bytes are skipped, and the first bytes
that differ decide. -/
theorem ikev2NonceCmp_cons (x y : UInt8) (xs ys : List UInt8) :
    ikev2NonceCmp (x :: xs) (y :: ys) =
      if x = y then ikev2NonceCmp xs ys else (x.toNat : Int) - y.toNat := by
  by_cases same : x = y
  · subst same
    simp [ikev2NonceCmp, Nat.succ_min_succ, memcmp_cons_same]
  · have differ : (x.toNat : Int) - y.toNat ≠ 0 := by
      have : x.toNat ≠ y.toNat := fun eq => same (UInt8.toNat_inj.mp eq)
      omega
    simp [ikev2NonceCmp, Nat.succ_min_succ, memcmp_cons_of_ne same, same, differ]

/-- `ikev2_nonce_cmp` never answers 0. -/
theorem ikev2NonceCmp_ne_zero (a b : List UInt8) : ikev2NonceCmp a b ≠ 0 := by
  induction a generalizing b with
  | nil => cases b <;> simp
  | cons x xs ih =>
    cases b with
    | nil => simp
    | cons y ys =>
      rw [ikev2NonceCmp_cons]
      split
      · exact ih ys
      · rename_i differ
        have : x.toNat ≠ y.toNat := fun eq => differ (UInt8.toNat_inj.mp eq)
        omega

/-- A negative `ikev2_nonce_cmp` is the lexicographic order of the byte values, a proper
prefix first. -/
theorem ikev2NonceCmp_neg_iff (a b : List UInt8) :
    ikev2NonceCmp a b < 0 ↔ byteValues a < byteValues b := by
  induction a generalizing b with
  | nil => cases b <;> simp [List.nil_lt_cons]
  | cons x xs ih =>
    cases b with
    | nil => simp [List.not_lt_nil]
    | cons y ys =>
      rw [ikev2NonceCmp_cons, byteValues_cons, byteValues_cons, List.cons_lt_cons_iff]
      split
      · rename_i same
        subst same
        simp [ih]
      · rename_i differ
        have : x.toNat ≠ y.toNat := fun eq => differ (UInt8.toNat_inj.mp eq)
        constructor
        · intro below
          exact .inl (by omega)
        · rintro (below | ⟨same, -⟩)
          · omega
          · exact absurd same this

theorem ikev2NonceCmp_self (a : List UInt8) : ikev2NonceCmp a a = 1 := by
  induction a with
  | nil => rfl
  | cons x xs ih => simp [ikev2NonceCmp_cons, ih]

/-- On distinct nonces `ikev2_nonce_cmp` is antisymmetric: exactly one order is negative. -/
theorem ikev2NonceCmp_neg_iff_pos {a b : List UInt8} (distinct : a ≠ b) :
    ikev2NonceCmp a b < 0 ↔ 0 < ikev2NonceCmp b a := by
  have values : byteValues a ≠ byteValues b := fun same => distinct (byteValues_injective same)
  have nonzero := ikev2NonceCmp_ne_zero b a
  rw [ikev2NonceCmp_neg_iff]
  constructor
  · intro below
    have : ¬ ikev2NonceCmp b a < 0 := by
      rw [ikev2NonceCmp_neg_iff]
      exact not_lt.mpr below.le
    omega
  · intro above
    have : ¬ byteValues b < byteValues a := by
      rw [← ikev2NonceCmp_neg_iff]
      omega
    exact lt_of_le_of_ne (not_lt.mp this) values

theorem ikev2NonceCmp_trans {a b c : List UInt8} (ab : ikev2NonceCmp a b < 0)
    (bc : ikev2NonceCmp b c < 0) : ikev2NonceCmp a c < 0 := by
  rw [ikev2NonceCmp_neg_iff] at ab bc ⊢
  exact lt_trans ab bc

/-- The nonce the code keeps as the least is the least in the order of the byte values. -/
theorem byteValues_minNonce (a b : List UInt8) :
    byteValues (minNonce a b) = min (byteValues a) (byteValues b) := by
  unfold minNonce
  split
  · rename_i below
    rw [ikev2NonceCmp_neg_iff] at below
    exact (min_eq_left below.le).symm
  · rename_i notBelow
    rw [ikev2NonceCmp_neg_iff] at notBelow
    exact (min_eq_right (not_lt.mp notBelow)).symm

/-! ## The two exchanges -/

/-- The nonces of one CREATE_CHILD_SA exchange: `ni` from the peer that sent the request,
`nr` from the one that answered, each made by `ibuf_random(IKED_NONCE_SIZE)`. -/
structure Exchange where
  ni : List UInt8
  nr : List UInt8
  ni_size : ni.length = ikedNonceSize
  nr_size : nr.length = ikedNonceSize

/-- The least nonce of an exchange, as both peers compute it. -/
def Exchange.least (x : Exchange) : List UInt8 := minNonce x.ni x.nr

/-- No nonce of one exchange is a nonce of the other. -/
def Exchange.Apart (x y : Exchange) : Prop := ∀ n ∈ [x.ni, x.nr], ∀ m ∈ [y.ni, y.nr], n ≠ m

instance (x y : Exchange) : Decidable (x.Apart y) :=
  inferInstanceAs (Decidable (∀ n ∈ [x.ni, x.nr], ∀ m ∈ [y.ni, y.nr], n ≠ m))

theorem minNonce_mem (a b : List UInt8) : minNonce a b ∈ [a, b] := by
  unfold minNonce
  split <;> simp

theorem Exchange.Apart.least_ne {x y : Exchange} (apart : x.Apart y) : x.least ≠ y.least :=
  apart _ (minNonce_mem _ _) _ (minNonce_mem _ _)

theorem Exchange.Apart.symm {x y : Exchange} (apart : x.Apart y) : y.Apart x :=
  fun n hn m hm same => apart m hm n hn same.symm

/-- What the rekeying is for: the exchange whose least nonce is the larger survives, in the
order of the byte values. -/
def keptExchange (x y : Exchange) : Exchange :=
  if min (byteValues x.ni) (byteValues x.nr) < min (byteValues y.ni) (byteValues y.nr) then y
  else x

def deletedExchange (x y : Exchange) : Exchange :=
  if min (byteValues x.ni) (byteValues x.nr) < min (byteValues y.ni) (byteValues y.nr) then x
  else y

theorem ikev2NonceCmp_least_neg_iff (x y : Exchange) :
    ikev2NonceCmp x.least y.least < 0 ↔
      min (byteValues x.ni) (byteValues x.nr) < min (byteValues y.ni) (byteValues y.nr) := by
  rw [ikev2NonceCmp_neg_iff, Exchange.least, Exchange.least, byteValues_minNonce,
    byteValues_minNonce]

/-- Seen from the other peer the comparison is the opposite one. -/
theorem Exchange.Apart.neg_iff_not {x y : Exchange} (apart : x.Apart y) :
    ikev2NonceCmp y.least x.least < 0 ↔ ¬ ikev2NonceCmp x.least y.least < 0 := by
  have nonzero := ikev2NonceCmp_ne_zero x.least y.least
  rw [ikev2NonceCmp_neg_iff_pos apart.least_ne.symm]
  omega

/-! ## Simultaneous IKE SA rekeying -/

/-- The nonces of a new IKE SA, `sa_inonce` and `sa_rnonce`; the empty list is a NULL buffer. -/
structure NewSa where
  saInonce : List UInt8
  saRnonce : List UInt8
deriving DecidableEq, Repr

/-- The new IKE SA an exchange creates, with the same nonces on both peers. -/
def Exchange.newSa (x : Exchange) : NewSa := ⟨x.ni, x.nr⟩

/-- What the old IKE SA records of its rekeying: `sa_nexti`, `sa_nextr`, `IKED_REQ_CHILDSA`. -/
structure IkeRekeyState where
  saNexti : Option NewSa
  saNextr : Option NewSa
  reqChildsa : Bool
deriving DecidableEq, Repr

def IkeRekeyState.idle : IkeRekeyState := ⟨none, none, false⟩

/-- `ikev2_ike_sa_rekey`: a new SA with the nonce `nonce` as `sa_nexti`, and the request sent;
nothing while a rekey or another exchange is under way. -/
def ikev2IkeSaRekey (st : IkeRekeyState) (nonce : List UInt8) : IkeRekeyState :=
  if st.saNexti.isSome || st.reqChildsa then st
  else { st with saNexti := some ⟨nonce, []⟩, reqChildsa := true }

/-- The IKE SA branch of `ikev2_resp_create_child_sa` for a request with nonce `msgNonce`,
answered with `nonce`: none when `ikev2_sa_responder` fails, otherwise the state and the new
SA `ikev2_ikesa_enable` takes over with, if it is enabled at once. -/
def ikev2RespCreateChildSaIke (st : IkeRekeyState) (msgNonce nonce : List UInt8) :
    Option (IkeRekeyState × Option NewSa) :=
  -- waiting for the answer to a CHILD SA request: the request is ignored
  if st.reqChildsa && st.saNexti.isNone then some (st, none)
  else if msgNonce.length < ikedNonceMin then none
  else
    let nsa : NewSa := ⟨msgNonce, nonce⟩
    if st.saNexti.isSome then some ({ st with saNextr := some nsa }, none)
    else some (st, some nsa)

/-- Which new SA `ikev2_ikesa_enable` takes over with, and which one is deleted. -/
structure IkeResolution where
  enabled : NewSa
  deleted : Option NewSa
deriving DecidableEq, Repr

/-- The IKE SA branch of `ikev2_init_create_child_sa` for the answer with nonce `msgNonce`. -/
def ikev2InitCreateChildSaIke (st : IkeRekeyState) (msgNonce : List UInt8) :
    Option (IkeRekeyState × IkeResolution) :=
  if !st.reqChildsa then none
  else
    match st.saNexti with
    | none => none
    | some nexti =>
      -- `ikev2_sa_initiator` takes the peer's nonce unless one is set
      if nexti.saRnonce.isEmpty && msgNonce.isEmpty then none
      else
        let nexti := if nexti.saRnonce.isEmpty then { nexti with saRnonce := msgNonce } else nexti
        match st.saNextr with
        | none => some (IkeRekeyState.idle, ⟨nexti, none⟩)
        | some nextr =>
          let ni := minNonce nexti.saInonce nexti.saRnonce
          let nr := minNonce nextr.saInonce nextr.saRnonce
          if ikev2NonceCmp ni nr < 0 then some (IkeRekeyState.idle, ⟨nextr, some nexti⟩)
          else some (IkeRekeyState.idle, ⟨nexti, some nextr⟩)

/-- One peer's side: it sends its request with `own.ni`, answers the peer's request, which
carries `other.ni`, with `other.nr`, and then gets the answer `own.nr` to its own. -/
def simultaneousIkeRekey (st : IkeRekeyState) (own other : Exchange) : Option IkeResolution := do
  let st := ikev2IkeSaRekey st own.ni
  let (st, _) ← ikev2RespCreateChildSaIke st other.ni other.nr
  let (_, resolution) ← ikev2InitCreateChildSaIke st own.nr
  pure resolution

theorem simultaneousIkeRekey_eq {st : IkeRekeyState} (starts : st.saNexti = none)
    (free : st.reqChildsa = false) (own other : Exchange) :
    simultaneousIkeRekey st own other =
      if ikev2NonceCmp own.least other.least < 0 then some ⟨other.newSa, some own.newSa⟩
      else some ⟨own.newSa, some other.newSa⟩ := by
  have longEnough : ¬ other.ni.length < ikedNonceMin := by
    rw [other.ni_size]
    decide
  have answered : own.nr.isEmpty = false := by
    rw [List.isEmpty_eq_false_iff, ← List.length_pos_iff, own.nr_size]
    decide
  simp only [simultaneousIkeRekey, ikev2IkeSaRekey, ikev2RespCreateChildSaIke,
    ikev2InitCreateChildSaIke]
  simp [starts, free, longEnough, answered, Exchange.least, Exchange.newSa]
  split <;> rename_i below <;> simp [below]

/-- Both peers keep the new IKE SA of the exchange whose least nonce is the larger, and delete
the other. -/
theorem simultaneousIkeRekey_agree {stA stB : IkeRekeyState} (startsA : stA.saNexti = none)
    (freeA : stA.reqChildsa = false) (startsB : stB.saNexti = none) (freeB : stB.reqChildsa = false)
    {x y : Exchange} (apart : x.Apart y) :
    simultaneousIkeRekey stA x y =
        some ⟨(keptExchange x y).newSa, some (deletedExchange x y).newSa⟩ ∧
      simultaneousIkeRekey stB y x =
        some ⟨(keptExchange x y).newSa, some (deletedExchange x y).newSa⟩ := by
  have flipped := apart.neg_iff_not
  have spec := ikev2NonceCmp_least_neg_iff x y
  rw [simultaneousIkeRekey_eq startsA freeA, simultaneousIkeRekey_eq startsB freeB]
  by_cases below : ikev2NonceCmp x.least y.least < 0
  · simp [below, flipped, keptExchange, deletedExchange, spec.mp below]
  · simp [below, flipped, keptExchange, deletedExchange, mt spec.mpr below]

/-! ## Simultaneous CHILD SA rekeying -/

/-- What an IKE SA records of a CHILD SA rekeying. -/
structure ChildRekeyState where
  childsas : ChildsaState
  saRekeyspi : UInt64
  saSimult : Option (List UInt8)
  saInonce : List UInt8
  saRnonce : List UInt8
  reqChildsa : Bool

-- `csa->csa_peersa->csa_loaded`
def peerLoaded (childsas : List ChildsaEntry) (csa : ChildsaEntry) : Bool :=
  match csa.csaPeersa with
  | none => false
  | some id => (childsas.find? (·.csaId == id)).any (·.csa.csaLoaded)

/-- `ikev2_send_create_child_sa` asked to rekey the SA under `spi`: the state, and the SPI its
REKEY_SA notify carries, the four bytes of the peer SPI, when the request goes out. -/
def ikev2SendCreateChildSa (st : ChildRekeyState) (spi : UInt64) (protoid : UInt8)
    (nonce : List UInt8) : ChildRekeyState × Option UInt64 :=
  if st.reqChildsa then (st, none)
  else
    let st := { st with saSimult := none, saRekeyspi := 0 }
    match childsaLookup st.childsas.saChildsas spi protoid with
    | none => (st, none)
    | some csa =>
      if csa.csaPeersa.isNone then (st, none)
      else
        ({ st with saInonce := nonce, saRekeyspi := csa.csa.csaPeerspi, reqChildsa := true },
          some csa.csa.csaPeerspi.toUInt32.toUInt64)

/-- The CHILD SA branch of `ikev2_resp_create_child_sa` for a request whose REKEY_SA notify
names `spi`, with nonce `msgNonce`, answered with `nonce`: none when it is refused; `created`
are the pairs `ikev2_childsa_negotiate` inserts. -/
def ikev2RespCreateChildSa (st : ChildRekeyState) (spi : UInt64) (protoid : UInt8)
    (msgNonce nonce : List UInt8) (created : List ChildsaPair) : Option ChildRekeyState :=
  match childsaLookup st.childsas.saChildsas spi protoid with
  | none => none
  | some csa =>
    if !(csa.csa.csaLoaded && peerLoaded st.childsas.saChildsas csa) then none
    else if msgNonce.isEmpty then none
    else
      let st := { st with childsas := created.foldl ChildsaState.insertPair st.childsas }
      -- our own rekey of the same pair is under way: remember the least nonce of this one
      if st.reqChildsa && st.saRekeyspi == csa.csa.csaPeerspi then
        some { st with saSimult := some (minNonce msgNonce nonce) }
      else some st

inductive ChildInitOutcome where
  -- `ikev2_childsa_delete_proposed`: the exchange we started lost
  | deleteProposed
  -- `ikev2_childsa_negotiate` of our proposal, then the Delete of the rekeyed pair
  | negotiated
deriving DecidableEq, Repr

/-- The CHILD SA branch of `ikev2_init_create_child_sa` for the answer with nonce `msgNonce`. -/
def ikev2InitCreateChildSa (st : ChildRekeyState) (protoid : UInt8) (msgNonce : List UInt8) :
    Option (ChildRekeyState × ChildInitOutcome) :=
  if !st.reqChildsa then none
  else
    let rekeyed := st.saRekeyspi != 0 &&
      (childsaLookup st.childsas.saChildsas st.saRekeyspi protoid).isSome
    if msgNonce.isEmpty then none
    else
      let st := { st with saRnonce := msgNonce, reqChildsa := false }
      match st.saSimult with
      | some nr =>
        if rekeyed && ikev2NonceCmp (minNonce st.saInonce st.saRnonce) nr < 0 then
          some (st, .deleteProposed)
        else some (st, .negotiated)
      | none => some (st, .negotiated)

/-- Both peers rekey a CHILD SA: `a` the one under `keyA` in exchange `x`, `b` the one under
`keyB` in exchange `y`; each answers the other's request before it gets the answer to its own. -/
def childRekeyRace (a b : ChildRekeyState) (protoid : UInt8) (keyA keyB : UInt64)
    (x y : Exchange) (createdA createdB : List ChildsaPair) :
    Option (ChildInitOutcome × ChildInitOutcome) := do
  let (a, notifyA) := ikev2SendCreateChildSa a keyA protoid x.ni
  let (b, notifyB) := ikev2SendCreateChildSa b keyB protoid y.ni
  let notifyA ← notifyA
  let notifyB ← notifyB
  let a ← ikev2RespCreateChildSa a notifyB protoid y.ni y.nr createdA
  let b ← ikev2RespCreateChildSa b notifyA protoid x.ni x.nr createdB
  let (_, outcomeA) ← ikev2InitCreateChildSa a protoid x.nr
  let (_, outcomeB) ← ikev2InitCreateChildSa b protoid y.nr
  pure (outcomeA, outcomeB)

/-- The pair a peer's rekey of `key` takes: its outbound half `csa` is the first record under
`key`, loaded, linked to a loaded inbound half, which is found under the outbound half's peer
SPI, an SPI of the four bytes of ESP and AH. -/
structure Rekeying (st : ChildRekeyState) (key : UInt64) (protoid : UInt8) (csa : ChildsaEntry) :
    Prop where
  idle : st.reqChildsa = false
  found : childsaLookup st.childsas.saChildsas key protoid = some csa
  loaded : csa.csa.csaLoaded = true
  peer_loaded : peerLoaded st.childsas.saChildsas csa = true
  inbound : (childsaLookup st.childsas.saChildsas csa.csa.csaPeerspi protoid).isSome
  spi_width : csa.csa.csaPeerspi.toUInt32.toUInt64 = csa.csa.csaPeerspi

/-- The two peers rekey the same pair: each outbound half's peer SPI is the other's SPI. -/
def SamePair (csa csb : ChildsaEntry) : Prop :=
  csa.csa.csaPeerspi = csb.csa.csaSpi.spi ∧ csb.csa.csaPeerspi = csa.csa.csaSpi.spi

section Race

variable {st : ChildRekeyState} {key : UInt64} {protoid : UInt8} {csa : ChildsaEntry}

theorem Rekeying.linked (rekeying : Rekeying st key protoid csa) : csa.csaPeersa.isSome := by
  have loaded := rekeying.peer_loaded
  unfold peerLoaded at loaded
  split at loaded
  · cases loaded
  · rename_i linked
    simp [linked]

theorem Rekeying.rekeyspi_ne_zero (rekeying : Rekeying st key protoid csa) :
    csa.csa.csaPeerspi ≠ 0 := by
  intro zero
  have inbound := rekeying.inbound
  simp [childsaLookup, zero] at inbound

/-- The request a peer sends when it starts the rekey. -/
theorem Rekeying.send (rekeying : Rekeying st key protoid csa) (nonce : List UInt8) :
    ikev2SendCreateChildSa st key protoid nonce =
      ({ st with
          saSimult := none
          saInonce := nonce
          saRekeyspi := csa.csa.csaPeerspi
          reqChildsa := true }, some csa.csa.csaPeerspi) := by
  have linked : csa.csaPeersa.isNone = false := by
    simpa [Option.isNone_iff_eq_none, ← Option.isSome_iff_ne_none] using rekeying.linked
  simp [ikev2SendCreateChildSa, rekeying.idle, rekeying.found, linked, rekeying.spi_width]

/-- The peer's request for the same pair, which names `key`, arrives while ours is out: it is
answered, and the least nonce of its exchange goes to `sa_simult`. -/
theorem Rekeying.respond (rekeying : Rekeying st key protoid csa) {spi : UInt64} (names : spi = key)
    (nonce msgNonce ownNonce : List UInt8) (sent : msgNonce ≠ []) (created : List ChildsaPair) :
    ikev2RespCreateChildSa { st with
        saSimult := none
        saInonce := nonce
        saRekeyspi := csa.csa.csaPeerspi
        reqChildsa := true } spi protoid msgNonce ownNonce created =
      some { st with
        childsas := created.foldl ChildsaState.insertPair st.childsas
        saSimult := some (minNonce msgNonce ownNonce)
        saInonce := nonce
        saRekeyspi := csa.csa.csaPeerspi
        reqChildsa := true } := by
  have found := rekeying.found
  have loaded := rekeying.loaded
  have peer := rekeying.peer_loaded
  subst names
  simp [ikev2RespCreateChildSa, found, loaded, peer, sent]

/-- The answer to our own request: our proposal goes when our exchange's least nonce is below
the one recorded in `sa_simult`. -/
theorem Rekeying.answer (rekeying : Rekeying st key protoid csa) (nonce simult answer : List UInt8)
    (got : answer ≠ []) (created : List ChildsaPair) :
    ikev2InitCreateChildSa { st with
        childsas := created.foldl ChildsaState.insertPair st.childsas
        saSimult := some simult
        saInonce := nonce
        saRekeyspi := csa.csa.csaPeerspi
        reqChildsa := true } protoid answer =
      some ({ st with
        childsas := created.foldl ChildsaState.insertPair st.childsas
        saSimult := some simult
        saInonce := nonce
        saRekeyspi := csa.csa.csaPeerspi
        saRnonce := answer
        reqChildsa := false },
        if ikev2NonceCmp (minNonce nonce answer) simult < 0 then .deleteProposed
        else .negotiated) := by
  -- the inbound half is still the first record under our peer SPI after the new pairs
  obtain ⟨more, after⟩ := foldl_insertPair_saChildsas created st.childsas
  obtain ⟨e, inbound⟩ := Option.isSome_iff_exists.mp rekeying.inbound
  have stillThere := childsaLookup_append inbound more
  have nonzero := rekeying.rekeyspi_ne_zero
  simp [ikev2InitCreateChildSa, after, stillThere, nonzero, got]
  split <;> rfl

theorem Exchange.ni_ne_nil (x : Exchange) : x.ni ≠ [] := by
  intro empty
  have size := x.ni_size
  rw [empty] at size
  cases size

theorem Exchange.nr_ne_nil (x : Exchange) : x.nr ≠ [] := by
  intro empty
  have size := x.nr_size
  rw [empty] at size
  cases size

/-- Both peers rekey the same pair: each decides on the least nonce of its own exchange against
the one of the exchange it answered. -/
theorem childRekeyRace_decides {a b : ChildRekeyState} {protoid : UInt8} {keyA keyB : UInt64}
    {outA outB : ChildsaEntry} (ra : Rekeying a keyA protoid outA)
    (rb : Rekeying b keyB protoid outB) (same : SamePair outA outB) (x y : Exchange)
    (createdA createdB : List ChildsaPair) :
    childRekeyRace a b protoid keyA keyB x y createdA createdB =
      some (if ikev2NonceCmp x.least y.least < 0 then .deleteProposed else .negotiated,
        if ikev2NonceCmp y.least x.least < 0 then .deleteProposed else .negotiated) := by
  -- each request names the SPI under which the other peer finds its half of the pair
  have notifyA : outA.csa.csaPeerspi = keyB := same.1.trans (childsaLookup_some rb.found).2.1
  have notifyB : outB.csa.csaPeerspi = keyA := same.2.trans (childsaLookup_some ra.found).2.1
  simp only [childRekeyRace, ra.send, rb.send, Option.bind_eq_bind, Option.bind_some]
  rw [ra.respond notifyB x.ni y.ni y.nr y.ni_ne_nil createdA,
    rb.respond notifyA y.ni x.ni x.nr x.ni_ne_nil createdB]
  simp only [Option.bind_some]
  rw [ra.answer x.ni _ x.nr x.nr_ne_nil createdA, rb.answer y.ni _ y.nr y.nr_ne_nil createdB]
  rfl

/-- Exactly one side deletes its proposal: the one whose exchange has the smaller least
nonce. -/
theorem childRekeyRace_agree {a b : ChildRekeyState} {protoid : UInt8} {keyA keyB : UInt64}
    {outA outB : ChildsaEntry} (ra : Rekeying a keyA protoid outA)
    (rb : Rekeying b keyB protoid outB) (same : SamePair outA outB) {x y : Exchange}
    (apart : x.Apart y) (createdA createdB : List ChildsaPair) :
    ∃ outcomeA outcomeB,
      childRekeyRace a b protoid keyA keyB x y createdA createdB = some (outcomeA, outcomeB) ∧
      (outcomeA = .deleteProposed ↔
        min (byteValues x.ni) (byteValues x.nr) < min (byteValues y.ni) (byteValues y.nr)) ∧
      (outcomeB = .deleteProposed ↔ outcomeA ≠ .deleteProposed) := by
  refine ⟨_, _, childRekeyRace_decides ra rb same x y createdA createdB, ?_, ?_⟩
  · rw [← ikev2NonceCmp_least_neg_iff]
    split <;> simp_all
  · have flipped := apart.neg_iff_not
    by_cases below : ikev2NonceCmp x.least y.least < 0 <;> simp [below, flipped]

end Race

/-! ## Agreement -/

/-- Simultaneous rekeying is resolved the same way by both peers.  On distinct nonces
`ikev2_nonce_cmp` is antisymmetric, and it is transitive.  For an IKE SA, both peers keep the
new SA of the exchange whose least nonce is the larger and delete the other.  For a CHILD SA
pair, exactly one side deletes its own proposal: the one whose exchange has the smaller least
nonce. -/
theorem ikev2_simultaneous_rekeys_agree :
    (∀ a b : List UInt8, a ≠ b → (ikev2NonceCmp a b < 0 ↔ 0 < ikev2NonceCmp b a)) ∧
    (∀ a b c : List UInt8,
      ikev2NonceCmp a b < 0 → ikev2NonceCmp b c < 0 → ikev2NonceCmp a c < 0) ∧
    (∀ (stA stB : IkeRekeyState) (x y : Exchange), stA.saNexti = none → stA.reqChildsa = false →
      stB.saNexti = none → stB.reqChildsa = false → x.Apart y →
      simultaneousIkeRekey stA x y =
          some ⟨(keptExchange x y).newSa, some (deletedExchange x y).newSa⟩ ∧
        simultaneousIkeRekey stB y x =
          some ⟨(keptExchange x y).newSa, some (deletedExchange x y).newSa⟩) ∧
    (∀ (a b : ChildRekeyState) (protoid : UInt8) (keyA keyB : UInt64) (outA outB : ChildsaEntry)
      (x y : Exchange) (createdA createdB : List ChildsaPair),
      Rekeying a keyA protoid outA → Rekeying b keyB protoid outB → SamePair outA outB →
      x.Apart y →
      ∃ outcomeA outcomeB,
        childRekeyRace a b protoid keyA keyB x y createdA createdB = some (outcomeA, outcomeB) ∧
        (outcomeA = .deleteProposed ↔
          min (byteValues x.ni) (byteValues x.nr) < min (byteValues y.ni) (byteValues y.nr)) ∧
        (outcomeB = .deleteProposed ↔ outcomeA ≠ .deleteProposed)) := by
  refine ⟨?order, ?trans, ?ike, ?child⟩
  case order =>
    intro a b distinct
    exact ikev2NonceCmp_neg_iff_pos distinct
  case trans =>
    intro a b c ab bc
    exact ikev2NonceCmp_trans ab bc
  case ike =>
    intro stA stB x y startsA freeA startsB freeB apart
    exact simultaneousIkeRekey_agree startsA freeA startsB freeB apart
  case child =>
    intro a b protoid keyA keyB outA outB x y createdA createdB ra rb same apart
    exact childRekeyRace_agree ra rb same apart createdA createdB

-- Exchange `x`, started by the first peer, has the least nonce of the two.
def exchangeX : Exchange := ⟨List.replicate 32 1, List.replicate 32 4, rfl, rfl⟩

def exchangeY : Exchange := ⟨List.replicate 32 2, List.replicate 32 3, rfl, rfl⟩

-- A peer holding one loaded ESP pair whose outbound half is `out`, at address 1.
def rekeyingPeer (out : OpenIKED.Ikev2.SaKeys.IkedChildsa) : ChildRekeyState :=
  ⟨ChildsaState.empty.insertPair ⟨out, out.mirror, none⟩, 0, none, [], [], false⟩

-- The outbound halves of one pair on its two peers: SPIs 0x1000 and 0x2000.
def outboundA : OpenIKED.Ikev2.SaKeys.IkedChildsa :=
  ⟨3, .dirOut, 0x2000, true, false, true, false, ⟨0x1000, 4, 3⟩, none, 12, none, 12, .saLocal,
    .saPeer, 0⟩

def outboundB : OpenIKED.Ikev2.SaKeys.IkedChildsa :=
  ⟨3, .dirOut, 0x1000, true, false, true, false, ⟨0x2000, 4, 3⟩, none, 12, none, 12, .saLocal,
    .saPeer, 0⟩

theorem ikev2_simultaneous_rekeys_agree_of_fixtures :
    (simultaneousIkeRekey IkeRekeyState.idle exchangeX exchangeY =
        some ⟨(keptExchange exchangeX exchangeY).newSa,
          some (deletedExchange exchangeX exchangeY).newSa⟩ ∧
      simultaneousIkeRekey IkeRekeyState.idle exchangeY exchangeX =
        some ⟨(keptExchange exchangeX exchangeY).newSa,
          some (deletedExchange exchangeX exchangeY).newSa⟩) ∧
    ∃ outcomeA outcomeB,
      childRekeyRace (rekeyingPeer outboundA) (rekeyingPeer outboundB) 3 0x1000 0x2000 exchangeX
          exchangeY [] [] = some (outcomeA, outcomeB) ∧
        (outcomeA = .deleteProposed ↔
          min (byteValues exchangeX.ni) (byteValues exchangeX.nr) <
            min (byteValues exchangeY.ni) (byteValues exchangeY.nr)) ∧
        (outcomeB = .deleteProposed ↔ outcomeA ≠ .deleteProposed) :=
  ⟨ikev2_simultaneous_rekeys_agree.2.2.1 _ _ _ _ rfl rfl rfl rfl (by decide),
    ikev2_simultaneous_rekeys_agree.2.2.2 _ _ _ _ _ ⟨1, outboundA, some 2, none⟩
      ⟨1, outboundB, some 2, none⟩ _ _ [] [] ⟨rfl, rfl, rfl, rfl, rfl, rfl⟩
      ⟨rfl, rfl, rfl, rfl, rfl, rfl⟩ ⟨rfl, rfl⟩ (by decide)⟩

end OpenIKED.Ikev2.Rekey
