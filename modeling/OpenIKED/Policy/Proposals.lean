import OpenIKED.Ikev2.SaKeys

set_option autoImplicit false

/-!
# Proposal negotiation

`proposals_negotiate` walks the local proposals and, for each, the peer's proposals of the
same protocol.  `proposals_match` scores a pair with the preference ranks that
`config_add_transform` gave the local transforms; the cheapest pair of the first local
proposal that matches at all is copied into the result with `config_add_transform`.
-/

namespace OpenIKED.Policy.Proposals

open OpenIKED.Ikev2.SaKeys (ikev2SaprotoIke ikev2SaprotoAh ikev2SaprotoEsp ikev2XformtypeEncr
  ikev2XformtypeIntegr ikev2XformtypeEsn)

def ikev2XformtypePrf : UInt8 := 2
def ikev2XformtypeDh : UInt8 := 4
def ikev2XformtypeMax : Nat := 6

def ikev2XformdhNone : UInt16 := 0

/-- `struct iked_transform` as the negotiation reads it; the score is the preference rank,
lower preferred. -/
structure IkedTransform where
  xformType : UInt8
  xformId : UInt16
  xformLength : UInt16
  xformKeylength : UInt16
  xformScore : Nat
deriving DecidableEq, Repr

structure IkedSpi where
  spi : UInt64
  spiSize : UInt8
  spiProtoid : UInt8
deriving DecidableEq, Repr

structure IkedProposal where
  propId : UInt8
  propProtoid : UInt8
  propLocalspi : IkedSpi
  propPeerspi : IkedSpi
  propXforms : List IkedTransform
deriving DecidableEq, Repr

/-! ## `config_add_transform` and `config_add_proposal` -/

-- The transform types `config_add_transform` knows.
def knownXformtype (type : UInt8) : Bool :=
  type == ikev2XformtypeEncr || type == ikev2XformtypePrf || type == ikev2XformtypeIntegr ||
    type == ikev2XformtypeDh || type == ikev2XformtypeEsn

-- How far apart two transforms of one type are ranked.
def scoreStep (type : UInt8) : Nat :=
  if type = ikev2XformtypeEncr ∨ type = ikev2XformtypeIntegr then 3
  else if type = ikev2XformtypeDh then 2
  else 1

/-- `config_add_transform`: a transform already there is kept, a new one is appended behind
the others of its type with the next rank; `none` for an unknown type (-2). -/
def configAddTransform (prop : IkedProposal) (type : UInt8) (id length keylength : UInt16) :
    Option IkedProposal :=
  if !knownXformtype type then none
  else if prop.propXforms.any fun x => x.xformType == type && x.xformId == id && x.xformLength == length then
    some prop
  else
    let score := 1 + (prop.propXforms.filter (·.xformType == type)).length * scoreStep type
    some { prop with propXforms := prop.propXforms ++ [⟨type, id, length, keylength, score⟩] }

-- `config_free_proposals`: every proposal, or those of one protocol.
def configFreeProposals (head : List IkedProposal) (proto : UInt8) : List IkedProposal :=
  head.filter fun prop => proto ≠ 0 ∧ prop.propProtoid ≠ proto

/-- `config_add_proposal`: the list and the position of the proposal of that id and protocol,
appended when there is none. -/
def configAddProposal (head : List IkedProposal) (id proto : UInt8) : List IkedProposal × Nat :=
  match head.findIdx? fun pp => pp.propProtoid == proto && pp.propId == id with
  | some i => (head, i)
  | none => (head ++ [⟨id, proto, ⟨0, 0, 0⟩, ⟨0, 0, 0⟩, []⟩], head.length)

/-! ## `proposals_match` -/

-- `ikeencxfs` of `parse.y` by id, with whether the cipher authenticates itself.
def ikeencxfs : List (UInt16 × Bool) :=
  [(3, false), (3, false), (12, false), (12, false), (12, false), (20, true), (20, true),
    (19, true), (19, true)]

def encxfNoauth (id : UInt16) : Bool := ((ikeencxfs.find? (·.1 == id)).map (·.2)).getD false

def Matches (tpeer tlocal : IkedTransform) : Prop :=
  tpeer.xformType = tlocal.xformType ∧ tpeer.xformId = tlocal.xformId ∧
    tpeer.xformLength = tlocal.xformLength

instance (tpeer tlocal : IkedTransform) : Decidable (Matches tpeer tlocal) :=
  inferInstanceAs (Decidable (_ ∧ _))

-- The locals of the loops of `proposals_match`.
structure MatchState where
  xforms : Nat → Option IkedTransform
  peerxfs : Nat → Bool
  requiredh : Bool
  nodh : Bool
  dhforced : Bool

-- The chosen transform of a type gives way to a local one of a strictly lower rank.
def keepCheaper (cur : Option IkedTransform) (tlocal : IkedTransform) : Option IkedTransform :=
  match cur with
  | none => some tlocal
  | some x => if tlocal.xformScore < x.xformScore then some tlocal else some x

-- The inner loop's first two tests: a local DH group asks for PFS on an ESP rekey, an
-- explicit "none" waives it.
def noteDh (protoid : UInt8) (rekey : Bool) (st : MatchState) (tlocal : IkedTransform) :
    MatchState :=
  let espDh := rekey && protoid == ikev2SaprotoEsp && tlocal.xformType == ikev2XformtypeDh
  { st with
    requiredh := st.requiredh || (espDh && tlocal.xformId != ikev2XformdhNone)
    nodh := st.nodh || (espDh && tlocal.xformId == ikev2XformdhNone) }

-- The rest of the inner loop's body: a local transform equal to the peer's in type, id and
-- length may become the chosen one of its type.
def takeMatch (dhgroup : Int) (tpeer : IkedTransform) (st : MatchState) (tlocal : IkedTransform) :
    MatchState :=
  if ¬ Matches tpeer tlocal then st
  else
    let type := tpeer.xformType.toNat
    let dhPinned := !st.nodh && decide (0 ≤ dhgroup) && tpeer.xformType == ikev2XformtypeDh
    if dhPinned && st.dhforced then st
    else
      -- the KE payload's group replaces whatever group was chosen so far
      let st := if dhPinned && decide ((tlocal.xformId.toNat : Int) = dhgroup) then
        { st with xforms := Function.update st.xforms type none, dhforced := true }
      else st
      { st with xforms := Function.update st.xforms type (keepCheaper (st.xforms type) tlocal) }

/-- The inner loop's body: the local transform `tlocal` against the peer's `tpeer`. -/
def matchLocal (protoid : UInt8) (rekey : Bool) (dhgroup : Int) (tpeer : IkedTransform)
    (st : MatchState) (tlocal : IkedTransform) : MatchState :=
  takeMatch dhgroup tpeer (noteDh protoid rekey st tlocal) tlocal

-- The outer loop's body after the early return: a type from `IKEV2_XFORMTYPE_MAX` on is
-- skipped, and every other type the peer proposes is recorded.
def peerStep (locals : List IkedTransform) (protoid : UInt8) (rekey : Bool) (dhgroup : Int)
    (st : MatchState) (tpeer : IkedTransform) : MatchState :=
  if ikev2XformtypeMax ≤ tpeer.xformType.toNat then st
  else
    locals.foldl (matchLocal protoid rekey dhgroup tpeer)
      { st with peerxfs := Function.update st.peerxfs tpeer.xformType.toNat true }

/-- The outer loop's body: `none` is the early `return (0)` on an INTEGR transform next to an
AEAD cipher (INTEGR is below `IKEV2_XFORMTYPE_MAX`, so the skip cannot come first). -/
def matchPeer (locals : List IkedTransform) (protoid : UInt8) (rekey : Bool) (dhgroup : Int)
    (noauth : Bool) (st : MatchState) (tpeer : IkedTransform) : Option MatchState :=
  if noauth && tpeer.xformType == ikev2XformtypeIntegr then none
  else some (peerStep locals protoid rekey dhgroup st tpeer)

/-- The last loop: 0 when a type the protocol needs, or one the peer proposed, has no
transform, and otherwise the sum of the ranks. -/
def scoreLoop (protoid : UInt8) (noauth requiredh nodh : Bool) (peerxfs : Nat → Bool)
    (xforms : Nat → Option IkedTransform) : List Nat → Nat → Nat
  | [], score => score
  | i :: rest, score =>
    if protoid = ikev2SaprotoIke ∧ xforms i = none ∧
        (i = ikev2XformtypeEncr.toNat ∨ i = ikev2XformtypePrf.toNat ∨
          (noauth = false ∧ i = ikev2XformtypeIntegr.toNat) ∨ i = ikev2XformtypeDh.toNat) then 0
    else if protoid = ikev2SaprotoAh ∧ xforms i = none ∧
        (i = ikev2XformtypeIntegr.toNat ∨ i = ikev2XformtypeEsn.toNat) then 0
    else if protoid = ikev2SaprotoEsp ∧ xforms i = none ∧
        (i = ikev2XformtypeEncr.toNat ∨ i = ikev2XformtypeEsn.toNat ∨
          (requiredh = true ∧ nodh = false ∧ i = ikev2XformtypeDh.toNat)) then 0
    else if peerxfs i = true ∧ xforms i = none then 0
    else
      match xforms i with
      | none => scoreLoop protoid noauth requiredh nodh peerxfs xforms rest score
      | some x => scoreLoop protoid noauth requiredh nodh peerxfs xforms rest (score + x.xformScore)

def matchStart : MatchState := ⟨fun _ => none, fun _ => false, false, false, false⟩

-- The first loop: any AEAD cipher of the peer makes integrity implicit.
def peerNoauth (ppeer : IkedProposal) : Bool :=
  ppeer.propXforms.any fun t => t.xformType == ikev2XformtypeEncr && encxfNoauth t.xformId

/-- `proposals_match`: the score and the chosen transform of each type.  After the early
return the caller does not read the transforms. -/
def proposalsMatch (plocal ppeer : IkedProposal) (rekey : Bool) (dhgroup : Int) :
    Nat × (Nat → Option IkedTransform) :=
  let protoid := ppeer.propProtoid
  let noauth := peerNoauth ppeer
  match ppeer.propXforms.foldlM (matchPeer plocal.propXforms protoid rekey dhgroup noauth) matchStart with
  | none => (0, fun _ => none)
  | some st =>
    (scoreLoop protoid noauth st.requiredh st.nodh st.peerxfs st.xforms
      (List.range ikev2XformtypeMax) 0, st.xforms)

/-! ## `proposals_negotiate` -/

-- `chosen_score`, `valid` and `chosen`, `vpeer` and `vlocal`; no choice is a score of 0.
structure Choice where
  score : Nat
  valid : Nat → Option IkedTransform
  vpeer : IkedProposal
  vlocal : IkedProposal

def Choice.beaten (chosen : Option Choice) (score : Nat) : Bool :=
  match chosen with
  | none => true
  | some c => decide (score < c.score)

-- The inner loop's body: the peer's proposal `ppeer` against the local `plocal`.
def choosePeer (rekey : Bool) (groupid : Int) (plocal : IkedProposal) (chosen : Option Choice)
    (ppeer : IkedProposal) : Option Choice :=
  if ppeer.propProtoid ≠ plocal.propProtoid then chosen
  else
    let (score, m) := proposalsMatch plocal ppeer rekey groupid
    if score ≠ 0 ∧ Choice.beaten chosen score = true then some ⟨score, m, ppeer, plocal⟩
    else chosen

-- The outer loop, which stops after the first local proposal that matched.
def chooseLocal (peer : List IkedProposal) (rekey : Bool) (groupid : Int) :
    Option Choice → List IkedProposal → Option Choice
  | chosen, [] => chosen
  | chosen, plocal :: rest =>
    let chosen := peer.foldl (choosePeer rekey groupid plocal) chosen
    if chosen.isSome then chosen else chooseLocal peer rekey groupid chosen rest

-- The SPIs the result takes from the chosen pair.
def takeSpis (vpeer vlocal prop : IkedProposal) : IkedProposal :=
  let prop := if vpeer.propLocalspi.spiSize ≠ 0 then
      let localspi : IkedSpi := { prop.propLocalspi with spiSize := vpeer.propLocalspi.spiSize }
      { prop with propLocalspi := localspi, propPeerspi := vpeer.propPeerspi }
    else prop
  if vlocal.propLocalspi.spiSize ≠ 0 then
    let localspi : IkedSpi :=
      { prop.propLocalspi with spiSize := vlocal.propLocalspi.spiSize, spi := vlocal.propLocalspi.spi }
    { prop with propLocalspi := localspi }
  else prop

-- The last loop: the chosen transforms by type, until `config_add_transform` fails.
def addChosen (valid : Nat → Option IkedTransform) : List Nat → IkedProposal → IkedProposal
  | [], prop => prop
  | i :: rest, prop =>
    match valid i with
    | none => addChosen valid rest prop
    | some x =>
      match configAddTransform prop x.xformType x.xformId x.xformLength x.xformKeylength with
      | some prop => addChosen valid rest prop
      | none => prop

/-- `proposals_negotiate(result, local, peer, rekey, groupid)`: 0 or -1, and the result list
as it is left, `none` for a NULL `result`. -/
def proposalsNegotiate (result : Option (List IkedProposal)) (locals peer : List IkedProposal)
    (rekey : Bool) (groupid : Int) : Int × Option (List IkedProposal) :=
  if peer.isEmpty then (-1, result)
  else
    match chooseLocal peer rekey groupid none locals with
    | none => (-1, result)
    | some c =>
      match result with
      | none => (0, none)
      | some result =>
        let (result, i) := configAddProposal (configFreeProposals result c.vpeer.propProtoid)
          c.vpeer.propId c.vpeer.propProtoid
        (0, some (result.modify i fun prop =>
          addChosen c.valid (List.range ikev2XformtypeMax) (takeSpis c.vpeer c.vlocal prop)))

/-! ## The chosen transform of a type -/

section Cheaper

theorem keepCheaper_isSome (cur : Option IkedTransform) (tlocal : IkedTransform) :
    (keepCheaper cur tlocal).isSome := by
  cases cur with
  | none => rfl
  | some x => simp only [keepCheaper]; split <;> rfl

-- The chosen transform is the start or one of the candidates.
theorem foldl_keepCheaper_mem (cands : List IkedTransform) :
    ∀ (init : Option IkedTransform) (d : IkedTransform), cands.foldl keepCheaper init = some d →
      init = some d ∨ d ∈ cands := by
  induction cands with
  | nil => intro init d done; exact .inl done
  | cons x rest ih =>
    intro init d done
    rcases ih _ d done with start | later
    · -- the step kept the start or took `x`
      cases init with
      | none => cases start; exact .inr List.mem_cons_self
      | some y =>
        simp only [keepCheaper] at start
        split at start
        · cases start; exact .inr List.mem_cons_self
        · exact .inl start
    · exact .inr (List.mem_cons_of_mem x later)

-- A transform no candidate undercuts stays chosen.
theorem foldl_keepCheaper_stays (cands : List IkedTransform) (c : IkedTransform)
    (least : ∀ x ∈ cands, c.xformScore ≤ x.xformScore) :
    cands.foldl keepCheaper (some c) = some c := by
  induction cands with
  | nil => rfl
  | cons x rest ih =>
    have kept : keepCheaper (some c) x = some c := by
      simp [keepCheaper, Nat.not_lt.mpr (least x List.mem_cons_self)]
    rw [List.foldl_cons, kept]
    exact ih fun y mem => least y (List.mem_cons_of_mem x mem)

/-- The candidate of strictly lowest rank ends up chosen. -/
theorem foldl_keepCheaper_reaches (cands : List IkedTransform) (c : IkedTransform)
    (mem : c ∈ cands) (least : ∀ x ∈ cands, x ≠ c → c.xformScore < x.xformScore) :
    ∀ init : Option IkedTransform, (∀ y, init = some y → c.xformScore < y.xformScore) →
      cands.foldl keepCheaper init = some c := by
  induction cands with
  | nil => cases mem
  | cons x rest ih =>
    intro init above
    by_cases same : x = c
    · subst same
      have taken : keepCheaper init x = some x := by
        cases init with
        | none => rfl
        | some y => simp [keepCheaper, above y rfl]
      rw [List.foldl_cons, taken]
      apply foldl_keepCheaper_stays
      intro y mem'
      by_cases other : y = x
      · rw [other]
      · exact Nat.le_of_lt (least y (List.mem_cons_of_mem _ mem') other)
    · have later : c ∈ rest := (List.mem_cons.mp mem).resolve_left (Ne.symm same)
      rw [List.foldl_cons]
      apply ih later fun y mem' => least y (List.mem_cons_of_mem _ mem')
      intro y step
      -- the step chose `x` or kept the start, both ranked above `c`
      cases init with
      | none => cases step; exact least x List.mem_cons_self same
      | some z =>
        simp only [keepCheaper] at step
        split at step
        · cases step; exact least x List.mem_cons_self same
        · cases step; exact above y rfl

theorem keepCheaper_eq_some {cur : Option IkedTransform} {tlocal d : IkedTransform}
    (chosen : keepCheaper cur tlocal = some d) : d = tlocal ∨ cur = some d := by
  cases cur with
  | none => cases chosen; exact .inl rfl
  | some x =>
    simp only [keepCheaper] at chosen
    split at chosen
    · cases chosen; exact .inl rfl
    · exact .inr chosen

end Cheaper

/-! ## The loops of `proposals_match` -/

section Step

@[simp] theorem noteDh_xforms (protoid : UInt8) (rekey : Bool) (st : MatchState) (tlocal : IkedTransform) :
    (noteDh protoid rekey st tlocal).xforms = st.xforms := rfl

@[simp] theorem noteDh_peerxfs (protoid : UInt8) (rekey : Bool) (st : MatchState) (tlocal : IkedTransform) :
    (noteDh protoid rekey st tlocal).peerxfs = st.peerxfs := rfl

@[simp] theorem noteDh_dhforced (protoid : UInt8) (rekey : Bool) (st : MatchState) (tlocal : IkedTransform) :
    (noteDh protoid rekey st tlocal).dhforced = st.dhforced := rfl

/-- What one local transform can do to the chosen transforms: nothing, when it does not match
or the KE payload's group is taken already; keep the cheaper; or, as the KE payload's group,
replace the chosen group. -/
theorem takeMatch_cases (dhgroup : Int) (tpeer : IkedTransform) (st : MatchState) (tlocal : IkedTransform) :
    (takeMatch dhgroup tpeer st tlocal = st ∧
        (¬ Matches tpeer tlocal ∨ (tpeer.xformType = ikev2XformtypeDh ∧ st.dhforced = true))) ∨
      (Matches tpeer tlocal ∧ takeMatch dhgroup tpeer st tlocal =
        { st with xforms := (Function.update st.xforms tpeer.xformType.toNat
            (keepCheaper (st.xforms tpeer.xformType.toNat) tlocal)) }) ∨
      (Matches tpeer tlocal ∧ tpeer.xformType = ikev2XformtypeDh ∧ takeMatch dhgroup tpeer st tlocal =
        { st with
          xforms := Function.update st.xforms tpeer.xformType.toNat (some tlocal)
          dhforced := true }) := by
  unfold takeMatch
  by_cases matched : Matches tpeer tlocal
  · rw [if_neg (fun unmatched => unmatched matched)]
    dsimp only
    split_ifs with skipped pinned
    · simp only [Bool.and_eq_true, beq_iff_eq] at skipped
      exact .inl ⟨rfl, .inr ⟨skipped.1.2, skipped.2⟩⟩
    · simp only [Bool.and_eq_true, beq_iff_eq] at pinned
      refine .inr (.inr ⟨matched, pinned.1.2, ?_⟩)
      simp [keepCheaper]
    · exact .inr (.inl ⟨matched, rfl⟩)
  · rw [if_pos matched]
    exact .inl ⟨rfl, .inl matched⟩

-- The KE payload's group, once taken, is the chosen group.
def DhOk (st : MatchState) : Prop := st.dhforced = true → (st.xforms ikev2XformtypeDh.toNat).isSome

-- Every chosen transform is a local one of its slot's type.
def SlotsFrom (locals : List IkedTransform) (st : MatchState) : Prop :=
  ∀ t d, st.xforms t = some d → d ∈ locals ∧ d.xformType.toNat = t

end Step

section Local

variable (protoid : UInt8) (rekey : Bool) (dhgroup : Int) (tpeer : IkedTransform)

@[simp] theorem matchLocal_peerxfs (st : MatchState) (tlocal : IkedTransform) :
    (matchLocal protoid rekey dhgroup tpeer st tlocal).peerxfs = st.peerxfs := by
  unfold matchLocal
  rcases takeMatch_cases dhgroup tpeer (noteDh protoid rekey st tlocal) tlocal with
    ⟨same, -⟩ | ⟨-, kept⟩ | ⟨-, -, forced⟩
  · rw [same]; rfl
  · rw [kept]; rfl
  · rw [forced]; rfl

-- Only the slot of the peer transform's type changes.
theorem matchLocal_xforms_other (st : MatchState) (tlocal : IkedTransform) {t : Nat}
    (other : t ≠ tpeer.xformType.toNat) :
    (matchLocal protoid rekey dhgroup tpeer st tlocal).xforms t = st.xforms t := by
  unfold matchLocal
  rcases takeMatch_cases dhgroup tpeer (noteDh protoid rekey st tlocal) tlocal with
    ⟨same, -⟩ | ⟨-, kept⟩ | ⟨-, -, forced⟩
  · rw [same]; rfl
  · rw [kept]; simp [Function.update_of_ne other]
  · rw [forced]; simp [Function.update_of_ne other]

-- Away from the DH groups, a matching local transform competes on its rank.
theorem matchLocal_xforms_of_ne_dh (st : MatchState) (tlocal : IkedTransform)
    (notDh : tpeer.xformType ≠ ikev2XformtypeDh) :
    (matchLocal protoid rekey dhgroup tpeer st tlocal).xforms tpeer.xformType.toNat =
      if Matches tpeer tlocal then keepCheaper (st.xforms tpeer.xformType.toNat) tlocal
      else st.xforms tpeer.xformType.toNat := by
  unfold matchLocal
  rcases takeMatch_cases dhgroup tpeer (noteDh protoid rekey st tlocal) tlocal with
    ⟨same, unmatched | ⟨dh, -⟩⟩ | ⟨matched, kept⟩ | ⟨-, dh, -⟩
  · rw [same, if_neg unmatched]; rfl
  · exact absurd dh notDh
  · rw [kept, if_pos matched]; simp
  · exact absurd dh notDh

theorem matchLocal_slots (st : MatchState) (tlocal : IkedTransform) {t : Nat} {d : IkedTransform}
    (chosen : (matchLocal protoid rekey dhgroup tpeer st tlocal).xforms t = some d) :
    st.xforms t = some d ∨ (d = tlocal ∧ Matches tpeer tlocal ∧ tpeer.xformType.toNat = t) := by
  unfold matchLocal at chosen
  rcases takeMatch_cases dhgroup tpeer (noteDh protoid rekey st tlocal) tlocal with
    ⟨same, -⟩ | ⟨matched, kept⟩ | ⟨matched, -, forced⟩
  · rw [same] at chosen; exact .inl chosen
  · rw [kept] at chosen
    by_cases here : t = tpeer.xformType.toNat
    · subst here
      simp only [Function.update_self, noteDh_xforms] at chosen
      rcases keepCheaper_eq_some chosen with taken | before
      · exact .inr ⟨taken, matched, rfl⟩
      · exact .inl before
    · simpa [Function.update_of_ne here] using Or.inl chosen
  · rw [forced] at chosen
    by_cases here : t = tpeer.xformType.toNat
    · subst here
      simp only [Function.update_self, Option.some.injEq] at chosen
      exact .inr ⟨chosen.symm, matched, rfl⟩
    · simpa [Function.update_of_ne here] using Or.inl chosen

-- Chosen slots stay chosen, a match fills its slot, and the taken KE group stays chosen.
theorem matchLocal_isSome (st : MatchState) (tlocal : IkedTransform) (ok : DhOk st) :
    DhOk (matchLocal protoid rekey dhgroup tpeer st tlocal) ∧
      (∀ t, (st.xforms t).isSome → ((matchLocal protoid rekey dhgroup tpeer st tlocal).xforms t).isSome) ∧
      (Matches tpeer tlocal →
        ((matchLocal protoid rekey dhgroup tpeer st tlocal).xforms tpeer.xformType.toNat).isSome) := by
  unfold matchLocal
  rcases takeMatch_cases dhgroup tpeer (noteDh protoid rekey st tlocal) tlocal with
    ⟨same, unmatched | ⟨dh, forcedBefore⟩⟩ | ⟨matched, kept⟩ | ⟨matched, dh, forced⟩
  · rw [same]
    exact ⟨ok, fun t filled => filled, fun matched => absurd matched unmatched⟩
  · rw [same]
    refine ⟨ok, fun t filled => filled, fun _ => ?_⟩
    rw [dh]
    exact ok forcedBefore
  · rw [kept]
    refine ⟨?_, fun t filled => ?_, fun _ => by simp [keepCheaper_isSome]⟩
    · intro forcedNow
      by_cases here : ikev2XformtypeDh.toNat = tpeer.xformType.toNat
      · simp [here, keepCheaper_isSome]
      · simpa [Function.update_of_ne here] using ok forcedNow
    · by_cases here : t = tpeer.xformType.toNat
      · simp [here, keepCheaper_isSome]
      · simpa [Function.update_of_ne here] using filled
  · rw [forced]
    refine ⟨fun _ => by simp [dh], fun t filled => ?_, fun _ => by simp⟩
    by_cases here : t = tpeer.xformType.toNat
    · simp [here]
    · simpa [Function.update_of_ne here] using filled

variable (locals : List IkedTransform)

theorem foldl_matchLocal_peerxfs (st : MatchState) :
    (locals.foldl (matchLocal protoid rekey dhgroup tpeer) st).peerxfs = st.peerxfs := by
  induction locals generalizing st with
  | nil => rfl
  | cons x rest ih => rw [List.foldl_cons, ih, matchLocal_peerxfs]

theorem foldl_matchLocal_xforms_other (st : MatchState) {t : Nat} (other : t ≠ tpeer.xformType.toNat) :
    (locals.foldl (matchLocal protoid rekey dhgroup tpeer) st).xforms t = st.xforms t := by
  induction locals generalizing st with
  | nil => rfl
  | cons x rest ih => rw [List.foldl_cons, ih, matchLocal_xforms_other _ _ _ _ _ _ other]

-- Away from the DH groups the inner loop keeps the cheapest matching local transform.
theorem foldl_matchLocal_xforms_of_ne_dh (st : MatchState) (notDh : tpeer.xformType ≠ ikev2XformtypeDh) :
    (locals.foldl (matchLocal protoid rekey dhgroup tpeer) st).xforms tpeer.xformType.toNat =
      (locals.filter fun x => decide (Matches tpeer x)).foldl keepCheaper
        (st.xforms tpeer.xformType.toNat) := by
  induction locals generalizing st with
  | nil => rfl
  | cons x rest ih =>
    rw [List.foldl_cons, ih, matchLocal_xforms_of_ne_dh _ _ _ _ _ _ notDh]
    by_cases matched : Matches tpeer x
    · rw [if_pos matched, List.filter_cons_of_pos (by simpa using matched), List.foldl_cons]
    · rw [if_neg matched, List.filter_cons_of_neg (by simpa using matched)]

theorem foldl_matchLocal_slots (all : List IkedTransform) (inAll : ∀ x ∈ locals, x ∈ all)
    (st : MatchState) (slots : SlotsFrom all st) :
    SlotsFrom all (locals.foldl (matchLocal protoid rekey dhgroup tpeer) st) := by
  induction locals generalizing st with
  | nil => exact slots
  | cons x rest ih =>
    rw [List.foldl_cons]
    apply ih (fun y mem => inAll y (List.mem_cons_of_mem x mem))
    intro t d chosen
    rcases matchLocal_slots _ _ _ _ _ _ chosen with before | ⟨rfl, matched, rfl⟩
    · exact slots t d before
    · exact ⟨inAll _ List.mem_cons_self, by rw [matched.1]⟩

theorem foldl_matchLocal_isSome (st : MatchState) (ok : DhOk st) :
    DhOk (locals.foldl (matchLocal protoid rekey dhgroup tpeer) st) ∧
      (∀ t, (st.xforms t).isSome →
        ((locals.foldl (matchLocal protoid rekey dhgroup tpeer) st).xforms t).isSome) ∧
      ((∃ x ∈ locals, Matches tpeer x) →
        ((locals.foldl (matchLocal protoid rekey dhgroup tpeer) st).xforms tpeer.xformType.toNat).isSome) := by
  induction locals generalizing st with
  | nil => exact ⟨ok, fun t filled => filled, fun ⟨x, mem, _⟩ => absurd mem List.not_mem_nil⟩
  | cons x rest ih =>
    obtain ⟨ok', stays, fills⟩ := matchLocal_isSome protoid rekey dhgroup tpeer st x ok
    obtain ⟨okAfter, staysAfter, fillsAfter⟩ := ih _ ok'
    refine ⟨okAfter, fun t filled => staysAfter t (stays t filled), ?_⟩
    rintro ⟨y, mem, matched⟩
    rcases List.mem_cons.mp mem with rfl | later
    · exact staysAfter _ (fills matched)
    · exact fillsAfter ⟨y, later, matched⟩

end Local

section Outer

variable (locals : List IkedTransform) (protoid : UInt8) (rekey : Bool) (dhgroup : Int)

-- The local transforms the loops offer to slot `t`, in the order they meet them.
def slotCandidates (peer : List IkedTransform) (t : Nat) : List IkedTransform :=
  peer.flatMap fun tpeer =>
    if ikev2XformtypeMax ≤ tpeer.xformType.toNat ∨ tpeer.xformType.toNat ≠ t then []
    else locals.filter fun x => decide (Matches tpeer x)

theorem foldlM_matchPeer_eq (noauth : Bool) (peer : List IkedTransform)
    (noReturn : ∀ y ∈ peer, noauth = true → y.xformType ≠ ikev2XformtypeIntegr) (st : MatchState) :
    peer.foldlM (matchPeer locals protoid rekey dhgroup noauth) st =
      some (peer.foldl (peerStep locals protoid rekey dhgroup) st) := by
  induction peer generalizing st with
  | nil => rfl
  | cons y rest ih =>
    have stays : matchPeer locals protoid rekey dhgroup noauth st y =
        some (peerStep locals protoid rekey dhgroup st y) := by
      have quiet : (noauth && y.xformType == ikev2XformtypeIntegr) = false := by
        cases noauth with
        | false => rfl
        | true => simpa using noReturn y List.mem_cons_self rfl
      simp [matchPeer, quiet]
    rw [List.foldlM_cons, stays, Option.bind_eq_bind, Option.bind_some, List.foldl_cons]
    exact ih (fun z mem => noReturn z (List.mem_cons_of_mem y mem)) _

-- Away from the DH groups, slot `t` ends with the cheapest of its candidates.
theorem foldl_peerStep_xforms_of_ne_dh (peer : List IkedTransform) {t : Nat}
    (notDh : t ≠ ikev2XformtypeDh.toNat) (st : MatchState) :
    (peer.foldl (peerStep locals protoid rekey dhgroup) st).xforms t =
      (slotCandidates locals peer t).foldl keepCheaper (st.xforms t) := by
  induction peer generalizing st with
  | nil => rfl
  | cons y rest ih =>
    rw [List.foldl_cons, ih]
    unfold slotCandidates
    rw [List.flatMap_cons, List.foldl_append]
    congr 1
    unfold peerStep
    by_cases skipped : ikev2XformtypeMax ≤ y.xformType.toNat
    · simp [skipped]
    · by_cases here : y.xformType.toNat = t
      · subst here
        have yNotDh : y.xformType ≠ ikev2XformtypeDh := fun dh => notDh (by rw [dh])
        simp only [skipped, if_false, ne_eq, not_true_eq_false, or_self]
        exact foldl_matchLocal_xforms_of_ne_dh protoid rekey dhgroup y locals _ yNotDh
      · simp only [skipped, if_false, here, ne_eq, not_false_eq_true, or_true, if_true,
          List.foldl_nil]
        exact foldl_matchLocal_xforms_other protoid rekey dhgroup y locals _ (Ne.symm here)

theorem foldl_peerStep_slots (peer : List IkedTransform) (st : MatchState) (slots : SlotsFrom locals st) :
    SlotsFrom locals (peer.foldl (peerStep locals protoid rekey dhgroup) st) := by
  induction peer generalizing st with
  | nil => exact slots
  | cons y rest ih =>
    rw [List.foldl_cons]
    apply ih
    unfold peerStep
    split
    · exact slots
    · exact foldl_matchLocal_slots protoid rekey dhgroup y locals locals (fun _ mem => mem) _ slots

theorem foldl_peerStep_peerxfs (peer : List IkedTransform) (st : MatchState) {i : Nat}
    (proposed : (peer.foldl (peerStep locals protoid rekey dhgroup) st).peerxfs i = true) :
    st.peerxfs i = true ∨ ∃ y ∈ peer, y.xformType.toNat = i := by
  induction peer generalizing st with
  | nil => exact .inl proposed
  | cons y rest ih =>
    rw [List.foldl_cons] at proposed
    rcases ih _ proposed with before | ⟨z, mem, same⟩
    · unfold peerStep at before
      split at before
      · exact .inl before
      · rw [foldl_matchLocal_peerxfs] at before
        by_cases here : i = y.xformType.toNat
        · exact .inr ⟨y, List.mem_cons_self, here.symm⟩
        · simp only [Function.update_of_ne here] at before
          exact .inl before
    · exact .inr ⟨z, List.mem_cons_of_mem y mem, same⟩

theorem foldl_peerStep_isSome (peer : List IkedTransform) (st : MatchState) (ok : DhOk st) :
    DhOk (peer.foldl (peerStep locals protoid rekey dhgroup) st) ∧
      (∀ t, (st.xforms t).isSome →
        ((peer.foldl (peerStep locals protoid rekey dhgroup) st).xforms t).isSome) ∧
      (∀ y ∈ peer, y.xformType.toNat < ikev2XformtypeMax → (∃ x ∈ locals, Matches y x) →
        ((peer.foldl (peerStep locals protoid rekey dhgroup) st).xforms y.xformType.toNat).isSome) := by
  induction peer generalizing st with
  | nil => exact ⟨ok, fun t filled => filled, fun y mem => absurd mem List.not_mem_nil⟩
  | cons y rest ih =>
    rw [List.foldl_cons]
    by_cases skipped : ikev2XformtypeMax ≤ y.xformType.toNat
    · have same : peerStep locals protoid rekey dhgroup st y = st := by simp [peerStep, skipped]
      rw [same]
      obtain ⟨okAfter, stays, fills⟩ := ih st ok
      refine ⟨okAfter, stays, fun z mem below matched => ?_⟩
      rcases List.mem_cons.mp mem with rfl | later
      · omega
      · exact fills z later below matched
    · -- the inner loop for `y` fills `y`'s slot, and the later loops keep it filled
      have step : peerStep locals protoid rekey dhgroup st y =
          locals.foldl (matchLocal protoid rekey dhgroup y)
            { st with peerxfs := Function.update st.peerxfs y.xformType.toNat true } := by
        simp [peerStep, skipped]
      obtain ⟨okInner, staysInner, fillsInner⟩ := foldl_matchLocal_isSome protoid rekey dhgroup y
        locals { st with peerxfs := Function.update st.peerxfs y.xformType.toNat true } ok
      rw [step]
      obtain ⟨okAfter, stays, fills⟩ := ih _ okInner
      refine ⟨okAfter, fun t filled => stays t (staysInner t filled), fun z mem below matched => ?_⟩
      rcases List.mem_cons.mp mem with rfl | later
      · exact stays _ (fillsInner matched)
      · exact fills z later below matched

end Outer

/-! ## The score of a pair -/

section Match

theorem mem_slotCandidates {locals peer : List IkedTransform} {t : Nat} {x : IkedTransform} :
    x ∈ slotCandidates locals peer t ↔
      x ∈ locals ∧ ∃ y ∈ peer, y.xformType.toNat < ikev2XformtypeMax ∧ y.xformType.toNat = t ∧ Matches y x := by
  simp only [slotCandidates, List.mem_flatMap]
  constructor
  · rintro ⟨y, mem, taken⟩
    split at taken
    · cases taken
    · rename_i kept
      simp only [List.mem_filter, decide_eq_true_eq] at taken
      simp only [not_or, Nat.not_le, ne_eq, not_not] at kept
      exact ⟨taken.1, y, mem, kept.1, kept.2, taken.2⟩
  · rintro ⟨local_, y, mem, below, here, matched⟩
    refine ⟨y, mem, ?_⟩
    rw [if_neg (by omega)]
    simpa using ⟨local_, matched⟩

theorem slotCandidates_eq_nil {locals peer : List IkedTransform} {t : Nat}
    (absent : ∀ y ∈ peer, y.xformType.toNat ≠ t) : slotCandidates locals peer t = [] := by
  apply List.eq_nil_iff_forall_not_mem.mpr
  intro x mem
  obtain ⟨-, y, offered, -, here, -⟩ := mem_slotCandidates.mp mem
  exact absent y offered here

theorem proposalsMatch_of_no_return (plocal ppeer : IkedProposal) (rekey : Bool) (dhgroup : Int)
    (noReturn : ∀ y ∈ ppeer.propXforms, peerNoauth ppeer = true → y.xformType ≠ ikev2XformtypeIntegr) :
    proposalsMatch plocal ppeer rekey dhgroup =
      (scoreLoop ppeer.propProtoid (peerNoauth ppeer)
        (ppeer.propXforms.foldl (peerStep plocal.propXforms ppeer.propProtoid rekey dhgroup) matchStart).requiredh
        (ppeer.propXforms.foldl (peerStep plocal.propXforms ppeer.propProtoid rekey dhgroup) matchStart).nodh
        (ppeer.propXforms.foldl (peerStep plocal.propXforms ppeer.propProtoid rekey dhgroup) matchStart).peerxfs
        (ppeer.propXforms.foldl (peerStep plocal.propXforms ppeer.propProtoid rekey dhgroup) matchStart).xforms
        (List.range ikev2XformtypeMax) 0,
       (ppeer.propXforms.foldl (peerStep plocal.propXforms ppeer.propProtoid rekey dhgroup) matchStart).xforms) := by
  simp only [proposalsMatch]
  rw [foldlM_matchPeer_eq _ _ _ _ _ _ noReturn]

theorem range_xformtypeMax : List.range ikev2XformtypeMax = [0, 1, 2, 3, 4, 5] := rfl

end Match

/-! ## The result proposal -/

section Result

-- What `config_add_transform` appends: nothing, or the transform it was given.
theorem configAddTransform_grows {prop prop' : IkedProposal} {type : UInt8} {id length keylength : UInt16}
    (added : configAddTransform prop type id length keylength = some prop') :
    ∃ xs, prop' = { prop with propXforms := prop.propXforms ++ xs } ∧
      ∀ x ∈ xs, x.xformType = type ∧ x.xformId = id ∧ x.xformLength = length := by
  unfold configAddTransform at added
  split at added
  · cases added
  · split at added
    · cases added
      exact ⟨[], by simp, by simp⟩
    · cases added
      exact ⟨_, rfl, by simp⟩

theorem configAddTransform_holds {prop prop' : IkedProposal} {type : UInt8} {id length keylength : UInt16}
    (added : configAddTransform prop type id length keylength = some prop') :
    ∃ x ∈ prop'.propXforms, x.xformType = type ∧ x.xformId = id ∧ x.xformLength = length := by
  unfold configAddTransform at added
  split at added
  · cases added
  · split at added
    · rename_i present
      cases added
      simpa [and_assoc] using present
    · cases added
      exact ⟨_, List.mem_append_right _ List.mem_cons_self, rfl, rfl, rfl⟩

theorem configAddTransform_isSome (prop : IkedProposal) {type : UInt8} (id length keylength : UInt16)
    (known : knownXformtype type = true) :
    (configAddTransform prop type id length keylength).isSome := by
  unfold configAddTransform
  rw [if_neg (by simp [known])]
  split <;> rfl

theorem knownXformtype_of_toNat {type : UInt8} (low : 0 < type.toNat) (high : type.toNat < ikev2XformtypeMax) :
    knownXformtype type = true := by
  have : type.toNat = 1 ∨ type.toNat = 2 ∨ type.toNat = 3 ∨ type.toNat = 4 ∨ type.toNat = 5 := by
    simp only [ikev2XformtypeMax] at high
    omega
  rcases this with h | h | h | h | h <;>
    simp [knownXformtype, ← UInt8.toNat_inj, h, ikev2XformtypeEncr, ikev2XformtypePrf,
      ikev2XformtypeIntegr, ikev2XformtypeDh, ikev2XformtypeEsn]

variable (valid : Nat → Option IkedTransform)

/-- The last loop of `proposals_negotiate` appends to the proposal, and each transform it
appends is one of the chosen. -/
theorem addChosen_grows (is : List Nat) (prop : IkedProposal) :
    ∃ xs, addChosen valid is prop = { prop with propXforms := prop.propXforms ++ xs } ∧
      ∀ x ∈ xs, ∃ i ∈ is, ∃ v, valid i = some v ∧ Matches x v := by
  induction is generalizing prop with
  | nil => exact ⟨[], by simp [addChosen], by simp⟩
  | cons i rest ih =>
    cases chosen : valid i with
    | none =>
      obtain ⟨xs, eq, origin⟩ := ih prop
      refine ⟨xs, by simp only [addChosen, chosen, eq], fun x mem => ?_⟩
      obtain ⟨j, later, v, hv, same⟩ := origin x mem
      exact ⟨j, List.mem_cons_of_mem i later, v, hv, same⟩
    | some v =>
      cases added : configAddTransform prop v.xformType v.xformId v.xformLength v.xformKeylength with
      | none => exact ⟨[], by simp [addChosen, chosen, added], by simp⟩
      | some prop' =>
        obtain ⟨ys, grown, new⟩ := configAddTransform_grows added
        obtain ⟨xs, eq, origin⟩ := ih prop'
        refine ⟨ys ++ xs, ?_, fun x mem => ?_⟩
        · simp only [addChosen, chosen, added]
          rw [eq, grown]
          simp
        rcases List.mem_append.mp mem with fresh | later
        · exact ⟨i, List.mem_cons_self, v, chosen, new x fresh⟩
        · obtain ⟨j, mem_j, w, hw, same⟩ := origin x later
          exact ⟨j, List.mem_cons_of_mem i mem_j, w, hw, same⟩

/-- Each chosen transform of a known type ends up in the proposal. -/
theorem addChosen_holds (is : List Nat)
    (known : ∀ i ∈ is, ∀ v, valid i = some v → knownXformtype v.xformType = true) (prop : IkedProposal) :
    ∀ i ∈ is, ∀ v, valid i = some v → ∃ x ∈ (addChosen valid is prop).propXforms, Matches x v := by
  induction is generalizing prop with
  | nil => intro i mem; cases mem
  | cons i rest ih =>
    intro j mem v chosen
    have later := ih (fun k mem' => known k (List.mem_cons_of_mem i mem'))
    cases valid_i : valid i with
    | none =>
      have other : j ≠ i := by rintro rfl; rw [valid_i] at chosen; cases chosen
      simp only [addChosen, valid_i]
      exact later prop j ((List.mem_cons.mp mem).resolve_left other) v chosen
    | some w =>
      obtain ⟨prop', added⟩ := Option.isSome_iff_exists.mp
        (configAddTransform_isSome prop w.xformId w.xformLength w.xformKeylength
          (known i List.mem_cons_self w valid_i))
      simp only [addChosen, valid_i, added]
      by_cases here : j = i
      · -- the transform is in the proposal the rest of the loop grows
        subst here
        rw [valid_i] at chosen
        cases chosen
        obtain ⟨x, mem_x, same⟩ := configAddTransform_holds added
        obtain ⟨xs, eq, -⟩ := addChosen_grows valid rest prop'
        exact ⟨x, by rw [eq]; exact List.mem_append_left _ mem_x, same⟩
      · exact later prop' j ((List.mem_cons.mp mem).resolve_left here) v chosen

@[simp] theorem takeSpis_propXforms (vpeer vlocal prop : IkedProposal) :
    (takeSpis vpeer vlocal prop).propXforms = prop.propXforms := by
  unfold takeSpis
  split_ifs <;> rfl

@[simp] theorem takeSpis_propId (vpeer vlocal prop : IkedProposal) :
    (takeSpis vpeer vlocal prop).propId = prop.propId := by
  unfold takeSpis
  split_ifs <;> rfl

@[simp] theorem takeSpis_propProtoid (vpeer vlocal prop : IkedProposal) :
    (takeSpis vpeer vlocal prop).propProtoid = prop.propProtoid := by
  unfold takeSpis
  split_ifs <;> rfl

-- With the proposals of a protocol freed, `config_add_proposal` appends a fresh one.
theorem configAddProposal_freed (head : List IkedProposal) (id proto : UInt8) :
    configAddProposal (configFreeProposals head proto) id proto =
      (configFreeProposals head proto ++ [⟨id, proto, ⟨0, 0, 0⟩, ⟨0, 0, 0⟩, []⟩],
        (configFreeProposals head proto).length) := by
  have fresh : (configFreeProposals head proto).findIdx?
      (fun pp => pp.propProtoid == proto && pp.propId == id) = none := by
    rw [List.findIdx?_eq_none_iff]
    intro pp mem
    have other := (List.mem_filter.mp mem).2
    simp only [decide_eq_true_eq] at other
    simp [other.2]
  simp only [configAddProposal, fresh]

theorem modify_append_length {α : Type} (l : List α) (x : α) (f : α → α) :
    (l ++ [x]).modify l.length f = l ++ [f x] := by
  simp [List.modify_eq_take_drop]

/-- One local and one peer proposal of a protocol, with a positive score, are chosen. -/
theorem chooseLocal_pair {plocal ppeer : IkedProposal} {rekey : Bool} {groupid : Int} {score : Nat}
    {m : Nat → Option IkedTransform} (same : ppeer.propProtoid = plocal.propProtoid)
    (matched : proposalsMatch plocal ppeer rekey groupid = (score, m)) (positive : 0 < score) :
    chooseLocal [ppeer] rekey groupid none [plocal] = some ⟨score, m, ppeer, plocal⟩ := by
  have chosen : choosePeer rekey groupid plocal none ppeer = some ⟨score, m, ppeer, plocal⟩ := by
    unfold choosePeer
    rw [if_neg (not_not.mpr same)]
    simp only [matched]
    rw [if_pos ⟨Nat.pos_iff_ne_zero.mp positive, rfl⟩]
  simp [chooseLocal, chosen]

end Result

/-! ## Whether a pair is chosen -/

section Choose

variable (rekey : Bool) (groupid : Int)

-- A peer proposal of the local one's protocol with a positive score makes a choice.
theorem choosePeer_isSome_iff (plocal : IkedProposal) (chosen : Option Choice) (ppeer : IkedProposal) :
    (choosePeer rekey groupid plocal chosen ppeer).isSome ↔
      chosen.isSome ∨ (ppeer.propProtoid = plocal.propProtoid ∧
        (proposalsMatch plocal ppeer rekey groupid).1 ≠ 0) := by
  unfold choosePeer
  by_cases same : ppeer.propProtoid = plocal.propProtoid
  · rw [if_neg (not_not.mpr same)]
    obtain ⟨score, m⟩ := proposalsMatch plocal ppeer rekey groupid
    dsimp only
    by_cases taken : score ≠ 0 ∧ Choice.beaten chosen score = true
    · rw [if_pos taken]
      simp [same, taken.1]
    · rw [if_neg taken]
      -- a positive score that does not win leaves an earlier choice
      cases chosen with
      | none => simp_all [Choice.beaten]
      | some c => simp
  · rw [if_pos same]
    simp [same]

theorem foldl_choosePeer_isSome_iff (plocal : IkedProposal) (peer : List IkedProposal) :
    ∀ chosen : Option Choice, (peer.foldl (choosePeer rekey groupid plocal) chosen).isSome ↔
      chosen.isSome ∨ ∃ ppeer ∈ peer, ppeer.propProtoid = plocal.propProtoid ∧
        (proposalsMatch plocal ppeer rekey groupid).1 ≠ 0 := by
  induction peer with
  | nil => simp
  | cons ppeer rest ih =>
    intro chosen
    rw [List.foldl_cons, ih, choosePeer_isSome_iff]
    simp only [List.mem_cons, exists_eq_or_imp]
    exact or_assoc

/-- Some pair of proposals of one protocol with a positive score is what makes a choice. -/
theorem chooseLocal_isSome_iff (peer locals : List IkedProposal) :
    (chooseLocal peer rekey groupid none locals).isSome ↔
      ∃ plocal ∈ locals, ∃ ppeer ∈ peer, ppeer.propProtoid = plocal.propProtoid ∧
        (proposalsMatch plocal ppeer rekey groupid).1 ≠ 0 := by
  induction locals with
  | nil => simp [chooseLocal]
  | cons plocal rest ih =>
    have inner := foldl_choosePeer_isSome_iff rekey groupid plocal peer none
    simp only [Option.isSome_none, Bool.false_eq_true, false_or] at inner
    simp only [chooseLocal, List.mem_cons, exists_eq_or_imp]
    split
    · rename_i found
      simp only [found, true_iff]
      exact .inl (inner.mp found)
    · -- no peer proposal matched this one: the loop goes on with no choice
      rename_i missed
      have nothing : peer.foldl (choosePeer rekey groupid plocal) none = none :=
        Option.not_isSome_iff_eq_none.mp missed
      rw [nothing, ih]
      simp only [← inner, missed, Bool.false_eq_true, false_or]

/-- `proposals_negotiate` returns 0 exactly when some local and peer proposal of one protocol
have a positive score. -/
theorem proposalsNegotiate_eq_zero_iff (result : Option (List IkedProposal))
    (locals peer : List IkedProposal) :
    (proposalsNegotiate result locals peer rekey groupid).1 = 0 ↔
      ∃ plocal ∈ locals, ∃ ppeer ∈ peer, ppeer.propProtoid = plocal.propProtoid ∧
        (proposalsMatch plocal ppeer rekey groupid).1 ≠ 0 := by
  rw [← chooseLocal_isSome_iff]
  unfold proposalsNegotiate
  by_cases empty : peer.isEmpty
  · rw [if_pos empty]
    have nil : peer = [] := List.isEmpty_iff.mp empty
    subst nil
    simp [chooseLocal_isSome_iff]
  · rw [if_neg empty]
    cases chooseLocal peer rekey groupid none locals with
    | none => simp
    | some c => cases result <;> simp

end Choose

section MixedCiphers

/-! An IKE proposal of the peer that offers an AEAD cipher next to a plain one, no integrity,
and a PRF and a DH group the local proposal has; the local proposal ranks a plain cipher the
peer offers first. -/

variable {plocal ppeer : IkedProposal} {cipher : IkedTransform}
  (ike : ppeer.propProtoid = ikev2SaprotoIke)
  (types : ∀ y ∈ ppeer.propXforms, y.xformType = ikev2XformtypeEncr ∨
    y.xformType = ikev2XformtypePrf ∨ y.xformType = ikev2XformtypeDh)
  (aead : ∃ a ∈ ppeer.propXforms, a.xformType = ikev2XformtypeEncr ∧ encxfNoauth a.xformId = true)
  (prfOffered : ∃ y ∈ ppeer.propXforms, y.xformType = ikev2XformtypePrf ∧
    ∃ x ∈ plocal.propXforms, Matches y x)
  (dhOffered : ∃ y ∈ ppeer.propXforms, y.xformType = ikev2XformtypeDh ∧
    ∃ x ∈ plocal.propXforms, Matches y x)
  (cipherLocal : cipher ∈ plocal.propXforms)
  (cipherOffered : ∃ y ∈ ppeer.propXforms, Matches y cipher)
  (cipherType : cipher.xformType = ikev2XformtypeEncr)
  (cheapest : ∀ x ∈ plocal.propXforms, x.xformType = ikev2XformtypeEncr → x ≠ cipher →
    cipher.xformScore < x.xformScore)
  (ranked : 0 < cipher.xformScore)

include ike types aead prfOffered dhOffered cipherLocal cipherOffered cipherType cheapest ranked in
/-- The match keeps the cheapest cipher, a PRF and a DH group, and no integrity transform. -/
theorem proposalsMatch_of_mixed_ciphers (rekey : Bool) (dhgroup : Int) :
    ∃ score m, proposalsMatch plocal ppeer rekey dhgroup = (score, m) ∧ 0 < score ∧
      m ikev2XformtypeEncr.toNat = some cipher ∧ m ikev2XformtypeIntegr.toNat = none ∧
      m 0 = none ∧ m ikev2XformtypeEsn.toNat = none ∧
      (∃ p, m ikev2XformtypePrf.toNat = some p) ∧ (∃ d, m ikev2XformtypeDh.toNat = some d) ∧
      (∀ t d, m t = some d → d.xformType.toNat = t) := by
  have noauth : peerNoauth ppeer = true := by
    obtain ⟨a, mem, encr, noauth⟩ := aead
    simpa [peerNoauth] using ⟨a, mem, encr, noauth⟩
  -- the peer proposes only ENCR, PRF and DH transforms
  have absent : ∀ i, i ≠ 1 → i ≠ 2 → i ≠ 4 → ∀ y ∈ ppeer.propXforms, y.xformType.toNat ≠ i := by
    intro i one two four y mem same
    rcases types y mem with t | t | t <;> rw [t] at same <;> subst same <;> contradiction
  have eq := proposalsMatch_of_no_return plocal ppeer rekey dhgroup
    (fun y mem _ integr => absent 3 (by decide) (by decide) (by decide) y mem (by rw [integr]; rfl))
  generalize hst : ppeer.propXforms.foldl (peerStep plocal.propXforms ppeer.propProtoid rekey dhgroup)
    matchStart = st at eq
  have emptySlot : ∀ i, i ≠ 1 → i ≠ 2 → i ≠ 4 → st.xforms i = none := by
    intro i one two four
    rw [← hst, foldl_peerStep_xforms_of_ne_dh _ _ _ _ _ four,
      slotCandidates_eq_nil (absent i one two four)]
    rfl
  have unproposed : ∀ i, i ≠ 1 → i ≠ 2 → i ≠ 4 → st.peerxfs i = false := by
    intro i one two four
    cases proposed : st.peerxfs i with
    | false => rfl
    | true =>
      rw [← hst] at proposed
      rcases foldl_peerStep_peerxfs _ _ _ _ _ _ proposed with start | ⟨y, mem, same⟩
      · cases start
      · exact absurd same (absent i one two four y mem)
  -- the cipher undercuts every other local cipher the peer offers
  have encr : st.xforms 1 = some cipher := by
    rw [← hst, foldl_peerStep_xforms_of_ne_dh _ _ _ _ _ (by decide)]
    obtain ⟨y, offered, matched⟩ := cipherOffered
    apply foldl_keepCheaper_reaches
    · refine mem_slotCandidates.mpr ⟨cipherLocal, y, offered, ?_, ?_, matched⟩ <;>
        rw [matched.1, cipherType] <;> decide
    · intro x mem other
      obtain ⟨local_, z, -, -, here, matchedZ⟩ := mem_slotCandidates.mp mem
      have sameType : x.xformType = ikev2XformtypeEncr := by
        rw [← matchedZ.1]
        exact UInt8.toNat_inj.mp here
      exact cheapest x local_ sameType other
    · intro y start
      cases start
  -- a PRF and a DH group the local proposal has fill their slots
  obtain ⟨-, -, fills⟩ := foldl_peerStep_isSome plocal.propXforms ppeer.propProtoid rekey dhgroup
    ppeer.propXforms matchStart (fun forced => by cases forced)
  rw [hst] at fills
  obtain ⟨p, prf⟩ : ∃ p, st.xforms 2 = some p := by
    obtain ⟨y, mem, prfType, x, local_, matched⟩ := prfOffered
    have filled := fills y mem (by rw [prfType]; decide) ⟨x, local_, matched⟩
    rw [prfType] at filled
    exact Option.isSome_iff_exists.mp filled
  obtain ⟨d, dh⟩ : ∃ d, st.xforms 4 = some d := by
    obtain ⟨y, mem, dhType, x, local_, matched⟩ := dhOffered
    have filled := fills y mem (by rw [dhType]; decide) ⟨x, local_, matched⟩
    rw [dhType] at filled
    exact Option.isSome_iff_exists.mp filled
  have typed := foldl_peerStep_slots plocal.propXforms ppeer.propProtoid rekey dhgroup
    ppeer.propXforms matchStart (fun t d start => by cases start)
  rw [hst] at typed
  refine ⟨_, _, eq, ?score, encr, emptySlot 3 (by decide) (by decide) (by decide),
    emptySlot 0 (by decide) (by decide) (by decide), emptySlot 5 (by decide) (by decide) (by decide),
    ⟨p, prf⟩, ⟨d, dh⟩, fun t d chosen => (typed t d chosen).2⟩
  case score =>
    -- no slot is missing: the score is the sum of the three ranks
    have zero := emptySlot 0 (by decide) (by decide) (by decide)
    have three := emptySlot 3 (by decide) (by decide) (by decide)
    have five := emptySlot 5 (by decide) (by decide) (by decide)
    have zero' := unproposed 0 (by decide) (by decide) (by decide)
    have three' := unproposed 3 (by decide) (by decide) (by decide)
    have five' := unproposed 5 (by decide) (by decide) (by decide)
    rw [range_xformtypeMax]
    simp [scoreLoop, ike, noauth, zero, three, five, zero', three', five', encr, prf, dh,
      ikev2XformtypeEncr, ikev2XformtypePrf, ikev2XformtypeDh, ikev2XformtypeIntegr,
      ikev2XformtypeEsn, ikev2SaprotoIke, ikev2SaprotoAh, ikev2SaprotoEsp]
    omega

include ike types aead prfOffered dhOffered cipherLocal cipherOffered cipherType cheapest ranked in
/-- The negotiated IKE proposal keeps the plain cipher and has no integrity transform: the AEAD
cipher the peer offered beside it waived integrity for the whole proposal. -/
theorem proposalsNegotiate_plain_cipher_without_integr (result : List IkedProposal)
    (localIke : plocal.propProtoid = ikev2SaprotoIke) (plain : encxfNoauth cipher.xformId = false)
    (rekey : Bool) (groupid : Int) :
    ∃ prop : IkedProposal, proposalsNegotiate (some result) [plocal] [ppeer] rekey groupid =
        (0, some (configFreeProposals result ikev2SaprotoIke ++ [prop])) ∧
      prop.propId = ppeer.propId ∧ prop.propProtoid = ikev2SaprotoIke ∧
      (∃ x ∈ prop.propXforms, x.xformType = ikev2XformtypeEncr ∧ encxfNoauth x.xformId = false) ∧
      (∀ x ∈ prop.propXforms, x.xformType = ikev2XformtypeEncr → encxfNoauth x.xformId = false) ∧
      ∀ x ∈ prop.propXforms, x.xformType ≠ ikev2XformtypeIntegr := by
  obtain ⟨score, m, matched, positive, encr, integr, zero, -, -, -, typed⟩ :=
    proposalsMatch_of_mixed_ciphers ike types aead prfOffered dhOffered cipherLocal cipherOffered
      cipherType cheapest ranked rekey groupid
  have chosen := chooseLocal_pair (ike.trans localIke.symm) matched positive
  -- the fresh proposal the last loop fills
  let fresh : IkedProposal := takeSpis ppeer plocal ⟨ppeer.propId, ikev2SaprotoIke, ⟨0, 0, 0⟩, ⟨0, 0, 0⟩, []⟩
  refine ⟨addChosen m (List.range ikev2XformtypeMax) fresh, ?run, ?_⟩
  case run =>
    simp only [proposalsNegotiate, List.isEmpty_cons, chosen, ike, configAddProposal_freed,
      modify_append_length]
    rfl
  obtain ⟨xs, grown, origin⟩ := addChosen_grows m (List.range ikev2XformtypeMax) fresh
  -- every transform of the result is the chosen one of its type
  have chosenOf : ∀ x ∈ xs, ∃ v, m x.xformType.toNat = some v ∧ Matches x v := by
    intro x mem
    obtain ⟨i, -, v, hv, same⟩ := origin x mem
    have slot : x.xformType.toNat = i := by rw [same.1]; exact typed i v hv
    exact ⟨v, by rw [slot]; exact hv, same⟩
  have known : ∀ i ∈ List.range ikev2XformtypeMax, ∀ v, m i = some v → knownXformtype v.xformType = true := by
    intro i mem v hv
    have slot := typed i v hv
    apply knownXformtype_of_toNat
    · rcases Nat.eq_zero_or_pos i with none | pos
      · subst none; rw [zero] at hv; cases hv
      · omega
    · rw [slot]; exact List.mem_range.mp mem
  have xforms : ({ fresh with propXforms := fresh.propXforms ++ xs } : IkedProposal).propXforms = xs := by
    simp [fresh]
  rw [grown]
  refine ⟨by simp [fresh], by simp [fresh], ?_, ?_, ?_⟩ <;> rw [xforms]
  · obtain ⟨x, mem, same⟩ := addChosen_holds m (List.range ikev2XformtypeMax) known fresh 1 (by decide) cipher encr
    rw [grown, xforms] at mem
    exact ⟨x, mem, same.1.trans cipherType, same.2.1 ▸ plain⟩
  · intro x mem isEncr
    obtain ⟨v, hv, same⟩ := chosenOf x mem
    rw [isEncr, encr] at hv
    cases hv
    exact same.2.1 ▸ plain
  · intro x mem isIntegr
    obtain ⟨v, hv, -⟩ := chosenOf x mem
    rw [isIntegr, integr] at hv
    cases hv

-- AES-CBC-256 with HMAC-SHA2-256, PRF-HMAC-SHA2-256 and group 19, as `config_add_transform`
-- ranks them.
def cbcLocal : IkedProposal :=
  ⟨1, ikev2SaprotoIke, ⟨0, 0, 0⟩, ⟨0, 0, 0⟩,
    [⟨1, 12, 256, 256, 1⟩, ⟨3, 12, 0, 0, 1⟩, ⟨2, 5, 0, 0, 1⟩, ⟨4, 19, 0, 0, 1⟩]⟩

-- AES-CBC-256 and AES-GCM-16-256 in one proposal, without an integrity transform.
def mixedPeer : IkedProposal :=
  ⟨1, ikev2SaprotoIke, ⟨0, 0, 0⟩, ⟨0, 0, 0⟩,
    [⟨1, 12, 256, 256, 0⟩, ⟨1, 20, 256, 256, 0⟩, ⟨2, 5, 0, 0, 0⟩, ⟨4, 19, 0, 0, 0⟩]⟩

theorem proposalsNegotiate_plain_cipher_without_integr_cbc_gcm :
    ∃ prop : IkedProposal, proposalsNegotiate (some []) [cbcLocal] [mixedPeer] false (-1) =
        (0, some (configFreeProposals [] ikev2SaprotoIke ++ [prop])) ∧
      prop.propId = mixedPeer.propId ∧ prop.propProtoid = ikev2SaprotoIke ∧
      (∃ x ∈ prop.propXforms, x.xformType = ikev2XformtypeEncr ∧ encxfNoauth x.xformId = false) ∧
      (∀ x ∈ prop.propXforms, x.xformType = ikev2XformtypeEncr → encxfNoauth x.xformId = false) ∧
      ∀ x ∈ prop.propXforms, x.xformType ≠ ikev2XformtypeIntegr :=
  @proposalsNegotiate_plain_cipher_without_integr cbcLocal mixedPeer ⟨1, 12, 256, 256, 1⟩
    rfl (by decide) (by decide) (by decide) (by decide) (by decide) (by decide) rfl (by decide)
    (by decide) [] rfl (by decide) false (-1)

end MixedCiphers

end OpenIKED.Policy.Proposals
