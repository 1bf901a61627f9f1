import OpenIKED.Ikev2.TrafficSel
import OpenIKED.Policy.Dstid

set_option autoImplicit false

/-!
# Address pools

`ikev2_cp_setaddr` gives an IKE SA that sent a configuration request an address of its
policy's pools, once for IPv4 and once for IPv6; `ikev2_cp_setaddr_pool` picks it: the
address of an older SA with the same destination ID under `sticky-address`, the address the
peer asked for, or the first free host of the pool from a random start.  The SAs that hold
an address are kept in `sc_addrpool` and `sc_addrpool6`.

The search visits every host of `[lower, upper - 1]` once and ends (`poolSearch_cycle`).
The sticky path moves both addresses of the older SA at once, so an IPv6 transfer from an SA
without an IPv4 address overwrites the IPv4 address the new SA already holds, and the SA
stays in `sc_addrpool` without one (`ikev2CpSetaddr_sticky_leaves_sa_without_address`).
-/

namespace OpenIKED.Ikev2.AddrPool

open OpenIKED.Util OpenIKED.Parse.Flows
open OpenIKED.Ikev2.TrafficSel (SaCp storeWord)
open OpenIKED.Policy.Dstid (IkedId DstidEnv saDstidLookup saDstidRemove saDstidLookup_some
  saDstidRemove_eq ikev2RecordDstid)

/-! ## The host search -/

/-- `arc4random_uniform(bound)` on the random word `r`: 0 for a bound below 2. -/
def arc4randomUniform (r bound : UInt32) : UInt32 :=
  if bound < 2 then 0 else r % bound

/-- The bounds of the search after skipping a `.0` start and clamping `upper`, and the
random start in `[lower, upper - 1]`. -/
def searchBounds (lower upper r : UInt32) : UInt32 × UInt32 × UInt32 :=
  let lower := if lower < upper ∧ lower = 0 then 1 else lower
  let upper := if upper < lower then lower else upper
  (lower, upper, arc4randomUniform r (upper - lower) + lower)

/-- `host++`, back to `lower` past the last host. -/
def nextHost (lower upper host : UInt32) : UInt32 :=
  let host := host + 1
  if host ≥ upper ∨ host < lower then lower else host

inductive SearchOutcome where
  | found (host : UInt32)
  | exhausted
  | outOfFuel
deriving DecidableEq, Repr

/-- The `for (host = start;;)` loop, with `free host` for a host whose address no SA of the
tree holds. -/
def poolSearch (free : UInt32 → Bool) (lower upper start : UInt32) : Nat → UInt32 → SearchOutcome
  | 0, _ => .outOfFuel
  | fuel + 1, host =>
    if free host then .found host
    else
      let host := nextHost lower upper host
      if host = start then .exhausted else poolSearch free lower upper start fuel host

section Search

variable {lower upper : UInt32}

theorem nextHost_toNat {host : UInt32}
    (above : lower.toNat ≤ host.toNat) (below : host.toNat < upper.toNat) :
    (nextHost lower upper host).toNat =
      if host.toNat + 1 < upper.toNat then host.toNat + 1 else lower.toNat := by
  have fits : host.toNat + 1 < 2 ^ 32 := by
    have := upper.toNat_lt
    omega
  have succ : (host + 1).toNat = host.toNat + 1 := by
    rw [UInt32.toNat_add, UInt32.toNat_one, Nat.mod_eq_of_lt fits]
  unfold nextHost
  simp only [UInt32.le_iff_toNat_le, UInt32.lt_iff_toNat_lt, succ]
  split <;> split <;> omega

/-- With no host between the bounds the search comes straight back to `lower`. -/
theorem nextHost_of_eq (same : lower = upper) : nextHost lower upper lower = lower := by
  subst same
  unfold nextHost
  by_cases top : lower.toNat + 1 < 2 ^ 32
  · have succ : (lower + 1).toNat = lower.toNat + 1 := by
      rw [UInt32.toNat_add, UInt32.toNat_one, Nat.mod_eq_of_lt top]
    simp [UInt32.le_iff_toNat_le, succ]
  · have wraps : (lower + 1).toNat = 0 := by
      rw [UInt32.toNat_add, UInt32.toNat_one]
      have := lower.toNat_lt
      rw [show lower.toNat + 1 = 2 ^ 32 by omega]
      rfl
    simp [UInt32.lt_iff_toNat_lt, wraps]
    omega

/-- What an outcome of the search says: a found host is free and between the bounds, and
`exhausted` means every host between the bounds is taken. -/
def SearchOutcome.Sound (free : UInt32 → Bool) (lower upper : UInt32) : SearchOutcome → Prop
  | .found host => free host = true ∧ lower.toNat ≤ host.toNat ∧ host.toNat < upper.toNat
  | .exhausted => ∀ x : UInt32, lower.toNat ≤ x.toNat → x.toNat < upper.toNat → free x = false
  | .outOfFuel => False

-- The offset of the `j`th host visited from offset `s`, wrapping once past `n`.
def wrapOffset (n a : Nat) : Nat := if a < n then a else a - n

section Offsets

variable {n s : Nat} (width : upper.toNat = lower.toNat + n) (s_lt : s < n)

include width s_lt in
-- Each of the first `n` offsets from `s` names a host between the bounds.
theorem inRange_of_wrapOffset {host : UInt32} {j : Nat} (j_lt : j < n)
    (at_j : host.toNat = lower.toNat + wrapOffset n (s + j)) :
    lower.toNat ≤ host.toNat ∧ host.toNat < upper.toNat := by
  unfold wrapOffset at at_j
  split at at_j <;> omega

include width s_lt in
-- One step of the search moves to the next offset, back to 0 past the last one.
theorem nextHost_wrapOffset {host : UInt32} {j : Nat} (j_lt : j < n)
    (at_j : host.toNat = lower.toNat + wrapOffset n (s + j)) :
    (nextHost lower upper host).toNat = lower.toNat + wrapOffset n (s + (j + 1)) := by
  have inRange := inRange_of_wrapOffset width s_lt j_lt at_j
  rw [nextHost_toNat inRange.1 inRange.2]
  unfold wrapOffset at at_j ⊢
  split at at_j <;> split <;> split <;> omega

-- The search is back at offset `s` only once all `n` hosts are behind it.
theorem wrapOffset_eq_start {j : Nat} (j_lt : j < n)
    (back : lower.toNat + wrapOffset n (s + (j + 1)) = lower.toNat + s) : j + 1 = n := by
  unfold wrapOffset at back
  split at back <;> omega

include width s_lt in
-- Every host between the bounds is at one of the `n` offsets from `s`.
theorem exists_wrapOffset {x : UInt32} (above : lower.toNat ≤ x.toNat) (below : x.toNat < upper.toNat) :
    ∃ i < n, x.toNat = lower.toNat + wrapOffset n (s + i) := by
  by_cases past : s ≤ x.toNat - lower.toNat
  · exact ⟨x.toNat - lower.toNat - s, by omega, by unfold wrapOffset; split <;> omega⟩
  · exact ⟨x.toNat - lower.toNat + n - s, by omega, by unfold wrapOffset; split <;> omega⟩

end Offsets

/-- The run lemma of the search over the `n > 0` hosts from `lower`, started at offset `s`:
with `j` hosts visited and taken, the search is at offset `wrapOffset n (s + j)`, and with
fuel for the `m` hosts left it ends soundly. -/
theorem poolSearch_cycle (free : UInt32 → Bool) {start : UInt32} {n s : Nat}
    (width : upper.toNat = lower.toNat + n) (atStart : start.toNat = lower.toNat + s)
    (s_lt : s < n) (m : Nat) :
    ∀ (j : Nat) (host : UInt32) (fuel : Nat), j + m = n → 0 < m → m ≤ fuel →
      host.toNat = lower.toNat + wrapOffset n (s + j) →
      (∀ i < j, ∀ x : UInt32, x.toNat = lower.toNat + wrapOffset n (s + i) → free x = false) →
      (poolSearch free lower upper start fuel host).Sound free lower upper := by
  induction m with
  | zero => intro j host fuel _ pos; omega
  | succ m ih =>
    intro j host fuel count _ enough at_j taken
    obtain ⟨fuel, rfl⟩ : ∃ f, fuel = f + 1 := ⟨fuel - 1, by omega⟩
    have j_lt : j < n := by omega
    unfold poolSearch
    by_cases isFree : free host = true
    · simpa [isFree, SearchOutcome.Sound] using inRange_of_wrapOffset width s_lt j_lt at_j
    · have at_next := nextHost_wrapOffset width s_lt j_lt at_j
      -- the hosts visited so far, this one included, are all taken
      have takenNow : ∀ i < j + 1, ∀ x : UInt32, x.toNat = lower.toNat + wrapOffset n (s + i) →
          free x = false := by
        intro i below x at_i
        rcases Nat.lt_succ_iff_lt_or_eq.mp below with earlier | rfl
        · exact taken i earlier x at_i
        · have same : x = host := UInt32.toNat_inj.mp (at_i.trans at_j.symm)
          simpa [same] using isFree
      simp only [isFree, Bool.false_eq_true, if_false]
      split
      · -- back at the start: every host was visited
        rename_i back
        have all : j + 1 = n := by
          have := congrArg UInt32.toNat back
          rw [at_next, atStart] at this
          exact wrapOffset_eq_start j_lt this
        intro x above below
        obtain ⟨i, i_lt, at_i⟩ := exists_wrapOffset width s_lt above below
        exact takenNow i (by omega) x at_i
      · rename_i notBack
        have more : 0 < m := by
          by_contra none
          have last : j + 1 = n := by omega
          apply notBack
          apply UInt32.toNat_inj.mp
          rw [at_next, atStart, last]
          unfold wrapOffset
          split <;> omega
        exact ih (j + 1) _ fuel (by omega) more (by omega) at_next takenNow

/-- The search as `ikev2_cp_setaddr_pool` runs it from the pool's bounds, with fuel for one
more visit than there are hosts. -/
def hostSearch (free : UInt32 → Bool) (lower upper r : UInt32) : SearchOutcome :=
  let (lower, upper, start) := searchBounds lower upper r
  poolSearch free lower upper start ((upper - lower).toNat + 1) start

theorem searchBounds_le (lower0 upper0 r : UInt32) :
    (searchBounds lower0 upper0 r).1.toNat ≤ (searchBounds lower0 upper0 r).2.1.toNat := by
  unfold searchBounds
  generalize (if lower0 < upper0 ∧ lower0 = 0 then 1 else lower0) = lower
  -- whatever `lower` became, `upper` is clamped to at least it
  dsimp only
  split
  · exact Nat.le_refl _
  · rename_i notBelow
    exact UInt32.le_iff_toNat_le.mp (UInt32.not_lt.mp notBelow)

/-- The random start is one of the hosts, or `lower` when there is none. -/
theorem searchBounds_start (lower0 upper0 r : UInt32) :
    ∃ s, (searchBounds lower0 upper0 r).2.2.toNat = (searchBounds lower0 upper0 r).1.toNat + s ∧
      (s < (searchBounds lower0 upper0 r).2.1.toNat - (searchBounds lower0 upper0 r).1.toNat ∨
        s = 0) := by
  have le := searchBounds_le lower0 upper0 r
  generalize hb : searchBounds lower0 upper0 r = b at le ⊢
  obtain ⟨lower, upper, start⟩ := b
  have hstart : start = arc4randomUniform r (upper - lower) + lower := by
    unfold searchBounds at hb
    simp only [Prod.mk.injEq] at hb
    obtain ⟨hl, hu, hs⟩ := hb
    rw [← hs, ← hl, ← hu]
  dsimp only at le ⊢
  have width : (upper - lower).toNat = upper.toNat - lower.toNat := by
    rw [UInt32.toNat_sub_of_le _ _ (UInt32.le_iff_toNat_le.mpr le)]
  have pick : (arc4randomUniform r (upper - lower)).toNat < upper.toNat - lower.toNat ∨
      (arc4randomUniform r (upper - lower)).toNat = 0 := by
    unfold arc4randomUniform
    split
    · exact .inr rfl
    · rename_i wide
      have : 2 ≤ (upper - lower).toNat := by
        simp only [UInt32.lt_iff_toNat_lt] at wide
        simp at wide
        omega
      left
      rw [UInt32.toNat_mod, ← width]
      exact Nat.mod_lt _ (by omega)
  refine ⟨(arc4randomUniform r (upper - lower)).toNat, ?_, pick⟩
  rw [hstart, UInt32.toNat_add, Nat.mod_eq_of_lt]
  · omega
  · have := upper.toNat_lt
    omega

/-- The search ends, a host it finds is free and between the bounds, and it reports the pool
exhausted only when every host between the bounds is taken. -/
theorem hostSearch_sound (free : UInt32 → Bool) (lower0 upper0 r : UInt32) :
    match hostSearch free lower0 upper0 r with
    | .found host => free host = true ∧ (searchBounds lower0 upper0 r).1.toNat ≤ host.toNat ∧
        (host.toNat < (searchBounds lower0 upper0 r).2.1.toNat ∨
          host = (searchBounds lower0 upper0 r).1)
    | .exhausted => ∀ x : UInt32, (searchBounds lower0 upper0 r).1.toNat ≤ x.toNat →
        x.toNat < (searchBounds lower0 upper0 r).2.1.toNat → free x = false
    | .outOfFuel => False := by
  have le := searchBounds_le lower0 upper0 r
  obtain ⟨s, atStart, s_lt⟩ := searchBounds_start lower0 upper0 r
  unfold hostSearch
  generalize searchBounds lower0 upper0 r = b at le atStart s_lt ⊢
  obtain ⟨lower, upper, start⟩ := b
  dsimp only at le atStart s_lt ⊢
  have width : (upper - lower).toNat = upper.toNat - lower.toNat := by
    rw [UInt32.toNat_sub_of_le _ _ (UInt32.le_iff_toNat_le.mpr le)]
  rw [width]
  by_cases empty : upper.toNat = lower.toNat
  · -- no host between the bounds: only `start = lower` is tried
    have same : upper = lower := UInt32.toNat_inj.mp empty
    have atLower : start = lower := UInt32.toNat_inj.mp (by omega)
    subst same atLower
    rw [Nat.sub_self, zero_add]
    unfold poolSearch
    by_cases isFree : free start = true
    · simp [isFree]
    · simp only [isFree, nextHost_of_eq rfl]
      simp only [Bool.false_eq_true, if_false, if_true]
      intro x above below
      omega
  · -- all `upper - lower` hosts are left to visit, from offset `s`, with one more fuel
    have atFirst : start.toNat = lower.toNat + wrapOffset (upper.toNat - lower.toNat) (s + 0) := by
      simp only [wrapOffset, Nat.add_zero]
      split <;> omega
    have cycle := @poolSearch_cycle lower upper free start (upper.toNat - lower.toNat) s
      (by omega) atStart (by omega) (upper.toNat - lower.toNat) 0 start
      (upper.toNat - lower.toNat + 1) (by omega) (by omega) (by omega) atFirst (by simp)
    revert cycle
    cases poolSearch free lower upper start (upper.toNat - lower.toNat + 1) start <;>
      simp +contextual [SearchOutcome.Sound]

/-- A pool that starts at its `.0` host and has more than one host never hands it out. -/
theorem hostSearch_skips_zero (free : UInt32 → Bool) {upper0 : UInt32} (r : UInt32)
    (more : 0 < upper0) {host : UInt32} (found : hostSearch free 0 upper0 r = .found host) :
    host ≠ 0 := by
  have sound := hostSearch_sound free 0 upper0 r
  rw [found] at sound
  have lower : (searchBounds 0 upper0 r).1 = 1 := by
    simp [searchBounds, more]
  rw [lower] at sound
  rintro rfl
  simp at sound

-- A `/24` pool from `10.0.0.0` with every host free hands out host 1.
theorem hostSearch_skips_zero_of_free_pool :
    (0 : UInt32) < 255 ∧ hostSearch (fun _ => true) 0 255 0 = .found 1 ∧ (1 : UInt32) ≠ 0 :=
  ⟨by decide, rfl, hostSearch_skips_zero (fun _ => true) 0
    (show (0 : UInt32) < 255 by decide) rfl⟩

end Search

/-! ## The pools and the SAs that hold their addresses -/

def ikev2CfgInternalIp4Address : UInt16 := 1
def ikev2CfgInternalIp6Address : UInt16 := 8

-- A configuration entry of the policy: its type and `cfg.address`.
structure IkedCfg where
  cfgType : UInt16
  cfgAddress : IkedAddr
deriving DecidableEq, Repr

-- The fields of `struct iked_sa` that the pool code reads and writes.
structure PoolSa where
  saCp : SaCp
  saAddrpool : Option IkedAddr
  saAddrpool6 : Option IkedAddr
  saCpAddr : Option IkedAddr
  saCpAddr6 : Option IkedAddr
deriving DecidableEq, Repr

-- The SAs by pointer, split into their index fields and their pool fields, and the two
-- address trees.
structure PoolEnv extends DstidEnv where
  pools : Nat → PoolSa
  scAddrpool : List Nat
  scAddrpool6 : List Nat
  scStickyaddress : Bool

/-- `RB_FIND` in an address tree: a member whose address `sockaddr_cmp` finds equal to the
key.  `sa_addrpool_cmp` would dereference the missing address of a member without one; the
model passes such a member by. -/
def addrpoolFind (pools : Nat → PoolSa) (addrOf : PoolSa → Option IkedAddr) (key : Sockaddr)
    (members : List Nat) : Option Nat :=
  members.find? fun m =>
    match addrOf (pools m) with
    | some a => sockaddrCmp a.addr key (-1) == 0
    | none => false

/-- `RB_INSERT` of an SA that now holds `a`: it goes in unless a member holds an equal
address. -/
def addrpoolInsert (pools : Nat → PoolSa) (addrOf : PoolSa → Option IkedAddr)
    (members : List Nat) (sa : Nat) (a : Sockaddr) : List Nat :=
  if (addrpoolFind pools addrOf a members).isSome then members else sa :: members

def PoolEnv.setPool (env : PoolEnv) (sa : Nat) (f : PoolSa → PoolSa) : PoolEnv :=
  { env with pools := Function.update env.pools sa (f (env.pools sa)) }

/-- The older SA whose addresses the sticky path takes over: the SA with the same
destination ID, when it holds an address of the family asked for. -/
def stickySource (env : PoolEnv) (sa family : Nat) : Except String (Option Nat) :=
  if env.scStickyaddress then do
    match ← saDstidLookup env.toDstidEnv sa with
    | some osa =>
      if (family = afInet ∧ (env.pools osa).saAddrpool.isSome) ∨
          (family = afInet6 ∧ (env.pools osa).saAddrpool6.isSome) then pure (some osa)
      else pure none
    | none => pure none
  else pure none

-- `RB_REMOVE` of the older SA from the trees it holds an address of.  `RB_REMOVE` returns
-- the node it unlinks, so the "addrpool error" branches of the source are dead.
def PoolEnv.releaseOld (env : PoolEnv) (osa : Nat) : PoolEnv :=
  { env with
    scAddrpool :=
      if (env.pools osa).saAddrpool.isSome then env.scAddrpool.erase osa else env.scAddrpool
    scAddrpool6 :=
      if (env.pools osa).saAddrpool6.isSome then env.scAddrpool6.erase osa else env.scAddrpool6 }

-- The four pointer assignments, in the source's order.
def PoolEnv.moveAddresses (env : PoolEnv) (sa osa : Nat) : PoolEnv :=
  let old := env.pools osa
  let env := env.setPool sa fun p => { p with saAddrpool := old.saAddrpool }
  let env := env.setPool osa fun p => { p with saAddrpool := none }
  let env := env.setPool sa fun p => { p with saAddrpool6 := old.saAddrpool6 }
  env.setPool osa fun p => { p with saAddrpool6 := none }

-- `RB_INSERT` of the SA into the tree of each address it now holds.
def PoolEnv.insertHeld (env : PoolEnv) (sa : Nat) : PoolEnv :=
  { env with
    scAddrpool := match (env.pools sa).saAddrpool with
      | some a => addrpoolInsert env.pools PoolSa.saAddrpool env.scAddrpool sa a.addr
      | none => env.scAddrpool
    scAddrpool6 := match (env.pools sa).saAddrpool6 with
      | some a => addrpoolInsert env.pools PoolSa.saAddrpool6 env.scAddrpool6 sa a.addr
      | none => env.scAddrpool6 }

/-- The sticky path: both addresses of `osa` move to `sa`, whichever the SA needs, and `osa`
leaves the index.  Starting to delete `osa` touches no field of the model. -/
def stickyTransfer (env : PoolEnv) (sa osa : Nat) : Except String PoolEnv := do
  let env := env.releaseOld osa
  let dstids ← saDstidRemove env.toDstidEnv osa
  pure (({ env with toDstidEnv := dstids }.moveAddresses sa osa).insertHeld sa)

-- What `ikev2_cp_setaddr_pool` returns: 0 with the new state, -1 with the state and the
-- message it left in `*errstr`, or the `fatalx` of a dstid lookup.
inductive PoolResult where
  | ok (env : PoolEnv)
  | failed (env : PoolEnv) (errstr : Option String)
  | fatal (msg : String)

def PoolResult.toOption : PoolResult → Option PoolEnv
  | .ok env => some env
  | _ => none

/-- The prefix mask of the pool in network order: for IPv6 the last 32 bits of the prefix
only. -/
def poolMask (cfg : IkedCfg) (family : Nat) : UInt32 :=
  if family = afInet then prefixlen2mask cfg.cfgAddress.addrMask
  else if cfg.cfgAddress.addrMask ≥ 96 then prefixlen2mask (cfg.cfgAddress.addrMask - 96)
  else prefixlen2mask 0

-- The word of the pool address that the host number fills: the IPv4 address or the last
-- word of the IPv6 one.
def poolWord (cfg : IkedCfg) (family : Nat) : UInt32 :=
  loadWord cfg.cfgAddress.addr.addr (if family = afInet then 0 else 3)

/-- The address of host `host` of the pool; `ntohl` is the same byte swap as `htonl`. -/
def poolAddress (cfg : IkedCfg) (family : Nat) (host : UInt32) : Sockaddr :=
  let word := storeWord ((poolWord cfg family &&& poolMask cfg family) ||| htonl host)
  if family = afInet then ⟨afInet, word⟩
  else { cfg.cfgAddress.addr with addr := cfg.cfgAddress.addr.addr.take 12 ++ word }

def PoolSa.addrOf (family : Nat) : PoolSa → Option IkedAddr :=
  if family = afInet then PoolSa.saAddrpool else PoolSa.saAddrpool6

def PoolEnv.tree (env : PoolEnv) (family : Nat) : List Nat :=
  if family = afInet then env.scAddrpool else env.scAddrpool6

def PoolEnv.setTree (env : PoolEnv) (family : Nat) (members : List Nat) : PoolEnv :=
  if family = afInet then { env with scAddrpool := members }
  else { env with scAddrpool6 := members }

/-- The IPv4 address the peer asked for: it must lie in the pool's prefix and be free. -/
def requestedAddress (env : PoolEnv) (sa : Nat) (cfg : IkedCfg) (requested : IkedAddr) :
    PoolResult :=
  let mask := poolMask cfg afInet
  if loadWord requested.addr.addr 0 &&& mask ≠ poolWord cfg afInet &&& mask then
    .failed env (some "requested addr out of range")
  else if (addrpoolFind env.pools PoolSa.saAddrpool requested.addr env.scAddrpool).isSome then
    .failed env (some "requested addr in use")
  else
    let env := env.setPool sa fun p => { p with saAddrpool := some requested, saCpAddr := none }
    .ok { env with
      scAddrpool := addrpoolInsert env.pools PoolSa.saAddrpool env.scAddrpool sa requested.addr }

/-- The search path: the first free host from a random start, stored as the SA's address of
the family and inserted into its tree. -/
def searchAddress (env : PoolEnv) (sa : Nat) (cfg : IkedCfg) (family : Nat) (r : UInt32) :
    PoolResult :=
  let mask := poolMask cfg family
  let lower := htonl (poolWord cfg family &&& ~~~mask)
  let upper := htonl (~~~mask)
  let free := fun host =>
    (addrpoolFind env.pools (PoolSa.addrOf family) (poolAddress cfg family host)
      (env.tree family)).isNone
  match hostSearch free lower upper r with
  | .found host =>
    let addr : IkedAddr := ⟨family, poolAddress cfg family host, cfg.cfgAddress.addrMask,
      false, 0⟩
    let env := if family = afInet then env.setPool sa fun p => { p with saAddrpool := some addr }
      else env.setPool sa fun p => { p with saAddrpool6 := some addr }
    .ok (env.setTree family
      (addrpoolInsert env.pools (PoolSa.addrOf family) (env.tree family) sa addr.addr))
  | .exhausted => .failed env (some "address pool exhausted")
  -- never taken (`hostSearch_sound`)
  | .outOfFuel => .failed env none

def ikev2CpSetaddrPool (env : PoolEnv) (sa : Nat) (cfg : IkedCfg) (family : Nat) (r : UInt32) :
    PoolResult :=
  -- "pool configured, but IKEV2_CP_REQUEST missing"
  if (env.pools sa).saCp ≠ .request then .failed env none
  else
    match stickySource env sa family with
    | .error msg => .fatal msg
    | .ok (some osa) =>
      match stickyTransfer env sa osa with
      | .error msg => .fatal msg
      | .ok env => .ok env
    | .ok none =>
      if family = afInet then
        match (env.pools sa).saCpAddr with
        | some requested => requestedAddress env sa cfg requested
        | none => searchAddress env sa cfg family r
      -- a requested IPv6 address is not supported yet
      else if family = afInet6 then searchAddress env sa cfg family r
      else .failed env none

/-! ## `ikev2_cp_setaddr` -/

def cfgMatches (cfg : IkedCfg) (family : Nat) : Bool :=
  (family = afInet ∧ cfg.cfgType = ikev2CfgInternalIp4Address) ||
    (family = afInet6 ∧ cfg.cfgType = ikev2CfgInternalIp6Address)

-- Where a pass over the configurations stands: an address was assigned, or the state, the
-- last return value and the last message go on.
inductive CfgLoop where
  | assigned (env : PoolEnv)
  | next (env : PoolEnv) (ret : Int) (errstr : Option String)
  | fatal (msg : String)

/-- One pass over the policy's configurations: each address pool of the family is tried in
order until one gives an address; `rand i` is the random word of the `i`th. -/
def setaddrPass (sa family : Nat) (rand : Nat → UInt32) (env : PoolEnv) (ret : Int)
    (errstr : Option String) (i : Nat) : List IkedCfg → CfgLoop
  | [] => .next env ret errstr
  | cfg :: rest =>
    if !cfg.cfgAddress.addrNet || !cfgMatches cfg family then
      setaddrPass sa family rand env ret errstr (i + 1) rest
    else
      match ikev2CpSetaddrPool env sa cfg family (rand i) with
      | .ok env => .assigned env
      | .failed env msg => setaddrPass sa family rand env (-1) (msg.or errstr) (i + 1) rest
      | .fatal msg => .fatal msg

def setaddrPasses (sa family : Nat) (cfgs : List IkedCfg) (rand : Nat → Nat → UInt32) :
    Nat → Nat → PoolEnv → Int → Option String → PoolResult
  | _, 0, env, ret, errstr => if ret = 0 then .ok env else .failed env errstr
  | pass, left + 1, env, ret, errstr =>
    match setaddrPass sa family (rand pass) env ret errstr 0 cfgs with
    | .assigned env => .ok env
    | .fatal msg => .fatal msg
    | .next env ret errstr =>
      -- the requested addresses are dropped before the next pass
      let env := env.setPool sa fun p => { p with saCpAddr := none, saCpAddr6 := none }
      setaddrPasses sa family cfgs rand (pass + 1) left env ret errstr

/-- `ikev2_cp_setaddr(env, sa, family)` over the policy's configurations `cfgs`, with two
passes when the peer asked for an address; `rand pass i` is the random word of each pool
call. -/
def ikev2CpSetaddr (env : PoolEnv) (sa : Nat) (cfgs : List IkedCfg) (family : Nat)
    (rand : Nat → Nat → UInt32) : PoolResult :=
  if family = afInet ∧ (env.pools sa).saAddrpool.isSome then .ok env
  else if family = afInet6 ∧ (env.pools sa).saAddrpool6.isSome then .ok env
  else if family ≠ afInet ∧ family ≠ afInet6 then .failed env none
  else if cfgs = [] then .ok env
  else
    let passes :=
      if (env.pools sa).saCpAddr.isSome || (env.pools sa).saCpAddr6.isSome then 2 else 1
    setaddrPasses sa family cfgs rand 0 passes env 0 none

/-! ## The sticky path drops the IPv4 address -/

section Sticky

variable {env : PoolEnv} {sa osa : Nat}

@[simp] theorem PoolEnv.setPool_pools_self (env : PoolEnv) (sa : Nat) (f : PoolSa → PoolSa) :
    (env.setPool sa f).pools sa = f (env.pools sa) := by
  simp [PoolEnv.setPool]

@[simp] theorem PoolEnv.setPool_pools_of_ne (env : PoolEnv) {sa other : Nat}
    (f : PoolSa → PoolSa) (differ : other ≠ sa) : (env.setPool sa f).pools other = env.pools other := by
  simp [PoolEnv.setPool, differ]

@[simp] theorem PoolEnv.setPool_scAddrpool (env : PoolEnv) (sa : Nat) (f : PoolSa → PoolSa) :
    (env.setPool sa f).scAddrpool = env.scAddrpool := rfl

theorem stickySource_of_v6 (sticky : env.scStickyaddress = true)
    (older : saDstidLookup env.toDstidEnv sa = .ok (some osa))
    (oldV6 : (env.pools osa).saAddrpool6.isSome) : stickySource env sa afInet6 = .ok (some osa) := by
  have family : afInet6 ≠ afInet := by decide
  simp [stickySource, sticky, older, bind, Except.bind, family, oldV6]
  rfl

@[simp] theorem PoolEnv.releaseOld_toDstidEnv (env : PoolEnv) (osa : Nat) :
    (env.releaseOld osa).toDstidEnv = env.toDstidEnv := rfl

@[simp] theorem PoolEnv.releaseOld_pools (env : PoolEnv) (osa : Nat) :
    (env.releaseOld osa).pools = env.pools := rfl

@[simp] theorem PoolEnv.moveAddresses_scAddrpool (env : PoolEnv) (sa osa : Nat) :
    (env.moveAddresses sa osa).scAddrpool = env.scAddrpool := rfl

theorem PoolEnv.moveAddresses_pools_self (env : PoolEnv) (differ : osa ≠ sa) :
    (env.moveAddresses sa osa).pools sa =
      { env.pools sa with
        saAddrpool := (env.pools osa).saAddrpool
        saAddrpool6 := (env.pools osa).saAddrpool6 } := by
  simp [PoolEnv.moveAddresses, PoolEnv.setPool_pools_of_ne _ _ differ.symm]

@[simp] theorem PoolEnv.insertHeld_pools (env : PoolEnv) (sa : Nat) :
    (env.insertHeld sa).pools = env.pools := rfl

-- With no IPv4 address held the IPv4 tree is left alone.
theorem PoolEnv.insertHeld_scAddrpool_of_none (env : PoolEnv)
    (none : (env.pools sa).saAddrpool = none) : (env.insertHeld sa).scAddrpool = env.scAddrpool := by
  simp [PoolEnv.insertHeld, none]

theorem stickyTransfer_eq {dstids : DstidEnv}
    (removed : saDstidRemove env.toDstidEnv osa = .ok dstids) :
    stickyTransfer env sa osa =
      .ok (({ env.releaseOld osa with toDstidEnv := dstids }.moveAddresses sa osa).insertHeld sa) := by
  simp only [stickyTransfer, PoolEnv.releaseOld_toDstidEnv, removed]
  rfl

/-- A transfer from an SA without an IPv4 address leaves the IPv4 tree as it was, and the
new SA without an IPv4 address. -/
theorem stickyTransfer_of_no_v4 {dstids : DstidEnv}
    (removed : saDstidRemove env.toDstidEnv osa = .ok dstids) (differ : osa ≠ sa)
    (oldV4 : (env.pools osa).saAddrpool = none) :
    ∃ env', stickyTransfer env sa osa = .ok env' ∧ env'.scAddrpool = env.scAddrpool ∧
      (env'.pools sa).saAddrpool = none := by
  let moved := { env.releaseOld osa with toDstidEnv := dstids }.moveAddresses sa osa
  have dropped : (moved.pools sa).saAddrpool = none := by
    simp [moved, PoolEnv.moveAddresses_pools_self _ differ, oldV4]
  refine ⟨moved.insertHeld sa, stickyTransfer_eq removed, ?_, ?_⟩
  · rw [PoolEnv.insertHeld_scAddrpool_of_none _ dropped]
    simp [moved, PoolEnv.releaseOld, oldV4]
  · simpa using dropped

theorem ikev2CpSetaddrPool_of_sticky {env' : PoolEnv} {family : Nat} (cfg : IkedCfg)
    (r : UInt32) (request : (env.pools sa).saCp = .request)
    (source : stickySource env sa family = .ok (some osa))
    (moved : stickyTransfer env sa osa = .ok env') :
    ikev2CpSetaddrPool env sa cfg family r = .ok env' := by
  simp [ikev2CpSetaddrPool, request, source, moved]

/-- When every pool of the family gives one state, a pass ends at the first of them. -/
theorem setaddrPass_of_uniform {env' : PoolEnv} {family : Nat} (rand : Nat → UInt32)
    (uniform : ∀ cfg r, ikev2CpSetaddrPool env sa cfg family r = .ok env')
    (ret : Int) (errstr : Option String) :
    ∀ (i : Nat) (cfgs : List IkedCfg),
      (∃ cfg ∈ cfgs, cfg.cfgAddress.addrNet = true ∧ cfgMatches cfg family = true) →
      setaddrPass sa family rand env ret errstr i cfgs = .assigned env'
  | _, [], pool => by simp at pool
  | i, cfg :: rest, pool => by
    unfold setaddrPass
    split
    · -- a configuration that is skipped is not the pool, so the pool is further on
      rename_i skipped
      apply setaddrPass_of_uniform rand uniform ret errstr (i + 1) rest
      obtain ⟨pool, member, net, fits⟩ := pool
      rcases List.mem_cons.mp member with rfl | later
      · simp [net, fits] at skipped
      · exact ⟨pool, later, net, fits⟩
    · simp [uniform]

end Sticky

/-- The sticky path of `ikev2_cp_setaddr(env, sa, AF_INET6)` from an older SA with an IPv6
but no IPv4 address overwrites the IPv4 address the new SA holds with the older SA's missing
one, and leaves the SA in `sc_addrpool`. -/
theorem ikev2CpSetaddr_sticky_leaves_sa_without_address {env : PoolEnv} {sa osa : Nat}
    {cfgs : List IkedCfg} (rand : Nat → Nat → UInt32)
    (sticky : env.scStickyaddress = true) (request : (env.pools sa).saCp = .request)
    (holds : (env.pools sa).saAddrpool.isSome) (member : sa ∈ env.scAddrpool)
    (noV6 : (env.pools sa).saAddrpool6 = none)
    (older : saDstidLookup env.toDstidEnv sa = .ok (some osa))
    (oldV4 : (env.pools osa).saAddrpool = none) (oldV6 : (env.pools osa).saAddrpool6.isSome)
    (pool : ∃ cfg ∈ cfgs, cfg.cfgAddress.addrNet = true ∧
      cfg.cfgType = ikev2CfgInternalIp6Address) :
    ∃ env', ikev2CpSetaddr env sa cfgs afInet6 rand = .ok env' ∧
      sa ∈ env'.scAddrpool ∧ (env'.pools sa).saAddrpool = none := by
  have differ : osa ≠ sa := by
    rintro rfl
    simp [oldV4] at holds
  obtain ⟨valid, checked⟩ := saDstidLookup_some older
  obtain ⟨env', moved, tree, dropped⟩ :=
    stickyTransfer_of_no_v4 (saDstidRemove_eq valid checked) differ oldV4
  have uniform : ∀ cfg r, ikev2CpSetaddrPool env sa cfg afInet6 r = .ok env' :=
    fun cfg r => ikev2CpSetaddrPool_of_sticky cfg r request
      (stickySource_of_v6 sticky older oldV6) moved
  have matching : ∃ cfg ∈ cfgs, cfg.cfgAddress.addrNet = true ∧ cfgMatches cfg afInet6 = true := by
    obtain ⟨cfg, mem, net, type⟩ := pool
    exact ⟨cfg, mem, net, by simp [cfgMatches, type]⟩
  have nonempty : cfgs ≠ [] := by
    obtain ⟨cfg, mem, -⟩ := pool
    exact List.ne_nil_of_mem mem
  have family : afInet6 ≠ afInet := by decide
  refine ⟨env', ?_, tree ▸ member, dropped⟩
  -- one or two passes, the first ends at the first IPv6 pool
  simp only [ikev2CpSetaddr, family, false_and, if_false, noV6, Option.isSome_none,
    Bool.false_eq_true, and_false, nonempty, ne_eq, not_true_eq_false]
  split <;> simp [setaddrPasses, setaddrPass_of_uniform _ uniform 0 none 0 cfgs matching]

-- A peer with one ID, as responder SAs 1 and 2 hold it, and two pools: `2001:db8::/120` and
-- `10.0.0.0/24`.
def stickyPeerId : IkedId := ⟨2, 4, some [2, 0, 0, 0, 0x70, 0x65, 0x65, 0x72]⟩

def stickyEnv0 : PoolEnv where
  sas := fun _ => ⟨false, stickyPeerId, ⟨2, 4, some [2, 0, 0, 0, 0x67, 0x77]⟩, false⟩
  scSas := [1, 2]
  scDstidSas := []
  pools := fun _ => ⟨.request, none, none, none, none⟩
  scAddrpool := []
  scAddrpool6 := []
  scStickyaddress := true

def stickyPool6 : IkedCfg :=
  ⟨ikev2CfgInternalIp6Address,
    ⟨afInet6, ⟨afInet6, [0x20, 0x01, 0x0d, 0xb8] ++ List.replicate 12 0⟩, 120, true, 0⟩⟩

def stickyPool4 : IkedCfg := ⟨ikev2CfgInternalIp4Address, ⟨afInet, ⟨afInet, [10, 0, 0, 0]⟩, 24, true, 0⟩⟩

/-- SA 1 is set up under a policy with the IPv6 pool only and recorded in the index; SA 2,
with the same peer ID, then gets an IPv4 address under a policy with both pools. -/
def stickyRun : Option PoolEnv := do
  let env ← (ikev2CpSetaddr stickyEnv0 1 [stickyPool6] afInet fun _ _ => 0).toOption
  let env ← (ikev2CpSetaddr env 1 [stickyPool6] afInet6 fun _ _ => 0).toOption
  let (dstids, _) ← (ikev2RecordDstid env.toDstidEnv 1).toOption
  (ikev2CpSetaddr { env with toDstidEnv := dstids } 2 [stickyPool4, stickyPool6] afInet
    fun _ _ => 0).toOption

def stickyEnv : PoolEnv := stickyRun.getD stickyEnv0

theorem ikev2CpSetaddr_sticky_leaves_sa_without_address_after_run :
    stickyRun = some stickyEnv ∧
      ∃ env', ikev2CpSetaddr stickyEnv 2 [stickyPool4, stickyPool6] afInet6 (fun _ _ => 0) =
        .ok env' ∧ 2 ∈ env'.scAddrpool ∧ (env'.pools 2).saAddrpool = none :=
  ⟨rfl, @ikev2CpSetaddr_sticky_leaves_sa_without_address stickyEnv 2 1
    [stickyPool4, stickyPool6] (fun _ _ => 0) rfl rfl rfl (by decide) rfl rfl rfl rfl (by decide)⟩

end OpenIKED.Ikev2.AddrPool
