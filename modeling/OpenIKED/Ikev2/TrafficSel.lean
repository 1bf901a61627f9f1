import OpenIKED.Parse.Flows
import OpenIKED.Ikev2.SaKeys

set_option autoImplicit false

/-!
# Traffic selectors and the flows they announce

`policy_generate_ts` turns a policy's flows into the two lists of traffic selectors that
`ikev2_add_ts_payload` sends, and drops every endpoint that `addr_cmp` finds equal to one
already listed.  The flow loop of `ikev2_childsa_negotiate` installs a copy of every flow
of the policy.  Both walk `pol_flows` in the order of `RB_FOREACH`, which the functions
here take as their list of flows.  A selector keeps the protocol of the first flow through
its endpoint, so a flow of another protocol through the same endpoint is installed but
not announced (`ikev2AddTs_misses_later_protocol`).
-/

namespace OpenIKED.Ikev2.TrafficSel

open OpenIKED.Util OpenIKED.Parse.Flows
open OpenIKED.Ikev2.SaKeys (IkedProposal ikev2ValidProposal ikev2SaprotoIpcomp)

def ikev2MaxnumTss : Nat := 255
def ikev2TsIpv4AddrRange : UInt8 := 7
def ikev2TsIpv6AddrRange : UInt8 := 8
def ipspDirectionIn : Nat := 1
def ipsecDirFwd : Nat := 3

structure IkedTs where
  tsAddr : IkedAddr
  tsIpproto : UInt8
deriving DecidableEq, Repr

-- The selector lists of `struct iked_policy` and their counts.
structure PolicyTs where
  polTssrc : List IkedTs
  polTssrcCount : Nat
  polTsdst : List IkedTs
  polTsdstCount : Nat
deriving DecidableEq, Repr

-- `sa_cp`: no configuration payload, `IKEV2_CP_REQUEST` or `IKEV2_CP_REPLY`.
inductive SaCp
  | none
  | request
  | reply
deriving DecidableEq, Repr

-- The fields of `struct iked_sa` that the selector and flow code reads.
structure FlowSa where
  saInitiator : Bool
  saCp : SaCp
  saAddrpool : Option IkedAddr
  saAddrpool6 : Option IkedAddr
  saCpAddr : Option IkedAddr
  saCpAddr6 : Option IkedAddr
deriving DecidableEq, Repr

inductive PayloadType
  | tsi
  | tsr
deriving DecidableEq, Repr

-- `struct ikev2_ts` with the two addresses that follow it.
structure Ikev2Ts where
  tsType : UInt8
  tsProtoid : UInt8
  tsStartport : UInt16
  tsEndport : UInt16
  tsStart : List UInt8
  tsEnd : List UInt8
deriving DecidableEq, Repr

-- `struct ikev2_tsp` and the selectors after it.
structure Ikev2Tsp where
  tspCount : Nat
  tspSelectors : List Ikev2Ts
deriving DecidableEq, Repr

/-! ## `policy_generate_ts` -/

-- 1 when the endpoint is appended, 0 when one equal under `addr_cmp` is already listed.
def tsInsertUnique (addr : IkedAddr) (tss : List IkedTs) (ipproto : UInt8) :
    List IkedTs × Int :=
  if tss.any (fun ts => addrCmp addr ts.tsAddr true == 0) then (tss, 0)
  else (tss ++ [⟨addr, ipproto⟩], 1)

-- One flow of the `RB_FOREACH`.
def generateTsStep (p : PolicyTs) (flow : IkedFlow) : PolicyTs :=
  let src := tsInsertUnique flow.flowSrc p.polTssrc flow.flowIpproto
  let dst := tsInsertUnique flow.flowDst p.polTsdst flow.flowIpproto
  { polTssrc := src.1
    polTssrcCount := if src.2 = 1 then p.polTssrcCount + 1 else p.polTssrcCount
    polTsdst := dst.1
    polTsdstCount := if dst.2 = 1 then p.polTsdstCount + 1 else p.polTsdstCount }

-- The lists start empty, as those of a policy fresh from the parser do.
def policyGenerateTs (flows : List IkedFlow) : Option PolicyTs :=
  let p := flows.foldl generateTsStep ⟨[], 0, [], 0⟩
  if p.polTssrcCount > ikev2MaxnumTss ∨ p.polTsdstCount > ikev2MaxnumTss then none else some p

/-! ## `ikev2_cp_fixaddr` and `ikev2_cp_fixflow` -/

-- `sin_addr.s_addr == 0` and `IN6_IS_ADDR_UNSPECIFIED`: the first `n` address bytes are 0.
def unspecifiedBytes (bytes : List UInt8) (n : Nat) : Bool :=
  (List.range n).all fun i => bytes.getD i 0 == 0

-- The return value, and what `patched` holds afterwards.
def ikev2CpFixaddr (sa : FlowSa) (addr patched : IkedAddr) : Int × IkedAddr :=
  if addr.addrNet then (-2, patched)
  else if sa.saCp = .none then (-1, patched)
  else if addr.addrAf = afInet then
    if !unspecifiedBytes addr.addr.addr 4 then (-2, patched)
    else
      match (if sa.saCp = .request then sa.saAddrpool else sa.saCpAddr) with
      | none => (-1, patched)
      | some naddr => (0, { naddr with addrNet := false, addrMask := 32 })
  else if addr.addrAf = afInet6 then
    if !unspecifiedBytes addr.addr.addr 16 then (-2, patched)
    else
      match (if sa.saCp = .request then sa.saAddrpool6 else sa.saCpAddr6) with
      | none => (-1, patched)
      | some naddr => (0, { naddr with addrNet := false, addrMask := 128 })
  else (0, patched)

def ikev2CpFixflow (sa : FlowSa) (flow patched : IkedFlow) : Int × IkedFlow :=
  match sa.saCp with
  | .request =>
    if patched.flowDir = ipspDirectionOut then
      let fixed := ikev2CpFixaddr sa flow.flowDst patched.flowDst
      (fixed.1, { patched with flowDst := fixed.2 })
    else
      let fixed := ikev2CpFixaddr sa flow.flowDst patched.flowSrc
      (fixed.1, { patched with flowSrc := fixed.2 })
  | .reply =>
    if patched.flowDir = ipspDirectionOut then
      let fixed := ikev2CpFixaddr sa flow.flowSrc patched.flowSrc
      (fixed.1, { patched with flowSrc := fixed.2 })
    else
      let fixed := ikev2CpFixaddr sa flow.flowSrc patched.flowDst
      (fixed.1, { patched with flowDst := fixed.2 })
  | .none => (0, patched)

/-! ## `ikev2_add_ts_payload` and `ikev2_add_ts` -/

-- The bytes of a `uint32_t` as `memcpy` copies it on a little-endian host.
def storeWord (w : UInt32) : List UInt8 :=
  [w.toUInt8, (w >>> 8).toUInt8, (w >>> 16).toUInt8, (w >>> 24).toUInt8]

-- The `switch (addr->addr_af)`: the selector type and its two addresses.  No flow of
-- `create_flow` has another family; the model leaves such a selector empty.
def tsAddresses (addr : IkedAddr) : UInt8 × List UInt8 × List UInt8 :=
  if addr.addrAf = afInet then
    let a := loadWord addr.addr.addr 0
    if addr.addrNet then
      let m := prefixlen2mask addr.addrMask
      (ikev2TsIpv4AddrRange, storeWord (a &&& m), storeWord (a ||| ~~~m))
    else (ikev2TsIpv4AddrRange, storeWord a, storeWord a)
  else if addr.addrAf = afInet6 then
    let av := loadWord addr.addr.addr
    let mv := loadWord (prefixlen2mask6 addr.addrMask)
    if addr.addrNet then
      (ikev2TsIpv6AddrRange, [0, 1, 2, 3].flatMap fun i => storeWord (av i &&& mv i),
        [0, 1, 2, 3].flatMap fun i => storeWord (av i ||| ~~~mv i))
    else
      (ikev2TsIpv6AddrRange, [0, 1, 2, 3].flatMap fun i => storeWord (av i),
        [0, 1, 2, 3].flatMap fun i => storeWord (av i))
  else (0, [], [])

def tsSelector (addr : IkedAddr) (ipproto : UInt8) : Ikev2Ts :=
  { tsType := (tsAddresses addr).1
    tsProtoid := ipproto
    tsStartport := if addr.addrPort ≠ 0 then addr.addrPort else 0
    tsEndport := if addr.addrPort ≠ 0 then addr.addrPort else 0xffff
    tsStart := (tsAddresses addr).2.1
    tsEnd := (tsAddresses addr).2.2 }

-- The list `ikev2_add_ts_payload` walks and the count it writes into `tsp_count`.
def payloadTss (sa : FlowSa) (p : PolicyTs) : PayloadType → List IkedTs × Nat
  | .tsi => if sa.saInitiator then (p.polTssrc, p.polTssrcCount) else (p.polTsdst, p.polTsdstCount)
  | .tsr => if sa.saInitiator then (p.polTsdst, p.polTsdstCount) else (p.polTssrc, p.polTssrcCount)

-- The payload of the peer's side, whose `0.0.0.0` and `::` are patched.
def patchesRemote (sa : FlowSa) : PayloadType → Bool
  | .tsi => !sa.saInitiator
  | .tsr => sa.saInitiator

-- `bzero(&pooladdr, sizeof(pooladdr))`, once before the loop.
def bzeroAddr : IkedAddr :=
  { addrAf := 0, addr := ⟨0, []⟩, addrMask := 0, addrNet := false, addrPort := 0 }

-- One selector of the `TAILQ_FOREACH`; `pooladdr` is carried from one to the next.
def addTsStep (sa : FlowSa) (type : PayloadType) (acc : IkedAddr × List Ikev2Ts) (tsi : IkedTs) :
    IkedAddr × List Ikev2Ts :=
  if patchesRemote sa type then
    let fixed := ikev2CpFixaddr sa tsi.tsAddr acc.1
    (fixed.2, acc.2 ++ [tsSelector (if fixed.1 = 0 then fixed.2 else tsi.tsAddr) tsi.tsIpproto])
  else (acc.1, acc.2 ++ [tsSelector tsi.tsAddr tsi.tsIpproto])

def ikev2AddTsPayload (sa : FlowSa) (p : PolicyTs) (type : PayloadType) : Ikev2Tsp :=
  { tspCount := (payloadTss sa p type).2
    tspSelectors := ((payloadTss sa p type).1.foldl (addTsStep sa type) (bzeroAddr, [])).2 }

-- The TSi payload, then the TSr payload.
def ikev2AddTs (sa : FlowSa) (p : PolicyTs) (reverse : Bool) : Ikev2Tsp × Ikev2Tsp :=
  (ikev2AddTsPayload sa p (if reverse then .tsr else .tsi),
    ikev2AddTsPayload sa p (if reverse then .tsi else .tsr))

/-! ## The flow loop of `ikev2_childsa_negotiate` -/

-- `flowa` before `ikev2_cp_fixflow`.
def outboundCopy (pol : FlowPolicy) (saproto : UInt8) (flow : IkedFlow) : IkedFlow :=
  { flow with
    flowDir := ipspDirectionOut
    flowSaproto := saproto
    flowRdomain := pol.polRdomain
    flowTransport := pol.polFlags &&& ikedPolicyTransport }

-- One flow of the inner `RB_FOREACH`: `flowa`, `flowb` and, on Linux, the forward copy
-- `flowc`, unless a flow equal to `flowa` is already in `sa_flows`.
def negotiateFlow (sa : FlowSa) (pol : FlowPolicy) (saproto : UInt8) (saFlows : List IkedFlow)
    (flow : IkedFlow) : List IkedFlow :=
  let fixedA := ikev2CpFixflow sa flow (outboundCopy pol saproto flow)
  if fixedA.1 = -1 then saFlows
  else if saFlows.any (fun saflow => flowCmp saflow fixedA.2 == 0) then saFlows
  else
    let fixedB := ikev2CpFixflow sa flow
      { fixedA.2 with flowDir := ipspDirectionIn, flowSrc := flow.flowDst, flowDst := flow.flowSrc }
    if fixedB.1 = -1 then saFlows
    else saFlows ++ [{ fixedB.2 with flowDir := ipsecDirFwd }, fixedA.2, fixedB.2]

-- The loop over the proposals; `ic` says whether an IPCOMP transform was negotiated.
def ikev2ChildsaFlows (sa : FlowSa) (pol : FlowPolicy) (ic : Bool)
    (proposals : List IkedProposal) (saFlows : List IkedFlow) : List IkedFlow :=
  proposals.foldl (fun saFlows prop =>
    if (ikev2ValidProposal prop).isNone then saFlows
    else pol.polFlows.foldl
      (negotiateFlow sa pol (if ic then ikev2SaprotoIpcomp else prop.propProtoid)) saFlows)
    saFlows

/-! ## What a selector covers -/

-- RFC 7296 3.13.1: the protocol matches or is 0, and the endpoint's port range and
-- address range, encoded as a selector encodes them, lie inside the selector's.
def Ikev2Ts.Covers (ts : Ikev2Ts) (proto : UInt8) (addr : IkedAddr) : Prop :=
  (ts.tsProtoid = 0 ∨ ts.tsProtoid = proto) ∧ ts.tsType = (tsSelector addr proto).tsType ∧
    ts.tsStartport ≤ (tsSelector addr proto).tsStartport ∧
    (tsSelector addr proto).tsEndport ≤ ts.tsEndport ∧
    ts.tsStart ≤ (tsSelector addr proto).tsStart ∧ (tsSelector addr proto).tsEnd ≤ ts.tsEnd

-- The payload drawn from `pol_tssrc`: TSi for the initiator, TSr for the responder.
def localPayload (sa : FlowSa) (p : PolicyTs) : Ikev2Tsp :=
  ikev2AddTsPayload sa p (if sa.saInitiator then .tsi else .tsr)

/-! ## The selectors -/

section Selectors

variable {sa : FlowSa} {p : PolicyTs}

-- `tsInsertUnique` leaves a list alone when the endpoint is already on it.
theorem tsInsertUnique_of_listed {addr e : IkedAddr} {q ipproto : UInt8}
    (listed : addrCmp addr e true = 0) : tsInsertUnique addr [⟨e, q⟩] ipproto = ([⟨e, q⟩], 0) := by
  simp [tsInsertUnique, listed]

-- Once the source list holds one endpoint, flows through that endpoint leave it as it is.
theorem foldl_generateTsStep_tssrc {e : IkedAddr} {q : UInt8} (flows : List IkedFlow)
    (through : ∀ g ∈ flows, addrCmp g.flowSrc e true = 0) (start : PolicyTs)
    (single : start.polTssrc = [⟨e, q⟩]) : (flows.foldl generateTsStep start).polTssrc = [⟨e, q⟩] := by
  induction flows generalizing start with
  | nil => exact single
  | cons g flows ih =>
    apply ih (fun g' member => through g' (List.mem_cons_of_mem g member))
    rw [generateTsStep, single, tsInsertUnique_of_listed (through g List.mem_cons_self)]

-- A policy whose flows all leave through one endpoint announces that endpoint once, with
-- the protocol of the first flow.
theorem policyGenerateTs_tssrc {first : IkedFlow} {rest : List IkedFlow} {ts : PolicyTs}
    (through : ∀ g ∈ rest, addrCmp g.flowSrc first.flowSrc true = 0)
    (generated : policyGenerateTs (first :: rest) = some ts) :
    ts.polTssrc = [⟨first.flowSrc, first.flowIpproto⟩] := by
  unfold policyGenerateTs at generated
  dsimp only at generated
  split at generated
  · cases generated
  · cases generated
    rw [List.foldl_cons]
    exact foldl_generateTsStep_tssrc rest through _ rfl

theorem addTsStep_protoids (type : PayloadType) (tss : List IkedTs) (acc : IkedAddr × List Ikev2Ts) :
    (tss.foldl (addTsStep sa type) acc).2.map Ikev2Ts.tsProtoid =
      acc.2.map Ikev2Ts.tsProtoid ++ tss.map IkedTs.tsIpproto := by
  induction tss generalizing acc with
  | nil => simp
  | cons tsi tss ih =>
    rw [List.foldl_cons, ih]
    -- patched or not, the selector keeps the protocol of its entry
    unfold addTsStep
    split <;> simp [tsSelector]

-- Each selector of a payload carries the protocol of its entry; patching changes only
-- addresses.
theorem ikev2AddTsPayload_protoids (type : PayloadType) :
    (ikev2AddTsPayload sa p type).tspSelectors.map Ikev2Ts.tsProtoid =
      (payloadTss sa p type).1.map IkedTs.tsIpproto := by
  rw [ikev2AddTsPayload, addTsStep_protoids]
  rfl

theorem payloadTss_local : (payloadTss sa p (if sa.saInitiator then .tsi else .tsr)).1 = p.polTssrc := by
  cases initiator : sa.saInitiator <;> simp [payloadTss, initiator]

-- The local payload is one of the two that `ikev2_add_ts` writes, in either order.
theorem ikev2AddTs_local (reverse : Bool) :
    localPayload sa p = (ikev2AddTs sa p reverse).1 ∨ localPayload sa p = (ikev2AddTs sa p reverse).2 := by
  cases initiator : sa.saInitiator <;> cases reverse <;> simp [localPayload, ikev2AddTs, initiator]

end Selectors

/-! ## The installed flows -/

section Installed

variable {sa : FlowSa} {pol : FlowPolicy} {saproto : UInt8}

theorem ikev2CpFixflow_of_none (noCp : sa.saCp = .none) (flow patched : IkedFlow) :
    ikev2CpFixflow sa flow patched = (0, patched) := by
  simp [ikev2CpFixflow, noCp]

-- `sa_flows` only grows.
theorem negotiateFlow_keeps (saFlows : List IkedFlow) (flow : IkedFlow) {h : IkedFlow}
    (mem : h ∈ saFlows) : h ∈ negotiateFlow sa pol saproto saFlows flow := by
  unfold negotiateFlow
  dsimp only
  split_ifs <;> simp [mem]

-- Without a configuration payload, every flow leaves an outbound flow of its protocol in
-- `sa_flows`: its own `flowa`, or an equal one already there.
theorem negotiateFlow_out (noCp : sa.saCp = .none) (saFlows : List IkedFlow) (flow : IkedFlow) :
    ∃ h ∈ negotiateFlow sa pol saproto saFlows flow,
      h.flowDir = ipspDirectionOut ∧ h.flowIpproto = flow.flowIpproto := by
  unfold negotiateFlow
  simp only [ikev2CpFixflow_of_none noCp]
  by_cases present : saFlows.any (fun saflow => flowCmp saflow (outboundCopy pol saproto flow) == 0)
  · obtain ⟨saflow, mem, equal⟩ := List.any_eq_true.mp present
    obtain ⟨-, proto, -, dir⟩ := flowCmp_eq_zero (beq_iff_eq.mp equal)
    refine ⟨saflow, ?_, dir, proto⟩
    simp [present, mem]
  · refine ⟨outboundCopy pol saproto flow, ?_, rfl, rfl⟩
    simp [present]

theorem foldl_negotiateFlow_keeps (flows saFlows : List IkedFlow) {h : IkedFlow} (mem : h ∈ saFlows) :
    h ∈ flows.foldl (negotiateFlow sa pol saproto) saFlows :=
  List.foldlRecOn flows _ mem fun acc kept flow _ => negotiateFlow_keeps acc flow kept

theorem foldl_negotiateFlow_out (noCp : sa.saCp = .none) (flows saFlows : List IkedFlow)
    {g : IkedFlow} (listed : g ∈ flows) :
    ∃ h ∈ flows.foldl (negotiateFlow sa pol saproto) saFlows,
      h.flowDir = ipspDirectionOut ∧ h.flowIpproto = g.flowIpproto := by
  induction flows generalizing saFlows with
  | nil => cases listed
  | cons flow flows ih =>
    rw [List.foldl_cons]
    rcases List.mem_cons.mp listed with rfl | later
    · obtain ⟨h, mem, out⟩ := @negotiateFlow_out sa pol saproto noCp saFlows g
      exact ⟨h, foldl_negotiateFlow_keeps flows _ mem, out⟩
    · exact ih _ later

theorem ikev2ChildsaFlows_keeps (ic : Bool) (proposals : List IkedProposal) (saFlows : List IkedFlow)
    {h : IkedFlow} (mem : h ∈ saFlows) : h ∈ ikev2ChildsaFlows sa pol ic proposals saFlows := by
  refine List.foldlRecOn proposals _ mem fun acc kept prop _ => ?_
  split
  · exact kept
  · exact foldl_negotiateFlow_keeps _ acc kept

-- With a valid proposal and no configuration payload, every flow of the policy is
-- installed in the outbound direction with its protocol.
theorem ikev2ChildsaFlows_out (noCp : sa.saCp = .none) (ic : Bool) {proposals : List IkedProposal}
    {prop : IkedProposal} (offered : prop ∈ proposals) (valid : (ikev2ValidProposal prop).isSome)
    (saFlows : List IkedFlow) {g : IkedFlow} (listed : g ∈ pol.polFlows) :
    ∃ h ∈ ikev2ChildsaFlows sa pol ic proposals saFlows,
      h.flowDir = ipspDirectionOut ∧ h.flowIpproto = g.flowIpproto := by
  induction proposals generalizing saFlows with
  | nil => cases offered
  | cons prop' proposals ih =>
    rcases List.mem_cons.mp offered with rfl | later
    · have checked : (ikev2ValidProposal prop).isNone = false := by simpa using valid
      obtain ⟨h, mem, out⟩ := @foldl_negotiateFlow_out sa pol
        (if ic then ikev2SaprotoIpcomp else prop.propProtoid) noCp pol.polFlows saFlows g listed
      refine ⟨h, ?_, out⟩
      unfold ikev2ChildsaFlows
      rw [List.foldl_cons, if_neg (by simp [checked])]
      exact ikev2ChildsaFlows_keeps ic proposals _ mem
    · exact ih later _

end Installed

/-- A policy whose flows all leave through one source endpoint, with several protocols:
every flow is installed, but the local payload announces only the first flow's protocol,
so the flows of the other protocols are covered by none of its selectors. -/
theorem ikev2AddTs_misses_later_protocol (sa : FlowSa) (pol : FlowPolicy) (ic : Bool)
    (proposals : List IkedProposal) (prop : IkedProposal) (first : IkedFlow)
    (rest : List IkedFlow) (f : IkedFlow) (ts : PolicyTs) (noCp : sa.saCp = .none)
    (flows : pol.polFlows = first :: rest)
    (through : ∀ g ∈ rest, addrCmp g.flowSrc first.flowSrc true = 0) (later : f ∈ rest)
    (other : f.flowIpproto ≠ first.flowIpproto) (specific : first.flowIpproto ≠ 0)
    (offered : prop ∈ proposals) (valid : (ikev2ValidProposal prop).isSome)
    (generated : policyGenerateTs pol.polFlows = some ts) :
    ∃ g ∈ ikev2ChildsaFlows sa pol ic proposals [],
      g.flowDir = ipspDirectionOut ∧ g.flowIpproto = f.flowIpproto ∧
        ∀ sel ∈ (localPayload sa ts).tspSelectors, ¬ sel.Covers g.flowIpproto g.flowSrc := by
  have listed : f ∈ pol.polFlows := by
    rw [flows]
    exact List.mem_cons_of_mem first later
  obtain ⟨g, installed, out, proto⟩ := ikev2ChildsaFlows_out noCp ic offered valid [] listed
  refine ⟨g, installed, out, proto, ?_⟩
  -- the local payload is drawn from one entry, made from the first flow
  rw [flows] at generated
  have single := policyGenerateTs_tssrc through generated
  have protoids := @ikev2AddTsPayload_protoids sa ts (if sa.saInitiator then .tsi else .tsr)
  rw [payloadTss_local, single] at protoids
  intro sel mem covers
  have announced : sel.tsProtoid = first.flowIpproto := by
    have drawn := List.mem_map_of_mem (f := Ikev2Ts.tsProtoid) mem
    rw [localPayload, protoids] at drawn
    simpa using drawn
  rcases covers.1 with zero | same
  · exact specific (announced.symm.trans zero)
  · exact other (proto.symm.trans (same.symm.trans announced))

-- `ikev2 esp proto { tcp, udp } from 192.168.1.1 to 10.0.0.18`, the example of iked.conf(5):
-- the tcp flow and the udp flow.
theorem ikev2AddTs_misses_later_protocol_of_tcp_udp :
    ∃ ts, policyGenerateTs
        [⟨⟨2, ⟨2, [192, 168, 1, 1]⟩, 32, false, 0⟩, ⟨2, ⟨2, [10, 0, 0, 18]⟩, 32, false, 0⟩, 2, 0,
            prenatAddr none, 3, 6, 0⟩,
          ⟨⟨2, ⟨2, [192, 168, 1, 1]⟩, 32, false, 0⟩, ⟨2, ⟨2, [10, 0, 0, 18]⟩, 32, false, 0⟩, 2, 0,
            prenatAddr none, 3, 17, 0⟩] = some ts ∧
      ∃ g ∈ ikev2ChildsaFlows ⟨true, .none, none, none, none, none⟩
          { initPolicy 3 0 0 with polFlows :=
            [⟨⟨2, ⟨2, [192, 168, 1, 1]⟩, 32, false, 0⟩, ⟨2, ⟨2, [10, 0, 0, 18]⟩, 32, false, 0⟩, 2, 0,
                prenatAddr none, 3, 6, 0⟩,
              ⟨⟨2, ⟨2, [192, 168, 1, 1]⟩, 32, false, 0⟩, ⟨2, ⟨2, [10, 0, 0, 18]⟩, 32, false, 0⟩, 2, 0,
                prenatAddr none, 3, 17, 0⟩] }
          false [⟨3, ⟨0, 0, 0⟩, ⟨0, 0, 0⟩, [⟨1, 12, 256⟩]⟩] [],
        g.flowDir = ipspDirectionOut ∧ g.flowIpproto = 17 ∧
          ∀ sel ∈ (localPayload ⟨true, .none, none, none, none, none⟩ ts).tspSelectors,
            ¬ sel.Covers g.flowIpproto g.flowSrc :=
  ⟨_, rfl, ikev2AddTs_misses_later_protocol ⟨true, .none, none, none, none, none⟩
    { initPolicy 3 0 0 with polFlows :=
      [⟨⟨2, ⟨2, [192, 168, 1, 1]⟩, 32, false, 0⟩, ⟨2, ⟨2, [10, 0, 0, 18]⟩, 32, false, 0⟩, 2, 0,
          prenatAddr none, 3, 6, 0⟩,
        ⟨⟨2, ⟨2, [192, 168, 1, 1]⟩, 32, false, 0⟩, ⟨2, ⟨2, [10, 0, 0, 18]⟩, 32, false, 0⟩, 2, 0,
          prenatAddr none, 3, 17, 0⟩] }
    false _ _ _ _ _ _ rfl rfl (fun g mem => by rw [List.mem_singleton.mp mem]; exact addrCmp_self _ _)
    (List.mem_singleton_self _) (by decide) (by decide) (List.mem_singleton_self _) rfl rfl⟩

-- The two flows are those the parser makes of that rule.
example : ruleFlows
    ⟨[⟨⟨2, [192, 168, 1, 1]⟩, 32, false, 2, .address, 0, "192.168.1.1", none⟩], 0,
      [⟨⟨2, [10, 0, 0, 18]⟩, 32, false, 2, .address, 0, "10.0.0.18", none⟩], 0⟩ [] [6, 17] 3 0 0 =
    .ok [⟨⟨2, ⟨2, [192, 168, 1, 1]⟩, 32, false, 0⟩, ⟨2, ⟨2, [10, 0, 0, 18]⟩, 32, false, 0⟩, 2, 0,
          prenatAddr none, 3, 6, 0⟩,
        ⟨⟨2, ⟨2, [192, 168, 1, 1]⟩, 32, false, 0⟩, ⟨2, ⟨2, [10, 0, 0, 18]⟩, 32, false, 0⟩, 2, 0,
          prenatAddr none, 3, 17, 0⟩] := by
  rfl

end OpenIKED.Ikev2.TrafficSel
