import OpenIKED.Util.Sockaddr
import OpenIKED.Shared.Run

set_option autoImplicit false

/-!
# The flows of an `ikev2` rule

The grammar actions of `hosts` and `hosts_list` in `parse.y`, and the part of `create_ike`
that turns them into `pol_flows` through `expand_flows`, `expand_keyword` and
`create_flow`.  A host is the list of address wraps that `host` returned for it (one for
an address, several for a name with several records or an interface group), and the
rule's clauses are concatenated into one source and one destination list.  `create_ike`
then walks the two lists side by side, so every flow comes from the `i`-th source and
the `i`-th destination wrap of the concatenation (`ruleFlows_lockstep`).
-/

namespace OpenIKED.Parse.Flows

open OpenIKED.Util OpenIKED.Shared

-- `ipa->type`: zero for an address, `IPSEC_ADDR_ANY` and `IPSEC_ADDR_DYNAMIC`.
inductive AddrType
  | address
  | any
  | dynamic
deriving DecidableEq, Repr

-- The fields of the `srcnat` wrap that `create_flow` copies into `flow_prenat`.
structure NatWrap where
  address : Sockaddr
  mask : UInt8
  netaddress : Bool
  af : Nat
deriving DecidableEq, Repr

-- The fields of `struct ipsec_addr_wrap` that the flow code reads.
structure AddrWrap where
  address : Sockaddr
  mask : UInt8
  netaddress : Bool
  af : Nat
  type : AddrType
  port : UInt16
  name : String
  srcnat : Option NatWrap
deriving DecidableEq, Repr

structure Hosts where
  src : List AddrWrap
  dst : List AddrWrap
deriving DecidableEq, Repr

structure IkedAddr where
  addrAf : Nat
  addr : Sockaddr
  addrMask : UInt8
  addrNet : Bool
  addrPort : UInt16
deriving DecidableEq, Repr

-- The fields of `struct iked_flow` that `create_flow` sets.
structure IkedFlow where
  flowSrc : IkedAddr
  flowDst : IkedAddr
  flowDir : Nat
  flowRdomain : Int
  flowPrenat : IkedAddr
  flowSaproto : UInt8
  flowIpproto : UInt8
  flowTransport : Nat
deriving DecidableEq, Repr

-- The fields of `struct iked_policy` that the flow code reads and writes.
structure FlowPolicy where
  polSaproto : UInt8
  polRdomain : Int
  polFlags : Nat
  polFlows : List IkedFlow
  polNflows : Nat
deriving DecidableEq, Repr

def ipspDirectionOut : Nat := 2
def ikedPolicyTransport : Nat := 0x040
def ikedIpprotoMax : Nat := 16

/-! ## The grammar -/

-- One clause of `hosts_list`.  The productions `FROM host port TO host port` and
-- `TO host port FROM host port` read the same four values.
structure Clause where
  src : List AddrWrap
  sport : UInt16
  dst : List AddrWrap
  dport : UInt16
deriving DecidableEq, Repr

-- `$$->src->port = $3`: the port is set on the first wrap of the host only.
def setPort : List AddrWrap → UInt16 → List AddrWrap
  | [], _ => []
  | ipa :: rest, port => { ipa with port := port } :: rest

def hosts (c : Clause) : Except String Hosts :=
  match c.dst.find? (fun ipa => ipa.srcnat.isSome) with
  | some ipa => .error ("no flow NAT support for destination network: " ++ ipa.name)
  | none => .ok { src := setPort c.src c.sport, dst := setPort c.dst c.dport }

-- `hosts_list comma hosts`: the source and destination lists are each appended through
-- their `tail` pointers.
def hostsListAppend (acc h : Hosts) : Hosts :=
  { src := acc.src ++ h.src, dst := acc.dst ++ h.dst }

-- The grammar gives at least one clause, whose `Hosts` the fold starts from.
def hostsList (first : Hosts) (rest : List Hosts) : Hosts :=
  rest.foldl hostsListAppend first

/-! ## `expand_keyword` and `create_flow` -/

def setIpmask (af : Nat) (b : Int) : UInt8 :=
  if b = -1 then (if af = afInet then 32 else 128) else UInt8.ofNat b.toNat

-- What `host` returns for the four literals of `expand_keyword`: `host_ip` of the
-- unspecified address of the family, with the mask after the slash or `-1`.
def hostUnspecified (af : Nat) (mask : Int) (name : String) : AddrWrap :=
  { address := ⟨af, List.replicate (if af = afInet then 4 else 16) 0⟩
    mask := setIpmask af mask
    netaddress := decide (mask > -1)
    af := af
    type := .address
    port := 0
    name := name
    srcnat := none }

def expandKeyword (ip : AddrWrap) : Option AddrWrap :=
  if ip.af = afInet then
    match ip.type with
    | .any => some (hostUnspecified afInet 0 "0.0.0.0/0")
    | .dynamic => some (hostUnspecified afInet (-1) "0.0.0.0")
    | .address => none
  else if ip.af = afInet6 then
    match ip.type with
    | .any => some (hostUnspecified afInet6 0 "::/0")
    | .dynamic => some (hostUnspecified afInet6 (-1) "::")
    | .address => none
  else none

def addrCmp (a b : IkedAddr) (useports : Bool) : Int :=
  let diff := sockaddrCmp a.addr b.addr 128
  let diff := if diff = 0 then (a.addrMask.toNat : Int) - b.addrMask.toNat else diff
  if diff = 0 ∧ useports then (a.addrPort.toNat : Int) - b.addrPort.toNat else diff

def flowCmp (a b : IkedFlow) : Int :=
  let diff := a.flowRdomain - b.flowRdomain
  let diff := if diff = 0 then (a.flowIpproto.toNat : Int) - b.flowIpproto.toNat else diff
  let diff := if diff = 0 then (a.flowSaproto.toNat : Int) - b.flowSaproto.toNat else diff
  let diff := if diff = 0 then (a.flowDir : Int) - b.flowDir else diff
  let diff := if diff = 0 then addrCmp a.flowDst b.flowDst true else diff
  let diff := if diff = 0 then addrCmp a.flowSrc b.flowSrc true else diff
  if diff = 0 then addrCmp a.flowPrenat b.flowPrenat false else diff

theorem addrCmp_self (a : IkedAddr) (useports : Bool) : addrCmp a a useports = 0 := by
  simp [addrCmp, sockaddrCmp_self]

-- `flow_cmp` returns the first difference it finds, so equal flows agree on the fields it
-- compares before the addresses.
theorem flowCmp_eq_zero {a b : IkedFlow} (same : flowCmp a b = 0) :
    a.flowRdomain = b.flowRdomain ∧ a.flowIpproto = b.flowIpproto ∧
      a.flowSaproto = b.flowSaproto ∧ a.flowDir = b.flowDir := by
  simp only [flowCmp] at same
  split_ifs at same <;> refine ⟨by omega, UInt8.toNat_inj.mp (by omega),
    UInt8.toNat_inj.mp (by omega), by omega⟩

-- The `iked_addr` that `create_flow` fills from a wrap.
def wrapAddr (ipa : AddrWrap) : IkedAddr :=
  { addrAf := ipa.af, addr := ipa.address, addrMask := ipa.mask, addrNet := ipa.netaddress,
    addrPort := ipa.port }

-- `flow_prenat`: the `srcnat` wrap without its port, or zeroes with `addr_af = 0`.
def prenatAddr : Option NatWrap → IkedAddr
  | some ippn =>
    { addrAf := ippn.af, addr := ippn.address, addrMask := ippn.mask,
      addrNet := ippn.netaddress, addrPort := 0 }
  | none => { addrAf := 0, addr := ⟨0, []⟩, addrMask := 0, addrNet := false, addrPort := 0 }

def mkFlow (pol : FlowPolicy) (proto : UInt8) (ipa ipb : AddrWrap) : IkedFlow :=
  { flowSrc := wrapAddr ipa
    flowDst := wrapAddr ipb
    flowDir := ipspDirectionOut
    flowRdomain := pol.polRdomain
    flowPrenat := prenatAddr ipa.srcnat
    flowSaproto := pol.polSaproto
    flowIpproto := proto
    flowTransport := pol.polFlags &&& ikedPolicyTransport }

-- `RB_INSERT` into `pol_flows`: a flow that compares equal to one in the tree is a
-- duplicate and is freed.
def insertFlow (pol : FlowPolicy) (flow : IkedFlow) : FlowPolicy :=
  if pol.polFlows.any (fun g => flowCmp flow g == 0) then pol
  else { pol with polFlows := pol.polFlows ++ [flow], polNflows := pol.polNflows + 1 }

def createFlow (pol : FlowPolicy) (proto : UInt8) (ipa ipb : AddrWrap) :
    Except String FlowPolicy :=
  if ipa.af ≠ ipb.af then .error "cannot mix different address families."
  else .ok (insertFlow pol (mkFlow pol proto ipa ipb))

-- The `-1` of `expand_flows` when `expand_keyword` gives `NULL`, with nothing printed.
def expandFailed : Except String FlowPolicy := .error ""

def expandFlows (pol : FlowPolicy) (proto : UInt8) (src dst : AddrWrap) :
    Except String FlowPolicy :=
  if src.af = afUnspec ∧ dst.af = afUnspec then
    -- both sides `any` or `dynamic`: one flow for each family
    match expandKeyword { src with af := afInet }, expandKeyword { dst with af := afInet } with
    | some ipa, some ipb => do
      let pol ← createFlow pol proto ipa ipb
      match expandKeyword { src with af := afInet6 }, expandKeyword { dst with af := afInet6 } with
      | some ipa, some ipb => createFlow pol proto ipa ipb
      | _, _ => expandFailed
    | _, _ => expandFailed
  else if src.af = afUnspec then
    match expandKeyword { src with af := dst.af } with
    | some ipa => createFlow pol proto ipa dst
    | none => expandFailed
  else if dst.af = afUnspec then
    match expandKeyword { dst with af := src.af } with
    | some ipb => createFlow pol proto src ipb
    | none => expandFailed
  else createFlow pol proto src dst

/-! ## The loop of `create_ike` -/

-- `fatalx("create_ike: invalid flow")` on a failed `expand_flows`.
def expandFlowsOrFatal (ipa ipb : AddrWrap) (pol : FlowPolicy) (proto : UInt8) :
    Except String FlowPolicy :=
  match expandFlows pol proto ipa ipb with
  | .ok pol => .ok pol
  | .error _ => .error "create_ike: invalid flow"

-- One pair of the loop: a flow for each protocol of `pol_ipproto`, or protocol 0.
def expandPair (pol : FlowPolicy) (ipproto : List UInt8) (ipa ipb : AddrWrap) :
    Except String FlowPolicy := do
  let pol ← ipproto.foldlM (expandFlowsOrFatal ipa ipb) pol
  if ipproto.length = 0 then expandFlowsOrFatal ipa ipb pol 0 else pure pol

-- `for (ipa = hosts->src, ipb = hosts->dst; ipa && ipb; ...)`.
def flowLoop (pol : FlowPolicy) (ipproto : List UInt8) :
    List AddrWrap → List AddrWrap → Except String FlowPolicy
  | ipa :: src, ipb :: dst => do
    let pol ← expandPair pol ipproto ipa ipb
    flowLoop pol ipproto src dst
  | _, _ => .ok pol

-- The policy `create_ike` fills before the loop, with `RB_INIT(&pol.pol_flows)`.
def initPolicy (saproto : UInt8) (rdomain : Int) (flags : Nat) : FlowPolicy :=
  { polSaproto := saproto, polRdomain := rdomain, polFlags := flags, polFlows := [],
    polNflows := 0 }

def createIkeFlows (saproto : UInt8) (rdomain : Int) (flags : Nat) (ipproto : List UInt8)
    (h : Hosts) : Except String (List IkedFlow) :=
  if ipproto.length > ikedIpprotoMax then .error "too many protocols"
  else do
    let pol ← flowLoop (initPolicy saproto rdomain flags) ipproto h.src h.dst
    pure pol.polFlows

-- The flows of a rule with clauses `first :: rest`, from the grammar to `create_ike`.
def ruleFlows (first : Clause) (rest : List Clause) (ipproto : List UInt8) (saproto : UInt8)
    (rdomain : Int) (flags : Nat) : Except String (List IkedFlow) := do
  let h ← hosts first
  let hs ← rest.mapM hosts
  createIkeFlows saproto rdomain flags ipproto (hostsList h hs)

/-! ## Where each flow comes from -/

-- The addresses `expand_flows` can put on one side of a flow made from the wrap `ipa`:
-- what `expand_keyword` makes of it in some family when its family is unspecified, and
-- its own otherwise.
def Endpoint (ipa : AddrWrap) (e : IkedAddr) : Prop :=
  if ipa.af = afUnspec then ∃ af k, expandKeyword { ipa with af := af } = some k ∧ e = wrapAddr k
  else e = wrapAddr ipa

def FromPair (ipa ipb : AddrWrap) (f : IkedFlow) : Prop :=
  Endpoint ipa f.flowSrc ∧ Endpoint ipb f.flowDst

-- The protocols a flow of the loop carries: those of `pol_ipproto`, or 0 when it is empty.
def flowProtos (ipproto : List UInt8) : List UInt8 :=
  if ipproto.length = 0 then [0] else ipproto

-- Every flow of `pol` was already in `pol₀` or satisfies `Q`.
def FlowsFrom (pol₀ : FlowPolicy) (Q : IkedFlow → Prop) (pol : FlowPolicy) : Prop :=
  ∀ f ∈ pol.polFlows, f ∈ pol₀.polFlows ∨ Q f

section Sources

variable {pol pol' pol'' : FlowPolicy} {proto : UInt8} {ipa ipb src dst : AddrWrap}
  {Q Q' : IkedFlow → Prop}

theorem FlowsFrom.refl (pol : FlowPolicy) (Q : IkedFlow → Prop) : FlowsFrom pol Q pol :=
  fun _ mem => .inl mem

theorem FlowsFrom.mono (weaker : ∀ f, Q' f → Q f) (flows : FlowsFrom pol Q' pol') :
    FlowsFrom pol Q pol' := by
  intro f mem
  rcases flows f mem with old | new
  · exact .inl old
  · exact .inr (weaker f new)

theorem FlowsFrom.trans (first : FlowsFrom pol Q pol') (second : FlowsFrom pol' Q pol'') :
    FlowsFrom pol Q pol'' := by
  intro f mem
  rcases second f mem with old | new
  · exact first f old
  · exact .inr new

theorem expandKeyword_of_address (plain : ipa.type = .address) : expandKeyword ipa = none := by
  unfold expandKeyword
  rw [plain]
  split_ifs <;> rfl

theorem expandKeyword_fresh {ip k : AddrWrap} (expanded : expandKeyword ip = some k) :
    k.port = 0 ∧ k.srcnat = none := by
  unfold expandKeyword at expanded
  split_ifs at expanded <;> split at expanded <;> cases expanded <;> exact ⟨rfl, rfl⟩

theorem Endpoint.of_specified (specified : ipa.af ≠ afUnspec) : Endpoint ipa (wrapAddr ipa) := by
  rw [Endpoint, if_neg specified]

theorem Endpoint.of_keyword (keyword : ipa.af = afUnspec) {af : Nat} {k : AddrWrap}
    (expanded : expandKeyword { ipa with af := af } = some k) : Endpoint ipa (wrapAddr k) := by
  rw [Endpoint, if_pos keyword]
  exact ⟨af, k, expanded, rfl⟩

theorem Endpoint.eq_of_address (plain : ipa.type = .address) {e : IkedAddr}
    (endpoint : Endpoint ipa e) : e = wrapAddr ipa := by
  unfold Endpoint at endpoint
  split at endpoint
  · obtain ⟨af, k, expanded, -⟩ := endpoint
    have plain' : ({ ipa with af := af } : AddrWrap).type = .address := plain
    rw [expandKeyword_of_address plain'] at expanded
    cases expanded
  · exact endpoint

-- The port configured on `any` or `dynamic` never reaches a flow.
theorem Endpoint.port_of_keyword (keyword : ipa.af = afUnspec) {e : IkedAddr}
    (endpoint : Endpoint ipa e) : e.addrPort = 0 := by
  rw [Endpoint, if_pos keyword] at endpoint
  obtain ⟨af, k, expanded, rfl⟩ := endpoint
  exact (expandKeyword_fresh expanded).1

theorem insertFlow_from (flow : IkedFlow) :
    FlowsFrom pol (fun f => f = flow) (insertFlow pol flow) := by
  intro f mem
  unfold insertFlow at mem
  split at mem
  · exact .inl mem
  · simpa using mem

theorem createFlow_of_af (same : ipa.af = ipb.af) :
    createFlow pol proto ipa ipb = .ok (insertFlow pol (mkFlow pol proto ipa ipb)) := by
  simp [createFlow, same]

-- A flow that `create_flow` makes from endpoints of `src` and `dst`.
theorem createFlow_from (ok : createFlow pol proto ipa ipb = .ok pol')
    (fromSrc : Endpoint src (wrapAddr ipa)) (fromDst : Endpoint dst (wrapAddr ipb)) :
    FlowsFrom pol (fun f => FromPair src dst f ∧ f.flowIpproto = proto) pol' := by
  unfold createFlow at ok
  split at ok
  · cases ok
  · cases ok
    refine (insertFlow_from _).mono ?_
    rintro f rfl
    exact ⟨⟨fromSrc, fromDst⟩, rfl⟩

theorem expandFlows_from (ok : expandFlows pol proto src dst = .ok pol') :
    FlowsFrom pol (fun f => FromPair src dst f ∧ f.flowIpproto = proto) pol' := by
  unfold expandFlows at ok
  split at ok
  · -- both sides unspecified: an IPv4 flow, then an IPv6 flow
    rename_i both
    split at ok
    · rename_i ipa ipb srcInet dstInet
      obtain ⟨mid, first, second⟩ := bind_eq_ok.mp ok
      have firstFrom := createFlow_from first (Endpoint.of_keyword both.1 srcInet)
        (Endpoint.of_keyword both.2 dstInet)
      split at second
      · rename_i ipa' ipb' srcInet6 dstInet6
        have secondFrom := createFlow_from second (Endpoint.of_keyword both.1 srcInet6)
          (Endpoint.of_keyword both.2 dstInet6)
        exact firstFrom.trans secondFrom
      · cases second
    · cases ok
  · rename_i notBoth
    split at ok
    · -- the source takes the destination's family
      rename_i srcUnspec
      have dstSpecified : dst.af ≠ afUnspec := fun dstUnspec => notBoth ⟨srcUnspec, dstUnspec⟩
      split at ok
      · rename_i ipa srcKeyword
        exact createFlow_from ok (Endpoint.of_keyword srcUnspec srcKeyword)
          (Endpoint.of_specified dstSpecified)
      · cases ok
    · rename_i srcSpecified
      split at ok
      · -- the destination takes the source's family
        rename_i dstUnspec
        split at ok
        · rename_i ipb dstKeyword
          exact createFlow_from ok (Endpoint.of_specified srcSpecified)
            (Endpoint.of_keyword dstUnspec dstKeyword)
        · cases ok
      · rename_i dstSpecified
        exact createFlow_from ok (Endpoint.of_specified srcSpecified)
          (Endpoint.of_specified dstSpecified)

theorem expandFlowsOrFatal_from (ok : expandFlowsOrFatal ipa ipb pol proto = .ok pol') :
    FlowsFrom pol (fun f => FromPair ipa ipb f ∧ f.flowIpproto = proto) pol' := by
  unfold expandFlowsOrFatal at ok
  split at ok
  · rename_i expanded
    cases ok
    exact expandFlows_from expanded
  · cases ok

theorem expandPair_from {ipproto : List UInt8} (ok : expandPair pol ipproto ipa ipb = .ok pol') :
    FlowsFrom pol (fun f => FromPair ipa ipb f ∧ f.flowIpproto ∈ flowProtos ipproto) pol' := by
  obtain ⟨mid, looped, last⟩ := bind_eq_ok.mp ok
  -- the protocol loop only adds flows of this pair with a protocol of the list
  have protoLoop : FlowsFrom pol (fun f => FromPair ipa ipb f ∧ f.flowIpproto ∈ flowProtos ipproto) mid := by
    refine foldlM_ok_keeps _ _ ipproto ?_ looped (FlowsFrom.refl _ _)
    intro q proto' q' member step kept
    have listed : proto' ∈ flowProtos ipproto := by
      rw [flowProtos, if_neg (List.ne_nil_of_mem member ∘ List.eq_nil_of_length_eq_zero)]
      exact member
    refine kept.trans ((expandFlowsOrFatal_from step).mono ?_)
    rintro f ⟨pair, rfl⟩
    exact ⟨pair, listed⟩
  split at last
  · rename_i empty
    refine protoLoop.trans ((expandFlowsOrFatal_from last).mono ?_)
    rintro f ⟨pair, isZero⟩
    refine ⟨pair, ?_⟩
    rw [flowProtos, if_pos empty, isZero]
    exact List.mem_singleton_self 0
  · cases last
    exact protoLoop

theorem flowLoop_eq_foldlM (pol : FlowPolicy) (ipproto : List UInt8) (src dst : List AddrWrap) :
    flowLoop pol ipproto src dst =
      (src.zip dst).foldlM (fun pol pair => expandPair pol ipproto pair.1 pair.2) pol := by
  induction src generalizing pol dst with
  | nil => rfl
  | cons ipa src ih =>
    cases dst with
    | nil => rfl
    | cons ipb dst =>
      simp only [flowLoop, List.zip_cons_cons, List.foldlM_cons, ih]

-- The loop of `create_ike` pairs the `i`-th source wrap with the `i`-th destination wrap.
theorem flowLoop_from {ipproto : List UInt8} {srcs dsts : List AddrWrap}
    (ok : flowLoop pol ipproto srcs dsts = .ok pol') :
    FlowsFrom pol (fun f => ∃ pair ∈ srcs.zip dsts, FromPair pair.1 pair.2 f ∧
      f.flowIpproto ∈ flowProtos ipproto) pol' := by
  rw [flowLoop_eq_foldlM] at ok
  refine foldlM_ok_keeps _ _ (srcs.zip dsts) ?_ ok (FlowsFrom.refl _ _)
  intro q pair q' member step kept
  refine kept.trans ((expandPair_from step).mono ?_)
  intro f made
  exact ⟨pair, member, made⟩

end Sources

/-! ## From the grammar to the loop -/

-- The source and destination lists that `hosts_list` builds from a rule's clauses.
def ruleSrc (clauses : List Clause) : List AddrWrap :=
  clauses.flatMap fun c => setPort c.src c.sport

def ruleDst (clauses : List Clause) : List AddrWrap :=
  clauses.flatMap fun c => setPort c.dst c.dport

section Grammar

variable {c : Clause} {h : Hosts}

theorem hosts_ok (ok : hosts c = .ok h) :
    h.src = setPort c.src c.sport ∧ h.dst = setPort c.dst c.dport := by
  unfold hosts at ok
  split at ok
  · cases ok
  · cases ok
    exact ⟨rfl, rfl⟩

theorem mapM_hosts_ok {cs : List Clause} {hs : List Hosts} (ok : cs.mapM hosts = .ok hs) :
    hs.flatMap Hosts.src = ruleSrc cs ∧ hs.flatMap Hosts.dst = ruleDst cs := by
  induction cs generalizing hs with
  | nil =>
    cases ok
    exact ⟨rfl, rfl⟩
  | cons c cs ih =>
    rw [List.mapM_cons, bind_eq_ok] at ok
    obtain ⟨h, first, ok⟩ := ok
    rw [bind_eq_ok] at ok
    obtain ⟨hs', rest, done⟩ := ok
    cases done
    obtain ⟨src, dst⟩ := hosts_ok first
    obtain ⟨srcs, dsts⟩ := ih rest
    simp only [List.flatMap_cons, ruleSrc, ruleDst] at srcs dsts ⊢
    rw [src, dst, srcs, dsts]
    exact ⟨rfl, rfl⟩

theorem hostsList_lists (first : Hosts) (rest : List Hosts) :
    (hostsList first rest).src = first.src ++ rest.flatMap Hosts.src ∧
      (hostsList first rest).dst = first.dst ++ rest.flatMap Hosts.dst := by
  induction rest generalizing first with
  | nil => simp [hostsList]
  | cons h rest ih =>
    have next := ih (hostsListAppend first h)
    have unfolded : hostsList first (h :: rest) = hostsList (hostsListAppend first h) rest := rfl
    rw [unfolded, next.1, next.2]
    simp [hostsListAppend]

-- Every flow of a rule comes from the `i`-th wrap of the rule's concatenated sources and
-- the `i`-th of its concatenated destinations, with a protocol of the rule.
theorem ruleFlows_lockstep {first : Clause} {rest : List Clause} {ipproto : List UInt8}
    {saproto : UInt8} {rdomain : Int} {flags : Nat} {flows : List IkedFlow}
    (ok : ruleFlows first rest ipproto saproto rdomain flags = .ok flows) {f : IkedFlow}
    (mem : f ∈ flows) :
    ∃ pair ∈ (ruleSrc (first :: rest)).zip (ruleDst (first :: rest)),
      FromPair pair.1 pair.2 f ∧ f.flowIpproto ∈ flowProtos ipproto := by
  obtain ⟨h, firstOk, ok⟩ := bind_eq_ok.mp ok
  obtain ⟨hs, restOk, ok⟩ := bind_eq_ok.mp ok
  unfold createIkeFlows at ok
  split at ok
  · cases ok
  · obtain ⟨pol, looped, done⟩ := bind_eq_ok.mp ok
    cases done
    -- the rule's lists, as the grammar concatenated them
    have lists : (hostsList h hs).src = ruleSrc (first :: rest) ∧
        (hostsList h hs).dst = ruleDst (first :: rest) := by
      obtain ⟨src, dst⟩ := hosts_ok firstOk
      obtain ⟨srcs, dsts⟩ := mapM_hosts_ok restOk
      rw [(hostsList_lists h hs).1, (hostsList_lists h hs).2, src, dst, srcs, dsts]
      exact ⟨rfl, rfl⟩
    rcases flowLoop_from looped f mem with absent | made
    · cases absent
    · rw [lists.1, lists.2] at made
      exact made

-- `from any port p to D port q`: the port is set on the `any` wrap, and every flow is
-- made from the wrap `expand_keyword` builds in its place, with port 0.
theorem ruleFlows_keyword_source_port (a : AddrWrap) (dsts : List AddrWrap)
    (sport dport : UInt16) (ipproto : List UInt8) (saproto : UInt8) (rdomain : Int)
    (flags : Nat) (flows : List IkedFlow) (keyword : a.af = afUnspec)
    (ok : ruleFlows ⟨[a], sport, dsts, dport⟩ [] ipproto saproto rdomain flags = .ok flows) :
    ∀ f ∈ flows, f.flowSrc.addrPort = 0 := by
  intro f mem
  obtain ⟨pair, zipped, ⟨fromSrc, -⟩, -⟩ := ruleFlows_lockstep ok mem
  have src : pair.1 = { a with port := sport } := by
    cases dsts with
    | nil => simp [ruleSrc, ruleDst, setPort] at zipped
    | cons d dsts =>
      simp only [ruleSrc, ruleDst, setPort, List.flatMap_cons, List.flatMap_nil, List.append_nil,
        List.zip_cons_cons, List.zip_nil_left, List.mem_singleton] at zipped
      rw [zipped]
  have keyword' : pair.1.af = afUnspec := by rw [src]; exact keyword
  exact fromSrc.port_of_keyword keyword'

end Grammar

/-! ## What iked.conf(5) documents -/

-- The endpoints a source and a destination wrap of one clause stand for: `any` and
-- `dynamic` in the other side's family, or in both families when both are keywords, and
-- no pair across two families.
def documentedEndpoints (s d : AddrWrap) : List (AddrWrap × AddrWrap) :=
  if s.af = afUnspec ∧ d.af = afUnspec then
    [afInet, afInet6].filterMap fun af =>
      (expandKeyword { s with af := af }).bind fun s' =>
        (expandKeyword { d with af := af }).map fun d' => (s', d')
  else if s.af = afUnspec then
    ((expandKeyword { s with af := d.af }).map fun s' => (s', d)).toList
  else if d.af = afUnspec then
    ((expandKeyword { d with af := s.af }).map fun d' => (s, d')).toList
  else if s.af = d.af then [(s, d)]
  else []

-- Every address of a clause's source with every address of the same clause's
-- destination, for every protocol, with the clause's ports on every flow.
def documentedFlows (pol : FlowPolicy) (ipproto : List UInt8) (clauses : List Clause) :
    List IkedFlow :=
  clauses.flatMap fun c => c.src.flatMap fun s => c.dst.flatMap fun d =>
    (documentedEndpoints s d).flatMap fun e => (flowProtos ipproto).map fun proto =>
      mkFlow pol proto { e.1 with port := c.sport } { e.2 with port := c.dport }

theorem documentedEndpoints_of_specified {s d : AddrWrap} (family : s.af = d.af)
    (specified : d.af ≠ afUnspec) : documentedEndpoints s d = [(s, d)] := by
  simp [documentedEndpoints, family, specified]

-- A host that resolves to several addresses, paired with a one-address host: the first
-- address is paired with the destination and every later one is dropped.
theorem ruleFlows_drops_later_records (a₁ a₂ d : AddrWrap) (more : List AddrWrap)
    (sport dport : UInt16) (ipproto : List UInt8) (saproto : UInt8) (rdomain : Int)
    (flags : Nat) (flows : List IkedFlow) (plain : a₁.type = .address)
    (distinct : a₂.address ≠ a₁.address) (family : a₂.af = d.af) (specified : d.af ≠ afUnspec)
    (ok : ruleFlows ⟨a₁ :: a₂ :: more, sport, [d], dport⟩ [] ipproto saproto rdomain flags =
      .ok flows) :
    (∀ proto ∈ flowProtos ipproto,
      mkFlow (initPolicy saproto rdomain flags) proto { a₂ with port := sport }
          { d with port := dport } ∈
        documentedFlows (initPolicy saproto rdomain flags) ipproto
          [⟨a₁ :: a₂ :: more, sport, [d], dport⟩]) ∧
      ∀ f ∈ flows, f.flowSrc.addr ≠ a₂.address := by
  constructor
  · -- the clause, its second source address, its destination, then the pair and protocol
    intro proto listed
    apply List.mem_flatMap.mpr ⟨_, List.mem_singleton_self _, ?_⟩
    apply List.mem_flatMap.mpr ⟨a₂, List.mem_cons_of_mem _ List.mem_cons_self, ?_⟩
    apply List.mem_flatMap.mpr ⟨d, List.mem_singleton_self d, ?_⟩
    rw [documentedEndpoints_of_specified family specified]
    apply List.mem_flatMap.mpr ⟨(a₂, d), List.mem_singleton_self _, ?_⟩
    exact List.mem_map.mpr ⟨proto, listed, rfl⟩
  · intro f mem
    obtain ⟨pair, zipped, ⟨fromSrc, -⟩, -⟩ := ruleFlows_lockstep ok mem
    -- one destination wrap: the loop stops after the first source wrap
    have first : pair = ({ a₁ with port := sport }, { d with port := dport }) := by
      simpa [ruleSrc, ruleDst, setPort] using zipped
    subst first
    have plain' : ({ a₁ with port := sport } : AddrWrap).type = .address := plain
    rw [Endpoint.eq_of_address plain' fromSrc]
    exact fun same => distinct same.symm

theorem ruleFlows_drops_later_records_of_name :
    ∃ flows, ruleFlows
        ⟨[⟨⟨2, [192, 0, 2, 1]⟩, 32, false, 2, .address, 0, "www", none⟩,
          ⟨⟨2, [192, 0, 2, 2]⟩, 32, false, 2, .address, 0, "www", none⟩], 0,
          [⟨⟨2, [198, 51, 100, 1]⟩, 32, false, 2, .address, 0, "198.51.100.1", none⟩], 0⟩
        [] [] 3 0 0 = .ok flows ∧ flows.length = 1 ∧
      ∀ f ∈ flows, f.flowSrc.addr ≠ ⟨2, [192, 0, 2, 2]⟩ := by
  refine ⟨_, rfl, rfl, ?_⟩
  exact (ruleFlows_drops_later_records ⟨⟨2, [192, 0, 2, 1]⟩, 32, false, 2, .address, 0, "www", none⟩
    ⟨⟨2, [192, 0, 2, 2]⟩, 32, false, 2, .address, 0, "www", none⟩
    ⟨⟨2, [198, 51, 100, 1]⟩, 32, false, 2, .address, 0, "198.51.100.1", none⟩ [] 0 0 [] 3 0 0 _
    rfl (by decide) rfl (by decide) rfl).2

end OpenIKED.Parse.Flows
