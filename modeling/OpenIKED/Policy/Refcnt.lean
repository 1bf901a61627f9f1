import Mathlib.Logic.Function.Basic
import Mathlib.Tactic.Common

set_option autoImplicit false

/-!
# The lifetime of policies

A policy lives in `sc_policies` until `config_free_policy` unlinks it; from then on it
carries `IKED_POLICY_REFCNT` and lives as long as an SA points to it, counted in
`pol_refcnt` and listed in `pol_sapeers`.  `sc_defaultcon` points to the default policy
besides.  Policies and SAs are kept in a heap where a freed object is `none`; touching a
freed one sets `fault`.  The lookups that choose a policy for an SA are the events'
arguments.
-/

namespace OpenIKED.Policy.Refcnt

abbrev PolId := Nat
abbrev SaId := Nat

-- The fields of `struct iked_policy` the reference counting reads and writes.
structure PolicyRefs where
  polDefault : Bool
  polRefcntFlag : Bool
  polRefcnt : Int
  polSapeers : List SaId
deriving DecidableEq, Repr

-- The field of `struct iked_sa` it reads and writes.
structure IkedSa where
  saPolicy : Option PolId
deriving DecidableEq, Repr

-- The policies and SAs of the IKEv2 process.
structure Env where
  pols : PolId → Option PolicyRefs
  nextPol : PolId
  scPolicies : List PolId
  scDefaultcon : Option PolId
  sas : SaId → Option IkedSa
  nextSa : SaId
  fault : Bool

def Env.crash (env : Env) : Env := { env with fault := true }

def Env.setPol (env : Env) (p : PolId) (pol : Option PolicyRefs) : Env :=
  { env with pols := Function.update env.pols p pol }

def Env.setSa (env : Env) (sa : SaId) (s : Option IkedSa) : Env :=
  { env with sas := Function.update env.sas sa s }

-- `TAILQ_REMOVE(&env->sc_policies, pol, pol_entry)`.
def Env.unlist (env : Env) (p : PolId) : Env := { env with scPolicies := env.scPolicies.erase p }

def start : Env := ⟨fun _ => none, 0, [], none, fun _ => none, 0, false⟩

/-! ## The functions of `policy.c` and `config.c` -/

def policyRef (env : Env) (p : PolId) : Env :=
  match env.pols p with
  | none => env.crash
  | some pol =>
    if pol.polRefcntFlag then env.setPol p (some { pol with polRefcnt := pol.polRefcnt + 1 })
    else env

-- The loop of `config_free_policy` over `pol_sapeers`: a reference for each SA that
-- points back to the policy.
def refLinked (p : PolId) : Env → List SaId → Env
  | env, [] => env
  | env, sa :: rest =>
    match env.sas sa with
    | none => refLinked p env.crash rest
    | some s => refLinked p (if s.saPolicy = some p then policyRef env p else env) rest

def configFreePolicy (env : Env) (p : PolId) : Env :=
  match env.pols p with
  | none => env.crash
  | some pol =>
    if pol.polRefcntFlag then env.setPol p none
    else
      -- unlinked from `sc_policies`, counted from now on
      let env := (env.setPol p (some { pol with polRefcntFlag := true })).unlist p
      let env := refLinked p env pol.polSapeers
      match env.pols p with
      | none => env.crash
      | some pol => if pol.polRefcnt ≠ 0 then env else env.setPol p none

def policyUnref (env : Env) : Option PolId → Env
  | none => env
  | some p =>
    match env.pols p with
    | none => env.crash
    | some pol =>
      if !pol.polRefcntFlag then env
      else
        let env := env.setPol p (some { pol with polRefcnt := pol.polRefcnt - 1 })
        if pol.polRefcnt - 1 ≤ 0 then configFreePolicy env p else env

-- `TAILQ_REMOVE(&pol->pol_sapeers, sa, sa_peer_entry)`.
def removePeer (env : Env) (p : Option PolId) (sa : SaId) : Env :=
  match p with
  | none => env.crash
  | some p =>
    match env.pols p with
    | none => env.crash
    | some pol => env.setPol p (some { pol with polSapeers := pol.polSapeers.erase sa })

-- `TAILQ_INSERT_TAIL(&pol->pol_sapeers, sa, sa_peer_entry)`.
def insertPeer (env : Env) (p : PolId) (sa : SaId) : Env :=
  match env.pols p with
  | none => env.crash
  | some pol => env.setPol p (some { pol with polSapeers := pol.polSapeers ++ [sa] })

def setSaPolicy (env : Env) (sa : SaId) (p : Option PolId) : Env :=
  match env.sas sa with
  | none => env.crash
  | some s => env.setSa sa (some { s with saPolicy := p })

-- `config_getpolicy` of a policy from the parent, which counts no references.
def configGetpolicy (env : Env) (isDefault : Bool) : Env :=
  let p := env.nextPol
  let env := { env with
    pols := Function.update env.pols p (some ⟨isDefault, false, 0, []⟩)
    nextPol := p + 1
    scPolicies := env.scPolicies ++ [p] }
  if isDefault then
    -- only one default policy: the old one is freed or unreferenced
    let env := match env.scDefaultcon with
      | some old => configFreePolicy env old
      | none => env
    { env with scDefaultcon := some p }
  else env

-- `config_getcompile`: `policy_calc_skip_steps` reads every policy of `sc_policies`.
def configGetcompile (env : Env) : Env :=
  if env.scPolicies.all fun p => (env.pols p).isSome then env else env.crash

-- `config_doreset(env, RESET_POLICY)`.
def configDoreset (env : Env) : Env :=
  env.scPolicies.foldl configFreePolicy env

-- `sa_new` creating an SA for the policy `p`.
def saNew (env : Env) (p : PolId) : Env :=
  let sa := env.nextSa
  let env := { env with sas := Function.update env.sas sa (some ⟨none⟩), nextSa := sa + 1 }
  let env := policyRef env p
  let env := setSaPolicy env sa (some p)
  insertPeer env p sa

-- `config_free_sa`, which `sa_free` ends with.
def configFreeSa (env : Env) (sa : SaId) : Env :=
  match env.sas sa with
  | none => env.crash
  | some s =>
    let env := match s.saPolicy with
      | some p => policyUnref (removePeer env (some p) sa) (some p)
      | none => env
    env.setSa sa none

-- The re-lookup of `ikev2_sa_responder`, with what `policy_lookup` found.
def ikev2SaResponder (env : Env) (sa : SaId) (found : Option PolId) : Env :=
  match env.sas sa with
  | none => env.crash
  | some s =>
    match found with
    | none => env
    | some q =>
      let old := s.saPolicy
      let env := setSaPolicy env sa (some q)
      let env := removePeer env old sa
      let env := insertPeer env q sa
      let env := policyUnref env old
      policyRef env q

-- The responder's re-lookup on the peer's ID in `ikev2_ike_auth_recv`.
def ikev2IkeAuthRecvResponder (env : Env) (sa : SaId) (found : Option PolId) : Env :=
  match env.sas sa with
  | none => env.crash
  | some s =>
    let old := s.saPolicy
    let env := setSaPolicy env sa none
    match found with
    | none =>
      -- no compatible policy: the SA is left without one
      let env := removePeer env old sa
      policyUnref env old
    | some q =>
      if some q ≠ old then
        let env := removePeer env old sa
        let env := policyUnref env old
        -- `sa_new` on the SA, which now has no policy
        let env := policyRef env q
        let env := setSaPolicy env sa (some q)
        insertPeer env q sa
      else setSaPolicy env sa old

-- The initiator's check of its policy in `ikev2_ike_auth_recv`; `same` when the lookup
-- gives the SA's policy back.
def ikev2IkeAuthRecvInitiator (env : Env) (sa : SaId) (same : Bool) : Env :=
  match env.sas sa with
  | none => env.crash
  | some s =>
    if same then env
    else
      let old := s.saPolicy
      let env := setSaPolicy env sa none
      let env := removePeer env old sa
      policyUnref env old

-- The re-lookup of an established SA on reload in `ikev2_dispatch_parent`, with what
-- `policy_lookup_sa` found; it reads the SA's policy first.
def reloadRelookup (env : Env) (sa : SaId) (found : Option PolId) : Env :=
  match env.sas sa with
  | none => env.crash
  | some s =>
    match s.saPolicy with
    | none => env
    | some old =>
      match env.pols old, found with
      | none, _ => env.crash
      | some _, none => env
      | some _, some q =>
        let env := setSaPolicy env sa (some q)
        if old ≠ q then
          let env := removePeer env (some old) sa
          let env := policyUnref env (some old)
          let env := policyRef env q
          insertPeer env q sa
        else env

/-! ## Runs -/

inductive Event where
  | getpolicy (isDefault : Bool)
  | getcompile
  | resetPolicy
  | saNew (p : PolId)
  | freeSa (sa : SaId)
  | saResponder (sa : SaId) (found : Option PolId)
  | authRecvResponder (sa : SaId) (found : Option PolId)
  | authRecvInitiator (sa : SaId) (same : Bool)
  | reload (sa : SaId) (found : Option PolId)
deriving DecidableEq, Repr

-- What `policy_lookup` can return: a policy of `sc_policies` or the default.
def Found (env : Env) (p : PolId) : Bool := p ∈ env.scPolicies || env.scDefaultcon == some p

-- Whether the SA lives and points to a policy, as the handlers of an SA's exchanges find it.
def HasPolicy (env : Env) (sa : SaId) : Bool :=
  match env.sas sa with
  | some s => s.saPolicy.isSome
  | none => false

-- One event of the process.  A lookup returns what `policy_lookup` or `policy_lookup_sa`
-- can return, and an SA's handlers run on a live SA with a policy.
def step (env : Env) : Event → Env
  | .getpolicy isDefault => configGetpolicy env isDefault
  | .getcompile => configGetcompile env
  | .resetPolicy => configDoreset env
  | .saNew p => if Found env p then saNew env p else env
  | .freeSa sa => if (env.sas sa).isSome then configFreeSa env sa else env
  | .saResponder sa found =>
    if HasPolicy env sa && found.all (Found env) then ikev2SaResponder env sa found else env
  | .authRecvResponder sa found =>
    if HasPolicy env sa && found.all (Found env) then ikev2IkeAuthRecvResponder env sa found
    else env
  | .authRecvInitiator sa same =>
    if HasPolicy env sa then ikev2IkeAuthRecvInitiator env sa same else env
  | .reload sa found =>
    if (env.sas sa).isSome && found.all (· ∈ env.scPolicies) then reloadRelookup env sa found
    else env

def run (env : Env) (events : List Event) : Env := events.foldl step env

/-! ## What an SA points to and what a policy lists -/

def Env.ptr (env : Env) (sa : SaId) : Option PolId := (env.sas sa).bind IkedSa.saPolicy

def Env.peers (env : Env) (p : PolId) : List SaId := ((env.pols p).map PolicyRefs.polSapeers).getD []

section Views

variable (env : Env)

@[simp] theorem setPol_pols (p : PolId) (x : Option PolicyRefs) :
    (env.setPol p x).pols = Function.update env.pols p x := rfl
@[simp] theorem setPol_sas (p : PolId) (x : Option PolicyRefs) : (env.setPol p x).sas = env.sas := rfl
@[simp] theorem setPol_scPolicies (p : PolId) (x : Option PolicyRefs) :
    (env.setPol p x).scPolicies = env.scPolicies := rfl
@[simp] theorem setPol_scDefaultcon (p : PolId) (x : Option PolicyRefs) :
    (env.setPol p x).scDefaultcon = env.scDefaultcon := rfl
@[simp] theorem setPol_fault (p : PolId) (x : Option PolicyRefs) : (env.setPol p x).fault = env.fault := rfl
@[simp] theorem setPol_nextPol (p : PolId) (x : Option PolicyRefs) :
    (env.setPol p x).nextPol = env.nextPol := rfl
@[simp] theorem setPol_nextSa (p : PolId) (x : Option PolicyRefs) : (env.setPol p x).nextSa = env.nextSa := rfl

@[simp] theorem setSa_sas (sa : SaId) (x : Option IkedSa) :
    (env.setSa sa x).sas = Function.update env.sas sa x := rfl
@[simp] theorem setSa_pols (sa : SaId) (x : Option IkedSa) : (env.setSa sa x).pols = env.pols := rfl
@[simp] theorem setSa_scPolicies (sa : SaId) (x : Option IkedSa) :
    (env.setSa sa x).scPolicies = env.scPolicies := rfl
@[simp] theorem setSa_scDefaultcon (sa : SaId) (x : Option IkedSa) :
    (env.setSa sa x).scDefaultcon = env.scDefaultcon := rfl
@[simp] theorem setSa_fault (sa : SaId) (x : Option IkedSa) : (env.setSa sa x).fault = env.fault := rfl
@[simp] theorem setSa_nextPol (sa : SaId) (x : Option IkedSa) : (env.setSa sa x).nextPol = env.nextPol := rfl
@[simp] theorem setSa_nextSa (sa : SaId) (x : Option IkedSa) : (env.setSa sa x).nextSa = env.nextSa := rfl

@[simp] theorem unlist_pols (p : PolId) : (env.unlist p).pols = env.pols := rfl
@[simp] theorem unlist_sas (p : PolId) : (env.unlist p).sas = env.sas := rfl
@[simp] theorem unlist_scPolicies (p : PolId) : (env.unlist p).scPolicies = env.scPolicies.erase p := rfl
@[simp] theorem unlist_scDefaultcon (p : PolId) : (env.unlist p).scDefaultcon = env.scDefaultcon := rfl
@[simp] theorem unlist_fault (p : PolId) : (env.unlist p).fault = env.fault := rfl
@[simp] theorem unlist_nextPol (p : PolId) : (env.unlist p).nextPol = env.nextPol := rfl
@[simp] theorem unlist_nextSa (p : PolId) : (env.unlist p).nextSa = env.nextSa := rfl

@[simp] theorem crash_fault : env.crash.fault = true := rfl

theorem ptr_setPol (p : PolId) (x : Option PolicyRefs) : (env.setPol p x).ptr = env.ptr := rfl

theorem ptr_unlist (p : PolId) : (env.unlist p).ptr = env.ptr := rfl

theorem peers_unlist (p : PolId) : (env.unlist p).peers = env.peers := rfl

theorem Env.unlist_setPol (p q : PolId) (x : Option PolicyRefs) :
    (env.setPol q x).unlist p = (env.unlist p).setPol q x := rfl

theorem peers_setSa (sa : SaId) (x : Option IkedSa) : (env.setSa sa x).peers = env.peers := rfl

theorem ptr_setSa (sa : SaId) (x : Option IkedSa) :
    (env.setSa sa x).ptr = Function.update env.ptr sa (x.bind IkedSa.saPolicy) := by
  funext sa'
  by_cases same : sa' = sa
  · subst same
    simp [Env.ptr]
  · simp [Env.ptr, Function.update_of_ne same]

theorem peers_setPol (p : PolId) (x : Option PolicyRefs) :
    (env.setPol p x).peers = Function.update env.peers p ((x.map PolicyRefs.polSapeers).getD []) := by
  funext p'
  by_cases same : p' = p
  · subst same
    simp [Env.peers]
  · simp [Env.peers, Function.update_of_ne same]

theorem Env.setPol_setPol (p : PolId) (x y : Option PolicyRefs) :
    (env.setPol p x).setPol p y = env.setPol p y := by
  simp [Env.setPol]

end Views

end OpenIKED.Policy.Refcnt
