import OpenIKED.Ikev2.MsgCrypt

set_option autoImplicit false

/-!
# The keys of an IKE SA and of its child SAs

`ikev2_sa_keys` derives the seven keys of an IKE SA with `ikev2_prfplus`, and the last loop
of `ikev2_childsa_negotiate` slices the key material of the child SAs and sets up their
SPIs.  The PRF is an abstract HMAC; the key length tables of `parse.y`, the Diffie-Hellman
results and the SPIs the kernel hands out to `pfkey_sa_getspi` are parameters.
-/

namespace OpenIKED.Ikev2.SaKeys

open OpenIKED.Shared
open OpenIKED.Ikev2.FragSend (IkedCipher IkedHash hashLength)
open OpenIKED.Ikev2.MsgCrypt (CryptSa hashKeylength hashFinalLength ibufSetsize ownEncrKey
  ownIntegrKey peerEncrKey peerIntegrKey peerEncrKey_flip peerIntegrKey_flip)
open OpenIKED.Ikev2.PrintId (ikedMsgbufMax)

def ikedNonceMin : Nat := 16

def ikev2SaprotoIke : UInt8 := 1
def ikev2SaprotoAh : UInt8 := 2
def ikev2SaprotoEsp : UInt8 := 3
def ikev2SaprotoIpcomp : UInt8 := 204

def ikev2XformtypeEncr : UInt8 := 1
def ikev2XformtypeIntegr : UInt8 := 3
def ikev2XformtypeEsn : UInt8 := 5
def ikev2XformesnEsn : UInt16 := 1

def cpiPrivateMin : Nat := 61440

-- `ibuf_add` on a buffer made by `ibuf_new`, which grows up to `IKED_MSGBUF_MAX` bytes;
-- `ibuf_new(data, len)` is `ibufAdd [] data`.
def ibufAdd (buf data : List UInt8) : Option (List UInt8) :=
  if buf.length + data.length > ikedMsgbufMax then none else some (buf ++ data)

-- `ibuf_getdata`: the next `len` bytes, and what is left after the new read offset.
def ibufGetdata (buf : List UInt8) (len : Nat) : Option (List UInt8 × List UInt8) :=
  if len ≤ buf.length ∧ len ≤ ikedMsgbufMax then some (buf.take len, buf.drop len) else none

-- `htobe64(v)` as the bytes `ibuf_add` copies.
def be64Bytes (v : UInt64) : List UInt8 :=
  (List.range 8).map fun k => (v >>> (UInt64.ofNat (56 - 8 * k))).toUInt8

/-! ## `ikev2_prfplus` -/

section Prf

variable (mac : List UInt8 → List UInt8 → List UInt8) (prf : IkedHash)

-- `hash_setkey`, `hash_init`, `hash_update` and `hash_final` into a buffer of
-- `hash_keylength` bytes: the buffer and the length `hash_final` reports.
def prfDigest (key data : List UInt8) : List UInt8 × Nat :=
  let digest := mac key data
  (writeAt (List.replicate (hashKeylength prf) 0) 0 digest, hashFinalLength prf digest.length)

-- The rounds of `ikev2_prfplus` from `T(i + 1)` on, `t1` the last block and `t` the
-- blocks so far: `T(i + 1) = prf(K, T(i) | S | i + 1)`.  The appends are unchecked, and a
-- digest of the wrong length is `fatalx`.
def prfplusRounds (key seed : List UInt8) : Nat → Nat → List UInt8 → List UInt8 → Option (List UInt8)
  | 0, _, _, t => some t
  | n + 1, i, t1, t =>
    let t2 := (ibufAdd t1 seed).getD t1
    let t2 := (ibufAdd t2 [UInt8.ofNat (i + 1)]).getD t2
    let (block, hashlen) := prfDigest mac prf key t2
    if hashlen ≠ hashLength prf then none
    else prfplusRounds key seed n (i + 1) block ((ibufAdd t block).getD t)

-- `ikev2_prfplus(prf, key, seed, keymatlen)`: whole blocks, at least `keymatlen` bytes.
def ikev2Prfplus (key seed : List UInt8) (keymatlen : Nat) : Option (List UInt8) :=
  let rlen := roundup keymatlen (hashLength prf) / hashLength prf
  if key.length > ikedMsgbufMax then none
  else if rlen > 255 then none
  else prfplusRounds mac prf key seed rlen 0 [] []

end Prf

/-! ## `ikev2_sa_keys` -/

-- `struct iked_cipher`: the lengths the SK payloads use and what `cipher_keylength` reads.
structure SaCipher where
  encr : IkedCipher
  encrFixedkey : Nat
  encrKey : List UInt8
deriving DecidableEq, Repr

def cipherKeylength (encr : SaCipher) : Nat :=
  if encr.encrFixedkey ≠ 0 then encr.encrFixedkey else encr.encrKey.length

-- `struct iked_hash` as the PRF or the integrity transform of an IKE SA.
structure SaHash where
  hash : IkedHash
  hashFixedkey : Nat
  hashIsaead : Bool
deriving DecidableEq, Repr

-- The fields of `struct iked_sa` that `ikev2_sa_keys` reads.
structure KeySa where
  saEncr : Option SaCipher
  saPrf : Option SaHash
  saIntegr : Option SaHash
  saDhgroup : Option UInt16
  saInonce : List UInt8
  saRnonce : List UInt8
  shIspi : UInt64
  shRspi : UInt64
  shInitiator : Bool
deriving DecidableEq, Repr

-- The keys `ikev2_sa_keys` stores; an AEAD has no auth keys.
structure IkeKeys where
  saKeyD : List UInt8
  saKeyIauth : Option (List UInt8)
  saKeyRauth : Option (List UInt8)
  saKeyIencr : List UInt8
  saKeyRencr : List UInt8
  saKeyIprf : List UInt8
  saKeyRprf : List UInt8
deriving DecidableEq, Repr

-- An auth key when the integrity transform is not an AEAD.
def authKey (isaead : Bool) (t : List UInt8) (len : Nat) : Option (Option (List UInt8) × List UInt8) :=
  if isaead then some (none, t)
  else (ibufGetdata t len).map fun (key, rest) => (some key, rest)

-- The slices of `T`, in the order of RFC 7296 section 2.14.
def saKeySlices (prf integr : SaHash) (encr : SaCipher) (t : List UInt8) : Option IkeKeys := do
  let isaead := integr.hashIsaead
  let (keyD, t) ← ibufGetdata t (hashLength prf.hash)
  let (keyIauth, t) ← authKey isaead t (hashKeylength integr.hash)
  let (keyRauth, t) ← authKey isaead t (hashKeylength integr.hash)
  let (keyIencr, t) ← ibufGetdata t (cipherKeylength encr)
  let (keyRencr, t) ← ibufGetdata t (cipherKeylength encr)
  let (keyIprf, t) ← ibufGetdata t (hashLength prf.hash)
  let (keyRprf, _) ← ibufGetdata t (hashLength prf.hash)
  pure ⟨keyD, keyIauth, keyRauth, keyIencr, keyRencr, keyIprf, keyRprf⟩

-- `ikev2_sa_keys(env, sa, key)` with `dhsecret` what `dh_create_shared` computes from the
-- group and the DH values, `none` when it fails.
def ikev2SaKeys (mac : List UInt8 → List UInt8 → List UInt8) (sa : KeySa)
    (key dhsecret : Option (List UInt8)) : Option IkeKeys :=
  match sa.saEncr, sa.saPrf, sa.saIntegr, sa.saDhgroup with
  | some encr, some prf, some integr, some _ =>
    let isaead := integr.hashIsaead
    let nonceminlen := if prf.hashFixedkey ≠ 0 then prf.hashFixedkey else ikedNonceMin
    if sa.saInonce.length < nonceminlen ∨ sa.saInonce.length % 2 ≠ 0 ∨
        sa.saRnonce.length < nonceminlen ∨ sa.saRnonce.length % 2 ≠ 0 then none
    else
      -- a PRF with a fixed key length takes half of its key from each nonce
      let ilen := if prf.hashFixedkey ≠ 0 then prf.hashFixedkey / 2 else sa.saInonce.length
      let rlen := if prf.hashFixedkey ≠ 0 then prf.hashFixedkey / 2 else sa.saRnonce.length
      do
        let dhsecret ← dhsecret
        -- SKEYSEED = prf(Ni | Nr, g^ir), or prf(key, g^ir | Ni | Nr) on a rekey
        let (prfKey, data) ← match key with
          | none => do
            let ninr ← ibufAdd [] (sa.saInonce.take ilen)
            let ninr ← ibufAdd ninr (sa.saRnonce.take rlen)
            pure (ninr, dhsecret)
          | some key => do
            let data ← ibufAdd dhsecret (sa.saInonce.take ilen)
            let data ← ibufAdd data (sa.saRnonce.take rlen)
            pure (key, data)
        let _ ← ibufAdd [] prfKey
        let (buf, tmplen) := prfDigest mac prf.hash prfKey data
        let skeyseed ← ibufSetsize buf tmplen
        -- S = Ni | Nr | SPIi | SPIr
        let s ← ibufAdd [] sa.saInonce
        let s ← ibufAdd s sa.saRnonce
        let s ← ibufAdd s (be64Bytes sa.shIspi)
        let s ← ibufAdd s (be64Bytes sa.shRspi)
        let authlen := if isaead then 0 else hashKeylength integr.hash
        let ilen := hashLength prf.hash + authlen + authlen + cipherKeylength encr +
          cipherKeylength encr + hashKeylength prf.hash + hashKeylength prf.hash
        let t ← ikev2Prfplus mac prf.hash skeyseed s ilen
        saKeySlices prf integr encr t
  | _, _, _, _ => none

-- The fields `ikev2_msg_encrypt`, `ikev2_msg_integr` and `ikev2_msg_decrypt` read once
-- `ikev2_sa_keys` has stored the keys.
def cryptSaOf (sa : KeySa) (keys : IkeKeys) : CryptSa where
  saEncr := sa.saEncr.map SaCipher.encr
  saIntegr := sa.saIntegr.map SaHash.hash
  saIntegrIsaead := (sa.saIntegr.map SaHash.hashIsaead).getD false
  shInitiator := sa.shInitiator
  saKeyIencr := keys.saKeyIencr
  saKeyRencr := keys.saKeyRencr
  saKeyIauth := keys.saKeyIauth.getD []
  saKeyRauth := keys.saKeyRauth.getD []

/-! ## The child SAs of `ikev2_childsa_negotiate` -/

structure IkedTransform where
  xformType : UInt8
  xformId : UInt16
  xformLength : UInt16
deriving DecidableEq, Repr

structure IkedSpi where
  spi : UInt64
  spiSize : UInt8
  spiProtoid : UInt8
deriving DecidableEq, Repr

structure IkedProposal where
  propProtoid : UInt8
  propLocalspi : IkedSpi
  propPeerspi : IkedSpi
  propXforms : List IkedTransform
deriving DecidableEq, Repr

structure IkedIpcomp where
  icCpiOut : UInt16
  icCpiIn : UInt16
  icTransform : UInt8
deriving DecidableEq, Repr

-- `IPSP_DIRECTION_IN` and `IPSP_DIRECTION_OUT`.
inductive Direction where
  | dirIn
  | dirOut
deriving DecidableEq, Repr

def Direction.flip : Direction → Direction
  | .dirIn => .dirOut
  | .dirOut => .dirIn

-- The address of the IKE SA that `csa_local` or `csa_peer` points to.
inductive Endpoint where
  | saLocal
  | saPeer
deriving DecidableEq, Repr

-- The fields of `struct iked_childsa` that `ikev2_childsa_negotiate` sets.
structure IkedChildsa where
  csaSaproto : UInt8
  csaDir : Direction
  csaPeerspi : UInt64
  csaLoaded : Bool
  csaAllocated : Bool
  csaEsn : Bool
  csaTransport : Bool
  csaSpi : IkedSpi
  csaEncrkey : Option (List UInt8)
  csaEncrid : UInt16
  csaIntegrkey : Option (List UInt8)
  csaIntegrid : UInt16
  csaLocal : Endpoint
  csaPeer : Endpoint
  csaPfsgrpid : UInt16
deriving DecidableEq, Repr

-- The two child SAs one proposal gives, linked by `csa_peersa`, and the IPCOMP SAs
-- bundled with them.
structure ChildsaPair where
  csa : IkedChildsa
  csb : IkedChildsa
  ipcomp : Option (IkedChildsa × IkedChildsa)
deriving DecidableEq, Repr

-- `keylength_xf` and `noncelength_xf`, the tables of `parse.y`, in bits.
structure XfTables where
  keylengthXf : UInt8 → UInt8 → UInt16 → Nat
  noncelengthXf : UInt8 → UInt16 → Nat

-- The first loop's `xform_keylength`, a `uint16_t`, in bits.
def xformKeylength (tables : XfTables) (protoid : UInt8) (xform : IkedTransform) : UInt16 :=
  let base := (tables.keylengthXf protoid xform.xformType xform.xformId).toUInt16
  if xform.xformType = ikev2XformtypeEncr ∨ xform.xformType = ikev2XformtypeIntegr then
    (if xform.xformLength ≠ 0 then xform.xformLength else base) +
      (tables.noncelengthXf xform.xformType xform.xformId).toUInt16
  else base

def Keyed (xform : IkedTransform) : Prop :=
  xform.xformType = ikev2XformtypeEncr ∨ xform.xformType = ikev2XformtypeIntegr

instance (xform : IkedTransform) : Decidable (Keyed xform) :=
  inferInstanceAs (Decidable (_ ∨ _))

-- The key material length of the first loop, in bytes, before it is doubled.
def keymatLength (tables : XfTables) (proposals : List IkedProposal) : Nat :=
  ((proposals.filter fun prop => prop.propProtoid ≠ ikev2SaprotoIke).map fun prop =>
    ((prop.propXforms.filter Keyed).map fun xform =>
      (xformKeylength tables prop.propProtoid xform).toNat / 8).sum).sum

-- `ikev2_valid_proposal`: the last ENCR and INTEGR transforms and whether ESN is offered;
-- `none` for a proposal that is not ESP or AH or lacks the transform it needs.
def ikev2ValidProposal (prop : IkedProposal) :
    Option (Option IkedTransform × Option IkedTransform × Bool) :=
  if prop.propProtoid ≠ ikev2SaprotoEsp ∧ prop.propProtoid ≠ ikev2SaprotoAh then none
  else
    let found := prop.propXforms.foldl (fun (acc : Option IkedTransform × Option IkedTransform × Bool) xform =>
      if xform.xformType = ikev2XformtypeEncr then (some xform, acc.2.1, acc.2.2)
      else if xform.xformType = ikev2XformtypeIntegr then (acc.1, some xform, acc.2.2)
      else if xform.xformType = ikev2XformtypeEsn ∧ xform.xformId = ikev2XformesnEsn then
        (acc.1, acc.2.1, true)
      else acc) (none, none, false)
    if prop.propProtoid = ikev2SaprotoAh ∧ found.2.1 = none then none
    else if prop.propProtoid = ikev2SaprotoEsp ∧ found.1 = none then none
    else some found

-- `ic`: the IPCOMP record when a CPI was negotiated; the initiator needs its own CPI too.
def ipcompOn (initiator : Bool) (ic : IkedIpcomp) : Bool :=
  ic.icTransform != 0 && ic.icCpiOut != 0 && (!initiator || ic.icCpiIn != 0)

-- The kernel's answers to `pfkey_sa_getspi`: the SPI for the `n`th call of the run and
-- the SA protocol asked for, `none` when it fails.
abbrev Getspi := Nat → UInt8 → Option UInt32

-- The range `pfkey_sa_getspi` asks for: from 0x100 up, below `CPI_PRIVATE_MIN` for IPCOMP.
def KernelRange (getspi : Getspi) : Prop :=
  ∀ n proto s, getspi n proto = some s →
    0x100 ≤ s.toNat ∧ (proto = ikev2SaprotoIpcomp → s.toNat < cpiPrivateMin)

-- What the last loop carries from one proposal to the next.
structure CreateState where
  keymat : List UInt8
  ic : Bool
  ipcomp : IkedIpcomp
  calls : Nat
  usedTransport : Bool
deriving DecidableEq, Repr

-- The key of one transform: `xform_keylength / 8` bytes of what is left of `keymat`.
def transformKey (tables : XfTables) (protoid : UInt8) (xform : Option IkedTransform)
    (keymat : List UInt8) : Option (Option (List UInt8) × List UInt8) :=
  match xform with
  | none => some (none, keymat)
  | some xform =>
    (ibufGetdata keymat ((xformKeylength tables protoid xform).toNat / 8)).map
      fun (key, rest) => (some key, rest)

-- The encryption key, then the integrity key, of one child SA.
def childsaKeys (tables : XfTables) (protoid : UInt8) (encrxf integrxf : Option IkedTransform)
    (keymat : List UInt8) : Option ((Option (List UInt8) × Option (List UInt8)) × List UInt8) :=
  match transformKey tables protoid encrxf keymat with
  | none => none
  | some (encrkey, keymat) =>
    match transformKey tables protoid integrxf keymat with
    | none => none
    | some (integrkey, keymat) => some ((encrkey, integrkey), keymat)

-- Keys stored only for the transforms the proposal has.
def IkedChildsa.setKeys (csa : IkedChildsa) (keys : Option (List UInt8) × Option (List UInt8)) :
    IkedChildsa :=
  { csa with csaEncrkey := keys.1.or csa.csaEncrkey, csaIntegrkey := keys.2.or csa.csaIntegrkey }

-- `memcpy(csb, csa)` and the swap of SPIs, direction and addresses.
def IkedChildsa.mirror (csa : IkedChildsa) : IkedChildsa :=
  { csa with
    csaSpi := { csa.csaSpi with spi := csa.csaPeerspi }
    csaPeerspi := csa.csaSpi.spi
    csaAllocated := !csa.csaAllocated
    csaDir := csa.csaDir.flip
    csaLocal := csa.csaPeer
    csaPeer := csa.csaLocal }

section Create

variable (tables : XfTables) (getspi : Getspi) (initiator useTransport : Bool) (pfsgrp : UInt16)

-- The first child SA of a proposal before its keys: the initiator's is outbound with the
-- SPI the responder chose, the responder's inbound with an SPI from the kernel, which it
-- also stores as the proposal's local SPI.
def csaOf (calls : Nat) (prop : IkedProposal) (encrxf integrxf : Option IkedTransform)
    (esn : Bool) : Option (IkedChildsa × Nat × IkedProposal) :=
  let csa : IkedChildsa :=
    { csaSaproto := prop.propProtoid, csaDir := .dirOut, csaPeerspi := prop.propLocalspi.spi,
      csaLoaded := false, csaAllocated := false, csaEsn := esn, csaTransport := useTransport,
      csaSpi := ⟨prop.propPeerspi.spi, prop.propPeerspi.spiSize, prop.propProtoid⟩,
      csaEncrkey := none, csaEncrid := (encrxf.map IkedTransform.xformId).getD 0,
      csaIntegrkey := none, csaIntegrid := (integrxf.map IkedTransform.xformId).getD 0,
      csaLocal := .saLocal, csaPeer := .saPeer, csaPfsgrpid := pfsgrp }
  if initiator then some (csa, calls, prop)
  else
    match getspi calls prop.propProtoid with
    | none => none
    | some spi =>
      let inbound : IkedChildsa :=
        { csa with
          csaDir := .dirIn, csaLocal := .saPeer, csaPeer := .saLocal, csaAllocated := true,
          csaPeerspi := prop.propPeerspi.spi, csaSpi := ⟨spi.toUInt64, 4, prop.propProtoid⟩ }
      some (inbound, calls + 1,
        { prop with propLocalspi := { prop.propLocalspi with spi := spi.toUInt64 } })

-- The IPCOMP SA bundled with `csa`: the initiator's uses the CPIs of the record and clears
-- it, the responder's gets its CPI from the kernel and stores it as `ic_cpi_in`.
def ipcompOf (calls : Nat) (csa : IkedChildsa) (ic : IkedIpcomp) :
    Option (IkedChildsa × Nat × IkedIpcomp) :=
  let csa2 : IkedChildsa :=
    { csaSaproto := ikev2SaprotoIpcomp, csaDir := csa.csaDir, csaPeerspi := ic.icCpiIn.toUInt64,
      csaLoaded := false, csaAllocated := false, csaEsn := false, csaTransport := false,
      csaSpi := ⟨ic.icCpiOut.toUInt64, 2, 0⟩, csaEncrkey := none, csaEncrid := 0,
      csaIntegrkey := none, csaIntegrid := 0, csaLocal := csa.csaLocal, csaPeer := csa.csaPeer,
      csaPfsgrpid := 0 }
  if initiator then some (csa2, calls, ⟨0, 0, 0⟩)
  else
    match getspi calls ikev2SaprotoIpcomp with
    | none => none
    | some spi =>
      let ic := { ic with icCpiIn := spi.toUInt16 }
      let allocated : IkedChildsa :=
        { csa2 with
          csaSpi := ⟨ic.icCpiIn.toUInt64, 2, 0⟩, csaPeerspi := ic.icCpiOut.toUInt64,
          csaAllocated := true }
      some (allocated, calls + 1, ic)

-- One pass of the last loop: the state after the proposal, the pair it inserts into
-- `sa_childsas` and the proposal as it is left; `none` is `goto done`.
def createChildsa (st : CreateState) (prop : IkedProposal) :
    Option (CreateState × Option ChildsaPair × IkedProposal) :=
  match ikev2ValidProposal prop with
  | none => some (st, none, prop)
  | some (encrxf, integrxf, esn) =>
    match csaOf getspi initiator useTransport pfsgrp st.calls prop encrxf integrxf esn with
    | none => none
    | some (csa, calls, prop) =>
      match childsaKeys tables prop.propProtoid encrxf integrxf st.keymat with
      | none => none
      | some (keysA, keymat) =>
        match childsaKeys tables prop.propProtoid encrxf integrxf keymat with
        | none => none
        | some (keysB, keymat) =>
          let csa := csa.setKeys keysA
          let csb := csa.mirror.setKeys keysB
          if st.ic && prop.propProtoid == ikev2SaprotoEsp then
            match ipcompOf getspi initiator calls csa st.ipcomp with
            | none => none
            | some (csa2, calls, ipcomp) =>
              -- ESP over IPCOMP runs in transport mode; `ic` is used up
              some (⟨keymat, false, ipcomp, calls, useTransport⟩,
                some ⟨{ csa with csaTransport := true }, { csb with csaTransport := true },
                  some (csa2, csa2.mirror)⟩, prop)
          else some (⟨keymat, st.ic, st.ipcomp, calls, useTransport⟩, some ⟨csa, csb, none⟩, prop)

-- The last loop of `ikev2_childsa_negotiate`: the pairs it inserts and the proposals as it
-- leaves them, or on failure the pairs inserted before it.
def createChildsas : CreateState → List IkedProposal →
    Except (List ChildsaPair) (CreateState × List ChildsaPair × List IkedProposal)
  | st, [] => .ok (st, [], [])
  | st, prop :: rest =>
    match createChildsa tables getspi initiator useTransport pfsgrp st prop with
    | none => .error []
    | some (st', pair, prop') =>
      match createChildsas st' rest with
      | .ok (st'', pairs, props) => .ok (st'', pair.toList ++ pairs, prop' :: props)
      | .error pairs => .error (pair.toList ++ pairs)

end Create

-- What `ikev2_childsa_negotiate` reads of `struct iked_kex`.
structure IkedKex where
  kexInonce : List UInt8
  kexRnonce : List UInt8
  kexDhgroup : Option UInt16
  kexDhpeer : List UInt8
deriving DecidableEq, Repr

-- The seed of the child key material: `g^ir (new) | Ni | Nr`, the first part only with PFS;
-- `dhShared` is what `dh_create_shared` computes.
def childsaSeed (kex : IkedKex) (dhShared : Option (List UInt8)) (pfs : Bool) :
    Option (List UInt8) := do
  let seed ← if pfs then
      if kex.kexDhpeer = [] ∨ kex.kexDhgroup = none then none
      else do
        let secret ← dhShared
        ibufAdd [] secret
    else some []
  let seed ← ibufAdd seed kex.kexInonce
  ibufAdd seed kex.kexRnonce

-- The key material and SA part of `ikev2_childsa_negotiate(env, sa, kex, proposals,
-- initiator, pfs)`, with `prf`, `keyD`, `ipcomp` and `useTransport` the SA's `sa_prf`,
-- `sa_key_d`, `sa_ipcompi` or `sa_ipcompr`, and `sa_use_transport_mode`.
def ikev2ChildsaSas (mac : List UInt8 → List UInt8 → List UInt8) (tables : XfTables)
    (getspi : Getspi) (prf : IkedHash) (keyD : List UInt8) (ipcomp : IkedIpcomp)
    (useTransport : Bool) (kex : IkedKex) (dhShared : Option (List UInt8))
    (proposals : List IkedProposal) (initiator pfs : Bool) :
    Except (List ChildsaPair) (CreateState × List ChildsaPair × List IkedProposal) :=
  -- the key material for both directions of every proposal
  let ilen := 2 * keymatLength tables proposals
  match childsaSeed kex dhShared pfs with
  | none => .error []
  | some seed =>
    match ikev2Prfplus mac prf keyD seed ilen with
    | none => .error []
    | some keymat =>
      let pfsgrp := if pfs then kex.kexDhgroup.getD 0 else 0
      createChildsas tables getspi initiator useTransport pfsgrp
        ⟨keymat, ipcompOn initiator ipcomp, ipcomp, 0, false⟩ proposals

/-! ## Both peers derive the same keys -/

section IkeSa

variable (mac : List UInt8 → List UInt8 → List UInt8)

-- The derivation reads no role: both peers run it on the same SA apart from `sh_initiator`.
theorem ikev2SaKeys_role (sa : KeySa) (role : Bool) (key dhsecret : Option (List UInt8)) :
    ikev2SaKeys mac { sa with shInitiator := role } key dhsecret = ikev2SaKeys mac sa key dhsecret :=
  rfl

theorem cryptSaOf_flip (sa : KeySa) (keys : IkeKeys) :
    cryptSaOf { sa with shInitiator := !sa.shInitiator } keys =
      { cryptSaOf sa keys with shInitiator := !(cryptSaOf sa keys).shInitiator } :=
  rfl

theorem ownEncrKey_cryptSaOf (sa : KeySa) (keys : IkeKeys) :
    ownEncrKey (cryptSaOf sa keys) = peerEncrKey (cryptSaOf { sa with shInitiator := !sa.shInitiator } keys) := by
  rw [cryptSaOf_flip, peerEncrKey_flip]

theorem ownIntegrKey_cryptSaOf (sa : KeySa) (keys : IkeKeys) :
    ownIntegrKey (cryptSaOf sa keys) =
      peerIntegrKey (cryptSaOf { sa with shInitiator := !sa.shInitiator } keys) := by
  rw [cryptSaOf_flip, peerIntegrKey_flip]

end IkeSa

/-! ## Both peers install matching child SAs -/

-- Two proposals with the same protocol and transforms.
def SameShape (p q : IkedProposal) : Prop :=
  p.propProtoid = q.propProtoid ∧ p.propXforms = q.propXforms

-- A proposal as the other peer holds it: the same transforms, the SPIs swapped.
def Mirrors (mine theirs : IkedProposal) : Prop :=
  SameShape mine theirs ∧ mine.propLocalspi.spi = theirs.propPeerspi.spi ∧
    mine.propPeerspi.spi = theirs.propLocalspi.spi

-- Two child SAs that carry one direction of traffic between the peers.
structure SaAgree (a b : IkedChildsa) : Prop where
  saproto : a.csaSaproto = b.csaSaproto
  spi : a.csaSpi.spi = b.csaSpi.spi
  peerspi : a.csaPeerspi = b.csaPeerspi
  encrkey : a.csaEncrkey = b.csaEncrkey
  integrkey : a.csaIntegrkey = b.csaIntegrkey

-- The pairs the initiator and the responder insert for one proposal: the initiator's
-- outbound SA is the responder's inbound one and the other way round, with their IPCOMP SAs.
def PairAgree (i r : ChildsaPair) : Prop :=
  i.csa.csaDir = .dirOut ∧ r.csa.csaDir = .dirIn ∧ i.csb.csaDir = .dirIn ∧ r.csb.csaDir = .dirOut ∧
    SaAgree i.csa r.csa ∧ SaAgree i.csb r.csb ∧
    Option.Rel (fun a b => SaAgree a.1 b.1 ∧ SaAgree a.2 b.2) i.ipcomp r.ipcomp

@[simp] theorem setKeys_csaDir (csa : IkedChildsa) (keys : Option (List UInt8) × Option (List UInt8)) :
    (csa.setKeys keys).csaDir = csa.csaDir :=
  rfl

@[simp] theorem mirror_csaDir (csa : IkedChildsa) : csa.mirror.csaDir = csa.csaDir.flip :=
  rfl

theorem SaAgree.setKeys {a b : IkedChildsa} (agree : SaAgree a b)
    (keys : Option (List UInt8) × Option (List UInt8)) : SaAgree (a.setKeys keys) (b.setKeys keys) :=
  ⟨agree.saproto, agree.spi, agree.peerspi, by simp [IkedChildsa.setKeys, agree.encrkey],
    by simp [IkedChildsa.setKeys, agree.integrkey]⟩

theorem SaAgree.mirror {a b : IkedChildsa} (agree : SaAgree a b) : SaAgree a.mirror b.mirror :=
  ⟨agree.saproto, agree.peerspi, agree.spi, agree.encrkey, agree.integrkey⟩

theorem SaAgree.transport {a b : IkedChildsa} (agree : SaAgree a b) (t t' : Bool) :
    SaAgree { a with csaTransport := t } { b with csaTransport := t' } :=
  ⟨agree.saproto, agree.spi, agree.peerspi, agree.encrkey, agree.integrkey⟩

theorem ikev2ValidProposal_congr {p q : IkedProposal} (same : SameShape p q) :
    ikev2ValidProposal p = ikev2ValidProposal q := by
  unfold ikev2ValidProposal
  rw [same.1, same.2]

theorem keymatLength_congr (tables : XfTables) {ps qs : List IkedProposal}
    (same : List.Forall₂ SameShape ps qs) : keymatLength tables ps = keymatLength tables qs := by
  induction same with
  | nil => rfl
  | cons head _ ih =>
    obtain ⟨proto, xforms⟩ := head
    unfold keymatLength at ih ⊢
    rw [List.filter_cons, List.filter_cons, proto]
    split
    · simp only [List.map_cons, List.sum_cons, ih, proto, xforms]
    · exact ih

section Create

variable (tables : XfTables) (getspi : Getspi) (initiator useTransport : Bool) (pfsgrp : UInt16)

theorem csaOf_shape {calls calls' : Nat} {prop prop' : IkedProposal} {encrxf integrxf : Option IkedTransform}
    {esn : Bool} {csa : IkedChildsa}
    (made : csaOf getspi initiator useTransport pfsgrp calls prop encrxf integrxf esn = some (csa, calls', prop')) :
    SameShape prop prop' := by
  unfold csaOf at made
  split at made
  · cases made
    exact ⟨rfl, rfl⟩
  · split at made
    · cases made
    · cases made
      exact ⟨rfl, rfl⟩

/-- What one pass of the last loop can do: skip a proposal that is not valid, or insert the
pair of child SAs keyed from the next slices of the key material, with an IPCOMP pair for
the first ESP proposal while `ic` is set. -/
theorem createChildsa_cases {st st' : CreateState} {prop prop' : IkedProposal}
    {pair : Option ChildsaPair}
    (created : createChildsa tables getspi initiator useTransport pfsgrp st prop = some (st', pair, prop')) :
    (ikev2ValidProposal prop = none ∧ st' = st ∧ pair = none ∧ prop' = prop) ∨
    ∃ encrxf integrxf esn csa calls keysA keymatA keysB keymat,
      ikev2ValidProposal prop = some (encrxf, integrxf, esn) ∧
      csaOf getspi initiator useTransport pfsgrp st.calls prop encrxf integrxf esn =
        some (csa, calls, prop') ∧
      childsaKeys tables prop'.propProtoid encrxf integrxf st.keymat = some (keysA, keymatA) ∧
      childsaKeys tables prop'.propProtoid encrxf integrxf keymatA = some (keysB, keymat) ∧
      (((st.ic && prop'.propProtoid == ikev2SaprotoEsp) = true ∧ ∃ csa2 calls' ipcomp,
          ipcompOf getspi initiator calls (csa.setKeys keysA) st.ipcomp = some (csa2, calls', ipcomp) ∧
          st' = ⟨keymat, false, ipcomp, calls', useTransport⟩ ∧
          pair = some ⟨{ csa.setKeys keysA with csaTransport := true },
            { (csa.setKeys keysA).mirror.setKeys keysB with csaTransport := true },
            some (csa2, csa2.mirror)⟩) ∨
        ((st.ic && prop'.propProtoid == ikev2SaprotoEsp) = false ∧
          st' = ⟨keymat, st.ic, st.ipcomp, calls, useTransport⟩ ∧
          pair = some ⟨csa.setKeys keysA, (csa.setKeys keysA).mirror.setKeys keysB, none⟩)) := by
  unfold createChildsa at created
  split at created
  · rename_i invalid
    cases created
    exact .inl ⟨invalid, rfl, rfl, rfl⟩
  · rename_i encrxf integrxf esn valid
    split at created
    · cases created
    rename_i csa calls prop1 made
    split at created
    · cases created
    rename_i keysA keymatA sliceA
    split at created
    · cases created
    rename_i keysB keymat sliceB
    refine .inr ⟨encrxf, integrxf, esn, csa, calls, keysA, keymatA, keysB, keymat, valid, ?_⟩
    split at created
    · rename_i esp
      dsimp only at created
      split at created
      · cases created
      rename_i csa2 calls' ipcomp bundled
      cases created
      exact ⟨made, sliceA, sliceB, .inl ⟨esp, csa2, calls', ipcomp, bundled, rfl, rfl⟩⟩
    · rename_i plain
      cases created
      exact ⟨made, sliceA, sliceB, .inr ⟨by simpa using plain, rfl, rfl⟩⟩

theorem createChildsa_shape {st st' : CreateState} {prop prop' : IkedProposal}
    {pair : Option ChildsaPair}
    (created : createChildsa tables getspi initiator useTransport pfsgrp st prop = some (st', pair, prop')) :
    SameShape prop prop' := by
  rcases createChildsa_cases tables getspi initiator useTransport pfsgrp created with
    ⟨-, -, -, rfl⟩ | ⟨_, _, _, _, _, _, _, _, _, -, made, -⟩
  · exact ⟨rfl, rfl⟩
  · exact csaOf_shape getspi initiator useTransport pfsgrp made

-- Once `ic` is used up or was never set, the IPCOMP record stays as it is.
theorem createChildsa_ipcomp {st st' : CreateState} {prop prop' : IkedProposal}
    {pair : Option ChildsaPair} (off : st.ic = false)
    (created : createChildsa tables getspi initiator useTransport pfsgrp st prop = some (st', pair, prop')) :
    st'.ic = false ∧ st'.ipcomp = st.ipcomp := by
  rcases createChildsa_cases tables getspi initiator useTransport pfsgrp created with
    ⟨-, rfl, -, -⟩ | ⟨_, _, _, _, _, _, _, _, _, -, -, -, -, ⟨on, -⟩ | ⟨-, rfl, -⟩⟩
  · exact ⟨off, rfl⟩
  · simp [off] at on
  · exact ⟨off, rfl⟩

theorem createChildsas_nil {st st' : CreateState} {pairs : List ChildsaPair} {props : List IkedProposal}
    (run : createChildsas tables getspi initiator useTransport pfsgrp st [] = .ok (st', pairs, props)) :
    st' = st ∧ pairs = [] ∧ props = [] := by
  simp only [createChildsas, Except.ok.injEq, Prod.mk.injEq] at run
  exact ⟨run.1.symm, run.2.1.symm, run.2.2.symm⟩

theorem createChildsas_cons {st st'' : CreateState} {prop : IkedProposal} {rest : List IkedProposal}
    {pairs : List ChildsaPair} {props : List IkedProposal}
    (run : createChildsas tables getspi initiator useTransport pfsgrp st (prop :: rest) =
      .ok (st'', pairs, props)) :
    ∃ st' pair prop' pairs' props',
      createChildsa tables getspi initiator useTransport pfsgrp st prop = some (st', pair, prop') ∧
      createChildsas tables getspi initiator useTransport pfsgrp st' rest = .ok (st'', pairs', props') ∧
      pairs = pair.toList ++ pairs' ∧ props = prop' :: props' := by
  simp only [createChildsas] at run
  split at run
  · cases run
  rename_i st' pair prop' created
  split at run
  · rename_i pairs' props' rest_run
    cases run
    exact ⟨st', pair, prop', pairs', props', created, rest_run, rfl, rfl⟩
  · cases run

theorem createChildsas_shape (props : List IkedProposal) {st st' : CreateState}
    {pairs : List ChildsaPair} {props' : List IkedProposal}
    (run : createChildsas tables getspi initiator useTransport pfsgrp st props = .ok (st', pairs, props')) :
    List.Forall₂ SameShape props props' := by
  induction props generalizing st pairs props' with
  | nil =>
    obtain ⟨-, -, rfl⟩ := createChildsas_nil tables getspi initiator useTransport pfsgrp run
    exact .nil
  | cons prop rest ih =>
    obtain ⟨_, _, _, _, _, created, rest_run, -, rfl⟩ :=
      createChildsas_cons tables getspi initiator useTransport pfsgrp run
    exact .cons (createChildsa_shape tables getspi initiator useTransport pfsgrp created) (ih rest_run)

theorem createChildsas_ipcomp (props : List IkedProposal) {st st' : CreateState}
    {pairs : List ChildsaPair} {props' : List IkedProposal} (off : st.ic = false)
    (run : createChildsas tables getspi initiator useTransport pfsgrp st props = .ok (st', pairs, props')) :
    st'.ipcomp = st.ipcomp := by
  induction props generalizing st pairs props' with
  | nil =>
    obtain ⟨rfl, -, -⟩ := createChildsas_nil tables getspi initiator useTransport pfsgrp run
    rfl
  | cons prop rest ih =>
    obtain ⟨_, _, _, _, _, created, rest_run, -, -⟩ :=
      createChildsas_cons tables getspi initiator useTransport pfsgrp run
    obtain ⟨off', same⟩ := createChildsa_ipcomp tables getspi initiator useTransport pfsgrp off created
    rw [ih off' rest_run, same]

end Create

section Agree

variable {getspiI getspiR : Getspi} {utI utR : Bool} {grpI grpR : UInt16}

theorem csaOf_agree {callsI callsR callsI' callsR' : Nat} {pI pR pI' pR' : IkedProposal}
    {encrxf integrxf : Option IkedTransform} {esn : Bool} {csaI csaR : IkedChildsa}
    (madeI : csaOf getspiI true utI grpI callsI pI encrxf integrxf esn = some (csaI, callsI', pI'))
    (madeR : csaOf getspiR false utR grpR callsR pR encrxf integrxf esn = some (csaR, callsR', pR'))
    (mirror : Mirrors pI pR') :
    SaAgree csaI csaR ∧ csaI.csaDir = .dirOut ∧ csaR.csaDir = .dirIn ∧ pI' = pI := by
  unfold csaOf at madeI madeR
  simp only [if_true, Option.some.injEq, Prod.mk.injEq] at madeI
  obtain ⟨rfl, -, rfl⟩ := madeI
  simp only [Bool.false_eq_true, if_false] at madeR
  split at madeR
  · cases madeR
  rename_i spi _
  simp only [Option.some.injEq, Prod.mk.injEq] at madeR
  obtain ⟨rfl, -, rfl⟩ := madeR
  obtain ⟨⟨proto, -⟩, local_, peer⟩ := mirror
  exact ⟨⟨proto, peer, local_, rfl, rfl⟩, rfl, rfl, rfl⟩

theorem ipcompOf_agree {callsI callsR callsI' callsR' : Nat} {csaI csaR csa2I csa2R : IkedChildsa}
    {icI icR icI' icR' : IkedIpcomp}
    (madeI : ipcompOf getspiI true callsI csaI icI = some (csa2I, callsI', icI'))
    (madeR : ipcompOf getspiR false callsR csaR icR = some (csa2R, callsR', icR'))
    (cpiOut : icI.icCpiOut = icR'.icCpiIn) (cpiIn : icI.icCpiIn = icR.icCpiOut) :
    SaAgree csa2I csa2R := by
  unfold ipcompOf at madeI madeR
  simp only [if_true, Option.some.injEq, Prod.mk.injEq] at madeI
  obtain ⟨rfl, -, -⟩ := madeI
  simp only [Bool.false_eq_true, if_false] at madeR
  split at madeR
  · cases madeR
  simp only [Option.some.injEq, Prod.mk.injEq] at madeR
  obtain ⟨rfl, -, rfl⟩ := madeR
  exact ⟨rfl, by simp [cpiOut], by simp [cpiIn], rfl, rfl⟩

-- The responder's CPI comes from the kernel, which never hands out one below 0x100.
theorem ipcompOf_cpi (range : KernelRange getspiR) {calls calls' : Nat} {csa csa2 : IkedChildsa}
    {ic ic' : IkedIpcomp} (made : ipcompOf getspiR false calls csa ic = some (csa2, calls', ic')) :
    ic'.icCpiIn ≠ 0 := by
  unfold ipcompOf at made
  simp only [Bool.false_eq_true, if_false] at made
  split at made
  · cases made
  rename_i spi allocated
  simp only [Option.some.injEq, Prod.mk.injEq] at made
  obtain ⟨-, -, rfl⟩ := made
  obtain ⟨low, high⟩ := range _ _ _ allocated
  have small := high rfl
  intro zero
  have cpi := congrArg UInt16.toNat zero
  simp only [UInt32.toNat_toUInt16, UInt16.toNat_zero] at cpi
  unfold cpiPrivateMin at small
  omega

-- The two runs side by side: the same key material left, `ic` set on the initiator's side
-- exactly when it is on the responder's and the CPI `f` that the responder ends with is not
-- zero, and then the initiator's record the mirror of the responder's.
structure Lockstep (f : UInt16) (sti str : CreateState) : Prop where
  keymat : sti.keymat = str.keymat
  ic : sti.ic = (str.ic && f != 0)
  record : sti.ic = true → sti.ipcomp.icCpiOut = f ∧ sti.ipcomp.icCpiIn = str.ipcomp.icCpiOut

theorem pairAgree_of_csa {csaI csaR : IkedChildsa} (agree : SaAgree csaI csaR)
    (out : csaI.csaDir = .dirOut) (inbound : csaR.csaDir = .dirIn)
    (keysA keysB : Option (List UInt8) × Option (List UInt8)) :
    PairAgree ⟨csaI.setKeys keysA, (csaI.setKeys keysA).mirror.setKeys keysB, none⟩
      ⟨csaR.setKeys keysA, (csaR.setKeys keysA).mirror.setKeys keysB, none⟩ := by
  refine ⟨by simp [out], by simp [inbound], by simp [out, Direction.flip],
    by simp [inbound, Direction.flip], agree.setKeys keysA, (agree.setKeys keysA).mirror.setKeys keysB,
    .none⟩

theorem pairAgree_of_bundled {csaI csaR csa2I csa2R : IkedChildsa} (agree : SaAgree csaI csaR)
    (out : csaI.csaDir = .dirOut) (inbound : csaR.csaDir = .dirIn) (bundled : SaAgree csa2I csa2R)
    (keysA keysB : Option (List UInt8) × Option (List UInt8)) :
    PairAgree ⟨{ csaI.setKeys keysA with csaTransport := true },
        { (csaI.setKeys keysA).mirror.setKeys keysB with csaTransport := true }, some (csa2I, csa2I.mirror)⟩
      ⟨{ csaR.setKeys keysA with csaTransport := true },
        { (csaR.setKeys keysA).mirror.setKeys keysB with csaTransport := true },
        some (csa2R, csa2R.mirror)⟩ := by
  refine ⟨by simp [out], by simp [inbound], by simp [out, Direction.flip],
    by simp [inbound, Direction.flip], (agree.setKeys keysA).transport true true,
    (((agree.setKeys keysA).mirror).setKeys keysB).transport true true, .some ⟨bundled, bundled.mirror⟩⟩

variable (tables : XfTables)

/-- One proposal taken by both peers in lockstep: the pairs they insert agree, and they
stay in lockstep. -/
theorem createChildsa_agree (range : KernelRange getspiR) {f : UInt16}
    {sti str sti' str' : CreateState} {pI pR pI' pR' : IkedProposal} {pairI pairR : Option ChildsaPair}
    (lock : Lockstep f sti str)
    (stepI : createChildsa tables getspiI true utI grpI sti pI = some (sti', pairI, pI'))
    (stepR : createChildsa tables getspiR false utR grpR str pR = some (str', pairR, pR'))
    (mirror : Mirrors pI pR') (later : str'.ic = false → str'.ipcomp.icCpiIn = f) :
    Option.Rel PairAgree pairI pairR ∧ Lockstep f sti' str' := by
  have shapeR := createChildsa_shape tables getspiR false utR grpR stepR
  have sameValid : ikev2ValidProposal pI = ikev2ValidProposal pR :=
    ikev2ValidProposal_congr ⟨mirror.1.1.trans shapeR.1.symm, mirror.1.2.trans shapeR.2.symm⟩
  rcases createChildsa_cases tables getspiI true utI grpI stepI with
    ⟨invalidI, rfl, rfl, rfl⟩ |
      ⟨encrxf, integrxf, esn, csaI, callsI, keysA, keymatA, keysB, keymat, validI, madeI, sliceAI,
        sliceBI, bundleI⟩ <;>
  rcases createChildsa_cases tables getspiR false utR grpR stepR with
    ⟨invalidR, rfl, rfl, rfl⟩ |
      ⟨encrxf', integrxf', esn', csaR, callsR, keysA', keymatA', keysB', keymat', validR, madeR,
        sliceAR, sliceBR, bundleR⟩
  · -- neither peer takes the proposal
    exact ⟨.none, lock⟩
  · rw [sameValid, validR] at invalidI
    cases invalidI
  · rw [sameValid, invalidR] at validI
    cases validI
  -- both take it, with the same transforms
  rw [sameValid, validR, Option.some.injEq, Prod.mk.injEq, Prod.mk.injEq] at validI
  obtain ⟨rfl, rfl, rfl⟩ := validI
  obtain ⟨agree, out, inbound, rfl⟩ := csaOf_agree madeI madeR mirror
  -- and so the same slices of the same key material
  have proto := mirror.1.1
  rw [proto, lock.keymat, sliceAR, Option.some.injEq, Prod.mk.injEq] at sliceAI
  obtain ⟨rfl, rfl⟩ := sliceAI
  rw [proto, sliceBR, Option.some.injEq, Prod.mk.injEq] at sliceBI
  obtain ⟨rfl, rfl⟩ := sliceBI
  rw [proto] at bundleI
  rcases bundleI with ⟨onI, csa2I, callsI', ipcompI, bundledI, rfl, rfl⟩ | ⟨offI, rfl, rfl⟩ <;>
  rcases bundleR with ⟨onR, csa2R, callsR', ipcompR, bundledR, rfl, rfl⟩ | ⟨offR, rfl, rfl⟩
  · -- both bundle an IPCOMP pair, on the CPIs the records mirror
    obtain ⟨cpiOut, cpiIn⟩ := lock.record (Bool.and_eq_true_iff.mp onI).1
    have final : ipcompR.icCpiIn = f := later rfl
    exact ⟨.some (pairAgree_of_bundled agree out inbound
        (ipcompOf_agree bundledI bundledR (cpiOut.trans final.symm) cpiIn) _ _),
      ⟨rfl, rfl, fun used => by cases used⟩⟩
  · -- the responder's `ic` is off, so the initiator's is too
    obtain ⟨icI, esp⟩ := Bool.and_eq_true_iff.mp onI
    have icR : str.ic = false := by simpa [esp] using offR
    have mismatch := lock.ic
    rw [icI, icR, Bool.false_and] at mismatch
    cases mismatch
  · -- the responder allocates a CPI, which is not zero, so the initiator's `ic` is on too
    obtain ⟨icR, esp⟩ := Bool.and_eq_true_iff.mp onR
    have nonzero : f ≠ 0 := by
      rw [← later rfl]
      exact ipcompOf_cpi range bundledR
    have icI : sti.ic = true := by simp [lock.ic, icR, nonzero]
    simp [icI, esp] at offI
  · -- neither bundles: `ic` and the records stay as they were
    exact ⟨.some (pairAgree_of_csa agree out inbound _ _), ⟨rfl, lock.ic, lock.record⟩⟩

/-- The last loop run by both peers on proposals that mirror each other: the pairs they
insert agree one by one. -/
theorem createChildsas_agree (range : KernelRange getspiR) (f : UInt16) (propsI : List IkedProposal) :
    ∀ {propsR propsI' propsR' : List IkedProposal} {sti str sti' str' : CreateState}
      {pairsI pairsR : List ChildsaPair}, Lockstep f sti str →
      createChildsas tables getspiI true utI grpI sti propsI = .ok (sti', pairsI, propsI') →
      createChildsas tables getspiR false utR grpR str propsR = .ok (str', pairsR, propsR') →
      str'.ipcomp.icCpiIn = f → List.Forall₂ Mirrors propsI propsR' →
      List.Forall₂ PairAgree pairsI pairsR := by
  induction propsI with
  | nil =>
    intro propsR propsI' propsR' sti str sti' str' pairsI pairsR _ runI runR _ mirror
    obtain ⟨-, rfl, -⟩ := createChildsas_nil tables getspiI true utI grpI runI
    have shapeR := createChildsas_shape tables getspiR false utR grpR propsR runR
    cases mirror
    cases shapeR
    obtain ⟨-, rfl, -⟩ := createChildsas_nil tables getspiR false utR grpR runR
    exact .nil
  | cons pI restI ih =>
    intro propsR propsI' propsR' sti str sti' str' pairsI pairsR lock runI runR final mirror
    obtain ⟨sti1, pairI, pI', pairsI', propsI'', stepI, restRunI, rfl, -⟩ :=
      createChildsas_cons tables getspiI true utI grpI runI
    -- the responder walks a proposal for each of the initiator's
    have shapeR := createChildsas_shape tables getspiR false utR grpR propsR runR
    rcases propsR with _ | ⟨pR, restR⟩
    · cases shapeR
      cases mirror
    obtain ⟨str1, pairR, pR', pairsR', propsR'', stepR, restRunR, rfl, rfl⟩ :=
      createChildsas_cons tables getspiR false utR grpR runR
    obtain ⟨mirrorHead, mirrorRest⟩ := List.forall₂_cons.mp mirror
    -- what the responder ends with is what it has once `ic` is off
    have later : str1.ic = false → str1.ipcomp.icCpiIn = f := fun off => by
      rw [← final, createChildsas_ipcomp tables getspiR false utR grpR restR off restRunR]
    obtain ⟨headAgree, lock1⟩ := createChildsa_agree tables range lock stepI stepR mirrorHead later
    have restAgree := ih lock1 restRunI restRunR final mirrorRest
    cases headAgree with
    | none => exact restAgree
    | some head => exact .cons head restAgree

theorem sameShape_of_mirrors {propsI propsR propsR' : List IkedProposal}
    (mirror : List.Forall₂ Mirrors propsI propsR') (shape : List.Forall₂ SameShape propsR propsR') :
    List.Forall₂ SameShape propsI propsR := by
  induction mirror generalizing propsR with
  | nil =>
    cases shape
    exact .nil
  | cons head _ ih =>
    cases shape with
    | cons head' rest' =>
      exact .cons ⟨head.1.1.trans head'.1.symm, head.1.2.trans head'.2.symm⟩ (ih rest')

-- The initiator's `ic` is on exactly when the responder's is and the responder's CPI is set.
theorem ipcompOn_mirror (icR : IkedIpcomp) (cpi : UInt16) :
    ipcompOn true ⟨cpi, icR.icCpiOut, icR.icTransform⟩ = (ipcompOn false icR && cpi != 0) := by
  unfold ipcompOn
  cases icR.icTransform != 0 <;> cases icR.icCpiOut != 0 <;> cases cpi != 0 <;> rfl

/-- Both peers' key material and child SAs, on proposals that mirror each other and with the
initiator's IPCOMP record the mirror of the responder's: the pairs they insert agree. -/
theorem ikev2ChildsaSas_agree (mac : List UInt8 → List UInt8 → List UInt8)
    (range : KernelRange getspiR) (prf : IkedHash) (keyD : List UInt8) (icI icR : IkedIpcomp)
    (kex : IkedKex) (dhShared : Option (List UInt8)) (pfs : Bool)
    {propsI propsR propsI' propsR' : List IkedProposal} {sti str : CreateState}
    {pairsI pairsR : List ChildsaPair}
    (runI : ikev2ChildsaSas mac tables getspiI prf keyD icI utI kex dhShared propsI true pfs =
      .ok (sti, pairsI, propsI'))
    (runR : ikev2ChildsaSas mac tables getspiR prf keyD icR utR kex dhShared propsR false pfs =
      .ok (str, pairsR, propsR'))
    (mirror : List.Forall₂ Mirrors propsI propsR')
    (ipcomp : icI = ⟨str.ipcomp.icCpiIn, icR.icCpiOut, icR.icTransform⟩) :
    List.Forall₂ PairAgree pairsI pairsR := by
  unfold ikev2ChildsaSas at runI runR
  cases seeded : childsaSeed kex dhShared pfs with
  | none =>
    rw [seeded] at runI
    cases runI
  | some seed =>
    rw [seeded] at runI runR
    dsimp only at runI runR
    cases keyed : ikev2Prfplus mac prf keyD seed (2 * keymatLength tables propsR) with
    | none =>
      rw [keyed] at runR
      cases runR
    | some keymat =>
      rw [keyed] at runR
      -- the same proposals ask for the same key material on both sides
      have shape := sameShape_of_mirrors mirror (createChildsas_shape tables _ _ _ _ propsR runR)
      rw [keymatLength_congr tables shape, keyed] at runI
      have lock : Lockstep str.ipcomp.icCpiIn ⟨keymat, ipcompOn true icI, icI, 0, false⟩
          ⟨keymat, ipcompOn false icR, icR, 0, false⟩ :=
        ⟨rfl, by rw [ipcomp, ipcompOn_mirror], fun _ => by rw [ipcomp]; exact ⟨rfl, rfl⟩⟩
      exact createChildsas_agree tables range _ propsI lock runI runR rfl mirror

end Agree

/-- An initiator and a responder that run `ikev2_sa_keys` on the same nonces, SPIs, DH
result and old `SK_d` derive the same keys, and each encrypts and signs with the keys the
other decrypts and verifies with.  When both then negotiate child SAs on the same
proposals from those keys, the initiator's outbound SA and the responder's inbound SA
get the same SPI and keys, and so do the two SAs of the other direction, IPCOMP SAs
included. -/
theorem ikev2_peers_derive_matching_keys (mac : List UInt8 → List UInt8 → List UInt8)
    (tables : XfTables) (getspiI getspiR : Getspi) (range : KernelRange getspiR) (sa : KeySa)
    (key dhsecret : Option (List UInt8)) (keysI keysR : IkeKeys)
    (derivedI : ikev2SaKeys mac { sa with shInitiator := true } key dhsecret = some keysI)
    (derivedR : ikev2SaKeys mac { sa with shInitiator := false } key dhsecret = some keysR) :
    keysI = keysR ∧
      ownEncrKey (cryptSaOf { sa with shInitiator := true } keysI) =
        peerEncrKey (cryptSaOf { sa with shInitiator := false } keysR) ∧
      ownIntegrKey (cryptSaOf { sa with shInitiator := true } keysI) =
        peerIntegrKey (cryptSaOf { sa with shInitiator := false } keysR) ∧
      ownEncrKey (cryptSaOf { sa with shInitiator := false } keysR) =
        peerEncrKey (cryptSaOf { sa with shInitiator := true } keysI) ∧
      ownIntegrKey (cryptSaOf { sa with shInitiator := false } keysR) =
        peerIntegrKey (cryptSaOf { sa with shInitiator := true } keysI) ∧
      ∀ (prf : IkedHash) (icI icR : IkedIpcomp) (utI utR : Bool) (kex : IkedKex)
        (dhShared : Option (List UInt8)) (pfs : Bool)
        (propsI propsR propsI' propsR' : List IkedProposal) (sti str : CreateState)
        (pairsI pairsR : List ChildsaPair),
        ikev2ChildsaSas mac tables getspiI prf keysI.saKeyD icI utI kex dhShared propsI true pfs =
          .ok (sti, pairsI, propsI') →
        ikev2ChildsaSas mac tables getspiR prf keysR.saKeyD icR utR kex dhShared propsR false pfs =
          .ok (str, pairsR, propsR') →
        List.Forall₂ Mirrors propsI propsR' →
        icI = ⟨str.ipcomp.icCpiIn, icR.icCpiOut, icR.icTransform⟩ →
        List.Forall₂ PairAgree pairsI pairsR := by
  -- the derivation does not read the role
  rw [ikev2SaKeys_role] at derivedI derivedR
  rw [derivedI, Option.some.injEq] at derivedR
  subst derivedR
  refine ⟨rfl, ownEncrKey_cryptSaOf _ _, ownIntegrKey_cryptSaOf _ _, ownEncrKey_cryptSaOf _ _,
    ownIntegrKey_cryptSaOf _ _, ?_⟩
  intro prf icI icR utI utR kex dhShared pfs propsI propsR propsI' propsR' sti str pairsI pairsR
    runI runR mirror ipcomp
  exact ikev2ChildsaSas_agree tables mac range prf _ icI icR kex dhShared pfs runI runR mirror ipcomp

-- An IKE SA with AES-CBC-128, HMAC-SHA2-256-128 and PRF-HMAC-SHA2-256, under a PRF that
-- answers a constant block.
def sha256KeySa : KeySa :=
  { saEncr := some ⟨⟨16, 16⟩, 16, []⟩, saPrf := some ⟨⟨32, 0⟩, 0, false⟩,
    saIntegr := some ⟨⟨32, 16⟩, 0, false⟩, saDhgroup := some 14, saInonce := List.replicate 16 1,
    saRnonce := List.replicate 16 2, shIspi := 1, shRspi := 2, shInitiator := true }

def sha256Keys : IkeKeys :=
  ⟨List.replicate 32 7, some (List.replicate 32 7), some (List.replicate 32 7), List.replicate 16 7,
    List.replicate 16 7, List.replicate 32 7, List.replicate 32 7⟩

theorem ikev2_peers_derive_matching_keys_sha256 :
    KernelRange (fun _ _ => some 0x1000) ∧
      ikev2SaKeys (fun _ _ => List.replicate 32 7) { sha256KeySa with shInitiator := true } none
        (some (List.replicate 32 3)) = some sha256Keys ∧
      ikev2SaKeys (fun _ _ => List.replicate 32 7) { sha256KeySa with shInitiator := false } none
        (some (List.replicate 32 3)) = some sha256Keys ∧
      ownEncrKey (cryptSaOf { sha256KeySa with shInitiator := true } sha256Keys) =
        peerEncrKey (cryptSaOf { sha256KeySa with shInitiator := false } sha256Keys) := by
  have range : KernelRange (fun _ _ => some 0x1000) := by
    intro n proto s answered
    cases answered
    exact ⟨by decide, fun _ => by decide⟩
  have derived : ikev2SaKeys (fun _ _ => List.replicate 32 7) { sha256KeySa with shInitiator := true }
      none (some (List.replicate 32 3)) = some sha256Keys := by decide +kernel
  exact ⟨range, derived, derived,
    (ikev2_peers_derive_matching_keys (fun _ _ => List.replicate 32 7) ⟨fun _ _ _ => 0, fun _ _ => 0⟩
      (fun _ _ => none) _ range sha256KeySa none (some (List.replicate 32 3)) sha256Keys sha256Keys
      derived derived).2.1⟩

end OpenIKED.Ikev2.SaKeys
