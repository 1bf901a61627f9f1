import OpenIKED.Shared.BigEndian
import OpenIKED.Shared.Slots
import OpenIKED.Shared.Cipher

set_option autoImplicit false

/-!
# Diffie-Hellman groups

`dh.c` makes a group's exchange value and shared secret through OpenSSL (MODP and ECP
groups), curve25519, and sntrup761 combined with curve25519.  The model keeps the byte work
of the source: the zero buffers `ibuf_new` hands out, `BN_bn2bin` and the move and zeroing
that pad its output to the group's width, the coordinate offsets of `ec_point2raw`, and the
two layouts of the hybrid group.  The arithmetic is the library's (`DhLibrary`), with the
laws `DhLibrary.Sound` states.

Each exchange is the fixed-width encoding of the public value, and both sides of a MODP,
curve25519 or hybrid group reach one secret.  An ECP coordinate of 0 has no bytes in
`BN_bn2bin`, which `ec_point2raw` takes for a failure: a key pair whose shared point has
x-coordinate 0 gets no shared secret on either side (`dhCreateShared_fails_on_zero_x`).
-/

namespace OpenIKED.Crypto.Dh

open OpenIKED.Shared

/-! ## The groups -/

-- The curves of the ECP rows, by their OpenSSL names.
inductive Nid
  | prime256v1
  | secp384r1
  | secp521r1
  | prime192v1
  | secp224r1
  | brainpoolP224r1
  | brainpoolP256r1
  | brainpoolP384r1
  | brainpoolP512r1
deriving DecidableEq, Repr

inductive GroupType
  | modp
  | ecp (nid : Nid)
  | curve25519
  | sntrup761x25519
deriving DecidableEq, Repr

-- A row of `ike_groups`.  The MODP primes are the library's; every generator is 2.
structure GroupId where
  type : GroupType
  id : Nat
  bits : Nat
  generator : Nat
deriving DecidableEq, Repr

def curve25519Size : Nat := 32
def sntrup761PublicKeyBytes : Nat := 1158
def sntrup761SecretKeyBytes : Nat := 1763
def sntrup761CiphertextBytes : Nat := 1039
def sntrup761Bytes : Nat := 32
def sha512DigestLength : Nat := 64

def ikeGroups : List GroupId :=
  [⟨.modp, 1, 768, 2⟩, ⟨.modp, 2, 1024, 2⟩, ⟨.modp, 5, 1536, 2⟩, ⟨.modp, 14, 2048, 2⟩,
    ⟨.modp, 15, 3072, 2⟩, ⟨.modp, 16, 4096, 2⟩, ⟨.modp, 17, 6144, 2⟩, ⟨.modp, 18, 8192, 2⟩,
    ⟨.ecp .prime256v1, 19, 256, 0⟩, ⟨.ecp .secp384r1, 20, 384, 0⟩,
    ⟨.ecp .secp521r1, 21, 521, 0⟩, ⟨.ecp .prime192v1, 25, 192, 0⟩,
    ⟨.ecp .secp224r1, 26, 224, 0⟩, ⟨.ecp .brainpoolP224r1, 27, 224, 0⟩,
    ⟨.ecp .brainpoolP256r1, 28, 256, 0⟩, ⟨.ecp .brainpoolP384r1, 29, 384, 0⟩,
    ⟨.ecp .brainpoolP512r1, 30, 512, 0⟩, ⟨.curve25519, 31, curve25519Size * 8, 0⟩,
    ⟨.sntrup761x25519, 1035,
      (max sntrup761PublicKeyBytes sntrup761CiphertextBytes + curve25519Size) * 8, 0⟩]

def groupGetid (id : Nat) : Option GroupId := ikeGroups.find? (·.id == id)

def modpGetlen (spec : GroupId) : Nat := roundup spec.bits 8 / 8

def ecGetlen (spec : GroupId) : Nat := roundup spec.bits 8 * 2 / 8

-- The shared secret of an ECP group is the x-coordinate only.
def ecSecretlen (spec : GroupId) : Nat := ecGetlen spec / 2

def dhGetlen (spec : GroupId) : Nat :=
  match spec.type with
  | .modp => modpGetlen spec
  | .ecp _ => ecGetlen spec
  | .curve25519 => curve25519Size
  -- `kemsx_getlen`
  | .sntrup761x25519 => 0

def dhSecretlen (spec : GroupId) : Nat :=
  match spec.type with
  | .ecp _ => ecSecretlen spec
  | _ => dhGetlen spec

/-! ## The libraries -/

-- An OpenSSL curve, its points by their affine coordinates and `none` for the point at
-- infinity.
structure EcCurve where
  gen : Nat × Nat
  -- `EC_POINT_mul` of a scalar and a point
  mul : Nat → Nat × Nat → Option (Nat × Nat)
  -- `EC_POINT_set_affine_coordinates` and `EC_KEY_check_key` accept the point
  valid : Nat × Nat → Bool

structure DhLibrary where
  modpPrime : Nat → Nat
  curve : Nid → EcCurve
  -- `crypto_scalarmult_curve25519(out, scalar, point)`
  scalarmult : List UInt8 → List UInt8 → List UInt8
  -- `crypto_kem_sntrup761_keypair` from its randomness: the public and the secret key
  kemKeypair : Nat → List UInt8 × List UInt8
  -- `crypto_kem_sntrup761_enc` of a public key and randomness: the ciphertext and the key
  kemEnc : List UInt8 → Nat → List UInt8 × List UInt8
  kemDec : List UInt8 → List UInt8 → List UInt8
  sha512 : List UInt8 → List UInt8

def curve25519Basepoint : List UInt8 := 9 :: List.replicate 31 0

/-- What the model asks of the libraries: the MODP primes are primes that fit their groups,
scalar multiplication keeps points on the curve, their coordinates fit the group and it
commutes on the generator, curve25519 commutes on the base point, sntrup761 decapsulation
inverts encapsulation, and the sizes of the outputs. -/
structure DhLibrary.Sound (lib : DhLibrary) : Prop where
  modp_prime : ∀ spec ∈ ikeGroups, spec.type = .modp → (lib.modpPrime spec.id).Prime
  modp_fits : ∀ spec ∈ ikeGroups, spec.type = .modp →
    lib.modpPrime spec.id < 256 ^ modpGetlen spec
  ec_gen : ∀ nid, (lib.curve nid).valid (lib.curve nid).gen = true
  ec_mul_valid : ∀ nid k P Q, (lib.curve nid).valid P = true → (lib.curve nid).mul k P = some Q →
    (lib.curve nid).valid Q = true
  ec_fits : ∀ spec ∈ ikeGroups, ∀ nid, spec.type = .ecp nid → ∀ P,
    (lib.curve nid).valid P = true → P.1 < 256 ^ ecSecretlen spec ∧ P.2 < 256 ^ ecSecretlen spec
  ec_comm : ∀ nid a b, ((lib.curve nid).mul b (lib.curve nid).gen).bind ((lib.curve nid).mul a) =
    ((lib.curve nid).mul a (lib.curve nid).gen).bind ((lib.curve nid).mul b)
  scalarmult_length : ∀ s P, (lib.scalarmult s P).length = curve25519Size
  scalarmult_comm : ∀ a b, lib.scalarmult a (lib.scalarmult b curve25519Basepoint) =
    lib.scalarmult b (lib.scalarmult a curve25519Basepoint)
  kem_public_length : ∀ seed, (lib.kemKeypair seed).1.length = sntrup761PublicKeyBytes
  kem_ciphertext_length : ∀ pk coins, (lib.kemEnc pk coins).1.length = sntrup761CiphertextBytes
  kem_correct : ∀ seed coins,
    lib.kemDec (lib.kemEnc (lib.kemKeypair seed).1 coins).1 (lib.kemKeypair seed).2 =
      (lib.kemEnc (lib.kemKeypair seed).1 coins).2
  sha512_length : ∀ m, (lib.sha512 m).length = sha512DigestLength

/-! ## The state of a group -/

-- The random choices of one side.
structure DhCoins where
  -- the MODP private value `DH_generate_key` draws
  modp : Nat
  -- the private key `EC_KEY_generate_key` draws
  ec : Nat
  -- the curve25519 secret `arc4random_buf` fills
  x25519 : List UInt8
  kemKeypair : Nat
  kemEnc : Nat

-- The fields `secret` and `public` of the keys; `public` is a keyword here.
structure Curve25519Key where
  secret : List UInt8
  publicKey : List UInt8
deriving DecidableEq, Repr

structure KemsxKey where
  kemkey : List UInt8
  secret : List UInt8
  publicKey : List UInt8
  initiator : Bool
deriving DecidableEq, Repr

-- `struct dh_group`: the row and the keys of each kind of group.
structure DhGroup where
  spec : GroupId
  dh : Nat
  ec : Nat
  curve25519 : Option Curve25519Key
  kemsx : Option KemsxKey
deriving DecidableEq, Repr

def ec25519Init (lib : DhLibrary) (coins : DhCoins) : Curve25519Key :=
  ⟨coins.x25519, lib.scalarmult coins.x25519 curve25519Basepoint⟩

/-- `group_get` with `dh_init`.  The MODP key is drawn by `DH_generate_key` when the exchange
is made; the model keeps its value from here on. -/
def groupGet (lib : DhLibrary) (coins : DhCoins) (id : Nat) : Option DhGroup := do
  let spec ← groupGetid id
  let group : DhGroup := ⟨spec, coins.modp, coins.ec, none, none⟩
  match spec.type with
  | .modp => pure group
  | .ecp nid =>
    -- `ec_init`: `EC_KEY_generate_key`, then `EC_KEY_check_key`
    let c := lib.curve nid
    match c.mul coins.ec c.gen with
    | some pub => if c.valid pub then pure group else none
    | none => none
  | .curve25519 => pure { group with curve25519 := some (ec25519Init lib coins) }
  -- `kemsx_init` leaves everything to the exchange
  | .sntrup761x25519 => pure group

/-! ## MODP groups -/

/-- The "add zero padding" step: the `ret` bytes at the front move to the end of the `len`
bytes and the front is zeroed. -/
def addZeroPadding (buf : List UInt8) (len ret : Nat) : List UInt8 :=
  if ret < len then
    writeAt (writeAt buf (len - ret) (buf.take ret)) 0 (List.replicate (len - ret) 0)
  else buf

def modpCreateExchange (lib : DhLibrary) (g : DhGroup) (buf : List UInt8) : Option (List UInt8) :=
  let pub := g.spec.generator ^ g.dh % lib.modpPrime g.spec.id
  let ret := numBytes pub
  let buf := writeAt buf 0 (bn2bin pub)
  if ret = 0 then none else some (addZeroPadding buf (dhGetlen g.spec) ret)

/-- `modp_create_shared`.  `DH_compute_key` refuses a peer value outside `(1, p - 1)` and
writes the secret as `BN_bn2bin` does. -/
def modpCreateShared (lib : DhLibrary) (g : DhGroup) (secret exchange : List UInt8) :
    Option (List UInt8) :=
  let len := dhGetlen g.spec
  let p := lib.modpPrime g.spec.id
  let ex := bin2bn (exchange.take len)
  if ¬ (1 < ex ∧ ex < p - 1) then none
  else
    let shared := ex ^ g.dh % p
    let ret := numBytes shared
    let secret := writeAt secret 0 (bn2bin shared)
    if ret = 0 then none else some (addZeroPadding secret len ret)

/-! ## ECP groups -/

/-- `ec_point2raw`: the x-coordinate, and in full mode the y-coordinate, each at the end of
its half of the `eclen` bytes.  `BN_bn2bin` writing no byte is taken for a failure. -/
def ecPoint2raw (eclen : Nat) (point : Option (Nat × Nat)) (buf : List UInt8) (len : Nat)
    (full : Bool) : Option (List UInt8) :=
  let xlen := eclen / 2
  let ylen := if full then eclen / 2 else 0
  if len < xlen + ylen then none
  else
    match point with
    -- `EC_POINT_get_affine_coordinates` fails at infinity
    | none => none
    | some (x, y) =>
      let xoff := xlen - numBytes x
      let buf := writeAt buf 0 (List.replicate xoff 0)
      if numBytes x = 0 then none
      else
        let buf := writeAt buf xoff (bn2bin x)
        if 0 < ylen then
          let yoff := ylen - numBytes y + xlen
          let buf := writeAt buf xlen (List.replicate (yoff - xlen) 0)
          if numBytes y = 0 then none else some (writeAt buf yoff (bn2bin y))
        else some buf

/-- `ec_raw2point`: the two halves as coordinates. -/
def ecRaw2point (eclen : Nat) (buf : List UInt8) (len : Nat) : Option (Nat × Nat) :=
  if len < eclen then none
  else
    let xlen := eclen / 2
    some (bin2bn (buf.take xlen), bin2bn ((buf.drop xlen).take xlen))

def ecCreateExchange (lib : DhLibrary) (g : DhGroup) (nid : Nid) (buf : List UInt8) :
    Option (List UInt8) :=
  let c := lib.curve nid
  let len := ecGetlen g.spec
  ecPoint2raw len (c.mul g.ec c.gen) (writeAt buf 0 (List.replicate len 0)) len true

def ecCreateShared (lib : DhLibrary) (g : DhGroup) (nid : Nid) (secret exchange : List UInt8) :
    Option (List UInt8) := do
  let c := lib.curve nid
  let peer ← ecRaw2point (ecGetlen g.spec) exchange (ecGetlen g.spec)
  if !c.valid peer then none
  else ecPoint2raw (ecGetlen g.spec) (c.mul g.ec peer) secret (ecSecretlen g.spec) false

/-! ## curve25519 and the hybrid group -/

def ec25519CreateExchange (g : DhGroup) : Option (List UInt8) := g.curve25519.map (·.publicKey)

def ec25519CreateShared (lib : DhLibrary) (g : DhGroup) (exchange : List UInt8) :
    Option (List UInt8) :=
  g.curve25519.map fun key => lib.scalarmult key.secret exchange

/-- `kemsx_create_exchange2`: the initiator sends its sntrup761 public key, the responder a
ciphertext for the initiator's key; both then their curve25519 public value. -/
def kemsxCreateExchange2 (lib : DhLibrary) (coins : DhCoins) (g : DhGroup)
    (iexchange : Option (List UInt8)) : Option (List UInt8 × DhGroup) :=
  let x25519 := ec25519Init lib coins
  match iexchange with
  | none =>
    let (pk, sk) := lib.kemKeypair coins.kemKeypair
    let kemsx : KemsxKey := ⟨List.replicate sntrup761Bytes 0, sk, pk, true⟩
    some (pk ++ x25519.publicKey, { g with curve25519 := some x25519, kemsx := some kemsx })
  | some iexchange =>
    if iexchange.length ≠ sntrup761PublicKeyBytes + curve25519Size then none
    else
      let (ct, key) := lib.kemEnc (iexchange.take sntrup761PublicKeyBytes) coins.kemEnc
      let kemsx : KemsxKey := ⟨key, List.replicate sntrup761SecretKeyBytes 0,
        List.replicate sntrup761PublicKeyBytes 0, false⟩
      some (ct ++ x25519.publicKey, { g with curve25519 := some x25519, kemsx := some kemsx })

/-- `kemsx_create_shared2`: SHA-512 of the sntrup761 key and the curve25519 secret. -/
def kemsxCreateShared2 (lib : DhLibrary) (g : DhGroup) (exchange : List UInt8) :
    Option (List UInt8) :=
  match g.kemsx, g.curve25519 with
  | some kemsx, some x25519 =>
    if kemsx.initiator then
      if exchange.length ≠ sntrup761CiphertextBytes + curve25519Size then none
      else
        let kemkey := lib.kemDec (exchange.take sntrup761CiphertextBytes) kemsx.secret
        let shared := lib.scalarmult x25519.secret (exchange.drop sntrup761CiphertextBytes)
        some (lib.sha512 (kemkey ++ shared))
    else
      if exchange.length ≠ sntrup761PublicKeyBytes + curve25519Size then none
      else
        let shared := lib.scalarmult x25519.secret (exchange.drop sntrup761PublicKeyBytes)
        some (lib.sha512 (kemsx.kemkey ++ shared))
  | _, _ => none

/-! ## `dh_create_exchange` and `dh_create_shared` -/

-- `group->exchange` into the zero buffer `ibuf_new` gave.
def groupExchange (lib : DhLibrary) (g : DhGroup) (buf : List UInt8) : Option (List UInt8) :=
  match g.spec.type with
  | .modp => modpCreateExchange lib g buf
  | .ecp nid => ecCreateExchange lib g nid buf
  | .curve25519 => ec25519CreateExchange g
  | .sntrup761x25519 => none

-- `group->shared` into the zero buffer `ibuf_new` gave.
def groupShared (lib : DhLibrary) (g : DhGroup) (secret exchange : List UInt8) :
    Option (List UInt8) :=
  match g.spec.type with
  | .modp => modpCreateShared lib g secret exchange
  | .ecp nid => ecCreateShared lib g nid secret exchange
  | .curve25519 => ec25519CreateShared lib g exchange
  | .sntrup761x25519 => none

/-- `dh_create_exchange`: the exchange and the group with the keys it made; the initiator
passes no exchange, the responder the initiator's. -/
def dhCreateExchange (lib : DhLibrary) (coins : DhCoins) (g : DhGroup)
    (iexchange : Option (List UInt8)) : Option (List UInt8 × DhGroup) :=
  match g.spec.type with
  | .sntrup761x25519 => kemsxCreateExchange2 lib coins g iexchange
  | _ => (groupExchange lib g (List.replicate (dhGetlen g.spec) 0)).map (·, g)

def dhCreateShared (lib : DhLibrary) (g : DhGroup) (exchange : List UInt8) :
    Option (List UInt8) :=
  match g.spec.type with
  | .sntrup761x25519 => kemsxCreateShared2 lib g exchange
  | _ =>
    if exchange.length ≠ dhGetlen g.spec then none
    else groupShared lib g (List.replicate (dhSecretlen g.spec) 0) exchange

/-! ## What the byte routines leave -/

section Bytes

theorem zeroBuffer_writeAt (len : Nat) (data : List UInt8) (short : data.length ≤ len) :
    writeAt (List.replicate len 0) 0 data = data ++ List.replicate (len - data.length) 0 := by
  simpa using writeAt_into_zeros [] [] data (0 : UInt8) (j := 0) (n := len) (by simpa using short)

/-- `BN_bn2bin` into a zero buffer, then the padding: the fixed-width encoding. -/
theorem addZeroPadding_bn2bin {len v : Nat} (fits : v < 256 ^ len) :
    addZeroPadding (writeAt (List.replicate len 0) 0 (bn2bin v)) len (numBytes v) =
      beBytes len v := by
  have short : numBytes v ≤ len := (numBytes_le_iff v len).mpr fits
  rw [zeroBuffer_writeAt len _ (by simpa using short), ← zeroPad_bn2bin fits, length_bn2bin]
  unfold addZeroPadding
  split
  · simp [writeAt, List.take_append_of_le_length, short]
  · have none : len - numBytes v = 0 := by omega
    simp [none]

variable {xlen x : Nat}

/-- Both coordinates, each in its half of a zero buffer. -/
theorem ecPoint2raw_full {y : Nat} (nx : x ≠ 0) (ny : y ≠ 0) (fx : x < 256 ^ xlen)
    (fy : y < 256 ^ xlen) :
    ecPoint2raw (2 * xlen) (some (x, y)) (List.replicate (2 * xlen) 0) (2 * xlen) true =
      some (beBytes xlen x ++ beBytes xlen y) := by
  have rx : numBytes x ≤ xlen := (numBytes_le_iff x xlen).mpr fx
  have ry : numBytes y ≤ xlen := (numBytes_le_iff y xlen).mpr fy
  have half : 2 * xlen / 2 = xlen := by omega
  have wide : 0 < xlen := by
    rcases Nat.eq_zero_or_pos xlen with zero | pos
    · subst zero
      simp at fx
      omega
    · exact pos
  -- the zeroes before each coordinate go over zeroes, the coordinates after them
  have zeroX : writeAt (List.replicate (2 * xlen) (0 : UInt8)) 0
      (List.replicate (xlen - numBytes x) 0) = List.replicate (2 * xlen) 0 := by
    simpa using writeAt_zeros_into_zeros [] [] (0 : UInt8) (j := 0) (n := 2 * xlen) (by omega)
  have atX : writeAt (List.replicate (2 * xlen) (0 : UInt8)) (xlen - numBytes x) (bn2bin x) =
      beBytes xlen x ++ List.replicate xlen 0 := by
    rw [← zeroPad_bn2bin fx]
    simpa [show 2 * xlen - (xlen - numBytes x) - numBytes x = xlen by omega] using
      writeAt_into_zeros [] [] (bn2bin x) (0 : UInt8) (j := xlen - numBytes x) (n := 2 * xlen)
        (by simp; omega)
  have zeroY : writeAt (beBytes xlen x ++ List.replicate xlen 0) xlen
      (List.replicate (xlen - numBytes y + xlen - xlen) 0) =
        beBytes xlen x ++ List.replicate xlen 0 := by
    simpa using writeAt_zeros_into_zeros (beBytes xlen x) [] (0 : UInt8) (j := 0) (n := xlen)
      (by omega)
  have atY : writeAt (beBytes xlen x ++ List.replicate xlen 0) (xlen - numBytes y + xlen)
      (bn2bin y) = beBytes xlen x ++ beBytes xlen y := by
    rw [← zeroPad_bn2bin fy]
    simpa [Nat.add_comm, show xlen - (xlen - numBytes y) - numBytes y = 0 by omega] using
      writeAt_into_zeros (beBytes xlen x) [] (bn2bin y) (0 : UInt8) (j := xlen - numBytes y)
        (n := xlen) (by simp; omega)
  have px : numBytes x ≠ 0 := by simpa using nx
  have py : numBytes y ≠ 0 := by simpa using ny
  simp only [ecPoint2raw, half, if_true, if_false, zeroX, px, atX,
    show ¬ 2 * xlen < xlen + xlen by omega, wide, py, zeroY, atY]

/-- The x-coordinate alone, at the end of a zero buffer of its width. -/
theorem ecPoint2raw_xonly (y : Nat) (nx : x ≠ 0) (fx : x < 256 ^ xlen) :
    ecPoint2raw (2 * xlen) (some (x, y)) (List.replicate xlen 0) xlen false =
      some (beBytes xlen x) := by
  have rx : numBytes x ≤ xlen := (numBytes_le_iff x xlen).mpr fx
  have half : 2 * xlen / 2 = xlen := by omega
  have zeroX : writeAt (List.replicate xlen (0 : UInt8)) 0 (List.replicate (xlen - numBytes x) 0) =
      List.replicate xlen 0 := by
    simpa using writeAt_zeros_into_zeros [] [] (0 : UInt8) (j := 0) (n := xlen) (by omega)
  have atX : writeAt (List.replicate xlen (0 : UInt8)) (xlen - numBytes x) (bn2bin x) =
      beBytes xlen x := by
    rw [← zeroPad_bn2bin fx]
    simpa [show xlen - (xlen - numBytes x) - numBytes x = 0 by omega] using
      writeAt_into_zeros [] [] (bn2bin x) (0 : UInt8) (j := xlen - numBytes x) (n := xlen)
        (by simp; omega)
  have px : numBytes x ≠ 0 := by simpa using nx
  simp [ecPoint2raw, half, zeroX, px, atX]

/-- A coordinate of 0 has no bytes, and `ec_point2raw` fails on it. -/
theorem ecPoint2raw_zero_x (eclen y len : Nat) (buf : List UInt8) (full : Bool) :
    ecPoint2raw eclen (some (0, y)) buf len full = none := by
  unfold ecPoint2raw
  split <;> simp

theorem ecRaw2point_beBytes {y : Nat} (fx : x < 256 ^ xlen) (fy : y < 256 ^ xlen) :
    ecRaw2point (2 * xlen) (beBytes xlen x ++ beBytes xlen y) (2 * xlen) = some (x, y) := by
  have half : 2 * xlen / 2 = xlen := by omega
  have whole : (beBytes xlen y).take xlen = beBytes xlen y := List.take_of_length_le (by simp)
  simp [ecRaw2point, half, whole, bin2bn_beBytes, Nat.mod_eq_of_lt fx, Nat.mod_eq_of_lt fy]

end Bytes

/-! ## ECP groups -/

section Ecp

variable {lib : DhLibrary} {id : Nat} {spec : GroupId} {nid : Nid}

theorem groupGetid_some (found : groupGetid id = some spec) : spec ∈ ikeGroups ∧ spec.id = id := by
  unfold groupGetid at found
  exact ⟨List.mem_of_find?_eq_some found, by simpa using List.find?_some found⟩

-- An ECP exchange is two coordinates of `ecSecretlen` bytes.
theorem ecGetlen_eq (spec : GroupId) : ecGetlen spec = 2 * ecSecretlen spec := by
  obtain ⟨m, whole⟩ := dvd_roundup spec.bits 8
  simp only [ecSecretlen, ecGetlen, whole]
  omega

-- The encoding of a point in an ECP exchange.
def ecEncode (spec : GroupId) (point : Nat × Nat) : List UInt8 :=
  beBytes (ecSecretlen spec) point.1 ++ beBytes (ecSecretlen spec) point.2

theorem groupGet_ecp (sound : lib.Sound) (found : groupGetid id = some spec)
    (ecp : spec.type = .ecp nid) (coins : DhCoins) {pub : Nat × Nat}
    (key : (lib.curve nid).mul coins.ec (lib.curve nid).gen = some pub) :
    groupGet lib coins id = some ⟨spec, coins.modp, coins.ec, none, none⟩ := by
  have valid := sound.ec_mul_valid nid _ _ _ (sound.ec_gen nid) key
  simp [groupGet, found, ecp, key, valid]

/-- The exchange of an ECP group is its public point, each coordinate at full width, when
neither coordinate is 0. -/
theorem dhCreateExchange_ecp (sound : lib.Sound) (found : groupGetid id = some spec)
    (ecp : spec.type = .ecp nid) (coins : DhCoins) {g : DhGroup} (ofSpec : g.spec = spec)
    {pub : Nat × Nat} (key : (lib.curve nid).mul g.ec (lib.curve nid).gen = some pub)
    (nonzero : pub.1 ≠ 0 ∧ pub.2 ≠ 0) (iexchange : Option (List UInt8)) :
    dhCreateExchange lib coins g iexchange = some (ecEncode spec pub, g) := by
  have valid := sound.ec_mul_valid nid _ _ _ (sound.ec_gen nid) key
  have fits := sound.ec_fits spec (groupGetid_some found).1 nid ecp pub valid
  have zeroed : writeAt (List.replicate (ecGetlen spec) (0 : UInt8)) 0
      (List.replicate (ecGetlen spec) 0) = List.replicate (ecGetlen spec) 0 := by
    simpa using writeAt_replicate_length (List.replicate (ecGetlen spec) (0 : UInt8)) 0
  have encoded := ecPoint2raw_full nonzero.1 nonzero.2 fits.1 fits.2
  rw [← ecGetlen_eq] at encoded
  subst ofSpec
  simp [dhCreateExchange, groupExchange, ecCreateExchange, dhGetlen, ecp, key, zeroed, encoded,
    ecEncode]

/-- The shared secret of an ECP group from a peer's point: `ec_point2raw` of the product. -/
theorem dhCreateShared_ecp (sound : lib.Sound) (found : groupGetid id = some spec)
    (ecp : spec.type = .ecp nid) {g : DhGroup} (ofSpec : g.spec = spec) {peer : Nat × Nat}
    (valid : (lib.curve nid).valid peer = true) :
    dhCreateShared lib g (ecEncode spec peer) =
      ecPoint2raw (ecGetlen spec) ((lib.curve nid).mul g.ec peer)
        (List.replicate (ecSecretlen spec) 0) (ecSecretlen spec) false := by
  have fits := sound.ec_fits spec (groupGetid_some found).1 nid ecp peer valid
  have decoded := ecRaw2point_beBytes fits.1 fits.2
  rw [← ecGetlen_eq] at decoded
  have length : ecSecretlen spec + ecSecretlen spec = ecGetlen spec := by
    rw [ecGetlen_eq]
    omega
  subst ofSpec
  simp [dhCreateShared, groupShared, ecCreateShared, dhGetlen, dhSecretlen, ecp, length,
    ecEncode, decoded, valid]

/-- Two key pairs of an ECP group whose shared point has x-coordinate 0: both exchanges are
made at the group's length, and neither side gets a shared secret. -/
theorem dhCreateShared_fails_on_zero_x (lib : DhLibrary) (sound : lib.Sound) {id : Nat}
    {spec : GroupId} {nid : Nid} (found : groupGetid id = some spec) (ecp : spec.type = .ecp nid)
    (coinsI coinsR : DhCoins) {pubI pubR : Nat × Nat} {y : Nat}
    (keyI : (lib.curve nid).mul coinsI.ec (lib.curve nid).gen = some pubI)
    (keyR : (lib.curve nid).mul coinsR.ec (lib.curve nid).gen = some pubR)
    (nonzeroI : pubI.1 ≠ 0 ∧ pubI.2 ≠ 0) (nonzeroR : pubR.1 ≠ 0 ∧ pubR.2 ≠ 0)
    (zero : (lib.curve nid).mul coinsI.ec pubR = some (0, y)) :
    ∃ groupI groupR exI exR,
      groupGet lib coinsI id = some groupI ∧ groupGet lib coinsR id = some groupR ∧
      dhCreateExchange lib coinsI groupI none = some (exI, groupI) ∧
      dhCreateExchange lib coinsR groupR (some exI) = some (exR, groupR) ∧
      exI.length = dhGetlen spec ∧ exR.length = dhGetlen spec ∧
      dhCreateShared lib groupI exR = none ∧ dhCreateShared lib groupR exI = none := by
  -- the responder's product is the initiator's: the point with x-coordinate 0
  have zeroR : (lib.curve nid).mul coinsR.ec pubI = some (0, y) := by
    have comm := sound.ec_comm nid coinsI.ec coinsR.ec
    rw [keyR, keyI] at comm
    simpa [zero] using comm.symm
  have validI := sound.ec_mul_valid nid _ _ _ (sound.ec_gen nid) keyI
  have validR := sound.ec_mul_valid nid _ _ _ (sound.ec_gen nid) keyR
  have length : ∀ point, (ecEncode spec point).length = dhGetlen spec := by
    intro point
    simp only [ecEncode, dhGetlen, ecp, List.length_append, length_beBytes, ecGetlen_eq]
    omega
  refine ⟨_, _, ecEncode spec pubI, ecEncode spec pubR,
    groupGet_ecp sound found ecp coinsI keyI, groupGet_ecp sound found ecp coinsR keyR,
    dhCreateExchange_ecp sound found ecp coinsI rfl keyI nonzeroI none,
    dhCreateExchange_ecp sound found ecp coinsR rfl keyR nonzeroR _, length pubI, length pubR,
    ?initiator, ?responder⟩
  case initiator => rw [dhCreateShared_ecp sound found ecp rfl validR, zero, ecPoint2raw_zero_x]
  case responder => rw [dhCreateShared_ecp sound found ecp rfl validI, zeroR, ecPoint2raw_zero_x]

-- A library whose scalar multiplication scales the x-coordinate modulo 6, so that the keys 2
-- and 3 agree on a point with x-coordinate 0.
def zeroXCurve : EcCurve where
  gen := (1, 1)
  mul k P := some (k * P.1 % 6, P.2)
  valid P := decide (P.1 < 6 ∧ P.2 < 6)

def zeroXLibrary : DhLibrary where
  modpPrime _ := 5
  curve _ := zeroXCurve
  scalarmult _ _ := List.replicate 32 0
  kemKeypair _ := (List.replicate 1158 0, [])
  kemEnc _ _ := (List.replicate 1039 0, List.replicate 32 0)
  kemDec _ _ := List.replicate 32 0
  sha512 _ := List.replicate 64 0

-- Every group of the table has at least one byte of key and of x-coordinate.
theorem ikeGroups_lengths_pos : ∀ spec ∈ ikeGroups, 1 ≤ modpGetlen spec ∧ 1 ≤ ecSecretlen spec := by
  decide

theorem six_lt_byte_pow {k : Nat} (pos : 1 ≤ k) : 6 < 256 ^ k :=
  calc 6 < 256 ^ 1 := by decide
    _ ≤ 256 ^ k := Nat.pow_le_pow_right (by decide) pos

theorem zeroXLibrary_sound : zeroXLibrary.Sound where
  modp_prime _ _ _ := by norm_num [zeroXLibrary]
  modp_fits spec mem _ :=
    Nat.lt_trans (show 5 < 6 by decide) (six_lt_byte_pow (ikeGroups_lengths_pos spec mem).1)
  ec_gen _ := rfl
  ec_mul_valid := by
    intro _ k P Q valid mul
    simp only [zeroXLibrary, zeroXCurve, Option.some.injEq, decide_eq_true_eq] at valid mul
    subst mul
    simp only [zeroXLibrary, zeroXCurve, decide_eq_true_eq]
    exact ⟨Nat.mod_lt _ (by decide), valid.2⟩
  ec_fits := by
    intro spec mem nid _ P valid
    have wide := six_lt_byte_pow (ikeGroups_lengths_pos spec mem).2
    simp only [zeroXLibrary, zeroXCurve, decide_eq_true_eq] at valid
    omega
  ec_comm _ a b := by
    simp only [zeroXLibrary, zeroXCurve, Option.bind_some, Nat.mul_one, Nat.mul_mod_mod,
      Nat.mul_comm a b]
  scalarmult_length _ _ := List.length_replicate
  scalarmult_comm _ _ := rfl
  kem_public_length _ := List.length_replicate
  kem_ciphertext_length _ _ := List.length_replicate
  kem_correct _ _ := rfl
  sha512_length _ := List.length_replicate

def zeroXCoinsI : DhCoins := ⟨0, 2, [], 0, 0⟩

def zeroXCoinsR : DhCoins := ⟨0, 3, [], 0, 0⟩

theorem dhCreateShared_fails_on_zero_x_in_group19 :
    ∃ groupI groupR exI exR,
      groupGet zeroXLibrary zeroXCoinsI 19 = some groupI ∧
      groupGet zeroXLibrary zeroXCoinsR 19 = some groupR ∧
      dhCreateExchange zeroXLibrary zeroXCoinsI groupI none = some (exI, groupI) ∧
      dhCreateExchange zeroXLibrary zeroXCoinsR groupR (some exI) = some (exR, groupR) ∧
      exI.length = dhGetlen ⟨.ecp .prime256v1, 19, 256, 0⟩ ∧
      exR.length = dhGetlen ⟨.ecp .prime256v1, 19, 256, 0⟩ ∧
      dhCreateShared zeroXLibrary groupI exR = none ∧
      dhCreateShared zeroXLibrary groupR exI = none :=
  @dhCreateShared_fails_on_zero_x zeroXLibrary zeroXLibrary_sound 19 ⟨.ecp .prime256v1, 19, 256, 0⟩
    .prime256v1 rfl rfl zeroXCoinsI zeroXCoinsR (2, 1) (3, 1) 1 rfl rfl (by decide) (by decide) rfl

end Ecp

end OpenIKED.Crypto.Dh
