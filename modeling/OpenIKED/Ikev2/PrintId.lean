import Mathlib.Data.List.TakeWhile
import OpenIKED.Shared.CString

set_option autoImplicit false

/-!
# `ikev2_print_id`

The printer of `ikev2.c` turns a `struct iked_id` into `"<TYPE>/<value>"` in a caller
array of `idstrlen` bytes.  The model returns the value it returns, the array it leaves
and every access it makes: to the bytes of `id_buf`, to `idstr`, to its local
`sockaddr_in` / `sockaddr_in6` and to the three-byte buffer of the hex loop.
-/

namespace OpenIKED.Ikev2.PrintId

open OpenIKED.Shared

def ikev2IdNone : UInt8 := 0
def ikev2IdIpv4 : UInt8 := 1
def ikev2IdFqdn : UInt8 := 2
def ikev2IdUfqdn : UInt8 := 3
def ikev2IdIpv6 : UInt8 := 5
def ikev2IdAsn1Dn : UInt8 := 9

-- `ikev2_id_map` as `genmap.sh` generates it from the `IKEV2_ID_` defines of `ikev2.h`.
def ikev2IdMap : List (Nat × String) :=
  [(0, "NONE"), (1, "IPV4"), (2, "FQDN"), (3, "UFQDN"), (5, "IPV6"), (9, "ASN1_DN"),
    (10, "ASN1_GN"), (11, "KEY_ID"), (12, "FC_NAME")]

-- `print_map`: the last entry of the map with this type, else `<UNKNOWN:type>`.
def printMap (type : Nat) (map : List (Nat × String)) : List Char :=
  match (map.filter (fun entry => entry.1 = type)).getLast? with
  | some entry => entry.2.toList
  | none => "<UNKNOWN:".toList ++ (toString type).toList ++ ['>']

-- The fields of `struct iked_id` the printer reads.
structure IkedId where
  idType : UInt8
  idOffset : UInt8
  idBuf : Option (List UInt8)
deriving DecidableEq, Repr

inductive Obj where
  | idBuf
  | idstr
  | s4
  | s6
  | hexBuf
deriving DecidableEq, Repr

-- Sizes and field offsets of the socket address structures (the same on Linux and BSD).
def sizeofSockaddrIn : Nat := 16
def offsetofSinAddr : Nat := 4
def sizeofSockaddrIn6 : Nat := 28
def offsetofSin6Addr : Nat := 8

def afInet : Nat := 2
def afInet6 : Nat := 10

-- Where the accesses of the printer may fall: `id_buf` only from `id_offset` on.
def extent (id : IkedId) (idstrlen : Nat) : Extent Obj
  | .idBuf => (id.idOffset.toNat, (id.idBuf.getD []).length)
  | .idstr => (0, idstrlen)
  | .s4 => (0, sizeofSockaddrIn)
  | .s6 => (0, sizeofSockaddrIn6)
  | .hexBuf => (0, 3)

-- The two calls whose code is outside `src/`: `print_addr` ends in `getnameinfo(3)` and
-- `ca_asn1_name` in OpenSSL's `X509_NAME_print_ex`.  Each gets the bytes it reads.
structure Printers where
  printAddr : Nat → List UInt8 → List Char
  caAsn1Name : List UInt8 → Option (List Char)

-- `isprint(3)` in the C locale.
def isprint (b : UInt8) : Bool := 0x20 ≤ b && b ≤ 0x7e

-- `get_string`: the printable prefix, as `strndup` copies it.
def getString (ptr : List UInt8) : List Char :=
  (ptr.takeWhile isprint).map (fun b => Char.ofNat b.toNat)

-- How many bytes the scan of `get_string` looks at: up to the first unprintable one.
def getStringRead (ptr : List UInt8) : Nat :=
  min ptr.length ((ptr.takeWhile isprint).length + 1)

def hexDigit (n : Nat) : Char := if n < 10 then Char.ofNat (48 + n) else Char.ofNat (87 + n)

-- `snprintf(buf, sizeof(buf), "%02x", b)`.
def hexByte (b : UInt8) : List Char := [hexDigit (b.toNat / 16), hexDigit (b.toNat % 16)]

def catAccess (dst src : List Char) : List (Access Obj) :=
  match strlcatSpan dst src with
  | some span => [⟨.idstr, .write, span⟩]
  | none => []

def cpyAccess (dst src : List Char) : List (Access Obj) :=
  match strlcpySpan dst src with
  | some span => [⟨.idstr, .write, span⟩]
  | none => []

structure PrintResult where
  ret : Int
  idstr : List Char
  trace : List (Access Obj)

-- The `default:` loop: one hex pair per byte, stopping at the first truncation.
def printHex (idstr : List Char) (pos : Nat) : List UInt8 → List Char × List (Access Obj)
  | [] => (idstr, [])
  | b :: rest =>
    let step := [Access.read .idBuf pos 1, Access.write .hexBuf 0 3] ++ catAccess idstr (hexByte b)
    let next := strlcat idstr (hexByte b)
    if idstr.length ≤ next.2 then (next.1, step)
    else
      let later := printHex next.1 (pos + 1) rest
      (later.1, step ++ later.2)

-- Append `text` to the array; the call fails when `strlcat` truncates.
def finish (idstr text : List Char) (trace : List (Access Obj)) : PrintResult :=
  let out := strlcat idstr text
  ⟨if idstr.length ≤ out.2 then -1 else 0, out.1, trace ++ catAccess idstr text⟩

-- The `switch (id->id_type)` of the printer, from `ptr = id_buf + id_offset` on.
def printValue (printers : Printers) (type : UInt8) (off : Nat) (ptr : List UInt8)
    (idstr : List Char) (trace : List (Access Obj)) : PrintResult :=
  if type = ikev2IdIpv4 then
    -- memcpy(&s4.sin_addr.s_addr, ptr, len) copies the whole remaining payload
    let copied := [Access.read .idBuf off ptr.length,
      Access.write .s4 offsetofSinAddr ptr.length, Access.read .s4 0 sizeofSockaddrIn]
    finish idstr (printers.printAddr afInet ((ptr ++ List.replicate 4 0).take 4))
      (trace ++ copied)
  else if type = ikev2IdFqdn ∨ type = ikev2IdUfqdn then
    finish idstr (getString ptr) (trace ++ [Access.read .idBuf off (getStringRead ptr)])
  else if type = ikev2IdIpv6 then
    let copied := [Access.read .idBuf off ptr.length,
      Access.write .s6 offsetofSin6Addr ptr.length, Access.read .s6 0 sizeofSockaddrIn6]
    finish idstr (printers.printAddr afInet6 ((ptr ++ List.replicate 16 0).take 16))
      (trace ++ copied)
  else if type = ikev2IdAsn1Dn then
    let parsed := trace ++ [Access.read .idBuf off ptr.length]
    match printers.caAsn1Name ptr with
    | none => ⟨-1, idstr, parsed⟩
    | some text => finish idstr text parsed
  else
    let printed := printHex idstr off ptr
    ⟨0, printed.1, trace ++ printed.2⟩

-- `ikev2_print_id(id, idstr, idstrlen)`.
def ikev2PrintId (printers : Printers) (id : IkedId) (idstrlen : Nat) : PrintResult :=
  let zeroed := List.replicate idstrlen nul
  let cleared := [Access.write .idstr 0 idstrlen]
  match id.idBuf with
  | none => ⟨-1, zeroed, cleared⟩
  | some buf =>
    if buf.length ≤ id.idOffset.toNat then ⟨-1, zeroed, cleared⟩
    else
      let type := printMap id.idType.toNat ikev2IdMap
      let named := strlcpy zeroed type
      let traceNamed := cleared ++ cpyAccess zeroed type
      if idstrlen ≤ named.2 then ⟨-1, named.1, traceNamed⟩
      else
        let slashed := strlcat named.1 ['/']
        let traceSlashed := traceNamed ++ catAccess named.1 ['/']
        if idstrlen ≤ slashed.2 then ⟨-1, slashed.1, traceSlashed⟩
        else printValue printers id.idType id.idOffset.toNat (buf.drop id.idOffset.toNat)
          slashed.1 traceSlashed

end OpenIKED.Ikev2.PrintId

namespace OpenIKED.Ikev2.PrintId

open OpenIKED.Shared

-- The accesses the printer makes besides copying an address into a `sockaddr`.
def Routine (lo hi n : Nat) (a : Access Obj) : Prop :=
  (a.obj = .idBuf ∧ a.dir = .read ∧ a.span.Within lo hi) ∨
  (a.obj = .idstr ∧ a.span.Within 0 n) ∨
  (a.obj = .hexBuf ∧ a.span.Within 0 3) ∨
  (a.obj = .s4 ∧ a.dir = .read ∧ a.span.Within 0 sizeofSockaddrIn) ∨
  (a.obj = .s6 ∧ a.dir = .read ∧ a.span.Within 0 sizeofSockaddrIn6)

theorem Routine.widen {lo hi lo' hi' n : Nat} {a : Access Obj} (routine : Routine lo hi n a)
    (low : lo' ≤ lo) (high : hi ≤ hi') : Routine lo' hi' n a := by
  rcases routine with ⟨obj, dir, span⟩ | rest
  · exact Or.inl ⟨obj, dir, Span.within_mono span low high⟩
  · exact Or.inr rest

theorem Routine.safe {id : IkedId} {n : Nat} {a : Access Obj}
    (routine : Routine id.idOffset.toNat (id.idBuf.getD []).length n a) :
    a.Safe (extent id n) := by
  rcases routine with ⟨obj, -, span⟩ | ⟨obj, span⟩ | ⟨obj, span⟩ | ⟨obj, -, span⟩ | ⟨obj, -, span⟩ <;>
    simpa [Access.Safe, extent, obj] using span

theorem catAccess_routine (lo hi : Nat) (dst src : List Char) :
    ∀ a ∈ catAccess dst src, Routine lo hi dst.length a := by
  intro a member
  unfold catAccess at member
  cases stored : strlcatSpan dst src with
  | none => simp [stored] at member
  | some span =>
    simp only [stored, List.mem_singleton] at member
    subst member
    exact Or.inr (Or.inl ⟨rfl, strlcatSpan_within dst src span stored⟩)

theorem cpyAccess_routine (lo hi : Nat) (dst src : List Char) :
    ∀ a ∈ cpyAccess dst src, Routine lo hi dst.length a := by
  intro a member
  unfold cpyAccess at member
  cases stored : strlcpySpan dst src with
  | none => simp [stored] at member
  | some span =>
    simp only [stored, List.mem_singleton] at member
    subst member
    exact Or.inr (Or.inl ⟨rfl, strlcpySpan_within dst src span stored⟩)

theorem printHex_length (idstr : List Char) (pos : Nat) (bytes : List UInt8) :
    (printHex idstr pos bytes).1.length = idstr.length := by
  induction bytes generalizing idstr pos with
  | nil => rfl
  | cons b rest ih =>
    simp only [printHex]
    split
    · exact strlcat_length _ _
    · rw [ih]
      exact strlcat_length _ _

theorem printHex_terminated (idstr : List Char) (pos : Nat) (bytes : List UInt8)
    (terminated : Terminated idstr) : Terminated (printHex idstr pos bytes).1 := by
  induction bytes generalizing idstr pos with
  | nil => exact terminated
  | cons b rest ih =>
    simp only [printHex]
    split
    · exact strlcat_terminated _ _ terminated
    · exact ih _ _ (strlcat_terminated _ _ terminated)

-- Each round reads one byte at `pos`, so the loop stays inside `[pos, pos + length)`.
theorem printHex_routine (idstr : List Char) (pos : Nat) (bytes : List UInt8) :
    ∀ a ∈ (printHex idstr pos bytes).2, Routine pos (pos + bytes.length) idstr.length a := by
  induction bytes generalizing idstr pos with
  | nil => simp [printHex]
  | cons b rest ih =>
    have step : ∀ a ∈ [Access.read .idBuf pos 1, Access.write .hexBuf 0 3] ++
        catAccess idstr (hexByte b), Routine pos (pos + (b :: rest).length) idstr.length a := by
      intro a member
      rcases List.mem_append.mp member with fixed | appended
      · simp only [List.mem_cons, List.not_mem_nil, or_false] at fixed
        rcases fixed with rfl | rfl
        · exact Or.inl ⟨rfl, rfl, by simp [Access.read]⟩
        · exact Or.inr (Or.inr (Or.inl ⟨rfl, by simp [Access.write]⟩))
      · exact catAccess_routine _ _ idstr _ a appended
    intro a member
    simp only [printHex] at member
    split at member
    · exact step a member
    · rcases List.mem_append.mp member with early | later
      · exact step a early
      · have routine := ih _ (pos + 1) a later
        rw [strlcat_length] at routine
        exact routine.widen (by omega) (by simp; omega)

theorem finish_length (idstr text : List Char) (trace : List (Access Obj)) :
    (finish idstr text trace).idstr.length = idstr.length :=
  strlcat_length idstr text

theorem getStringRead_le (ptr : List UInt8) : getStringRead ptr ≤ ptr.length :=
  Nat.min_le_left _ _

variable (printers : Printers)

theorem printValue_length (type : UInt8) (off : Nat) (ptr : List UInt8) (idstr : List Char)
    (trace : List (Access Obj)) :
    (printValue printers type off ptr idstr trace).idstr.length = idstr.length := by
  unfold printValue
  split_ifs
  · exact finish_length _ _ _
  · exact finish_length _ _ _
  · exact finish_length _ _ _
  · split
    · rfl
    · exact finish_length _ _ _
  · exact printHex_length _ _ _

theorem printValue_terminated (type : UInt8) (off : Nat) (ptr : List UInt8)
    (idstr : List Char) (trace : List (Access Obj)) (terminated : Terminated idstr) :
    Terminated (printValue printers type off ptr idstr trace).idstr := by
  unfold printValue
  split_ifs
  · exact strlcat_terminated _ _ terminated
  · exact strlcat_terminated _ _ terminated
  · exact strlcat_terminated _ _ terminated
  · split
    · exact terminated
    · exact strlcat_terminated _ _ terminated
  · exact printHex_terminated _ _ _ terminated

theorem printValue_trace_cases (type : UInt8) (off : Nat) (ptr : List UInt8)
    (idstr : List Char) (trace : List (Access Obj)) :
    ∀ a ∈ (printValue printers type off ptr idstr trace).trace, a ∈ trace ∨
      Routine off (off + ptr.length) idstr.length a ∨
      (type = ikev2IdIpv4 ∧ a = Access.write .s4 offsetofSinAddr ptr.length) ∨
      (type = ikev2IdIpv6 ∧ a = Access.write .s6 offsetofSin6Addr ptr.length) := by
  have readAll : Routine off (off + ptr.length) idstr.length (Access.read .idBuf off ptr.length) :=
    Or.inl ⟨rfl, rfl, by simp [Access.read]⟩
  have appended (text : List Char) (a : Access Obj) (member : a ∈ catAccess idstr text) :=
    catAccess_routine off (off + ptr.length) idstr text a member
  intro a member
  unfold printValue at member
  split_ifs at member with ipv4 names ipv6 asn1
  · simp only [finish, List.mem_append, List.mem_cons, List.not_mem_nil, or_false] at member
    rcases member with (old | rfl | rfl | rfl) | text
    · exact Or.inl old
    · exact Or.inr (Or.inl readAll)
    · exact Or.inr (Or.inr (Or.inl ⟨ipv4, rfl⟩))
    · exact Or.inr (Or.inl (Or.inr (Or.inr (Or.inr (Or.inl ⟨rfl, rfl, by simp [Access.read]⟩)))))
    · exact Or.inr (Or.inl (appended _ a text))
  · simp only [finish, List.mem_append, List.mem_cons, List.not_mem_nil, or_false] at member
    rcases member with (old | rfl) | text
    · exact Or.inl old
    · exact Or.inr (Or.inl (Or.inl ⟨rfl, rfl, by simp [Access.read, getStringRead_le]⟩))
    · exact Or.inr (Or.inl (appended _ a text))
  · simp only [finish, List.mem_append, List.mem_cons, List.not_mem_nil, or_false] at member
    rcases member with (old | rfl | rfl | rfl) | text
    · exact Or.inl old
    · exact Or.inr (Or.inl readAll)
    · exact Or.inr (Or.inr (Or.inr ⟨ipv6, rfl⟩))
    · exact Or.inr (Or.inl (Or.inr (Or.inr (Or.inr (Or.inr ⟨rfl, rfl, by simp [Access.read]⟩)))))
    · exact Or.inr (Or.inl (appended _ a text))
  · split at member
    · simp only [List.mem_append, List.mem_cons, List.not_mem_nil, or_false] at member
      rcases member with old | rfl
      · exact Or.inl old
      · exact Or.inr (Or.inl readAll)
    · simp only [finish, List.mem_append, List.mem_cons, List.not_mem_nil, or_false] at member
      rcases member with (old | rfl) | text
      · exact Or.inl old
      · exact Or.inr (Or.inl readAll)
      · exact Or.inr (Or.inl (appended _ a text))
  · rcases List.mem_append.mp member with old | printed
    · exact Or.inl old
    · exact Or.inr (Or.inl (printHex_routine idstr off ptr a printed))

theorem printValue_copies_ipv4 (off : Nat) (ptr : List UInt8) (idstr : List Char)
    (trace : List (Access Obj)) :
    Access.write .s4 offsetofSinAddr ptr.length ∈
      (printValue printers ikev2IdIpv4 off ptr idstr trace).trace := by
  simp [printValue, finish]

theorem printValue_copies_ipv6 (off : Nat) (ptr : List UInt8) (idstr : List Char)
    (trace : List (Access Obj)) :
    Access.write .s6 offsetofSin6Addr ptr.length ∈
      (printValue printers ikev2IdIpv6 off ptr idstr trace).trace := by
  simp [printValue, finish, ikev2IdIpv4, ikev2IdIpv6, ikev2IdFqdn, ikev2IdUfqdn]

end OpenIKED.Ikev2.PrintId

namespace OpenIKED.Ikev2.PrintId

open OpenIKED.Shared

-- The printer gets past the `"<TYPE>/"` prefix into the type switch.
def Reaches (id : IkedId) (idstrlen : Nat) : Prop :=
  ∃ buf, id.idBuf = some buf ∧ id.idOffset.toNat < buf.length ∧
    cstrlen (printMap id.idType.toNat ikev2IdMap) + 1 < idstrlen

def valueLength (id : IkedId) : Nat := (id.idBuf.getD []).length - id.idOffset.toNat

-- The copy of an IP address outruns its local `sockaddr`.
def Overflows (id : IkedId) (idstrlen : Nat) : Prop :=
  Reaches id idstrlen ∧
    ((id.idType = ikev2IdIpv4 ∧ sizeofSockaddrIn < offsetofSinAddr + valueLength id) ∨
      (id.idType = ikev2IdIpv6 ∧ sizeofSockaddrIn6 < offsetofSin6Addr + valueLength id))

theorem prefix_fits_iff (n : Nat) (type : List Char) :
    (¬ n ≤ (strlcpy (List.replicate n nul) type).2 ∧
      ¬ n ≤ (strlcat (strlcpy (List.replicate n nul) type).1 ['/']).2) ↔
      cstrlen type + 1 < n := by
  have slash : cstrlen ['/'] = 1 := by decide
  rcases Nat.eq_zero_or_pos n with rfl | room
  · simp
  · have copied := cstrlen_strlcpy (List.replicate n nul) type (by simpa using room)
    simp only [List.length_replicate] at copied
    simp only [strlcpy_ret, strlcat_ret, copied, slash]
    omega

variable (printers : Printers)

theorem ikev2PrintId_trace_cases (id : IkedId) (n : Nat) :
    ∀ a ∈ (ikev2PrintId printers id n).trace,
      Routine id.idOffset.toNat (id.idBuf.getD []).length n a ∨
      (Reaches id n ∧ id.idType = ikev2IdIpv4 ∧
        a = Access.write .s4 offsetofSinAddr (valueLength id)) ∨
      (Reaches id n ∧ id.idType = ikev2IdIpv6 ∧
        a = Access.write .s6 offsetofSin6Addr (valueLength id)) := by
  rcases id with ⟨type, off, _ | buf⟩
  · intro a member
    simp only [ikev2PrintId, List.mem_singleton] at member
    subst member
    exact Or.inl (Or.inr (Or.inl ⟨rfl, by simp [Access.write]⟩))
  -- the prefix `"<TYPE>/"` only writes `idstr`, whichever of its calls fails
  have cleared : Routine off.toNat buf.length n (Access.write .idstr 0 n) :=
    Or.inr (Or.inl ⟨rfl, by simp [Access.write]⟩)
  have named (a : Access Obj)
      (member : a ∈ cpyAccess (List.replicate n nul) (printMap type.toNat ikev2IdMap)) :
      Routine off.toNat buf.length n a := by
    simpa using cpyAccess_routine _ _ _ _ a member
  have slashed (a : Access Obj) (member : a ∈ catAccess
      (strlcpy (List.replicate n nul) (printMap type.toNat ikev2IdMap)).1 ['/']) :
      Routine off.toNat buf.length n a := by
    have routine := catAccess_routine off.toNat buf.length _ _ a member
    rwa [strlcpy_length, List.length_replicate] at routine
  intro a member
  simp only [ikev2PrintId, Option.getD_some] at member ⊢
  split_ifs at member with short fullName fullSlash
  · simp only [List.mem_singleton] at member
    subst member
    exact Or.inl cleared
  · simp only [List.mem_append, List.mem_singleton] at member
    rcases member with rfl | copied
    · exact Or.inl cleared
    · exact Or.inl (named a copied)
  · simp only [List.mem_append, List.mem_singleton] at member
    rcases member with (rfl | copied) | slash
    · exact Or.inl cleared
    · exact Or.inl (named a copied)
    · exact Or.inl (slashed a slash)
  · have reaches : Reaches ⟨type, off, some buf⟩ n :=
      ⟨buf, rfl, show off.toNat < buf.length by omega, (prefix_fits_iff n _).mp ⟨fullName, fullSlash⟩⟩
    have length : (buf.drop off.toNat).length = valueLength ⟨type, off, some buf⟩ := by
      simp [valueLength]
    rcases printValue_trace_cases printers _ _ _ _ _ a member with
      old | routine | ⟨ipv4, rfl⟩ | ⟨ipv6, rfl⟩
    · simp only [List.mem_append, List.mem_singleton] at old
      rcases old with (rfl | copied) | slash
      · exact Or.inl cleared
      · exact Or.inl (named a copied)
      · exact Or.inl (slashed a slash)
    · rw [strlcat_length, strlcpy_length, List.length_replicate, List.length_drop,
        show off.toNat + (buf.length - off.toNat) = buf.length by omega] at routine
      exact Or.inl routine
    · exact Or.inr (Or.inl ⟨reaches, ipv4, by rw [length]⟩)
    · exact Or.inr (Or.inr ⟨reaches, ipv6, by rw [length]⟩)

theorem ikev2PrintId_of_reaches {id : IkedId} {n : Nat} (reaches : Reaches id n) :
    ∃ buf, id.idBuf = some buf ∧ ∃ idstr trace,
      ikev2PrintId printers id n = printValue printers id.idType id.idOffset.toNat
        (buf.drop id.idOffset.toNat) idstr trace := by
  obtain ⟨buf, hbuf, inside, room⟩ := reaches
  obtain ⟨fullName, fullSlash⟩ := (prefix_fits_iff n _).mpr room
  refine ⟨buf, hbuf, ?_⟩
  unfold ikev2PrintId
  simp only [hbuf]
  rw [if_neg (by omega), if_neg fullName, if_neg fullSlash]
  exact ⟨_, _, rfl⟩

theorem ikev2PrintId_copies_ipv4 {id : IkedId} {n : Nat} (reaches : Reaches id n)
    (ipv4 : id.idType = ikev2IdIpv4) :
    Access.write .s4 offsetofSinAddr (valueLength id) ∈ (ikev2PrintId printers id n).trace := by
  obtain ⟨buf, hbuf, idstr, trace, result⟩ := ikev2PrintId_of_reaches printers reaches
  have length : (buf.drop id.idOffset.toNat).length = valueLength id := by
    simp [valueLength, hbuf]
  rw [result, ipv4, ← length]
  exact printValue_copies_ipv4 printers _ _ _ _

theorem ikev2PrintId_copies_ipv6 {id : IkedId} {n : Nat} (reaches : Reaches id n)
    (ipv6 : id.idType = ikev2IdIpv6) :
    Access.write .s6 offsetofSin6Addr (valueLength id) ∈ (ikev2PrintId printers id n).trace := by
  obtain ⟨buf, hbuf, idstr, trace, result⟩ := ikev2PrintId_of_reaches printers reaches
  have length : (buf.drop id.idOffset.toNat).length = valueLength id := by
    simp [valueLength, hbuf]
  rw [result, ipv6, ← length]
  exact printValue_copies_ipv6 printers _ _ _ _

/-- Every access of the printer stays in its object exactly when no IP address copy
outruns its `sockaddr`. -/
theorem ikev2PrintId_safe_iff (id : IkedId) (n : Nat) :
    TraceSafe (extent id n) (ikev2PrintId printers id n).trace ↔ ¬ Overflows id n := by
  constructor
  · rintro safe ⟨reaches, ⟨ipv4, beyond⟩ | ⟨ipv6, beyond⟩⟩
    · have inside := safe _ (ikev2PrintId_copies_ipv4 printers reaches ipv4)
      simp only [Access.Safe, Access.write, extent, Span.within_iff] at inside
      omega
    · have inside := safe _ (ikev2PrintId_copies_ipv6 printers reaches ipv6)
      simp only [Access.Safe, Access.write, extent, Span.within_iff] at inside
      omega
  · intro fine a member
    rcases ikev2PrintId_trace_cases printers id n a member with
      routine | ⟨reaches, ipv4, rfl⟩ | ⟨reaches, ipv6, rfl⟩
    · exact routine.safe
    · have fits : ¬ sizeofSockaddrIn < offsetofSinAddr + valueLength id :=
        fun beyond => fine ⟨reaches, Or.inl ⟨ipv4, beyond⟩⟩
      simp only [Access.Safe, Access.write, extent, Span.within_iff]
      omega
    · have fits : ¬ sizeofSockaddrIn6 < offsetofSin6Addr + valueLength id :=
        fun beyond => fine ⟨reaches, Or.inr ⟨ipv6, beyond⟩⟩
      simp only [Access.Safe, Access.write, extent, Span.within_iff]
      omega

theorem ikev2PrintId_length (id : IkedId) (n : Nat) :
    (ikev2PrintId printers id n).idstr.length = n := by
  unfold ikev2PrintId
  cases id.idBuf with
  | none => simp
  | some buf =>
    simp only
    split_ifs
    · simp
    · simp [strlcpy_length]
    · simp [strlcat_length, strlcpy_length]
    · simp [printValue_length, strlcat_length, strlcpy_length]

theorem ikev2PrintId_terminated (id : IkedId) (n : Nat) (room : 0 < n) :
    Terminated (ikev2PrintId printers id n).idstr := by
  have zeroed : Terminated (List.replicate n nul) := by
    simp [Terminated, List.mem_replicate]
    omega
  have named (type : List Char) := strlcpy_terminated (List.replicate n nul) type (by simpa)
  unfold ikev2PrintId
  cases id.idBuf with
  | none => exact zeroed
  | some buf =>
    simp only
    split_ifs
    · exact zeroed
    · exact named _
    · exact strlcat_terminated _ _ (named _)
    · exact printValue_terminated printers _ _ _ _ _ (strlcat_terminated _ _ (named _))

-- Printers that print nothing, and the FQDN ID "a".
def silentPrinters : Printers := ⟨fun _ _ => [], fun _ => none⟩
def fqdnId : IkedId := ⟨ikev2IdFqdn, 4, some [2, 0, 0, 0, 0x61]⟩

theorem ikev2PrintId_terminated_fqdn :
    0 < 128 ∧ Terminated (ikev2PrintId silentPrinters fqdnId 128).idstr :=
  ⟨by decide, ikev2PrintId_terminated silentPrinters fqdnId 128 (by decide)⟩

theorem toNat_ofNat_byte (b : UInt8) : (Char.ofNat b.toNat).toNat = b.toNat := by
  have valid : b.toNat.isValidChar := Or.inl (by have := b.toNat_lt; omega)
  rw [Char.ofNat, dif_pos valid]
  rfl

theorem getString_nulFree (ptr : List UInt8) : NulFree (getString ptr) := by
  intro c member same
  simp only [getString, List.mem_map] at member
  obtain ⟨b, kept, rfl⟩ := member
  have printable := List.mem_takeWhile_imp kept
  simp only [isprint, Bool.and_eq_true, decide_eq_true_eq] at printable
  have low : (0x20 : UInt8).toNat ≤ b.toNat := UInt8.le_iff_toNat_le.mp printable.1
  have codes := congrArg Char.toNat same
  rw [toNat_ofNat_byte] at codes
  have zero : nul.toNat = 0 := rfl
  simp at low
  omega

theorem cstr_typePrefix (name : List Char) (n : Nat) (fits : cstrlen name + 1 < n) :
    cstr (strlcat (strlcpy (List.replicate n nul) name).1 ['/']).1 = cstr name ++ ['/'] := by
  have room : 0 < (List.replicate n nul).length := by simp; omega
  have slash : cstr ['/'] = ['/'] := by decide
  rw [cstr_strlcat _ _ (strlcpy_terminated _ _ room), cstr_strlcpy _ _ room, strlcpy_length, slash]
  simp only [cstrlen] at fits
  rw [List.take_of_length_le (by simp; omega), List.take_of_length_le (by simp; omega)]

/-- An FQDN or UFQDN ID prints as its type name, a '/' and the printable prefix of its
value, and the printer succeeds exactly when all of that fits. -/
theorem ikev2PrintId_fqdn (id : IkedId) (n : Nat) (buf : List UInt8) (stored : id.idBuf = some buf)
    (inside : id.idOffset.toNat < buf.length)
    (fqdn : id.idType = ikev2IdFqdn ∨ id.idType = ikev2IdUfqdn)
    (fits : cstrlen (printMap id.idType.toNat ikev2IdMap) + 1 < n) :
    let text := cstr (printMap id.idType.toNat ikev2IdMap) ++
      '/' :: getString (buf.drop id.idOffset.toNat)
    ((ikev2PrintId printers id n).ret = 0 ↔ text.length < n) ∧
      (text.length < n → cstr (ikev2PrintId printers id n).idstr = text) := by
  intro text
  obtain ⟨fullName, fullSlash⟩ := (prefix_fits_iff n _).mpr fits
  have notIpv4 : id.idType ≠ ikev2IdIpv4 := by
    rcases fqdn with same | same <;> rw [same] <;> decide
  obtain ⟨trace, printed⟩ : ∃ trace, ikev2PrintId printers id n =
      finish (strlcat (strlcpy (List.replicate n nul) (printMap id.idType.toNat ikev2IdMap)).1 ['/']).1
        (getString (buf.drop id.idOffset.toNat)) trace := by
    unfold ikev2PrintId
    rw [stored]
    simp only
    rw [if_neg (by omega), if_neg fullName, if_neg fullSlash]
    unfold printValue
    rw [if_neg notIpv4, if_pos fqdn]
    exact ⟨_, rfl⟩
  have prefixText := cstr_typePrefix (printMap id.idType.toNat ikev2IdMap) n fits
  have slashedTerminated : Terminated
      (strlcat (strlcpy (List.replicate n nul) (printMap id.idType.toNat ikev2IdMap)).1 ['/']).1 :=
    strlcat_terminated _ _ (strlcpy_terminated _ _ (by simp; omega))
  have slashedLength :
      (strlcat (strlcpy (List.replicate n nul) (printMap id.idType.toNat ikev2IdMap)).1 ['/']).1.length
        = n := by
    rw [strlcat_length, strlcpy_length, List.length_replicate]
  have value := cstr_eq_self (getString_nulFree (buf.drop id.idOffset.toNat))
  rw [printed]
  constructor
  · simp only [finish, strlcat_ret, slashedLength]
    split_ifs with full <;> simp [cstrlen, prefixText, value, text] at full ⊢ <;> omega
  · intro fitsAll
    simp only [finish]
    have shape : cstr (printMap id.idType.toNat ikev2IdMap) ++ ['/'] ++
        getString (buf.drop id.idOffset.toNat) = text := by
      simp [text]
    rw [cstr_strlcat _ _ slashedTerminated, prefixText, value, slashedLength, shape]
    exact List.take_of_length_le (by omega)

end OpenIKED.Ikev2.PrintId

namespace OpenIKED.Ikev2.PrintId

open OpenIKED.Shared

def ikedIdSize : Nat := 1024

def ikedMsgbufMax : Nat := 8192

-- `ikev2_validate_id`: only the four-byte ID header is checked, and its type.
def ikev2ValidateId (msgbuf : List UInt8) (offset left : Nat) : Option UInt8 :=
  if left < 4 then none
  else
    let idType := msgbuf.getD offset 0
    if idType = ikev2IdNone then none else some idType

-- The `iked_id` that `ikev2_pld_id` hands to the printer: the whole payload body with
-- `id_offset` past the ID header; `ibuf_new` refuses more than `IKED_MSGBUF_MAX` bytes.
def ikev2PldIdPrinted (msgbuf : List UInt8) (offset left : Nat) : Option IkedId :=
  match ikev2ValidateId msgbuf offset left with
  | none => none
  | some idType =>
    if ikedMsgbufMax < left then none
    else some ⟨idType, 4, some ((msgbuf.drop offset).take left)⟩

variable (printers : Printers)

/-- Any received ID payload of type IPV4 whose body is longer than the twelve bytes from
`sin_addr` to the end of `sockaddr_in` makes `ikev2_pld_id` write past `s4`. -/
theorem ikev2PldId_ipv4_overflow (msgbuf : List UInt8) (offset left : Nat)
    (inside : offset + left ≤ msgbuf.length) (ipv4 : msgbuf.getD offset 0 = ikev2IdIpv4)
    (long : offsetofSinAddr + (left - 4) > sizeofSockaddrIn) (small : left ≤ ikedMsgbufMax) :
    ∃ id, ikev2PldIdPrinted msgbuf offset left = some id ∧
      ¬ TraceSafe (extent id ikedIdSize) (ikev2PrintId printers id ikedIdSize).trace := by
  have valid : ikev2ValidateId msgbuf offset left = some ikev2IdIpv4 := by
    simp only [offsetofSinAddr, sizeofSockaddrIn] at long
    unfold ikev2ValidateId
    rw [if_neg (by omega)]
    simp only [ipv4]
    decide
  refine ⟨⟨ikev2IdIpv4, 4, some ((msgbuf.drop offset).take left)⟩, ?_, ?_⟩
  · simp [ikev2PldIdPrinted, valid, show ¬ ikedMsgbufMax < left by omega]
  · rw [ikev2PrintId_safe_iff]
    have length : ((msgbuf.drop offset).take left).length = left := by
      simp
      omega
    have name : cstrlen (printMap ikev2IdIpv4.toNat ikev2IdMap) = 4 := by decide
    simp only [offsetofSinAddr, sizeofSockaddrIn] at long
    refine not_not.mpr ⟨⟨_, rfl, ?_, ?_⟩, Or.inl ⟨rfl, ?_⟩⟩
    · simp only [length]
      show 4 < left
      omega
    · rw [name]
      decide
    · simp only [valueLength, Option.getD_some, length]
      simp only [offsetofSinAddr, sizeofSockaddrIn]
      show 16 < 4 + (left - 4)
      omega

end OpenIKED.Ikev2.PrintId

namespace OpenIKED.Ikev2.PrintId

open OpenIKED.Shared

-- An ID payload as `ikev2_pld_payloads` passes it on: the generic payload header, then
-- an ID header of type IPV4 and sixteen bytes of address.
def oversizedIpv4Payload : List UInt8 :=
  [0, 0, 0, 24] ++ [1, 0, 0, 0] ++ List.replicate 16 0x41

theorem ikev2PldId_writes_past_sockaddr_in (printers : Printers) :
    ∃ id, ikev2PldIdPrinted oversizedIpv4Payload 4 20 = some id ∧
      ¬ TraceSafe (extent id ikedIdSize) (ikev2PrintId printers id ikedIdSize).trace :=
  ikev2PldId_ipv4_overflow printers oversizedIpv4Payload 4 20 (by decide) (by decide)
    (by decide) (by decide)

end OpenIKED.Ikev2.PrintId
