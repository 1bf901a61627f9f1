import Mathlib.Tactic.Common

set_option autoImplicit false

/-!
# Socket addresses and `sockaddr_cmp`

`sockaddr_cmp` from `util.c` with the prefix masks it builds.  Address words are
loaded as the host's `uint32_t`, little-endian as on the Linux targets of the portable
tree; only equality of masked words matters to the results proved here.
-/

namespace OpenIKED.Util

def afUnspec : Nat := 0
def afInet : Nat := 2
def afInet6 : Nat := 10

-- The part of a `sockaddr_storage` that `sockaddr_cmp` reads: the family and the
-- address bytes (`sin_addr` or `sin6_addr`, in network order).
structure Sockaddr where
  family : Nat
  addr : List UInt8
deriving DecidableEq, Repr

-- A little-endian `uint32_t` load of bytes `4 * i` to `4 * i + 3`.
def loadWord (bytes : List UInt8) (i : Nat) : UInt32 :=
  let byte := fun j => (bytes.getD (4 * i + j) 0).toUInt32
  byte 0 ||| (byte 1 <<< 8) ||| (byte 2 <<< 16) ||| (byte 3 <<< 24)

-- `htonl` on a little-endian host.
def htonl (x : UInt32) : UInt32 :=
  ((x &&& 0xff) <<< 24) ||| (((x >>> 8) &&& 0xff) <<< 16) |||
    (((x >>> 16) &&& 0xff) <<< 8) ||| (x >>> 24)

def prefixlen2mask (prefixlen : UInt8) : UInt32 :=
  if prefixlen = 0 then 0
  else
    let prefixlen := if prefixlen > 32 then 32 else prefixlen
    htonl (0xffffffff <<< (32 - prefixlen.toUInt32))

-- The sixteen bytes of the `in6_addr` that `prefixlen2mask6` fills: whole bytes of
-- ones, then the partial byte `0xff00 >> (prefixlen % 8)` truncated to `uint8_t`.
def prefixlen2mask6 (prefixlen : UInt8) : List UInt8 :=
  let prefixlen := min prefixlen.toNat 128
  (List.range 16).map fun i =>
    if i < prefixlen / 8 then 0xff
    else if i = prefixlen / 8 ∧ prefixlen % 8 ≠ 0 then UInt8.ofNat (0xff00 >>> (prefixlen % 8))
    else 0

-- The `int` prefix length as the `uint8_t` argument of the mask helpers.
def prefixByte (prefixlen : Int) : UInt8 := UInt8.ofNat (prefixlen % 256).toNat

def cmpMasked (a b m : UInt32) : Int :=
  if a &&& m > b &&& m then 1 else if a &&& m < b &&& m then -1 else 0

-- The chain of masked word comparisons: the first one that differs decides.
def cmpWords (av bv mv : Nat → UInt32) : List Nat → Int
  | [] => 0
  | i :: rest =>
    let c := cmpMasked (av i) (bv i) (mv i)
    if c ≠ 0 then c else cmpWords av bv mv rest

-- `mv[0]` of the IPv4 case.
def mask4 (prefixlen : Int) : UInt32 :=
  if prefixlen = -1 then 0xffffffff else prefixlen2mask (prefixByte prefixlen)

-- `mv[i]` of the IPv6 case.
def mask6 (prefixlen : Int) (i : Nat) : UInt32 :=
  if prefixlen = -1 then 0xffffffff else loadWord (prefixlen2mask6 (prefixByte prefixlen)) i

-- The `switch (a->sa_family)` of `sockaddr_cmp`, reached with equal families.
def cmpFamilyAddr (family : Nat) (a b : List UInt8) (prefixlen : Int) : Int :=
  if family = afInet then
    cmpWords (loadWord a) (loadWord b) (fun _ => mask4 prefixlen) [0]
  else if family = afInet6 then
    -- the words are compared from av[3] down to av[0]
    cmpWords (loadWord a) (loadWord b) (mask6 prefixlen) [3, 2, 1, 0]
  else 0

def sockaddrCmp (a b : Sockaddr) (prefixlen : Int) : Int :=
  if a.family = afUnspec ∨ b.family = afUnspec then 0
  else if a.family > b.family then 1
  else if a.family < b.family then -1
  else cmpFamilyAddr a.family a.addr b.addr prefixlen

theorem cmpMasked_eq_zero_iff (a b m : UInt32) : cmpMasked a b m = 0 ↔ a &&& m = b &&& m := by
  unfold cmpMasked
  constructor
  · intro zero
    split at zero
    · cases zero
    · split at zero
      · cases zero
      · rename_i notAbove notBelow
        exact UInt32.le_antisymm (UInt32.not_lt.mp notAbove) (UInt32.not_lt.mp notBelow)
  · intro same
    rw [same]
    simp

theorem cmpWords_eq_zero_iff (av bv mv : Nat → UInt32) (ws : List Nat) :
    cmpWords av bv mv ws = 0 ↔ ∀ i ∈ ws, av i &&& mv i = bv i &&& mv i := by
  induction ws with
  | nil => simp [cmpWords]
  | cons i rest ih =>
    rw [cmpWords, List.forall_mem_cons, ← cmpMasked_eq_zero_iff, ← ih]
    by_cases differs : cmpMasked (av i) (bv i) (mv i) = 0
    · simp [differs]
    · simp [differs]

theorem cmpWords_trans (av bv cv mv : Nat → UInt32) (ws : List Nat)
    (first : cmpWords av bv mv ws = 0) (second : cmpWords bv cv mv ws = 0) :
    cmpWords av cv mv ws = 0 := by
  rw [cmpWords_eq_zero_iff] at first second ⊢
  intro i member
  rw [first i member, second i member]

@[simp] theorem sockaddrCmp_unspec_left (a b : Sockaddr) (prefixlen : Int)
    (unspec : a.family = afUnspec) : sockaddrCmp a b prefixlen = 0 := by
  simp [sockaddrCmp, unspec]

@[simp] theorem sockaddrCmp_unspec_right (a b : Sockaddr) (prefixlen : Int)
    (unspec : b.family = afUnspec) : sockaddrCmp a b prefixlen = 0 := by
  simp [sockaddrCmp, unspec]

theorem family_eq_of_sockaddrCmp (a b : Sockaddr) (prefixlen : Int)
    (left : a.family ≠ afUnspec) (right : b.family ≠ afUnspec)
    (same : sockaddrCmp a b prefixlen = 0) : a.family = b.family := by
  unfold sockaddrCmp at same
  rw [if_neg (by tauto)] at same
  split at same
  · cases same
  · split at same
    · cases same
    · omega

theorem sockaddrCmp_of_family_eq (a b : Sockaddr) (prefixlen : Int)
    (specified : a.family ≠ afUnspec) (same : a.family = b.family) :
    sockaddrCmp a b prefixlen = cmpFamilyAddr a.family a.addr b.addr prefixlen := by
  have unspec : ¬ (a.family = afUnspec ∨ b.family = afUnspec) := by
    rw [← same]
    tauto
  rw [sockaddrCmp, if_neg unspec, if_neg (by omega), if_neg (by omega)]

theorem sockaddrCmp_self (a : Sockaddr) (prefixlen : Int) : sockaddrCmp a a prefixlen = 0 := by
  by_cases unspec : a.family = afUnspec
  · exact sockaddrCmp_unspec_left a a prefixlen unspec
  rw [sockaddrCmp_of_family_eq a a prefixlen unspec rfl, cmpFamilyAddr]
  -- every masked word equals itself
  split
  · exact (cmpWords_eq_zero_iff _ _ _ _).mpr (fun _ _ => rfl)
  · split
    · exact (cmpWords_eq_zero_iff _ _ _ _).mpr (fun _ _ => rfl)
    · rfl

theorem cmpFamilyAddr_trans (family : Nat) (a b c : List UInt8) (prefixlen : Int)
    (first : cmpFamilyAddr family a b prefixlen = 0)
    (second : cmpFamilyAddr family b c prefixlen = 0) :
    cmpFamilyAddr family a c prefixlen = 0 := by
  unfold cmpFamilyAddr at first second ⊢
  split
  · rename_i inet
    rw [if_pos inet] at first second
    exact cmpWords_trans _ _ _ _ _ first second
  · rename_i notInet
    rw [if_neg notInet] at first second
    split
    · rename_i inet6
      rw [if_pos inet6] at first second
      exact cmpWords_trans _ _ _ _ _ first second
    · rfl

/-- Comparing equal under one prefix length is transitive through a specified address;
an unspecified address at either end compares equal to everything. -/
theorem sockaddrCmp_trans (a b c : Sockaddr) (prefixlen : Int) (middle : b.family ≠ afUnspec)
    (first : sockaddrCmp a b prefixlen = 0) (second : sockaddrCmp b c prefixlen = 0) :
    sockaddrCmp a c prefixlen = 0 := by
  by_cases left : a.family = afUnspec
  · exact sockaddrCmp_unspec_left a c prefixlen left
  by_cases right : c.family = afUnspec
  · exact sockaddrCmp_unspec_right a c prefixlen right
  have ab := family_eq_of_sockaddrCmp a b prefixlen left middle first
  have bc := family_eq_of_sockaddrCmp b c prefixlen middle right second
  rw [sockaddrCmp_of_family_eq a b prefixlen left ab] at first
  rw [sockaddrCmp_of_family_eq b c prefixlen middle bc, ← ab] at second
  rw [sockaddrCmp_of_family_eq a c prefixlen left (ab.trans bc)]
  exact cmpFamilyAddr_trans a.family a.addr b.addr c.addr prefixlen first second

end OpenIKED.Util
