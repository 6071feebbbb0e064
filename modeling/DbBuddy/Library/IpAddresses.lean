import Mathlib.Algebra.Group.Nat.Defs
import Mathlib.Data.List.Basic
import Mathlib.Order.Basic

/-!
# Internet addresses

Addresses of both versions and the networks they lie in, with the properties that
Python's `ipaddress` module derives from the registries of special networks.
-/

namespace DbBuddy.Library

/-- The addresses whose first `length` bits are those of `first`. -/
structure Network (width : ℕ) where
  first : BitVec width
  length : ℕ
  deriving DecidableEq, Repr

namespace Network

variable {width : ℕ}

/-- `address in network` -/
def contains (network : Network width) (address : BitVec width) : Bool :=
  address >>> (width - network.length) == network.first >>> (width - network.length)

theorem contains_iff {network : Network width} {address : BitVec width} :
    network.contains address = true ↔
      address.toNat / 2 ^ (width - network.length) =
        network.first.toNat / 2 ^ (width - network.length) := by
  unfold contains
  rw [beq_iff_eq, ← BitVec.toNat_inj, BitVec.toNat_ushiftRight,
    BitVec.toNat_ushiftRight, Nat.shiftRight_eq_div_pow, Nat.shiftRight_eq_div_pow]

end Network

/-- `a.b.c.d` -/
def dotted (a b c d : ℕ) : BitVec 32 :=
  BitVec.ofNat 32 (((a * 256 + b) * 256 + c) * 256 + d)

/-- An address of version 6 from its eight hextets. -/
def hextets (a b c d e f g h : ℕ) : BitVec 128 :=
  BitVec.ofNat 128 ([a, b, c, d, e, f, g, h].foldl (fun value part => value * 65536 + part) 0)

/-- `ipaddress.ip_address`: an address of version 6 may have a scope. -/
inductive IpAddress where
  | v4 (bits : BitVec 32)
  | v6 (bits : BitVec 128) (scope : Option String)
  deriving DecidableEq, Repr

/-- What differs between releases of Python: the later ones judge an IPv4-mapped
address by the IPv4 address also where it is not about `is_private`. -/
structure Release where
  readsMapped : Bool
  deriving DecidableEq, Repr

namespace IpAddress

def linkLocal4 : Network 32 := ⟨dotted 169 254 0 0, 16⟩
def loopback4 : Network 32 := ⟨dotted 127 0 0 0, 8⟩
def reserved4 : Network 32 := ⟨dotted 240 0 0 0, 4⟩

/-- `_IPv4Constants._private_networks` -/
def private4 : List (Network 32) :=
  [⟨dotted 0 0 0 0, 8⟩, ⟨dotted 10 0 0 0, 8⟩, loopback4, linkLocal4,
    ⟨dotted 172 16 0 0, 12⟩, ⟨dotted 192 0 0 0, 24⟩, ⟨dotted 192 0 0 170, 31⟩,
    ⟨dotted 192 0 2 0, 24⟩, ⟨dotted 192 168 0 0, 16⟩, ⟨dotted 198 18 0 0, 15⟩,
    ⟨dotted 198 51 100 0, 24⟩, ⟨dotted 203 0 113 0, 24⟩, reserved4,
    ⟨dotted 255 255 255 255, 32⟩]

/-- `_IPv4Constants._private_networks_exceptions` -/
def public4 : List (Network 32) :=
  [⟨dotted 192 0 0 9, 32⟩, ⟨dotted 192 0 0 10, 32⟩]

def linkLocal6 : Network 128 := ⟨hextets 0xfe80 0 0 0 0 0 0 0, 10⟩

/-- `_IPv6Constants._private_networks` -/
def private6 : List (Network 128) :=
  [⟨hextets 0 0 0 0 0 0 0 1, 128⟩, ⟨hextets 0 0 0 0 0 0 0 0, 128⟩,
    ⟨hextets 0 0 0 0 0 0xffff 0 0, 96⟩, ⟨hextets 0x64 0xff9b 1 0 0 0 0 0, 48⟩,
    ⟨hextets 0x100 0 0 0 0 0 0 0, 64⟩, ⟨hextets 0x2001 0 0 0 0 0 0 0, 23⟩,
    ⟨hextets 0x2001 0xdb8 0 0 0 0 0 0, 32⟩, ⟨hextets 0x2002 0 0 0 0 0 0 0, 16⟩,
    ⟨hextets 0xfc00 0 0 0 0 0 0 0, 7⟩, linkLocal6]

/-- `_IPv6Constants._private_networks_exceptions` -/
def public6 : List (Network 128) :=
  [⟨hextets 0x2001 1 0 0 0 0 0 1, 128⟩, ⟨hextets 0x2001 1 0 0 0 0 0 2, 128⟩,
    ⟨hextets 0x2001 3 0 0 0 0 0 0, 32⟩, ⟨hextets 0x2001 4 0x112 0 0 0 0 0, 48⟩,
    ⟨hextets 0x2001 0x20 0 0 0 0 0 0, 28⟩, ⟨hextets 0x2001 0x30 0 0 0 0 0 0, 28⟩]

/-- `_IPv6Constants._reserved_networks` -/
def reserved6 : List (Network 128) :=
  [⟨hextets 0 0 0 0 0 0 0 0, 8⟩, ⟨hextets 0x100 0 0 0 0 0 0 0, 8⟩,
    ⟨hextets 0x200 0 0 0 0 0 0 0, 7⟩, ⟨hextets 0x400 0 0 0 0 0 0 0, 6⟩,
    ⟨hextets 0x800 0 0 0 0 0 0 0, 5⟩, ⟨hextets 0x1000 0 0 0 0 0 0 0, 4⟩,
    ⟨hextets 0x4000 0 0 0 0 0 0 0, 3⟩, ⟨hextets 0x6000 0 0 0 0 0 0 0, 3⟩,
    ⟨hextets 0x8000 0 0 0 0 0 0 0, 3⟩, ⟨hextets 0xa000 0 0 0 0 0 0 0, 3⟩,
    ⟨hextets 0xc000 0 0 0 0 0 0 0, 3⟩, ⟨hextets 0xe000 0 0 0 0 0 0 0, 4⟩,
    ⟨hextets 0xf000 0 0 0 0 0 0 0, 5⟩, ⟨hextets 0xf800 0 0 0 0 0 0 0, 6⟩,
    ⟨hextets 0xfe00 0 0 0 0 0 0 0, 9⟩]

/-- `ipv4_mapped` -/
def ipv4Mapped (bits : BitVec 128) : Option (BitVec 32) :=
  if bits >>> 32 = 0xffff then some (bits.setWidth 32) else none

def isPrivate4 (bits : BitVec 32) : Bool :=
  private4.any (·.contains bits) && public4.all (!·.contains bits)

def isPrivate6 (bits : BitVec 128) : Bool :=
  match ipv4Mapped bits with
  | some mapped => isPrivate4 mapped
  | none => private6.any (·.contains bits) && public6.all (!·.contains bits)

/-- `is_private` -/
def isPrivate : IpAddress → Bool
  | .v4 bits => isPrivate4 bits
  | .v6 bits _ => isPrivate6 bits

/-- A property of addresses, where the release may read an IPv4-mapped one as the
IPv4 address. -/
def judged (release : Release) (judge4 : BitVec 32 → Bool) (judge6 : BitVec 128 → Bool) :
    IpAddress → Bool
  | .v4 bits => judge4 bits
  | .v6 bits _ =>
      match if release.readsMapped then ipv4Mapped bits else none with
      | some mapped => judge4 mapped
      | none => judge6 bits

/-- `is_link_local` -/
def isLinkLocal (release : Release) : IpAddress → Bool :=
  judged release linkLocal4.contains linkLocal6.contains

/-- `is_loopback` -/
def isLoopback (release : Release) : IpAddress → Bool :=
  judged release loopback4.contains (· == 1)

/-- `is_reserved` -/
def isReserved (release : Release) : IpAddress → Bool :=
  judged release reserved4.contains fun bits => reserved6.any (·.contains bits)

/-- The address that is reached: the IPv4 one, if it is mapped. -/
def reached : IpAddress → IpAddress
  | .v4 bits => .v4 bits
  | .v6 bits scope =>
      match ipv4Mapped bits with
      | some mapped => .v4 mapped
      | none => .v6 bits scope

/-! ## Link-local addresses -/

theorem mapped_toNat {bits : BitVec 128} {mapped : BitVec 32}
    (isMapped : ipv4Mapped bits = some mapped) : bits.toNat / 2 ^ 32 = 0xffff := by
  unfold ipv4Mapped at isMapped
  split at isMapped
  · rename_i high
    have value := congrArg BitVec.toNat high
    rw [BitVec.toNat_ushiftRight, Nat.shiftRight_eq_div_pow] at value
    exact value
  · cases isMapped

/-- No IPv4-mapped address is link-local as an IPv6 address. -/
theorem not_linkLocal6_of_mapped {bits : BitVec 128} {mapped : BitVec 32}
    (isMapped : ipv4Mapped bits = some mapped) : linkLocal6.contains bits = false := by
  rw [Bool.eq_false_iff]
  intro isLocal
  have high := mapped_toNat isMapped
  have local6 : bits.toNat / 2 ^ 118 = 1018 := Network.contains_iff.mp isLocal
  omega

/-- A network of one address. -/
theorem eq_of_contains_single {width : ℕ} {first address : BitVec width}
    (isIn : (⟨first, width⟩ : Network width).contains address = true) :
    address = first := by
  have value := Network.contains_iff.mp isIn
  rw [Nat.sub_self, Nat.pow_zero, Nat.div_one, Nat.div_one] at value
  exact BitVec.eq_of_toNat_eq value

/-- Link-local IPv4 addresses are private. -/
theorem isPrivate4_of_linkLocal {bits : BitVec 32}
    (isLocal : linkLocal4.contains bits = true) : isPrivate4 bits = true := by
  unfold isPrivate4
  rw [Bool.and_eq_true, List.any_eq_true, List.all_eq_true]
  refine ⟨⟨linkLocal4, by decide, isLocal⟩, ?_⟩
  intro network isPublic
  rw [Bool.not_eq_true', Bool.eq_false_iff]
  intro isIn
  simp only [public4, List.mem_cons, List.not_mem_nil, or_false] at isPublic
  rcases isPublic with rfl | rfl
  · rw [eq_of_contains_single isIn] at isLocal
    exact absurd isLocal (by decide)
  · rw [eq_of_contains_single isIn] at isLocal
    exact absurd isLocal (by decide)

end IpAddress

end DbBuddy.Library
