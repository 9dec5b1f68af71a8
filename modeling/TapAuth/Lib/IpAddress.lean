import Mathlib.Data.Nat.Notation

/-!
# Internet addresses

IPv4 and IPv6 addresses and the two ways in which an IPv6 address can hold an IPv4
address: mapped (`::ffff:a.b.c.d`), as a dual-stack socket reports an IPv4 peer, and
compatible (`::a.b.c.d`), a form that is obsolete and overlaps with the loopback address
`::1`.  `Ipv6Addr.toIpv4` takes both for IPv4 addresses, `Ipv6Addr.toIpv4Mapped` only the
first.
-/

structure Ipv4Addr where
  a : UInt8
  b : UInt8
  c : UInt8
  d : UInt8
  deriving DecidableEq, Repr

/-- The eight segments, each of 16 bits. -/
structure Ipv6Addr where
  s0 : UInt16
  s1 : UInt16
  s2 : UInt16
  s3 : UInt16
  s4 : UInt16
  s5 : UInt16
  s6 : UInt16
  s7 : UInt16
  deriving DecidableEq, Repr

inductive IpAddr where
  | v4 (addr : Ipv4Addr)
  | v6 (addr : Ipv6Addr)
  deriving DecidableEq, Repr

namespace Ipv4Addr

def octets (addr : Ipv4Addr) : List UInt8 := [addr.a, addr.b, addr.c, addr.d]

/-- `127.0.0.0/8`. -/
def isLoopback (addr : Ipv4Addr) : Bool := addr.a = 127

/-- The address in two segments. -/
def ofSegments (ab cd : UInt16) : Ipv4Addr :=
  ⟨UInt8.ofNat (ab.toNat / 256), UInt8.ofNat (ab.toNat % 256), UInt8.ofNat (cd.toNat / 256),
    UInt8.ofNat (cd.toNat % 256)⟩

end Ipv4Addr

namespace Ipv6Addr

variable (addr : Ipv6Addr)

def segments : List UInt16 :=
  [addr.s0, addr.s1, addr.s2, addr.s3, addr.s4, addr.s5, addr.s6, addr.s7]

def octets : List UInt8 :=
  addr.segments.flatMap fun s ↦ [UInt8.ofNat (s.toNat / 256), UInt8.ofNat (s.toNat % 256)]

/-- `::1`. -/
def loopback : Ipv6Addr := ⟨0, 0, 0, 0, 0, 0, 0, 1⟩

def isLoopback : Bool := addr = loopback

/-- The first five segments are zero. -/
def startsWithZeros : Bool :=
  addr.s0 = 0 && addr.s1 = 0 && addr.s2 = 0 && addr.s3 = 0 && addr.s4 = 0

/-- `::/96`. -/
def isCompatible : Bool := addr.startsWithZeros && addr.s5 = 0

/-- `::ffff:0:0/96`. -/
def isMapped : Bool := addr.startsWithZeros && addr.s5 = 0xffff

def toIpv4 : Option Ipv4Addr :=
  if addr.isCompatible || addr.isMapped then some (.ofSegments addr.s6 addr.s7) else none

def toIpv4Mapped : Option Ipv4Addr :=
  if addr.isMapped then some (.ofSegments addr.s6 addr.s7) else none

variable {addr}

theorem toIpv4_of_not_compatible (h : addr.isCompatible = false) :
    addr.toIpv4 = addr.toIpv4Mapped := by
  rw [toIpv4, toIpv4Mapped, h, Bool.false_or]

end Ipv6Addr

namespace IpAddr

def octets : IpAddr → List UInt8
  | .v4 addr => addr.octets
  | .v6 addr => addr.octets

def isLoopback : IpAddr → Bool
  | .v4 addr => addr.isLoopback
  | .v6 addr => addr.isLoopback

def isCompatible : IpAddr → Bool
  | .v4 _ => false
  | .v6 addr => addr.isCompatible

def isMapped : IpAddr → Bool
  | .v4 _ => false
  | .v6 addr => addr.isMapped

/-- The address that is meant: a mapped address means the IPv4 address in it. -/
def canonical : IpAddr → IpAddr
  | .v4 addr => .v4 addr
  | .v6 addr =>
    match addr.toIpv4Mapped with
    | some mapped => .v4 mapped
    | none => .v6 addr

theorem canonical_of_not_mapped {addr : IpAddr} (h : addr.isMapped = false) :
    addr.canonical = addr := by
  cases addr with
  | v4 addr => rfl
  | v6 addr =>
    have h : addr.isMapped = false := h
    simp [canonical, Ipv6Addr.toIpv4Mapped, h]

end IpAddr
