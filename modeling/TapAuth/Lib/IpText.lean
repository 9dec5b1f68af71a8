import Mathlib.Algebra.Group.Nat.Defs
import TapAuth.Lib.Numeral
import TapAuth.Lib.IpAddress

/-!
# Texts of Internet addresses

How addresses are written and read by the standard library of the desktop.  The reader
takes what it can from the front of a text and hands on the rest; an address is a text
of which nothing is left.

An IPv6 address is written with its first longest run of two or more zero segments as
`::`, a mapped one with the IPv4 address at its end.  The reader takes groups until none
follows, an embedded IPv4 address among them, and fills the gap at `::` with zeros.  What
is written is read as the same address (`Ipv4Addr.parse_display`,
`Ipv6Addr.parse_display`).
-/

namespace IpText

open Numeral

/-! ## Reading -/

def readGivenChar (target : Char) : List Char → Option (List Char)
  | [] => none
  | c :: text => if c = target then some text else none

/-- A number of at most `maxDigits` digits below `limit`, and what follows it. -/
def readNumber (radix maxDigits : Nat) (allowZeroPrefix : Bool) (limit : Nat)
    (text : List Char) : Option (Nat × List Char) :=
  let digits := text.takeWhile fun c ↦ (digit radix c).isSome
  let rest := text.dropWhile fun c ↦ (digit radix c).isSome
  if maxDigits < digits.length ∨ digits = [] then none
  else if !allowZeroPrefix ∧ digits.head? = some '0' ∧ 1 < digits.length then none
  else
    (read (digit radix) radix 0 digits).bind fun n ↦ if n < limit then some (n, rest) else none

/-- All but the first of a series come after a separator. -/
def readSeparator {α : Type} (sep : Char) (index : Nat)
    (inner : List Char → Option (α × List Char)) (text : List Char) : Option (α × List Char) :=
  if index = 0 then inner text else (readGivenChar sep text).bind inner

def readOctet (index : Nat) (text : List Char) : Option (Nat × List Char) :=
  readSeparator '.' index (readNumber 10 3 false 256) text

def readIpv4Addr (text : List Char) : Option (Ipv4Addr × List Char) := do
  let (a, text) ← readOctet 0 text
  let (b, text) ← readOctet 1 text
  let (c, text) ← readOctet 2 text
  let (d, text) ← readOctet 3 text
  return (⟨UInt8.ofNat a, UInt8.ofNat b, UInt8.ofNat c, UInt8.ofNat d⟩, text)

/-- The two segments of an IPv4 address. -/
def segmentsOf (addr : Ipv4Addr) : List UInt16 :=
  [UInt16.ofNat (addr.a.toNat * 256 + addr.b.toNat),
    UInt16.ofNat (addr.c.toNat * 256 + addr.d.toNat)]

/-- `read_groups` from group `index` on, with room for `n` more: the groups that are read,
whether an IPv4 address ends them, and the rest. -/
def readGroups : (index n : Nat) → List Char → List UInt16 × Bool × List Char
  | _, 0, text => ([], false, text)
  | index, n + 1, text =>
    match if 0 < n then readSeparator ':' index readIpv4Addr text else none with
    | some (addr, rest) => (segmentsOf addr, true, rest)
    | none =>
      match readSeparator ':' index (readNumber 16 4 true 65536) text with
      | none => ([], false, text)
      | some (group, rest) =>
        let (groups, ipv4, rest) := readGroups (index + 1) n rest
        (UInt16.ofNat group :: groups, ipv4, rest)

/-- The address with these segments. -/
def ofSegments : List UInt16 → Option Ipv6Addr
  | [s0, s1, s2, s3, s4, s5, s6, s7] => some ⟨s0, s1, s2, s3, s4, s5, s6, s7⟩
  | _ => none

def readIpv6Addr (text : List Char) : Option (Ipv6Addr × List Char) :=
  let (head, headIpv4, text) := readGroups 0 8 text
  if head.length = 8 then (ofSegments head).map (·, text)
  -- no IPv4 address before the gap
  else if headIpv4 then none
  else do
    let text ← readGivenChar ':' text
    let text ← readGivenChar ':' text
    let (tail, _, text) := readGroups 0 (8 - (head.length + 1)) text
    let gap := List.replicate (8 - head.length - tail.length) 0
    (ofSegments (head ++ gap ++ tail)).map (·, text)

/-- The whole text is used. -/
def parseWith {α : Type} (inner : List Char → Option (α × List Char)) (text : List Char) :
    Option α :=
  match inner text with
  | some (a, []) => some a
  | _ => none

end IpText

open IpText Numeral

/-- `Ipv4Addr::from_str`; longer texts are not tried. -/
def Ipv4Addr.parse (text : List Char) : Option Ipv4Addr :=
  if 15 < text.length then none else parseWith readIpv4Addr text

/-- `Ipv6Addr::from_str`. -/
def Ipv6Addr.parse (text : List Char) : Option Ipv6Addr := parseWith readIpv6Addr text

/-! ## Writing -/

def Ipv4Addr.display (addr : Ipv4Addr) : List Char :=
  Nat.toDigits 10 addr.a.toNat ++ '.' :: (Nat.toDigits 10 addr.b.toNat ++
    '.' :: (Nat.toDigits 10 addr.c.toNat ++ '.' :: Nat.toDigits 10 addr.d.toNat))

namespace IpText

/-- A run of segments. -/
structure Span where
  start : Nat
  len : Nat
  deriving DecidableEq

/-- A run that goes on, or starts, at `index`. -/
def Span.extend (span : Span) (index : Nat) : Span :=
  if span.len = 0 then ⟨index, 1⟩ else ⟨span.start, span.len + 1⟩

/-- The longer of two runs, the first one if they are of one length. -/
def Span.longer (longest current : Span) : Span :=
  if longest.len < current.len then current else longest

/-- The longest run of zeros so far and the run that ends here, over the segments from
`index` on. -/
def longestZeros (index : Nat) (longest current : Span) : List UInt16 → Span
  | [] => longest
  | s :: segments =>
    if s = 0 then
      let current := current.extend index
      longestZeros (index + 1) (longest.longer current) current segments
    else longestZeros (index + 1) longest ⟨0, 0⟩ segments

/-- The groups from group `index` on, each but the first after a colon. -/
def groupsText (index : Nat) : List UInt16 → List Char
  | [] => []
  | s :: segments =>
    (if index = 0 then [] else [':']) ++
      (Nat.toDigits 16 s.toNat ++ groupsText (index + 1) segments)

end IpText

open Ipv6Addr

def Ipv6Addr.display (addr : Ipv6Addr) : List Char :=
  match addr.toIpv4Mapped with
  | some mapped => "::ffff:".toList ++ mapped.display
  | none =>
    let zeroes := longestZeros 0 ⟨0, 0⟩ ⟨0, 0⟩ addr.segments
    if 1 < zeroes.len then
      groupsText 0 (addr.segments.take zeroes.start) ++ ':' :: ':' ::
        groupsText 0 (addr.segments.drop (zeroes.start + zeroes.len))
    else groupsText 0 addr.segments

example :
    display ⟨0xfe80, 0, 0, 0, 0x1234, 0, 0, 0xa⟩ = "fe80::1234:0:0:a".toList ∧
      display ⟨0, 0, 0, 0, 0, 0xffff, 0xc0a8, 0x107⟩ = "::ffff:192.168.1.7".toList ∧
      parse "1::2:10.0.0.1".toList = some ⟨1, 0, 0, 0, 0, 2, 0xa00, 1⟩ ∧
      Ipv4Addr.parse "10.0.0.01".toList = none := by
  decide +kernel

namespace IpText

/-! ## Numbers in a text -/

theorem isSome_digit_digitChar {radix : Nat} (hradix : radix ≤ 16) :
    ∀ d < radix, (digit radix d.digitChar).isSome = true := by
  intro d hd
  rw [digit_digitChar hradix d hd]
  rfl

/-- A text that goes on with no digit. -/
def Stops (radix : Nat) (rest : List Char) : Prop := ∀ c ∈ rest.head?, digit radix c = none

variable {rest : List Char} {radix maxDigits limit n : Nat}

theorem takeWhile_of_stops {radix : Nat} (h : Stops radix rest) :
    rest.takeWhile (fun c ↦ (digit radix c).isSome) = [] ∧
      rest.dropWhile (fun c ↦ (digit radix c).isSome) = rest := by
  cases rest with
  | nil => exact ⟨rfl, rfl⟩
  | cons c rest =>
    have hc : digit radix c = none := h c rfl
    constructor <;> simp [hc]

/-- A number that is written is read again. -/
theorem readNumber_toDigits (hradix : 1 < radix) (hletters : radix ≤ 16) (allowZeroPrefix : Bool)
    (hlength : n < radix ^ maxDigits) (hmax : 0 < maxDigits) (hlimit : n < limit)
    (hrest : Stops radix rest) :
    readNumber radix maxDigits allowZeroPrefix limit (radix.toDigits n ++ rest) =
      some (n, rest) := by
  have hdigits : ∀ c ∈ radix.toDigits n, (digit radix c).isSome = true :=
    forall_mem_toDigits hradix (p := fun c ↦ (digit radix c).isSome = true)
      (isSome_digit_digitChar hletters) n
  obtain ⟨htake, hdrop⟩ := takeWhile_of_stops hrest
  have hlength : (radix.toDigits n).length ≤ maxDigits :=
    (Nat.length_toDigits_le_iff hradix hmax).mpr hlength
  have hzero : ¬((!allowZeroPrefix) = true ∧ (radix.toDigits n).head? = some '0' ∧
      1 < (radix.toDigits n).length) := by
    rintro ⟨-, hhead, hlong⟩
    rcases Nat.eq_zero_or_pos n with rfl | hpos
    · rw [Nat.toDigits_zero] at hlong
      exact absurd hlong (by decide)
    · exact head?_toDigits_ne hradix hpos hhead
  simp only [readNumber, List.takeWhile_append_of_pos hdigits, List.dropWhile_append_of_pos hdigits,
    htake, hdrop, List.append_nil]
  rw [if_neg (by simp [Nat.toDigits_ne_nil, hlength]), if_neg hzero,
    read_toDigits hradix (digit_digitChar hletters), Option.bind_some, if_pos hlimit]

theorem readNumber_eq_none_of_stops {radix : Nat} (hrest : Stops radix rest) (maxDigits : Nat)
    (allowZeroPrefix : Bool) (limit : Nat) :
    readNumber radix maxDigits allowZeroPrefix limit rest = none := by
  simp [readNumber, (takeWhile_of_stops hrest).1]

/-- What is left of a text after a number is a part of it. -/
theorem mem_of_readNumber {allowZeroPrefix : Bool} {text rest : List Char}
    (h : readNumber radix maxDigits allowZeroPrefix limit text = some (n, rest)) :
    ∀ c ∈ rest, c ∈ text := by
  simp only [readNumber] at h
  split_ifs at h
  obtain ⟨value, -, hvalue⟩ := Option.bind_eq_some_iff.mp h
  split_ifs at hvalue
  cases hvalue
  exact fun c hc ↦ (List.dropWhile_suffix _).mem hc

/-! ## IPv4 addresses -/

theorem stops_dot (radix : Nat) (text : List Char) : Stops radix ('.' :: text) := by
  intro c hc
  cases hc
  rfl

theorem stops_colon (radix : Nat) (text : List Char) : Stops radix (':' :: text) := by
  intro c hc
  cases hc
  rfl

theorem stops_nil (radix : Nat) : Stops radix [] := nofun

theorem readNumber_octet (n : UInt8) (hrest : Stops 10 rest) :
    readNumber 10 3 false 256 (Nat.toDigits 10 n.toNat ++ rest) = some (n.toNat, rest) :=
  have hlt : n.toNat < 256 := n.toNat_lt
  readNumber_toDigits (by decide) (by decide) false (by omega) (by decide) hlt hrest

theorem readIpv4Addr_display (addr : Ipv4Addr) (hrest : Stops 10 rest) :
    readIpv4Addr (addr.display ++ rest) = some (addr, rest) := by
  have hsep : ∀ (index : Nat) (n : UInt8) {rest : List Char}, index ≠ 0 → Stops 10 rest →
      readOctet index ('.' :: (Nat.toDigits 10 n.toNat ++ rest)) = some (n.toNat, rest) := by
    intro index n rest hindex hrest
    rw [readOctet, readSeparator, if_neg hindex]
    exact readNumber_octet n hrest
  have hfirst : ∀ {rest : List Char}, Stops 10 rest →
      readOctet 0 (Nat.toDigits 10 addr.a.toNat ++ rest) = some (addr.a.toNat, rest) :=
    fun hrest ↦ readNumber_octet addr.a hrest
  simp only [readIpv4Addr, Ipv4Addr.display, List.append_assoc, List.cons_append]
  rw [hfirst (stops_dot 10 _)]
  simp only [Option.bind_eq_bind, Option.bind_some]
  rw [hsep 1 _ (by decide) (stops_dot 10 _)]
  simp only [Option.bind_some]
  rw [hsep 2 _ (by decide) (stops_dot 10 _)]
  simp only [Option.bind_some]
  rw [hsep 3 _ (by decide) hrest]
  simp only [Option.bind_some, UInt8.ofNat_toNat]
  rfl

theorem readIpv4Addr_of_stops {text : List Char} (h : Stops 10 text) :
    readIpv4Addr text = none := by
  have hfirst : readOctet 0 text = none := readNumber_eq_none_of_stops h 3 false 256
  simp [readIpv4Addr, hfirst]

/-- Without a dot there is no IPv4 address. -/
theorem readIpv4Addr_eq_none {text : List Char} (h : '.' ∉ text) : readIpv4Addr text = none := by
  simp only [readIpv4Addr, Option.bind_eq_bind]
  rw [Option.bind_eq_none_iff]
  rintro ⟨a, rest⟩ hfirst
  have hmem : '.' ∉ rest := fun hdot ↦ h (mem_of_readNumber hfirst _ hdot)
  have hsecond : readOctet 1 rest = none := by
    rw [readOctet, readSeparator, if_neg (by decide)]
    cases rest with
    | nil => rfl
    | cons c rest =>
      have hne : c ≠ '.' := fun hc ↦ hmem (hc ▸ List.mem_cons_self)
      rw [readGivenChar, if_neg hne, Option.bind_none]
  simp [hsecond]

end IpText

namespace IpText

/-! ## Groups -/

/-- A text after which no more groups are read. -/
def EndsGroups (rest : List Char) : Prop := rest = [] ∨ ∃ more, rest = ':' :: ':' :: more

variable {rest : List Char} {segments : List UInt16} {span : Span} {longest current : Span}

theorem EndsGroups.stops (h : EndsGroups rest) : Stops 16 rest := by
  rcases h with rfl | ⟨more, rfl⟩
  · exact stops_nil 16
  · exact stops_colon 16 _

theorem EndsGroups.readSeparator (h : EndsGroups rest) (index : Nat) :
    readSeparator ':' index (readNumber 16 4 true 65536) rest = none := by
  rw [IpText.readSeparator]
  split_ifs
  · exact readNumber_eq_none_of_stops h.stops ..
  · rcases h with rfl | ⟨more, rfl⟩
    · rfl
    · exact readNumber_eq_none_of_stops (stops_colon 16 more) 4 true 65536

theorem stops_groupsText {index : Nat} (hindex : index ≠ 0) (segments : List UInt16)
    (hrest : EndsGroups rest) :
    Stops 16 (groupsText index segments ++ rest) := by
  cases segments with
  | nil => exact hrest.stops
  | cons s segments =>
    simp only [groupsText, if_neg hindex]
    exact stops_colon 16 _

/-- Without a dot no IPv4 address is embedded. -/
theorem readSeparator_ipv4_eq_none {text : List Char} (h : '.' ∉ text) (index : Nat) :
    readSeparator ':' index readIpv4Addr text = none := by
  rw [readSeparator]
  split_ifs
  · exact readIpv4Addr_eq_none h
  · cases text with
    | nil => rfl
    | cons c text =>
      rw [readGivenChar]
      split_ifs
      · exact readIpv4Addr_eq_none fun hmem ↦ h (List.mem_cons_of_mem c hmem)
      · rfl

theorem readNumber_group (s : UInt16) (hrest : Stops 16 rest) :
    readNumber 16 4 true 65536 (Nat.toDigits 16 s.toNat ++ rest) = some (s.toNat, rest) :=
  have hlt : s.toNat < 65536 := s.toNat_lt
  readNumber_toDigits (by decide) (by decide) true (by omega) (by decide) hlt hrest

/-- Groups that are written are read again. -/
theorem readGroups_groupsText {n index : Nat} (hroom : segments.length ≤ n)
    (hrest : EndsGroups rest) (hdots : '.' ∉ groupsText index segments ++ rest) :
    readGroups index n (groupsText index segments ++ rest) = (segments, false, rest) := by
  induction segments generalizing n index with
  | nil =>
    cases n with
    | zero => rfl
    | succ n =>
      have hipv4 :
          (if 0 < n then readSeparator ':' index readIpv4Addr rest else none) = none := by
        split_ifs
        · exact readSeparator_ipv4_eq_none hdots index
        · rfl
      rw [groupsText, List.nil_append, readGroups, hipv4]
      simp only [hrest.readSeparator index]
  | cons s segments ih =>
    cases n with
    | zero => cases hroom
    | succ n =>
      have hipv4 : (if 0 < n then
          readSeparator ':' index readIpv4Addr (groupsText index (s :: segments) ++ rest)
          else none) = none := by
        split_ifs
        · exact readSeparator_ipv4_eq_none hdots index
        · rfl
      have hgroup : readSeparator ':' index (readNumber 16 4 true 65536)
          (groupsText index (s :: segments) ++ rest) =
            some (s.toNat, groupsText (index + 1) segments ++ rest) := by
        have hnumber := readNumber_group s
          (stops_groupsText (Nat.succ_ne_zero index) segments hrest)
        rw [readSeparator]
        split_ifs with hindex
        · simpa [groupsText, hindex] using hnumber
        · simpa [groupsText, hindex, readGivenChar] using hnumber
      have hrestDots : '.' ∉ groupsText (index + 1) segments ++ rest := by
        intro hmem
        refine hdots ?_
        simp only [groupsText, List.append_assoc]
        exact List.mem_append_right _ (List.mem_append_right _ hmem)
      rw [readGroups, hipv4]
      simp only [hgroup, ih (Nat.le_of_succ_le_succ hroom) hrestDots, UInt16.ofNat_toNat]

/-! ## The characters of addresses -/

theorem isSome_digit_of_mem_toDigits {radix : Nat} (hradix : 1 < radix) (hletters : radix ≤ 16)
    {n : Nat} {c : Char} (h : c ∈ radix.toDigits n) : (digit 16 c).isSome = true := by
  refine forall_mem_toDigits hradix (p := fun c ↦ (digit 16 c).isSome = true) ?_ n c h
  intro d hd
  exact isSome_digit_digitChar le_rfl d (hd.trans_le hletters)

theorem mem_groupsText {index : Nat} {c : Char} (h : c ∈ groupsText index segments) :
    (digit 16 c).isSome = true ∨ c = ':' := by
  induction segments generalizing index with
  | nil => cases h
  | cons s segments ih =>
    rw [groupsText, List.mem_append, List.mem_append] at h
    rcases h with h | h | h
    · split_ifs at h
      · cases h
      · exact .inr (List.mem_singleton.mp h)
    · exact .inl (isSome_digit_of_mem_toDigits (by decide) (by decide) h)
    · exact ih h

theorem dot_not_mem_groupsText (index : Nat) (segments : List UInt16) :
    '.' ∉ groupsText index segments := by
  intro h
  rcases mem_groupsText h with hdigit | hcolon
  · exact absurd hdigit (by decide)
  · exact absurd hcolon (by decide)

/-! ## Runs of zeros -/

/-- The span is a run of zeros in `segments`, if it has a length. -/
def Span.IsZeros (span : Span) (segments : List UInt16) : Prop :=
  ∃ front back, segments = front ++ List.replicate span.len 0 ++ back ∧
    (span.len ≠ 0 → front.length = span.start)

theorem Span.isZeros_nil (start : Nat) (segments : List UInt16) :
    Span.IsZeros ⟨start, 0⟩ segments :=
  ⟨segments, [], by simp, fun h ↦ absurd rfl h⟩

theorem Span.IsZeros.append (h : span.IsZeros segments) (more : List UInt16) :
    span.IsZeros (segments ++ more) := by
  obtain ⟨front, back, rfl, hstart⟩ := h
  exact ⟨front, back ++ more, by simp, hstart⟩

/-- The segments before the run and those after it. -/
theorem Span.IsZeros.eq_append (h : span.IsZeros segments) (hlen : span.len ≠ 0) :
    segments = segments.take span.start ++ List.replicate span.len 0 ++
      segments.drop (span.start + span.len) := by
  obtain ⟨front, back, rfl, hstart⟩ := h
  have hlength : (front ++ List.replicate span.len 0).length = span.start + span.len := by
    rw [List.length_append, List.length_replicate, hstart hlen]
  rw [← hlength, List.drop_left, ← hstart hlen, List.append_assoc, List.take_left]
  exact (List.append_assoc ..).symm

/-- The run of zeros with which the segments end. -/
def Span.IsLast (span : Span) (segments : List UInt16) : Prop :=
  ∃ front, segments = front ++ List.replicate span.len 0 ∧
    (span.len ≠ 0 → front.length = span.start)

theorem Span.IsLast.isZeros (h : span.IsLast segments) :
    span.IsZeros segments := by
  obtain ⟨front, rfl, hstart⟩ := h
  exact ⟨front, [], by simp, hstart⟩

theorem Span.IsLast.extend (h : span.IsLast segments) :
    (span.extend segments.length).IsLast (segments ++ [0]) := by
  obtain ⟨front, hsegments, hstart⟩ := h
  unfold Span.extend
  split_ifs with hlen
  · exact ⟨segments, rfl, fun _ ↦ rfl⟩
  · refine ⟨front, ?_, fun _ ↦ hstart hlen⟩
    rw [hsegments, List.replicate_succ', List.append_assoc]

theorem Span.IsZeros.longer (hlongest : longest.IsZeros segments)
    (hcurrent : current.IsZeros segments) :
    (longest.longer current).IsZeros segments := by
  unfold Span.longer
  split_ifs
  · exact hcurrent
  · exact hlongest

/-- Scanning the segments finds a run of zeros. -/
theorem isZeros_longestZeros {done : List UInt16} (hlongest : longest.IsZeros done)
    (hcurrent : current.IsLast done) (segments : List UInt16) :
    (longestZeros done.length longest current segments).IsZeros (done ++ segments) := by
  induction segments generalizing done longest current with
  | nil => simpa [longestZeros] using hlongest
  | cons s segments ih =>
    have hlength : done.length + 1 = (done ++ [s]).length := by simp
    rw [longestZeros, List.append_cons, hlength]
    split_ifs with hzero
    · subst hzero
      exact ih ((hlongest.append _).longer hcurrent.extend.isZeros) hcurrent.extend
    · exact ih (hlongest.append _) ⟨_, (List.append_nil _).symm, fun h ↦ absurd rfl h⟩

end IpText

theorem Ipv4Addr.parse_display (addr : Ipv4Addr) : Ipv4Addr.parse addr.display = some addr := by
  have hoctet (n : UInt8) : (Nat.toDigits 10 n.toNat).length ≤ 3 := by
    have hlt : n.toNat < 256 := n.toNat_lt
    exact (Nat.length_toDigits_le_iff (by decide) (by decide)).mpr (by omega)
  have hlength : ¬15 < addr.display.length := by
    have ha := hoctet addr.a
    have hb := hoctet addr.b
    have hc := hoctet addr.c
    have hd := hoctet addr.d
    simp only [Ipv4Addr.display, List.length_append, List.length_cons]
    omega
  have hread := readIpv4Addr_display addr (stops_nil 10)
  rw [List.append_nil] at hread
  rw [Ipv4Addr.parse, if_neg hlength, parseWith, hread]

namespace IpText

/-! ## IPv6 addresses -/

theorem ofSegments_segments (addr : Ipv6Addr) : ofSegments addr.segments = some addr := rfl

theorem length_segments (addr : Ipv6Addr) : addr.segments.length = 8 := rfl

theorem readIpv6Addr_of_head {text rest : List Char} {head : List UInt16} {ipv4 : Bool}
    (hhead : readGroups 0 8 text = (head, ipv4, rest)) (hlength : head.length = 8) :
    readIpv6Addr text = (ofSegments head).map (·, rest) := by
  simp only [readIpv6Addr, hhead, if_pos hlength]

theorem readIpv6Addr_of_tail {text rest rest' : List Char} {head tail : List UInt16} {ipv4 : Bool}
    (hhead : readGroups 0 8 text = (head, false, ':' :: ':' :: rest)) (hlength : head.length ≠ 8)
    (htail : readGroups 0 (8 - (head.length + 1)) rest = (tail, ipv4, rest')) :
    readIpv6Addr text =
      (ofSegments (head ++ List.replicate (8 - head.length - tail.length) 0 ++ tail)).map
        (·, rest') := by
  simp only [readIpv6Addr, hhead, if_neg hlength]
  simp only [readGivenChar, if_pos, Option.bind_eq_bind, Option.bind_some, htail]
  rfl

/-- An address without a gap. -/
theorem readIpv6Addr_groups (addr : Ipv6Addr) :
    readIpv6Addr (groupsText 0 addr.segments) = some (addr, []) := by
  have hgroups : readGroups 0 8 (groupsText 0 addr.segments ++ []) = (addr.segments, false, []) :=
    readGroups_groupsText le_rfl (.inl rfl) (by simpa using dot_not_mem_groupsText _ _)
  rw [List.append_nil] at hgroups
  rw [readIpv6Addr_of_head hgroups (length_segments addr), ofSegments_segments]
  rfl

/-- An address with a gap. -/
theorem readIpv6Addr_gap {addr : Ipv6Addr} {front back : List UInt16} {len : Nat}
    (hsegments : addr.segments = front ++ List.replicate len 0 ++ back) (hlen : 1 < len) :
    readIpv6Addr (groupsText 0 front ++ ':' :: ':' :: groupsText 0 back) = some (addr, []) := by
  have hlength : front.length + len + back.length = 8 := by
    rw [← length_segments addr, hsegments]
    simp only [List.length_append, List.length_replicate]
  have hdots : '.' ∉ groupsText 0 front ++ ':' :: ':' :: groupsText 0 back := by
    simp [dot_not_mem_groupsText]
  have hhead : readGroups 0 8 (groupsText 0 front ++ ':' :: ':' :: groupsText 0 back) =
      (front, false, ':' :: ':' :: groupsText 0 back) :=
    readGroups_groupsText (by omega) (.inr ⟨_, rfl⟩) hdots
  have htail : readGroups 0 (8 - (front.length + 1)) (groupsText 0 back ++ []) =
      (back, false, []) :=
    readGroups_groupsText (by omega) (.inl rfl) (by simpa using dot_not_mem_groupsText _ _)
  rw [List.append_nil] at htail
  have hgap : 8 - front.length - back.length = len := by omega
  rw [readIpv6Addr_of_tail hhead (by omega) htail, hgap, ← hsegments, ofSegments_segments]
  rfl

theorem segmentsOf_ofSegments (ab cd : UInt16) : segmentsOf (.ofSegments ab cd) = [ab, cd] := by
  have hword (s : UInt16) :
      UInt16.ofNat
          ((UInt8.ofNat (s.toNat / 256)).toNat * 256 + (UInt8.ofNat (s.toNat % 256)).toNat) =
        s := by
    have hlt : s.toNat < 65536 := s.toNat_lt
    have hhigh : (UInt8.ofNat (s.toNat / 256)).toNat = s.toNat / 256 := by
      rw [UInt8.toNat_ofNat']
      omega
    have hlow : (UInt8.ofNat (s.toNat % 256)).toNat = s.toNat % 256 := by
      rw [UInt8.toNat_ofNat']
      omega
    rw [hhigh, hlow, Nat.div_add_mod', UInt16.ofNat_toNat]
  simp only [segmentsOf, Ipv4Addr.ofSegments, hword]

/-- A mapped address. -/
theorem readIpv6Addr_mapped (mapped : Ipv4Addr) :
    readIpv6Addr ("::ffff:".toList ++ mapped.display) =
      (ofSegments ([0, 0, 0, 0, 0, 0xffff] ++ segmentsOf mapped)).map (·, []) := by
  have hipv4 := readIpv4Addr_display mapped (stops_nil 10)
  rw [List.append_nil] at hipv4
  have hembedded : readGroups 1 6 (':' :: mapped.display) = (segmentsOf mapped, true, []) := by
    simp [readGroups, readSeparator, readGivenChar, hipv4]
  have hgroup : readNumber 16 4 true 65536 ("ffff".toList ++ ':' :: mapped.display) =
      some (0xffff, ':' :: mapped.display) :=
    readNumber_group 0xffff (stops_colon 16 _)
  have hletter : Stops 10 ("ffff".toList ++ ':' :: mapped.display) := by
    intro c hc
    cases hc
    rfl
  have htail : readGroups 0 7 ("ffff".toList ++ ':' :: mapped.display) =
      (0xffff :: segmentsOf mapped, true, []) := by
    rw [readGroups, readSeparator, if_pos rfl, readIpv4Addr_of_stops hletter]
    simp only [readSeparator, if_true, hgroup, hembedded]
    rfl
  have hhead : readGroups 0 8 (':' :: ':' :: ("ffff".toList ++ ':' :: mapped.display)) =
      ([], false, ':' :: ':' :: ("ffff".toList ++ ':' :: mapped.display)) := by
    rw [readGroups, readSeparator, if_pos rfl, readIpv4Addr_of_stops (stops_colon 10 _)]
    simp only [readSeparator, if_true, readNumber_eq_none_of_stops (stops_colon 16 _)]
    rfl
  exact readIpv6Addr_of_tail hhead (by decide) htail

end IpText

theorem Ipv6Addr.parse_display (addr : Ipv6Addr) : parse addr.display = some addr := by
  have hread : readIpv6Addr addr.display = some (addr, []) := by
    unfold display toIpv4Mapped
    cases hmapped : addr.isMapped with
    | true =>
      simp only [isMapped, startsWithZeros, Bool.and_eq_true,
        decide_eq_true_eq] at hmapped
      obtain ⟨⟨⟨⟨⟨h0, h1⟩, h2⟩, h3⟩, h4⟩, h5⟩ := hmapped
      simp only [if_true]
      rw [readIpv6Addr_mapped, segmentsOf_ofSegments]
      cases addr
      simp_all [ofSegments]
    | false =>
      simp only [Bool.false_eq_true, if_false]
      have hlast : Span.IsLast ⟨0, 0⟩ [] := ⟨[], rfl, fun h ↦ absurd rfl h⟩
      have hzeros := isZeros_longestZeros (Span.isZeros_nil 0 []) hlast addr.segments
      rw [List.nil_append, List.length_nil] at hzeros
      split_ifs with hlen
      · exact readIpv6Addr_gap (hzeros.eq_append (by omega)) hlen
      · exact readIpv6Addr_groups addr
  rw [parse, parseWith, hread]

/-! ## The characters -/

namespace IpText

/-- Digits, letters of hex digits, colons and dots. -/
def IsAddressChar (c : Char) : Prop := (digit 16 c).isSome = true ∨ c = ':' ∨ c = '.'

end IpText

theorem Ipv4Addr.isAddressChar_of_mem {addr : Ipv4Addr} {c : Char} (h : c ∈ addr.display) :
    IsAddressChar c := by
  have hoctet {n : Nat} (hmem : c ∈ Nat.toDigits 10 n) : IsAddressChar c :=
    .inl (isSome_digit_of_mem_toDigits (by decide) (by decide) hmem)
  simp only [Ipv4Addr.display, List.mem_append, List.mem_cons] at h
  rcases h with h | h | h | h | h | h | h
  · exact hoctet h
  · exact .inr (.inr h)
  · exact hoctet h
  · exact .inr (.inr h)
  · exact hoctet h
  · exact .inr (.inr h)
  · exact hoctet h

theorem Ipv6Addr.isAddressChar_of_mem {addr : Ipv6Addr} {c : Char} (h : c ∈ addr.display) :
    IsAddressChar c := by
  have hgroups {segments : List UInt16} (hmem : c ∈ groupsText 0 segments) : IsAddressChar c :=
    (mem_groupsText hmem).imp_right .inl
  unfold display at h
  split at h
  · rcases List.mem_append.mp h with h | h
    · have hcases : c = ':' ∨ c = 'f' := by simpa [or_assoc, or_comm, or_left_comm] using h
      rcases hcases with rfl | rfl
      · exact .inr (.inl rfl)
      · exact .inl rfl
    · exact Ipv4Addr.isAddressChar_of_mem h
  · dsimp only at h
    split_ifs at h
    · simp only [List.mem_append, List.mem_cons] at h
      rcases h with h | h | h | h
      · exact hgroups h
      · exact .inr (.inl h)
      · exact .inr (.inl h)
      · exact hgroups h
    · exact hgroups h
