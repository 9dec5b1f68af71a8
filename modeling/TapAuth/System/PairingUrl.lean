import Mathlib.Data.List.TakeWhile
import TapAuth.Lib.Entries
import TapAuth.Lib.IpText
import TapAuth.Daemon.PairingSlot

/-!
# Pairing URLs

The desktop writes a pairing URL and both sides have a parser for it.  They split the
query at `&` alike, but at `=` the phone takes everything after the first as the value and
the desktop what stands before the next; a pair without `=` is an error to the desktop
and an exception to the phone.  The phone's numbers are signed, have 32 bits and may be
written in the digits of any script, and it takes any text for an address.

The two agree exactly on the queries in which none of this makes a difference (`Alike`,
`agrees_iff`), and every URL of the desktop is read as what it was made of by both
(`parse_generatePairingUrl`).
-/

namespace TapAuth.System.PairingUrls

open Numeral

/-! ## The desktop -/

inductive PairingInfoError where
  | invalidScheme
  | invalidQuery
  | invalidVersion
  | invalidPort
  | invalidIpv4
  | invalidIpv6
  | missingField (name : String)
  deriving DecidableEq

structure PairingInfo where
  version : UInt32
  publicKeyHex : String
  port : UInt16
  ipv4 : Option Ipv4Addr
  ipv6 : Option Ipv6Addr
  deriving DecidableEq

def scheme : List Char := "tapauth://pair?".toList

/-- The value of a text of decimal digits, of which there must be one. -/
def digitsValue (digitOf : Char → Option Nat) (digits : List Char) : Option Nat :=
  if digits = [] then none else read digitOf 10 0 digits

/-- The value of a text of digits with an optional plus sign. -/
def unsignedValue : List Char → Option Nat
  | '+' :: rest => digitsValue (digit 10) rest
  | text => digitsValue (digit 10) text

/-- `str::parse` to an unsigned type with `limit` values. -/
def parseUnsigned (limit : Nat) (text : List Char) : Option Nat :=
  (unsignedValue text).filter (· < limit)

/-- What the loop of `parse` has found. -/
structure Found where
  version : Option UInt32
  publicKeyHex : Option String
  port : Option UInt16
  ipv4 : Option Ipv4Addr
  ipv6 : Option Ipv6Addr

namespace Found

def empty : Found := ⟨none, none, none, none, none⟩

def assign (found : Found) (key value : List Char) : Except PairingInfoError Found :=
  if key = "v".toList then
    match parseUnsigned (2 ^ 32) value with
    | none => .error .invalidVersion
    | some n => .ok { found with version := some (UInt32.ofNat n) }
  else if key = "pk".toList then .ok { found with publicKeyHex := some (String.ofList value) }
  else if key = "p".toList then
    match parseUnsigned (2 ^ 16) value with
    | none => .error .invalidPort
    | some n => .ok { found with port := some (UInt16.ofNat n) }
  else if key = "ip4".toList then
    match Ipv4Addr.parse value with
    | none => .error .invalidIpv4
    | some ip => .ok { found with ipv4 := some ip }
  else if key = "ip6".toList then
    match Ipv6Addr.parse value with
    | none => .error .invalidIpv6
    | some ip => .ok { found with ipv6 := some ip }
  else .ok found

/-- One turn of the loop. -/
def readPair (found : Found) (pair : List Char) : Except PairingInfoError Found :=
  match pair.splitOn '=' with
  | key :: value :: _ => found.assign key value
  | _ => .error .invalidQuery

def finish (found : Found) : Except PairingInfoError PairingInfo :=
  match found.version with
  | none => .error (.missingField "version")
  | some version =>
    match found.publicKeyHex with
    | none => .error (.missingField "public key")
    | some publicKeyHex =>
      match found.port with
      | none => .error (.missingField "port")
      | some port => .ok ⟨version, publicKeyHex, port, found.ipv4, found.ipv6⟩

end Found

def PairingInfo.parse (url : String) : Except PairingInfoError PairingInfo :=
  if !scheme.isPrefixOf url.toList then .error .invalidScheme
  else do
    let found ← ((url.toList.drop 15).splitOn '&').foldlM Found.readPair .empty
    found.finish

/-! ## The phone -/

structure PairingUrl where
  version : Int
  publicKey : String
  port : Int
  ipv4 : Option String
  ipv6 : Option String
  deriving DecidableEq

/-- How the phone's `parse` ends. -/
inductive PhoneParse where
  | throws
  | null
  | parsed (url : PairingUrl)
  deriving DecidableEq

/-- The decimal digits of the phone: those of every script, the ASCII ones among them. -/
structure JavaDigits where
  digitOf : Char → Option Nat
  ascii : ∀ c, c.toNat < 128 → digitOf c = digit 10 c

section

variable (J : JavaDigits)

/-- The number of the digits, up to `bound`. -/
def JavaDigits.readUpTo (bound : Nat) (digits : List Char) : Option Nat :=
  (digitsValue J.digitOf digits).filter (· ≤ bound)

/-- `String.toIntOrNull`. -/
def JavaDigits.toIntOrNull (text : List Char) : Option Int :=
  match text with
  | '-' :: rest => (J.readUpTo (2 ^ 31) rest).map fun n ↦ -Int.ofNat n
  | '+' :: rest => (J.readUpTo (2 ^ 31 - 1) rest).map Int.ofNat
  | _ => (J.readUpTo (2 ^ 31 - 1) text).map Int.ofNat

/-- `split("=", limit = 2)` as a pair, unless there is one part only. -/
def splitPair (pair : List Char) : Option (List Char × List Char) :=
  if '=' ∈ pair then some (pair.takeWhile (· ≠ '='), (pair.dropWhile (· ≠ '=')).tail) else none

/-- What `parse` makes of the parameters. -/
def PairingUrl.ofParams (params : List Char → Option (List Char)) : PhoneParse :=
  match (params "v".toList).bind J.toIntOrNull with
  | none => .null
  | some version =>
    match params "pk".toList with
    | none => .null
    | some publicKey =>
      match (params "p".toList).bind J.toIntOrNull with
      | none => .null
      | some port =>
        .parsed ⟨version, String.ofList publicKey, port,
          (params "ip4".toList).map String.ofList, (params "ip6".toList).map String.ofList⟩

def PairingUrl.parse (url : String) : PhoneParse :=
  if !scheme.isPrefixOf url.toList then .null
  else
    match (((url.toList.dropWhile (· ≠ '?')).tail).splitOn '&').mapM splitPair with
    | none => .throws
    | some pairs => PairingUrl.ofParams J (Entries.enter (fun _ ↦ none) pairs)

end

/-! ## Agreement -/

/-- Both reject, or both accept the same. -/
def PhoneParse.Agrees : PhoneParse → Except PairingInfoError PairingInfo → Prop
  | .null, .error _ => True
  | .parsed url, .ok info =>
    url.version = info.version.toNat ∧ url.publicKey = info.publicKeyHex ∧
      url.port = info.port.toNat ∧
      url.ipv4.map (fun text ↦ Ipv4Addr.parse text.toList) = info.ipv4.map some ∧
      url.ipv6.map (fun text ↦ Ipv6Addr.parse text.toList) = info.ipv6.map some
  | _, _ => False

/-- The pairs of a query that have a value. -/
def entries (query : List Char) : List (List Char × List Char) :=
  (query.splitOn '&').filterMap splitPair

/-- The parameters of a query: the last value of each key. -/
def params (query : List Char) : List Char → Option (List Char) :=
  Entries.enter (fun _ ↦ none) (entries query)

/-- The desktop takes of a value what stands before another `=`. -/
def cut (value : List Char) : List Char := value.takeWhile (· ≠ '=')

def desktopEntries (query : List Char) : List (List Char × List Char) :=
  (entries query).map fun entry ↦ (entry.1, cut entry.2)

/-- A pair that the desktop rejects. -/
def Unreadable (entry : List Char × List Char) : Prop :=
  entry.1 = "v".toList ∧ parseUnsigned (2 ^ 32) entry.2 = none ∨
    entry.1 = "p".toList ∧ parseUnsigned (2 ^ 16) entry.2 = none ∨
      entry.1 = "ip4".toList ∧ Ipv4Addr.parse entry.2 = none ∨
        entry.1 = "ip6".toList ∧ Ipv6Addr.parse entry.2 = none

/-- The last version, key or port is missing, or the phone cannot read the number. -/
def PhoneRejects (J : JavaDigits) (query : List Char) : Prop :=
  (params query "v".toList).bind J.toIntOrNull = none ∨ params query "pk".toList = none ∨
    (params query "p".toList).bind J.toIntOrNull = none

/-- The desktop cannot read one of the pairs, or there is no version, key or port. -/
def DesktopRejects (query : List Char) : Prop :=
  (∃ entry ∈ desktopEntries query, Unreadable entry) ∨ params query "v".toList = none ∨
    params query "pk".toList = none ∨ params query "p".toList = none

/-- The last values are a version and a port, in ASCII digits and small enough for both sides, a
key without `=`, and addresses that do not go on after an `=`; and no pair is unreadable. -/
structure AcceptedAlike (query : List Char) : Prop where
  version : ∃ text n, params query "v".toList = some text ∧ unsignedValue text = some n ∧ n < 2 ^ 31
  publicKey : ∃ text, params query "pk".toList = some text ∧ '=' ∉ text
  port : ∃ text n, params query "p".toList = some text ∧ unsignedValue text = some n ∧ n < 2 ^ 16
  ipv4 : ∀ text, params query "ip4".toList = some text →
    Ipv4Addr.parse (cut text) = Ipv4Addr.parse text
  ipv6 : ∀ text, params query "ip6".toList = some text →
    Ipv6Addr.parse (cut text) = Ipv6Addr.parse text
  readable : ∀ entry ∈ desktopEntries query, ¬Unreadable entry

/-- A query in which the differences of the parsers make none. -/
structure Alike (J : JavaDigits) (query : List Char) : Prop where
  equals : ∀ pair ∈ query.splitOn '&', '=' ∈ pair
  alike : AcceptedAlike query ∨ PhoneRejects J query ∧ DesktopRejects query

/-! ## Numbers -/

section

variable {J : JavaDigits} {limit n : Nat} {text : List Char}

theorem parseUnsigned_eq_some_iff :
    parseUnsigned limit text = some n ↔ unsignedValue text = some n ∧ n < limit := by
  rw [parseUnsigned, Option.filter_eq_some_iff, decide_eq_true_iff]

theorem lt_of_parseUnsigned (h : parseUnsigned limit text = some n) : n < limit :=
  (parseUnsigned_eq_some_iff.mp h).2

/-- A number is some text of digits. -/
theorem digitsValue_eq_some {digitOf : Char → Option Nat}
    (h : digitsValue digitOf text = some n) : read digitOf 10 0 text = some n := by
  unfold digitsValue at h
  split_ifs at h
  exact h

/-- The phone reads ASCII digits as the desktop does. -/
theorem readUpTo_eq (h : digitsValue (digit 10) text = some n) (bound : Nat) :
    J.readUpTo bound text = if n ≤ bound then some n else none := by
  have hascii : ∀ c ∈ text, J.digitOf c = digit 10 c := by
    intro c hc
    have hdigit := isSome_of_read (digitsValue_eq_some h) c hc
    rw [digit_ten_eq] at hdigit
    split_ifs at hdigit with hc
    · exact J.ascii c ((Char.isDigit_iff_toNat.mp hc).2.trans_lt (by decide))
    · cases hdigit
  have hvalue : digitsValue J.digitOf text = some n := by
    rw [digitsValue, read_congr hascii, ← digitsValue, h]
  rw [JavaDigits.readUpTo, hvalue, Option.filter_some]
  simp only [decide_eq_true_eq]

theorem toIntOrNull_eq (J : JavaDigits) (h : unsignedValue text = some n) :
    J.toIntOrNull text = if n < 2 ^ 31 then some ↑n else none := by
  have hmap (m : Nat) : (if m ≤ 2 ^ 31 - 1 then some m else none).map Int.ofNat =
      if m < 2 ^ 31 then some ↑m else none := by
    simp only [Nat.le_sub_one_iff_lt (show 0 < 2 ^ 31 by decide)]
    split_ifs <;> rfl
  unfold JavaDigits.toIntOrNull
  split
  · cases (show unsignedValue ('-' :: _) = none from rfl).symm.trans h
  · rw [readUpTo_eq h, hmap]
  · rename_i hminus hplus
    have hvalue : unsignedValue text = digitsValue (digit 10) text := by
      unfold unsignedValue
      split
      · exact absurd rfl (hplus _)
      · rfl
    rw [readUpTo_eq (hvalue ▸ h), hmap]

theorem not_mem_of_readUpTo {bound : Nat} (h : J.readUpTo bound text = some n) : '=' ∉ text := by
  intro hmem
  have hdigit := isSome_of_read (digitsValue_eq_some (Option.filter_eq_some_iff.mp h).1) '=' hmem
  rw [J.ascii '=' (by decide)] at hdigit
  exact absurd hdigit (by decide)

/-- A number to the phone has no `=` in it. -/
theorem not_mem_of_toIntOrNull {z : Int} (h : J.toIntOrNull text = some z) : '=' ∉ text := by
  unfold JavaDigits.toIntOrNull at h
  split at h
  · obtain ⟨n, hn, -⟩ := Option.map_eq_some_iff.mp h
    exact List.not_mem_cons_of_ne_of_not_mem (by decide) (not_mem_of_readUpTo hn)
  · obtain ⟨n, hn, -⟩ := Option.map_eq_some_iff.mp h
    exact List.not_mem_cons_of_ne_of_not_mem (by decide) (not_mem_of_readUpTo hn)
  · obtain ⟨n, hn, -⟩ := Option.map_eq_some_iff.mp h
    exact not_mem_of_readUpTo hn

theorem cut_eq_self_iff {value : List Char} : cut value = value ↔ '=' ∉ value := by
  rw [cut, List.takeWhile_eq_self_iff]
  simp only [ne_eq, decide_eq_true_eq]
  exact ⟨fun h hmem ↦ h _ hmem rfl, fun h c hc heq ↦ h (heq ▸ hc)⟩

/-- A number that both sides can read is the same to both. -/
theorem same_number {z : Int} (hphone : J.toIntOrNull text = some z)
    (hdesktop : parseUnsigned limit (cut text) = some n) :
    z = n ∧ unsignedValue text = some n ∧ n < 2 ^ 31 ∧ n < limit := by
  rw [cut_eq_self_iff.mpr (not_mem_of_toIntOrNull hphone)] at hdesktop
  obtain ⟨hvalue, hlimit⟩ := parseUnsigned_eq_some_iff.mp hdesktop
  rw [toIntOrNull_eq J hvalue] at hphone
  split_ifs at hphone with hsmall
  exact ⟨(Option.some.inj hphone).symm, hvalue, hsmall, hlimit⟩

end

/-! ## Pairs -/

theorem splitPair_append {key value : List Char} (hkey : '=' ∉ key) :
    splitPair (key ++ '=' :: value) = some (key, value) := by
  have hkeep : ∀ c ∈ key, decide (c ≠ '=') = true := fun c hc ↦
    decide_eq_true fun heq ↦ hkey (heq ▸ hc)
  rw [splitPair, if_pos (by simp), List.takeWhile_append_of_pos hkeep,
    List.dropWhile_append_of_pos hkeep]
  simp

theorem exists_splitOn_eq_cut (value : List Char) :
    ∃ rest, value.splitOn '=' = cut value :: rest := by
  by_cases hmem : '=' ∈ value
  · obtain ⟨first, rest, rfl, hfirst⟩ := List.eq_append_cons_of_mem hmem
    refine ⟨_, (List.splitOn_append_cons_self_of_not_mem hfirst _).trans (congrArg (· :: _) ?_)⟩
    have hkeep : ∀ c ∈ first, decide (c ≠ '=') = true := fun c hc ↦
      decide_eq_true fun heq ↦ hfirst (heq ▸ hc)
    rw [cut, List.takeWhile_append_of_pos hkeep]
    simp
  · exact ⟨[], by rw [List.splitOn_eq_singleton hmem, cut_eq_self_iff.mpr hmem]⟩

/-- With an `=` in a pair both sides find its key. -/
theorem readPair_eq {pair : List Char} (h : '=' ∈ pair) :
    ∃ entry, splitPair pair = some entry ∧
      ∀ found : Found, found.readPair pair = found.assign entry.1 (cut entry.2) := by
  obtain ⟨key, value, rfl, hkey⟩ := List.eq_append_cons_of_mem h
  refine ⟨(key, value), splitPair_append hkey, fun found ↦ ?_⟩
  obtain ⟨rest, hrest⟩ := exists_splitOn_eq_cut value
  rw [Found.readPair, List.splitOn_append_cons_self_of_not_mem hkey, hrest]

theorem foldlM_readPair {pairs : List (List Char)} (h : ∀ pair ∈ pairs, '=' ∈ pair)
    (found : Found) :
    pairs.foldlM Found.readPair found =
      ((pairs.filterMap splitPair).map fun entry ↦ (entry.1, cut entry.2)).foldlM
        (fun found entry ↦ found.assign entry.1 entry.2) found := by
  induction pairs generalizing found with
  | nil => rfl
  | cons pair pairs ih =>
    obtain ⟨hpair, hpairs⟩ := List.forall_mem_cons.mp h
    obtain ⟨entry, hentry, hread⟩ := readPair_eq hpair
    rw [List.filterMap_cons_some hentry, List.map_cons, List.foldlM_cons, List.foldlM_cons, hread]
    exact bind_congr fun found' ↦ ih hpairs found'

/-- The phone throws at a pair without `=`. -/
theorem mapM_splitPair (pairs : List (List Char)) :
    pairs.mapM splitPair =
      if ∀ pair ∈ pairs, '=' ∈ pair then some (pairs.filterMap splitPair) else none := by
  induction pairs with
  | nil => rfl
  | cons pair pairs ih =>
    rw [List.mapM_cons, ih]
    by_cases hpair : '=' ∈ pair
    · obtain ⟨entry, hentry, -⟩ := readPair_eq hpair
      rw [List.filterMap_cons_some hentry, hentry]
      simp only [List.forall_mem_cons, hpair, true_and]
      split_ifs <;> rfl
    · rw [splitPair, if_neg hpair]
      exact (if_neg fun h ↦ hpair (h pair List.mem_cons_self)).symm

/-! ## What the desktop finds -/

/-- What was found is what the parameters `m` say. -/
structure Found.Reads (found : Found) (m : List Char → Option (List Char)) : Prop where
  version : found.version.map UInt32.toNat = (m "v".toList).bind (parseUnsigned (2 ^ 32))
  publicKeyHex : found.publicKeyHex = (m "pk".toList).map String.ofList
  port : found.port.map UInt16.toNat = (m "p".toList).bind (parseUnsigned (2 ^ 16))
  ipv4 : found.ipv4 = (m "ip4".toList).bind Ipv4Addr.parse
  ipv6 : found.ipv6 = (m "ip6".toList).bind Ipv6Addr.parse

theorem Found.reads_empty : Found.empty.Reads fun _ ↦ none := ⟨rfl, rfl, rfl, rfl, rfl⟩

/-- An assignment enters the value of the key and keeps the other fields. -/
theorem Found.Reads.assign {found next : Found} {m : List Char → Option (List Char)}
    {key value : List Char} (h : found.Reads m) (hassign : found.assign key value = .ok next) :
    next.Reads (Function.update m key (some value)) := by
  obtain ⟨hversion, hkey, hport, hipv4, hipv6⟩ := h
  unfold Found.assign at hassign
  split_ifs at hassign with hv hpk hp hip4 hip6
  · subst hv
    split at hassign
    · cases hassign
    next n hn =>
      cases hassign
      have hn' : some (UInt32.ofNat n).toNat = parseUnsigned (2 ^ 32) value := by
        rw [UInt32.toNat_ofNat_of_lt' (lt_of_parseUnsigned hn), hn]
      exact ⟨hn', hkey, hport, hipv4, hipv6⟩
  · subst hpk
    cases hassign
    exact ⟨hversion, rfl, hport, hipv4, hipv6⟩
  · subst hp
    split at hassign
    · cases hassign
    next n hn =>
      cases hassign
      have hn' : some (UInt16.ofNat n).toNat = parseUnsigned (2 ^ 16) value := by
        rw [UInt16.toNat_ofNat_of_lt' (lt_of_parseUnsigned hn), hn]
      exact ⟨hversion, hkey, hn', hipv4, hipv6⟩
  · subst hip4
    split at hassign
    · cases hassign
    next ip hip =>
      cases hassign
      exact ⟨hversion, hkey, hport, hip.symm, hipv6⟩
  · subst hip6
    split at hassign
    · cases hassign
    next ip hip =>
      cases hassign
      exact ⟨hversion, hkey, hport, hipv4, hip.symm⟩
  · cases hassign
    constructor <;> rwa [Function.update_of_ne (Ne.symm ‹_›)]

theorem Found.unreadable_of_assign {found : Found} {entry : List Char × List Char}
    {e : PairingInfoError} (h : found.assign entry.1 entry.2 = .error e) : Unreadable entry := by
  unfold Found.assign at h
  split_ifs at h with hv hpk hp hip4 hip6
  · split at h
    next hn => exact .inl ⟨hv, hn⟩
    · cases h
  · split at h
    next hn => exact .inr (.inl ⟨hp, hn⟩)
    · cases h
  · split at h
    next hip => exact .inr (.inr (.inl ⟨hip4, hip⟩))
    · cases h
  · split at h
    next hip => exact .inr (.inr (.inr ⟨hip6, hip⟩))
    · cases h

theorem Found.not_unreadable_of_assign {found next : Found} {entry : List Char × List Char}
    (h : found.assign entry.1 entry.2 = .ok next) : ¬Unreadable entry := by
  unfold Found.assign at h
  rintro (⟨hkey, hnone⟩ | ⟨hkey, hnone⟩ | ⟨hkey, hnone⟩ | ⟨hkey, hnone⟩) <;>
    simp [hkey, hnone, -Nat.reducePow] at h

/-- The loop finds what the parameters say, or it stops at a pair it rejects. -/
theorem Found.Reads.foldlM_assign {found : Found} {m : List Char → Option (List Char)}
    (h : found.Reads m) (entries : List (List Char × List Char)) :
    (∃ next : Found,
        entries.foldlM (fun found entry ↦ found.assign entry.1 entry.2) found = .ok next ∧
          next.Reads (Entries.enter m entries) ∧ ∀ entry ∈ entries, ¬Unreadable entry) ∨
      ∃ e, entries.foldlM (fun found entry ↦ found.assign entry.1 entry.2) found = .error e ∧
        ∃ entry ∈ entries, Unreadable entry := by
  induction entries generalizing found m with
  | nil => exact .inl ⟨found, rfl, h, nofun⟩
  | cons entry entries ih =>
    rw [List.foldlM_cons, Entries.enter_cons]
    cases hassign : found.assign entry.1 entry.2 with
    | error e =>
      exact .inr ⟨e, rfl, entry, List.mem_cons_self, unreadable_of_assign hassign⟩
    | ok next =>
      obtain ⟨last, hok, hreads, hall⟩ | ⟨e, herror, entry', hmem, hunreadable⟩ :=
        ih (h.assign hassign)
      · exact .inl ⟨last, hok, hreads,
          List.forall_mem_cons.mpr ⟨not_unreadable_of_assign hassign, hall⟩⟩
      · exact .inr ⟨e, herror, entry', List.mem_cons_of_mem _ hmem, hunreadable⟩

/-! ## Agreement -/

/-- What the desktop accepts, in terms of the last values. -/
structure Accepts (query : List Char) (info : PairingInfo) : Prop where
  readable : ∀ entry ∈ desktopEntries query, ¬Unreadable entry
  version : ∃ text, params query "v".toList = some text ∧
    parseUnsigned (2 ^ 32) (cut text) = some info.version.toNat
  publicKey : ∃ text, params query "pk".toList = some text ∧
    String.ofList (cut text) = info.publicKeyHex
  port : ∃ text, params query "p".toList = some text ∧
    parseUnsigned (2 ^ 16) (cut text) = some info.port.toNat
  ipv4 : info.ipv4 = (params query "ip4".toList).bind fun text ↦ Ipv4Addr.parse (cut text)
  ipv6 : info.ipv6 = (params query "ip6".toList).bind fun text ↦ Ipv6Addr.parse (cut text)

section

variable {J : JavaDigits} {query : List Char}

theorem enter_desktopEntries (query : List Char) :
    Entries.enter (fun _ ↦ none) (desktopEntries query) = fun k ↦ (params query k).map cut :=
  Entries.enter_map cut (fun _ ↦ none) (entries query)

/-- If no pair is unreadable, the last value of a key is not. -/
theorem parse_cut_ne_none {α : Type} {parse : List Char → Option α} {key text : List Char}
    (hreadable : ∀ entry ∈ desktopEntries query, ¬Unreadable entry)
    (hkey : ∀ value, parse value = none → Unreadable (key, value))
    (htext : params query key = some text) : parse (cut text) ≠ none := by
  have hmem : (key, text) ∈ entries query := (Entries.mem_of_enter htext).resolve_right nofun
  exact fun hnone ↦ hreadable _ (List.mem_map.mpr ⟨_, hmem, rfl⟩) (hkey _ hnone)

theorem params_eq_none {α : Type} {parse : List Char → Option α} {key : List Char}
    (hreadable : ∀ entry ∈ desktopEntries query, ¬Unreadable entry)
    (hkey : ∀ value, parse value = none → Unreadable (key, value))
    (hnone : ((params query key).map cut).bind parse = none) : params query key = none := by
  cases htext : params query key with
  | none => rfl
  | some text =>
    rw [htext] at hnone
    exact absurd hnone (parse_cut_ne_none hreadable hkey htext)

/-- How the desktop ends. -/
theorem desktop_cases {result : Except PairingInfoError PairingInfo}
    (hresult : (desktopEntries query).foldlM
      (fun found entry ↦ found.assign entry.1 entry.2) Found.empty >>= Found.finish = result) :
    (∃ e, result = .error e ∧ DesktopRejects query) ∨
      ∃ info, result = .ok info ∧ Accepts query info := by
  obtain ⟨found, hok, hreads, hreadable⟩ | ⟨e, herror, hunreadable⟩ :=
    Found.reads_empty.foldlM_assign (desktopEntries query)
  · rw [hok] at hresult
    rw [enter_desktopEntries] at hreads
    obtain ⟨hversion, hkey, hport, hipv4, hipv6⟩ := hreads
    cases hv : found.version with
    | none =>
      rw [hv] at hversion
      refine .inl ⟨.missingField "version", ?_, .inr (.inl ?_)⟩
      · rw [← hresult]
        simp [Found.finish, hv, bind, Except.bind]
      · exact params_eq_none hreadable (fun _ h ↦ .inl ⟨rfl, h⟩) hversion.symm
    | some version =>
      rw [hv] at hversion
      cases hk : found.publicKeyHex with
      | none =>
        rw [hk] at hkey
        refine .inl ⟨.missingField "public key", ?_, .inr (.inr (.inl ?_))⟩
        · rw [← hresult]
          simp [Found.finish, hv, hk, bind, Except.bind]
        · simpa using hkey.symm
      | some key =>
        rw [hk] at hkey
        cases hp : found.port with
        | none =>
          rw [hp] at hport
          refine .inl ⟨.missingField "port", ?_, .inr (.inr (.inr ?_))⟩
          · rw [← hresult]
            simp [Found.finish, hv, hk, hp, bind, Except.bind]
          · exact params_eq_none hreadable (fun _ h ↦ .inr (.inl ⟨rfl, h⟩)) hport.symm
        | some port =>
          rw [hp] at hport
          simp only [Option.bind_map, Option.map_map] at hversion hkey hport hipv4 hipv6
          refine .inr ⟨⟨version, key, port, found.ipv4, found.ipv6⟩, ?_, hreadable,
            Option.bind_eq_some_iff.mp hversion.symm, Option.map_eq_some_iff.mp hkey.symm,
            Option.bind_eq_some_iff.mp hport.symm, hipv4, hipv6⟩
          rw [← hresult]
          simp [Found.finish, hv, hk, hp, bind, Except.bind]
  · rw [herror] at hresult
    exact .inl ⟨e, hresult.symm, .inl hunreadable⟩

/-- How the phone ends, if it does not throw. -/
theorem phone_cases (J : JavaDigits) (query : List Char) :
    PairingUrl.ofParams J (params query) = .null ∧ PhoneRejects J query ∨
      ∃ version versionText key port portText, params query "v".toList = some versionText ∧
        J.toIntOrNull versionText = some version ∧ params query "pk".toList = some key ∧
        params query "p".toList = some portText ∧ J.toIntOrNull portText = some port ∧
        PairingUrl.ofParams J (params query) = .parsed ⟨version, String.ofList key, port,
          (params query "ip4".toList).map String.ofList,
          (params query "ip6".toList).map String.ofList⟩ := by
  unfold PairingUrl.ofParams PhoneRejects
  cases hversion : (params query "v".toList).bind J.toIntOrNull with
  | none => exact .inl ⟨rfl, .inl rfl⟩
  | some version =>
    cases hkey : params query "pk".toList with
    | none => exact .inl ⟨rfl, .inr (.inl rfl)⟩
    | some key =>
      cases hport : (params query "p".toList).bind J.toIntOrNull with
      | none => exact .inl ⟨rfl, .inr (.inr rfl)⟩
      | some port =>
        obtain ⟨versionText, hv, hversion⟩ := Option.bind_eq_some_iff.mp hversion
        obtain ⟨portText, hp, hport⟩ := Option.bind_eq_some_iff.mp hport
        exact .inr ⟨version, versionText, key, port, portText, hv, hversion, rfl, hp, hport, rfl⟩

section

variable {versionText key portText : List Char} (hv : params query "v".toList = some versionText)
  (hk : params query "pk".toList = some key) (hp : params query "p".toList = some portText)

include hv hk hp

theorem not_phoneRejects {version port : Int} (hversion : J.toIntOrNull versionText = some version)
    (hport : J.toIntOrNull portText = some port) : ¬PhoneRejects J query := by
  rintro (hnone | hnone | hnone)
  · rw [hv, Option.bind_some, hversion] at hnone
    cases hnone
  · cases hk.symm.trans hnone
  · rw [hp, Option.bind_some, hport] at hnone
    cases hnone

theorem not_desktopRejects (hreadable : ∀ entry ∈ desktopEntries query, ¬Unreadable entry) :
    ¬DesktopRejects query := by
  rintro (⟨entry, hmem, hunreadable⟩ | hnone | hnone | hnone)
  · exact hreadable entry hmem hunreadable
  · cases hv.symm.trans hnone
  · cases hk.symm.trans hnone
  · cases hp.symm.trans hnone

end

theorem AcceptedAlike.not_rejects (h : AcceptedAlike query) (J : JavaDigits) :
    ¬PhoneRejects J query ∧ ¬DesktopRejects query := by
  obtain ⟨version, n, hv, hn, hnlt⟩ := h.version
  obtain ⟨key, hk, -⟩ := h.publicKey
  obtain ⟨port, m, hp, hm, hmlt⟩ := h.port
  have hversion := (toIntOrNull_eq J hn).trans (if_pos hnlt)
  have hport := (toIntOrNull_eq J hm).trans (if_pos (hmlt.trans (by decide)))
  exact ⟨not_phoneRejects hv hk hp hversion hport, not_desktopRejects hv hk hp h.readable⟩

/-- The sides have the same address iff it does not go on after an `=`. -/
theorem addresses_agree_iff {α : Type} {parse : List Char → Option α} (key : List Char)
    (hreadable : ∀ entry ∈ desktopEntries query, ¬Unreadable entry)
    (hkey : ∀ value, parse value = none → Unreadable (key, value)) :
    ((params query key).map String.ofList).map (fun text ↦ parse text.toList) =
        ((params query key).bind fun text ↦ parse (cut text)).map some ↔
      ∀ text, params query key = some text → parse (cut text) = parse text := by
  cases htext : params query key with
  | none => simp
  | some text =>
    obtain ⟨ip, hip⟩ := Option.ne_none_iff_exists'.mp (parse_cut_ne_none hreadable hkey htext)
    simp [hip, eq_comm]

/-- Where both sides accept, the numbers are the same, and the key and the addresses decide. -/
theorem accepted_agrees_iff {info : PairingInfo} (h : Accepts query info) {version port : Int}
    {versionText key portText : List Char} (hversion : params query "v".toList = some versionText)
    (hversionValue : J.toIntOrNull versionText = some version)
    (hkey : params query "pk".toList = some key) (hport : params query "p".toList = some portText)
    (hportValue : J.toIntOrNull portText = some port) :
    (PhoneParse.parsed ⟨version, String.ofList key, port,
        (params query "ip4".toList).map String.ofList,
        (params query "ip6".toList).map String.ofList⟩).Agrees (.ok info) ↔
      AcceptedAlike query := by
  obtain ⟨hreadable, ⟨_, hv, hvn⟩, ⟨_, hk, hkn⟩, ⟨_, hp, hpn⟩, hipv4, hipv6⟩ := h
  cases hversion.symm.trans hv
  cases hkey.symm.trans hk
  cases hport.symm.trans hp
  obtain ⟨hsameVersion, hversionN, hversionLt, -⟩ := same_number hversionValue hvn
  obtain ⟨hsamePort, hportN, -, hportLt⟩ := same_number hportValue hpn
  have haddr4 := addresses_agree_iff "ip4".toList hreadable
    fun _ hnone ↦ .inr (.inr (.inl ⟨rfl, hnone⟩))
  have haddr6 := addresses_agree_iff "ip6".toList hreadable
    fun _ hnone ↦ .inr (.inr (.inr ⟨rfl, hnone⟩))
  rw [← hipv4] at haddr4
  rw [← hipv6] at haddr6
  constructor
  · rintro ⟨-, hsameKey, -, h4, h6⟩
    have hcut : cut key = key := String.ofList_injective (hkn.trans hsameKey.symm)
    exact ⟨⟨_, _, hversion, hversionN, hversionLt⟩, ⟨_, hkey, cut_eq_self_iff.mp hcut⟩,
      ⟨_, _, hport, hportN, hportLt⟩, haddr4.mp h4, haddr6.mp h6, hreadable⟩
  · rintro ⟨-, ⟨_, hkey', hnot⟩, -, h4, h6, -⟩
    cases hkey.symm.trans hkey'
    rw [cut_eq_self_iff.mpr hnot] at hkn
    exact ⟨hsameVersion, hkn, hsamePort, haddr4.mpr h4, haddr6.mpr h6⟩

/-- Both reject, or both accept the same: otherwise one of the sides decides alone. -/
theorem ofParams_agrees_iff {result : Except PairingInfoError PairingInfo}
    (hresult : (desktopEntries query).foldlM
      (fun found entry ↦ found.assign entry.1 entry.2) Found.empty >>= Found.finish = result) :
    (PairingUrl.ofParams J (params query)).Agrees result ↔
      AcceptedAlike query ∨ PhoneRejects J query ∧ DesktopRejects query := by
  obtain ⟨hnull, hphone⟩ | ⟨version, versionText, key, port, portText, hv, hversion, hkey, hp,
    hport, hparsed⟩ := phone_cases J query
  · rw [hnull]
    obtain ⟨e, rfl, hdesktop⟩ | ⟨info, rfl, haccepts⟩ := desktop_cases hresult
    · exact iff_of_true trivial (.inr ⟨hphone, hdesktop⟩)
    · refine iff_of_false id ?_
      rintro (haccepted | ⟨-, hdesktop⟩)
      · exact (haccepted.not_rejects J).1 hphone
      · obtain ⟨hreadable, ⟨_, hv, -⟩, ⟨_, hk, -⟩, ⟨_, hp, -⟩, -⟩ := haccepts
        exact not_desktopRejects hv hk hp hreadable hdesktop
  · have hphone := not_phoneRejects hv hkey hp hversion hport
    rw [hparsed]
    obtain ⟨e, rfl, hdesktop⟩ | ⟨info, rfl, haccepts⟩ := desktop_cases hresult
    · refine iff_of_false id ?_
      rintro (haccepted | ⟨hrejects, -⟩)
      · exact (haccepted.not_rejects J).2 hdesktop
      · exact hphone hrejects
    · rw [accepted_agrees_iff haccepts hv hversion hkey hp hport]
      exact (or_iff_left fun hrejects ↦ hphone hrejects.1).symm

end

/-- Both sides skip the scheme, the desktop by its length and the phone up to the `?`. -/
theorem parse_of_scheme (J : JavaDigits) {url : String} {query : List Char}
    (h : url.toList = scheme ++ query) :
    PairingInfo.parse url =
        ((query.splitOn '&').foldlM Found.readPair .empty >>= Found.finish) ∧
      PairingUrl.parse J url = if ∀ pair ∈ query.splitOn '&', '=' ∈ pair then
        PairingUrl.ofParams J (params query) else .throws := by
  have hscheme : scheme.isPrefixOf (scheme ++ query) = true :=
    List.isPrefixOf_iff_prefix.mpr (List.prefix_append scheme query)
  have hdrop : (scheme ++ query).drop 15 = query := rfl
  have hquery : ((scheme ++ query).dropWhile (· ≠ '?')).tail = query := rfl
  rw [PairingInfo.parse, PairingUrl.parse, h, hscheme, hdrop, hquery, mapM_splitPair]
  refine ⟨rfl, ?_⟩
  by_cases hequals : ∀ pair ∈ query.splitOn '&', '=' ∈ pair
  · rw [if_pos hequals, if_pos hequals]
    rfl
  · rw [if_neg hequals, if_neg hequals]
    rfl

/-- **Where the parsers agree.** -/
theorem agrees_iff {J : JavaDigits} {url : String} :
    (PairingUrl.parse J url).Agrees (PairingInfo.parse url) ↔
      ∀ query, url.toList = scheme ++ query → Alike J query := by
  by_cases hscheme : scheme.isPrefixOf url.toList = true
  · obtain ⟨query, hquery⟩ := List.isPrefixOf_iff_prefix.mp hscheme
    have hall : (∀ query, url.toList = scheme ++ query → Alike J query) ↔ Alike J query :=
      ⟨fun h ↦ h query hquery.symm, fun h other hother ↦
        List.append_cancel_left (hquery.trans hother) ▸ h⟩
    obtain ⟨hdesktop, hphone⟩ := parse_of_scheme J hquery.symm
    rw [hall, hdesktop, hphone]
    split_ifs with hequals
    · rw [foldlM_readPair hequals, ← entries, ← desktopEntries, ofParams_agrees_iff rfl]
      exact ⟨fun h ↦ ⟨hequals, h⟩, Alike.alike⟩
    · exact iff_of_false id fun h ↦ hequals h.equals
  · have hnot : scheme.isPrefixOf url.toList = false := Bool.not_eq_true _ ▸ hscheme
    rw [PairingInfo.parse, PairingUrl.parse, hnot]
    exact iff_of_true trivial fun query hquery ↦
      absurd (List.isPrefixOf_iff_prefix.mpr ⟨query, hquery.symm⟩) hscheme

/-! ## The desktop's own URLs -/

/-- A pair as it stands in a query. -/
def pairText (entry : List Char × List Char) : List Char := entry.1 ++ '=' :: entry.2

/-- A text without separators. -/
def Unseparated (text : List Char) : Prop := '&' ∉ text ∧ '=' ∉ text

instance (text : List Char) : Decidable (Unseparated text) :=
  inferInstanceAs (Decidable ('&' ∉ text ∧ '=' ∉ text))

/-- The pairs that are joined are found again. -/
theorem splitOn_intercalate_pairText {pairs : List (List Char × List Char)} (hpairs : pairs ≠ [])
    (h : ∀ entry ∈ pairs, Unseparated entry.1 ∧ Unseparated entry.2) :
    (['&'].intercalate (pairs.map pairText)).splitOn '&' = pairs.map pairText := by
  refine List.splitOn_intercalate '&' ?_ (by simpa using hpairs)
  intro text htext
  obtain ⟨entry, hentry, rfl⟩ := List.mem_map.mp htext
  obtain ⟨hkey, hvalue⟩ := h entry hentry
  simp [pairText, hkey.1, hvalue.1]

theorem entries_intercalate {pairs : List (List Char × List Char)} (hpairs : pairs ≠ [])
    (h : ∀ entry ∈ pairs, Unseparated entry.1 ∧ Unseparated entry.2) :
    entries (['&'].intercalate (pairs.map pairText)) = pairs := by
  have hpair : ∀ entry ∈ pairs, (splitPair ∘ pairText) entry = some entry := fun entry hentry ↦
    splitPair_append (h entry hentry).1.2
  rw [entries, splitOn_intercalate_pairText hpairs h, List.filterMap_map]
  exact (List.filterMap_congr hpair).trans List.filterMap_some

/-- The pairs of `generate_pairing_url`. -/
def urlEntries (publicKeyHex : String) (port : UInt16) (ipv4 : Option Ipv4Addr)
    (ipv6 : Option Ipv6Addr) : List (List Char × List Char) :=
  [("v".toList, "1".toList), ("pk".toList, publicKeyHex.toList),
      ("p".toList, Nat.toDigits 10 port.toNat)] ++
    ipv4.toList.map (fun ip ↦ ("ip4".toList, ip.display)) ++
    ipv6.toList.map (fun ip ↦ ("ip6".toList, ip.display))

section

variable {publicKeyHex : String} {port : UInt16} {ipv4 : Option Ipv4Addr} {ipv6 : Option Ipv6Addr}

theorem toList_generatePairingUrl :
    (Daemon.generatePairingUrl publicKeyHex port (ipv4.map fun ip ↦ String.ofList ip.display)
        (ipv6.map fun ip ↦ String.ofList ip.display)).toList =
      scheme ++ ['&'].intercalate ((urlEntries publicKeyHex port ipv4 ipv6).map pairText) := by
  have hstart : "tapauth://pair?v=1&pk=".toList =
      scheme ++ (pairText ("v".toList, "1".toList) ++ '&' :: ("pk".toList ++ ['='])) := rfl
  have hport : "&p=".toList = '&' :: ("p".toList ++ ['=']) := rfl
  have hipv4 : ((ipv4.map fun ip ↦ String.ofList ip.display).elim "" ("&ip4=" ++ ·)).toList =
      ipv4.elim [] fun ip ↦ '&' :: pairText ("ip4".toList, ip.display) := by
    cases ipv4 with
    | none => rfl
    | some ip => exact (String.toList_append ..).trans (congrArg _ String.toList_ofList)
  have hipv6 : ((ipv6.map fun ip ↦ String.ofList ip.display).elim "" ("&ip6=" ++ ·)).toList =
      ipv6.elim [] fun ip ↦ '&' :: pairText ("ip6".toList, ip.display) := by
    cases ipv6 with
    | none => rfl
    | some ip => exact (String.toList_append ..).trans (congrArg _ String.toList_ofList)
  unfold Daemon.generatePairingUrl
  simp only [String.toList_append, toList_toString]
  rw [hstart, hport, hipv4, hipv6]
  cases ipv4 <;> cases ipv6 <;>
    simp only [urlEntries, Option.toList, List.map_cons, List.map_nil, List.append_nil,
      List.cons_append, List.nil_append, List.intercalate_cons_cons, List.intercalate_singleton,
      Option.elim, List.append_assoc, pairText]

theorem unsignedValue_toDigits (n : Nat) : unsignedValue (Nat.toDigits 10 n) = some n := by
  have hdigits : ∀ c ∈ Nat.toDigits 10 n, c ≠ '+' :=
    forall_mem_toDigits (by decide) (by decide) n
  have hread : read (digit 10) 10 0 (Nat.toDigits 10 n) = some n :=
    read_toDigits (by decide) (digit_digitChar (by decide)) n
  unfold unsignedValue
  split
  next rest hrest => exact absurd rfl (hdigits '+' (hrest ▸ List.mem_cons_self))
  next => rw [digitsValue, if_neg Nat.toDigits_ne_nil, hread]

theorem JavaDigits.toIntOrNull_toDigits (J : JavaDigits) {n : Nat} (hn : n < 2 ^ 31) :
    J.toIntOrNull (Nat.toDigits 10 n) = some ↑n := by
  rw [toIntOrNull_eq J (unsignedValue_toDigits n), if_pos hn]

theorem unseparated_of_isAddressChar {text : List Char}
    (h : ∀ c ∈ text, IpText.IsAddressChar c) : Unseparated text := by
  have hand : ¬IpText.IsAddressChar '&' := by unfold IpText.IsAddressChar; decide
  have hequals : ¬IpText.IsAddressChar '=' := by unfold IpText.IsAddressChar; decide
  exact ⟨fun hmem ↦ hand (h _ hmem), fun hmem ↦ hequals (h _ hmem)⟩

theorem unseparated_urlEntries (hhex : ∀ c ∈ publicKeyHex.toList, (digit 16 c).isSome) :
    ∀ entry ∈ urlEntries publicKeyHex port ipv4 ipv6,
      Unseparated entry.1 ∧ Unseparated entry.2 := by
  intro entry hentry
  have hname : ∀ name ∈ ["v", "pk", "p", "ip4", "ip6"], Unseparated name.toList := by decide
  have hkey : Unseparated publicKeyHex.toList :=
    unseparated_of_isAddressChar fun c hc ↦ .inl (hhex c hc)
  have hport : Unseparated (Nat.toDigits 10 port.toNat) :=
    unseparated_of_isAddressChar fun c hc ↦
      .inl (IpText.isSome_digit_of_mem_toDigits (by decide) (by decide) hc)
  simp only [urlEntries, List.mem_append, List.mem_cons, List.not_mem_nil, or_false, List.mem_map,
    Option.mem_toList] at hentry
  obtain ((rfl | rfl | rfl) | ⟨ip, -, rfl⟩) | ⟨ip, -, rfl⟩ := hentry
  · exact ⟨hname "v" (by decide), by decide⟩
  · exact ⟨hname "pk" (by decide), hkey⟩
  · exact ⟨hname "p" (by decide), hport⟩
  · exact ⟨hname "ip4" (by decide),
      unseparated_of_isAddressChar fun c hc ↦ Ipv4Addr.isAddressChar_of_mem hc⟩
  · exact ⟨hname "ip6" (by decide),
      unseparated_of_isAddressChar fun c hc ↦ Ipv6Addr.isAddressChar_of_mem hc⟩

theorem Found.assign_port (found : Found) (port : UInt16) :
    found.assign "p".toList (Nat.toDigits 10 port.toNat) =
      .ok { found with port := some port } := by
  have hport : parseUnsigned (2 ^ 16) (Nat.toDigits 10 port.toNat) = some port.toNat := by
    rw [parseUnsigned, unsignedValue_toDigits, Option.filter_some,
      if_pos (decide_eq_true port.toNat_lt)]
  unfold Found.assign
  rw [if_neg (by decide), if_neg (by decide), if_pos rfl, hport]
  exact congrArg (fun port ↦ Except.ok { found with port := some port }) port.ofNat_toNat

theorem Found.assign_ipv4 (found : Found) (ip : Ipv4Addr) :
    found.assign "ip4".toList ip.display = .ok { found with ipv4 := some ip } := by
  unfold Found.assign
  rw [if_neg (by decide), if_neg (by decide), if_neg (by decide), if_pos rfl,
    Ipv4Addr.parse_display]

theorem Found.assign_ipv6 (found : Found) (ip : Ipv6Addr) :
    found.assign "ip6".toList ip.display = .ok { found with ipv6 := some ip } := by
  unfold Found.assign
  rw [if_neg (by decide), if_neg (by decide), if_neg (by decide), if_neg (by decide), if_pos rfl,
    Ipv6Addr.parse_display]

theorem foldlM_urlEntries :
    (urlEntries publicKeyHex port ipv4 ipv6).foldlM
        (fun found entry ↦ found.assign entry.1 entry.2) Found.empty =
      .ok ⟨some 1, some publicKeyHex, some port, ipv4, ipv6⟩ := by
  have hversion : Found.empty.assign "v".toList "1".toList =
      .ok { Found.empty with version := some 1 } := rfl
  have hkey (found : Found) : found.assign "pk".toList publicKeyHex.toList =
      .ok { found with publicKeyHex := some publicKeyHex } := by
    nth_rewrite 2 [← String.ofList_toList (s := publicKeyHex)]
    rfl
  cases ipv4 <;> cases ipv6 <;>
    simp only [urlEntries, Option.toList, List.map_cons, List.map_nil, List.append_nil,
      List.cons_append, List.nil_append, List.foldlM_cons, List.foldlM_nil, hversion, hkey,
      Found.assign_port, Found.assign_ipv4, Found.assign_ipv6] <;>
    rfl

theorem ofParams_urlEntries (J : JavaDigits) :
    PairingUrl.ofParams J (Entries.enter (fun _ ↦ none) (urlEntries publicKeyHex port ipv4 ipv6)) =
      .parsed ⟨1, publicKeyHex, port.toNat, ipv4.map fun ip ↦ String.ofList ip.display,
        ipv6.map fun ip ↦ String.ofList ip.display⟩ := by
  have hport : port.toNat < 2 ^ 31 := port.toNat_lt.trans (by decide)
  set params := Entries.enter (fun _ ↦ none) (urlEntries publicKeyHex port ipv4 ipv6)
  have hv : params "v".toList = some (Nat.toDigits 10 1) := by
    cases ipv4 <;> cases ipv6 <;> rfl
  have hpk : params "pk".toList = some publicKeyHex.toList := by
    cases ipv4 <;> cases ipv6 <;> rfl
  have hp : params "p".toList = some (Nat.toDigits 10 port.toNat) := by
    cases ipv4 <;> cases ipv6 <;> rfl
  have hip4 : params "ip4".toList = ipv4.map Ipv4Addr.display := by
    cases ipv4 <;> cases ipv6 <;> rfl
  have hip6 : params "ip6".toList = ipv6.map Ipv6Addr.display := by
    cases ipv4 <;> cases ipv6 <;> rfl
  unfold PairingUrl.ofParams
  rw [hv, hpk, hp, hip4, hip6, Option.bind_some, Option.bind_some,
    J.toIntOrNull_toDigits (by decide), J.toIntOrNull_toDigits hport, Option.map_map,
    Option.map_map]
  exact congrArg PhoneParse.parsed (by rw [String.ofList_toList]; rfl)

theorem parse_generatePairingUrl (J : JavaDigits)
    (hhex : ∀ c ∈ publicKeyHex.toList, (digit 16 c).isSome) :
    let ipv4Text := ipv4.map fun ip ↦ String.ofList ip.display
    let ipv6Text := ipv6.map fun ip ↦ String.ofList ip.display
    let url := Daemon.generatePairingUrl publicKeyHex port ipv4Text ipv6Text
    PairingInfo.parse url = .ok ⟨1, publicKeyHex, port, ipv4, ipv6⟩ ∧
      PairingUrl.parse J url = .parsed ⟨1, publicKeyHex, port.toNat, ipv4Text, ipv6Text⟩ := by
  intro ipv4Text ipv6Text url
  have hne : urlEntries publicKeyHex port ipv4 ipv6 ≠ [] := List.cons_ne_nil _ _
  have hunseparated : ∀ entry ∈ urlEntries publicKeyHex port ipv4 ipv6,
      Unseparated entry.1 ∧ Unseparated entry.2 := unseparated_urlEntries hhex
  have hentries := entries_intercalate hne hunseparated
  have hequals : ∀ pair ∈ (['&'].intercalate
      ((urlEntries publicKeyHex port ipv4 ipv6).map pairText)).splitOn '&', '=' ∈ pair := by
    rw [splitOn_intercalate_pairText hne hunseparated]
    intro text htext
    obtain ⟨entry, hentry, rfl⟩ := List.mem_map.mp htext
    exact List.mem_append_right _ List.mem_cons_self
  have hcut : (urlEntries publicKeyHex port ipv4 ipv6).map (fun entry ↦ (entry.1, cut entry.2)) =
      urlEntries publicKeyHex port ipv4 ipv6 := by
    refine (List.map_congr_left (g := id) fun entry hentry ↦ ?_).trans (List.map_id _)
    rw [cut_eq_self_iff.mpr (hunseparated entry hentry).2.2]
    rfl
  obtain ⟨hdesktop, hphone⟩ := parse_of_scheme J toList_generatePairingUrl
  rw [if_pos hequals, params, hentries, ofParams_urlEntries] at hphone
  rw [foldlM_readPair hequals, ← entries, hentries, hcut, foldlM_urlEntries] at hdesktop
  exact ⟨hdesktop, hphone⟩

end

/-! ## The two parsers -/

/-- The parsers agree on a text exactly if its query, if it has the scheme, is one in which their
differences make none, and they read every URL of the desktop as what it was made of. -/
theorem pairing_parsers_agree_iff (J : JavaDigits) :
    (∀ url : String, (PairingUrl.parse J url).Agrees (PairingInfo.parse url) ↔
        ∀ query, url.toList = scheme ++ query → Alike J query) ∧
      ∀ (publicKeyHex : String) (port : UInt16) (ipv4 : Option Ipv4Addr) (ipv6 : Option Ipv6Addr),
        (∀ c ∈ publicKeyHex.toList, (digit 16 c).isSome) →
          let ipv4Text := ipv4.map fun ip ↦ String.ofList ip.display
          let ipv6Text := ipv6.map fun ip ↦ String.ofList ip.display
          let url := Daemon.generatePairingUrl publicKeyHex port ipv4Text ipv6Text
          PairingInfo.parse url = .ok ⟨1, publicKeyHex, port, ipv4, ipv6⟩ ∧
            PairingUrl.parse J url =
              .parsed ⟨1, publicKeyHex, port.toNat, ipv4Text, ipv6Text⟩ :=
  ⟨fun _ ↦ agrees_iff, fun _ _ _ _ hhex ↦ parse_generatePairingUrl J hhex⟩

/-- A phone that knows the ASCII digits only. -/
def asciiDigits : JavaDigits := ⟨digit 10, fun _ _ ↦ rfl⟩

def sampleQuery : List Char := "p=+5&v=1&x=1=2&pk=ab".toList

def sampleUrl : String := "tapauth://pair?p=+5&v=1&x=1=2&pk=ab"

theorem alike_sampleQuery : Alike asciiDigits sampleQuery where
  equals := by decide
  alike := .inl
    { version := ⟨"1".toList, 1, by decide⟩
      publicKey := ⟨"ab".toList, by decide⟩
      port := ⟨"+5".toList, 5, by decide⟩
      ipv4 := by
        rw [show params sampleQuery "ip4".toList = none by decide]
        nofun
      ipv6 := by
        rw [show params sampleQuery "ip6".toList = none by decide]
        nofun
      readable := by
        unfold Unreadable
        decide }

theorem pairing_parsers_agree_iff_sample :
    (PairingUrl.parse asciiDigits sampleUrl).Agrees (PairingInfo.parse sampleUrl) ∧
      PairingInfo.parse (Daemon.generatePairingUrl "ab" 5 none none) =
        .ok ⟨1, "ab", 5, none, none⟩ := by
  obtain ⟨hagree, hown⟩ := pairing_parsers_agree_iff asciiDigits
  have hurl : sampleUrl.toList = scheme ++ sampleQuery := rfl
  have hhex : ∀ c ∈ ['a', 'b'], (digit 16 c).isSome :=
    List.forall_mem_cons.mpr ⟨rfl, List.forall_mem_singleton.mpr rfl⟩
  constructor
  · refine (hagree sampleUrl).mpr fun query hquery ↦ ?_
    rw [hurl] at hquery
    exact List.append_cancel_left hquery ▸ alike_sampleQuery
  · exact (hown "ab" 5 none none hhex).1

/-- A pair without `=` makes the phone throw, and it takes a port that no socket has. -/
theorem pairing_parsers_differ :
    PairingInfo.parse "tapauth://pair?v" = .error .invalidQuery ∧
      PairingInfo.parse "tapauth://pair?v=1&pk=ab&p=70000" = .error .invalidPort ∧
      ∀ J : JavaDigits, PairingUrl.parse J "tapauth://pair?v" = .throws ∧
        PairingUrl.parse J "tapauth://pair?v=1&pk=ab&p=70000" =
          .parsed ⟨1, "ab", 70000, none, none⟩ := by
  refine ⟨by decide, by decide, fun J ↦ ⟨rfl, ?_⟩⟩
  have hurl : "tapauth://pair?v=1&pk=ab&p=70000".toList =
      scheme ++ "v=1&pk=ab&p=70000".toList := rfl
  have hv : params "v=1&pk=ab&p=70000".toList "v".toList = some (Nat.toDigits 10 1) := rfl
  have hp : params "v=1&pk=ab&p=70000".toList "p".toList = some (Nat.toDigits 10 70000) := by
    decide
  rw [(parse_of_scheme J hurl).2, if_pos (by decide), PairingUrl.ofParams, hv, hp, Option.bind_some,
    Option.bind_some, J.toIntOrNull_toDigits (by decide), J.toIntOrNull_toDigits (by decide)]
  rfl

end TapAuth.System.PairingUrls
