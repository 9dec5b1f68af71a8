import TapAuth.Lib.Codec

/-!
# The proto3 wire format

A message on the wire is a sequence of fields.  A field is a key, which is its number and
its wire type, and a value: a varint, or a length and as many bytes.  The encoding is the
canonical one: fields in the order of their numbers, varints as short as possible, and no
field whose value is its default.

A message is written by listing its fields (`uintField`, `bytesField`, `messageField`) and
read by looking the fields up (`uintAt`, `bytesAt`, `lastField`); of several fields with one
number the last counts.  `Proto3.fields` is the format of lists of fields.

The two wire types with values of fixed size are not covered, and a reader refuses a
message that has one.  A varint is any natural number: messages write machine words.
-/

namespace Proto3

/-! ## Varints -/

/-- Groups of seven bits, low group first; all but the last have the high bit set. -/
def groups : Nat → Nat → Bytes
  | 0, _ => []
  | fuel + 1, n =>
    if n < 128 then [UInt8.ofNat n] else UInt8.ofNat (n % 128 + 128) :: groups fuel (n / 128)

def readGroups : Bytes → Option (Nat × Bytes)
  | [] => none
  | b :: rest =>
    if b.toNat < 128 then some (b.toNat, rest)
    else (readGroups rest).map fun p ↦ (b.toNat - 128 + 128 * p.1, p.2)

theorem readGroups_groups {fuel n : Nat} (h : n < fuel) (rest : Bytes) :
    readGroups (groups fuel n ++ rest) = some (n, rest) := by
  induction fuel generalizing n with
  | zero => exact absurd h (Nat.not_lt_zero n)
  | succ fuel ih =>
    rw [groups]
    split_ifs with hsmall
    · have hn : (UInt8.ofNat n).toNat = n := by
        rw [UInt8.toNat_ofNat']
        omega
      rw [List.singleton_append, readGroups, hn, if_pos hsmall]
    · have hlow : (UInt8.ofNat (n % 128 + 128)).toNat = n % 128 + 128 := by
        rw [UInt8.toNat_ofNat']
        omega
      have hhigh : n / 128 < fuel := by omega
      rw [List.cons_append, readGroups, if_neg (by omega), ih hhigh, Option.map_some, hlow]
      congr 2
      omega

def varint : Codec Nat where
  encode n := groups (n + 1) n
  read := readGroups
  read_encode n := readGroups_groups n.lt_succ_self

theorem varint_encode_ne_nil (n : Nat) : varint.encode n ≠ [] := by
  change groups (n + 1) n ≠ []
  rw [groups]
  split_ifs <;> exact List.cons_ne_nil _ _

/-! ## Fields -/

/-- A length and as many bytes. -/
def delimited : Codec Bytes where
  encode data := varint.encode data.length ++ data
  read input := (varint.read input).bind fun p ↦
    if p.2.length < p.1 then none else some (p.2.take p.1, p.2.drop p.1)
  read_encode data rest := by
    rw [List.append_assoc, varint.read_encode, Option.bind_some, List.length_append,
      if_neg (by omega), List.take_left, List.drop_left]

inductive Value where
  | varint (n : Nat)
  | delimited (data : Bytes)
  deriving DecidableEq

structure Field where
  number : Nat
  value : Value
  deriving DecidableEq

def encodeField : Field → Bytes
  | ⟨number, .varint n⟩ => varint.encode (number * 8) ++ varint.encode n
  | ⟨number, .delimited data⟩ => varint.encode (number * 8 + 2) ++ delimited.encode data

/-- The wire type is in the low three bits of the key. -/
def readField (input : Bytes) : Option (Field × Bytes) :=
  (varint.read input).bind fun key ↦
    if key.1 % 8 = 0 then
      (varint.read key.2).map fun p ↦ (⟨key.1 / 8, .varint p.1⟩, p.2)
    else if key.1 % 8 = 2 then
      (delimited.read key.2).map fun p ↦ (⟨key.1 / 8, .delimited p.1⟩, p.2)
    else none

theorem readField_encodeField (field : Field) (rest : Bytes) :
    readField (encodeField field ++ rest) = some (field, rest) := by
  obtain ⟨number, n | data⟩ := field
  · have htype : number * 8 % 8 = 0 := by omega
    have hnumber : number * 8 / 8 = number := by omega
    rw [encodeField, List.append_assoc, readField, varint.read_encode, Option.bind_some,
      if_pos htype, varint.read_encode, Option.map_some, hnumber]
  · have htype : (number * 8 + 2) % 8 = 2 := by omega
    have hnumber : (number * 8 + 2) / 8 = number := by omega
    rw [encodeField, List.append_assoc, readField, varint.read_encode, Option.bind_some,
      htype, if_neg (by decide), if_pos rfl, delimited.read_encode, Option.map_some, hnumber]

theorem encodeField_ne_nil (field : Field) : encodeField field ≠ [] := by
  obtain ⟨number, n | data⟩ := field <;>
    exact List.append_ne_nil_of_left_ne_nil (varint_encode_ne_nil _) _

/-! ## Messages -/

def encodeFields (fields : List Field) : Bytes := fields.flatMap encodeField

/-- Read fields to the end of the input, which has at most `fuel` of them. -/
def readFields : Nat → Bytes → Option (List Field)
  | _, [] => some []
  | 0, _ => none
  | fuel + 1, input =>
    (readField input).bind fun p ↦ (readFields fuel p.2).map (p.1 :: ·)

theorem length_le_length_encodeFields (fields : List Field) :
    fields.length ≤ (encodeFields fields).length := by
  induction fields with
  | nil => exact Nat.zero_le _
  | cons field fields ih =>
    have hpos := List.length_pos_iff.mpr (encodeField_ne_nil field)
    rw [encodeFields, List.flatMap_cons, List.length_append, ← encodeFields, List.length_cons]
    omega

theorem readFields_encodeFields {fields : List Field} {fuel : Nat} (h : fields.length ≤ fuel) :
    readFields fuel (encodeFields fields) = some fields := by
  induction fields generalizing fuel with
  | nil => cases fuel <;> rfl
  | cons field fields ih =>
    obtain ⟨fuel, rfl⟩ : ∃ n, fuel = n + 1 := ⟨fuel - 1, by rw [List.length_cons] at h; omega⟩
    have hread := readField_encodeField field (encodeFields fields)
    have hinput : encodeFields (field :: fields) = encodeField field ++ encodeFields fields := rfl
    have hrest := ih (Nat.le_of_succ_le_succ h)
    rw [hinput, readFields, hread, Option.bind_some, hrest, Option.map_some]
    intro hnil
    exact encodeField_ne_nil field (List.append_eq_nil_iff.mp hnil).1

/-- The format of a sequence of fields. -/
def fields : Format (List Field) where
  encode := encodeFields
  decode input := ((readFields input.length input).elim (.error "malformed message") .ok)
  decode_encode fs := by
    rw [readFields_encodeFields (length_le_length_encodeFields fs)]
    rfl

@[simp] theorem fields_decode_encodeFields (fs : List Field) :
    fields.decode (encodeFields fs) = .ok fs :=
  fields.decode_encode fs

/-! ## Writing and looking up fields -/

/-- A number or an enumeration; the default is not written. -/
def uintField (number n : Nat) : List Field := if n = 0 then [] else [⟨number, .varint n⟩]

/-- Bytes or a text; the default is not written. -/
def bytesField (number : Nat) (data : Bytes) : List Field :=
  if data = [] then [] else [⟨number, .delimited data⟩]

/-- A message in a message.  It has no default: an empty one is written. -/
def messageField (number : Nat) (message : List Field) : List Field :=
  [⟨number, .delimited (encodeFields message)⟩]

/-- The last field whose number is one of those asked for. -/
def lastField (asked : Nat → Bool) (fields : List Field) : Option Field :=
  fields.reverse.find? (asked ·.number)

@[simp] theorem lastField_nil (asked : Nat → Bool) : lastField asked [] = none := rfl

theorem lastField_append (asked : Nat → Bool) (fs gs : List Field) :
    lastField asked (fs ++ gs) = (lastField asked gs).or (lastField asked fs) := by
  rw [lastField, List.reverse_append, List.find?_append]
  rfl

theorem lastField_uintField (asked : Nat → Bool) (number n : Nat) :
    lastField asked (uintField number n) =
      if n ≠ 0 ∧ asked number then some ⟨number, .varint n⟩ else none := by
  by_cases hn : n = 0
  · simp [uintField, hn, lastField]
  · cases hasked : asked number <;> simp [uintField, hn, lastField, hasked]

theorem lastField_bytesField (asked : Nat → Bool) (number : Nat) (data : Bytes) :
    lastField asked (bytesField number data) =
      if data ≠ [] ∧ asked number then some ⟨number, .delimited data⟩ else none := by
  by_cases hdata : data = []
  · simp [bytesField, hdata, lastField]
  · cases hasked : asked number <;> simp [bytesField, hdata, lastField, hasked]

/-- The number of a field, refused if it is none. -/
def uintAt (number : Nat) (fields : List Field) : Option Nat :=
  match lastField (· = number) fields with
  | none => some 0
  | some ⟨_, .varint n⟩ => some n
  | some ⟨_, .delimited _⟩ => none

/-- The bytes of a field, refused if they are none. -/
def bytesAt (number : Nat) (fields : List Field) : Option Bytes :=
  match lastField (· = number) fields with
  | none => some []
  | some ⟨_, .varint _⟩ => none
  | some ⟨_, .delimited data⟩ => some data

/-- Fields that agree with the one written where its number is asked for. -/
theorem uintAt_of_lastField {number n : Nat} {fs : List Field}
    (h : lastField (· = number) fs = lastField (· = number) (uintField number n)) :
    uintAt number fs = some n := by
  rw [uintAt, h, lastField_uintField]
  by_cases hn : n = 0
  · simp [hn]
  · simp [hn]

theorem bytesAt_of_lastField {number : Nat} {data : Bytes} {fs : List Field}
    (h : lastField (· = number) fs = lastField (· = number) (bytesField number data)) :
    bytesAt number fs = some data := by
  rw [bytesAt, h, lastField_bytesField]
  by_cases hdata : data = []
  · simp [hdata]
  · simp [hdata]

/-! ## Short messages

The length of an encoding, where keys, numbers and lengths fit in a byte. -/

theorem length_varint_encode {n : Nat} (h : n < 128) : (varint.encode n).length = 1 := by
  change (groups (n + 1) n).length = 1
  rw [groups, if_pos h]
  rfl

theorem length_encodeFields_append (fs gs : List Field) :
    (encodeFields (fs ++ gs)).length = (encodeFields fs).length + (encodeFields gs).length := by
  rw [encodeFields, List.flatMap_append, List.length_append, ← encodeFields, ← encodeFields]

theorem length_encodeFields_uintField {number n : Nat} (hnumber : number < 16) (hpos : n ≠ 0)
    (hn : n < 128) : (encodeFields (uintField number n)).length = 2 := by
  rw [uintField, if_neg hpos]
  simp [encodeFields, encodeField, length_varint_encode hn,
    length_varint_encode (show number * 8 < 128 by omega)]

theorem length_encodeFields_delimited {number : Nat} {data : Bytes} (hnumber : number < 16)
    (hdata : data.length < 128) :
    (encodeFields [⟨number, .delimited data⟩]).length = data.length + 2 := by
  simp [encodeFields, encodeField, delimited, length_varint_encode hdata,
    length_varint_encode (show number * 8 + 2 < 128 by omega)]
  omega

end Proto3
