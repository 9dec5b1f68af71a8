import Mathlib.Algebra.Group.Nat.Defs
import Mathlib.Data.List.Basic
import Mathlib.Data.Fin.Basic

/-!
# Byte strings

Byte strings of arbitrary length (`Bytes`), byte strings whose length is part of
their type (`FixedBytes n`), and their spelling in hexadecimal digits.  The
decoder takes digits of either case; the encoder writes lower case, and decoding
is its left inverse (`hexDecode_hexEncode`).
-/

/-- A byte string. -/
abbrev Bytes := List UInt8

/-- A byte string of length `n`. -/
def FixedBytes (n : Nat) := { b : Bytes // b.length = n }

namespace FixedBytes

variable {n : Nat}

instance : DecidableEq (FixedBytes n) :=
  inferInstanceAs (DecidableEq { b : Bytes // b.length = n })

/-- The bytes of a fixed-length byte string. -/
def bytes (b : FixedBytes n) : Bytes := b.val

@[simp] theorem length_bytes (b : FixedBytes n) : b.bytes.length = n := b.property

theorem bytes_injective : Function.Injective (bytes (n := n)) := Subtype.val_injective

/-- A byte string, if it has the wanted length. -/
def ofBytes (n : Nat) (b : Bytes) : Option (FixedBytes n) :=
  if h : b.length = n then some ⟨b, h⟩ else none

@[simp] theorem ofBytes_bytes (b : FixedBytes n) : ofBytes n b.bytes = some b :=
  dif_pos b.property

theorem ofBytes_eq_some {b : Bytes} {c : FixedBytes n} :
    ofBytes n b = some c ↔ b = c.bytes := by
  constructor
  · intro h
    unfold ofBytes at h
    split at h
    · cases h; rfl
    · cases h
  · rintro rfl
    exact ofBytes_bytes c

/-- The byte string of `n` equal bytes. -/
def fill (n : Nat) (x : UInt8) : FixedBytes n := ⟨List.replicate n x, List.length_replicate⟩

end FixedBytes

/-! ## Hexadecimal -/

/-- The lower-case digit of a nibble. -/
def nibbleToDigit (x : Fin 16) : Char :=
  if x.val < 10 then Char.ofNat ('0'.toNat + x.val) else Char.ofNat ('a'.toNat + (x.val - 10))

/-- The nibble of a digit of either case. -/
def digitToNibble (c : Char) : Option (Fin 16) :=
  if '0' ≤ c ∧ c ≤ '9' then some (Fin.ofNat 16 (c.toNat - '0'.toNat))
  else if 'a' ≤ c ∧ c ≤ 'f' then some (Fin.ofNat 16 (c.toNat - 'a'.toNat + 10))
  else if 'A' ≤ c ∧ c ≤ 'F' then some (Fin.ofNat 16 (c.toNat - 'A'.toNat + 10))
  else none

theorem digitToNibble_nibbleToDigit : ∀ x : Fin 16, digitToNibble (nibbleToDigit x) = some x := by
  decide

/-- The two digits of a byte, high nibble first. -/
def byteToDigits (b : UInt8) : List Char :=
  [nibbleToDigit (Fin.ofNat 16 (b.toNat / 16)), nibbleToDigit (Fin.ofNat 16 (b.toNat % 16))]

/-- Bytes in lower-case hexadecimal digits. -/
def hexEncode (bs : Bytes) : String := String.ofList (bs.flatMap byteToDigits)

/-- Read digits two at a time; an odd digit or a character that is no digit
fails. -/
def digitsToBytes : List Char → Option Bytes
  | [] => some []
  | [_] => none
  | c :: d :: rest => do
      let hi ← digitToNibble c
      let lo ← digitToNibble d
      let bs ← digitsToBytes rest
      return UInt8.ofNat (hi.val * 16 + lo.val) :: bs

/-- The bytes a hexadecimal string spells. -/
def hexDecode (s : String) : Option Bytes := digitsToBytes s.toList

theorem ofNat_nibbles (b : UInt8) :
    UInt8.ofNat ((Fin.ofNat 16 (b.toNat / 16)).val * 16 + (Fin.ofNat 16 (b.toNat % 16)).val) =
      b := by
  have hb : b.toNat < 2 ^ 8 := b.toNat_lt
  have hsum : b.toNat / 16 % 16 * 16 + b.toNat % 16 % 16 = b.toNat := by omega
  exact (congrArg UInt8.ofNat hsum).trans UInt8.ofNat_toNat

theorem digitsToBytes_flatMap (bs : Bytes) : digitsToBytes (bs.flatMap byteToDigits) = some bs := by
  induction bs with
  | nil => rfl
  | cons b bs ih =>
    change digitsToBytes (_ :: _ :: bs.flatMap byteToDigits) = _
    rw [digitsToBytes, digitToNibble_nibbleToDigit, digitToNibble_nibbleToDigit, ih]
    exact congrArg (fun x ↦ some (x :: bs)) (ofNat_nibbles b)

@[simp] theorem hexDecode_hexEncode (bs : Bytes) : hexDecode (hexEncode bs) = some bs := by
  rw [hexDecode, hexEncode, String.toList_ofList, digitsToBytes_flatMap]

theorem hexEncode_injective : Function.Injective hexEncode := by
  intro as bs h
  have hd : hexDecode (hexEncode as) = hexDecode (hexEncode bs) := congrArg hexDecode h
  simpa using hd
