import Mathlib.Data.List.AList
import TapAuth.Lib.Bytes

/-!
# Wire formats and self-delimiting codecs

A `Format α` is a way to write values of `α` as whole byte strings together with
the fact that reading gives back what was written.  A `Codec α` is a stronger
thing: its encodings are self-delimiting, so that codecs compose.  The
combinators here build codecs for records (`prod`), alternatives (`sum`) and
sequences (`list`) from codecs of their parts, and `map` carries a codec over a
retraction; every codec then is a format (`Codec.format`).
-/

universe u v

/-- A wire format: reading gives back what was written; what cannot be read is
refused with a text. -/
structure Format (α : Type u) where
  encode : α → Bytes
  decode : Bytes → Except String α
  decode_encode : ∀ a, decode (encode a) = .ok a

/-- A self-delimiting codec: reading stops at the end of what was written,
whatever follows it. -/
structure Codec (α : Type u) where
  encode : α → Bytes
  read : Bytes → Option (α × Bytes)
  read_encode : ∀ a rest, read (encode a ++ rest) = some (a, rest)

namespace Codec

variable {α : Type u} {β : Type v}

/-- Read a whole byte string. -/
def decode (A : Codec α) (b : Bytes) : Except String α :=
  match A.read b with
  | some (a, []) => .ok a
  | _ => .error "malformed message"

/-- A codec as a wire format of whole byte strings. -/
def format (A : Codec α) : Format α where
  encode := A.encode
  decode := A.decode
  decode_encode a := by
    have h : A.read (A.encode a) = some (a, []) := by simpa using A.read_encode a []
    simp [decode, h]

/-- Nothing at all. -/
def unit : Codec Unit where
  encode _ := []
  read input := some ((), input)
  read_encode _ _ := rfl

/-- One byte. -/
def byte : Codec UInt8 where
  encode b := [b]
  read
    | [] => none
    | b :: rest => some (b, rest)
  read_encode _ _ := rfl

/-- Carry a codec over a retraction. -/
def map (A : Codec α) (f : α → β) (g : β → α) (h : ∀ b, f (g b) = b) : Codec β where
  encode b := A.encode (g b)
  read input := (A.read input).map fun p ↦ (f p.1, p.2)
  read_encode b rest := by rw [A.read_encode, Option.map_some, h]

/-- One value after the other. -/
def prod (A : Codec α) (B : Codec β) : Codec (α × β) where
  encode p := A.encode p.1 ++ B.encode p.2
  read input := (A.read input).bind fun p ↦ (B.read p.2).map fun q ↦ ((p.1, q.1), q.2)
  read_encode p rest := by
    rw [List.append_assoc, A.read_encode, Option.bind_some, B.read_encode, Option.map_some]

/-- A tag byte, then the value of the alternative it names. -/
def sum (A : Codec α) (B : Codec β) : Codec (α ⊕ β) where
  encode
    | .inl a => 0 :: A.encode a
    | .inr b => 1 :: B.encode b
  read
    | [] => none
    | tag :: input =>
      if tag = 0 then (A.read input).map fun p ↦ (.inl p.1, p.2)
      else (B.read input).map fun p ↦ (.inr p.1, p.2)
  read_encode x rest := by
    cases x with
    | inl a => simp [A.read_encode]
    | inr b => simp [B.read_encode]

/-- A value that may be absent. -/
def option (A : Codec α) : Codec (Option α) :=
  (unit.sum A).map (Sum.elim (fun _ ↦ none) some) (fun o ↦ o.elim (.inl ()) .inr) fun o ↦ by
    cases o <;> rfl

/-- Elements each behind a byte `1`, closed by a byte `0`. -/
def encodeList (A : Codec α) : List α → Bytes
  | [] => [0]
  | a :: as => 1 :: (A.encode a ++ encodeList A as)

/-- Read elements until the closing byte, at most `fuel` bytes of framing. -/
def readList (A : Codec α) : Nat → Bytes → Option (List α × Bytes)
  | 0, _ => none
  | _ + 1, [] => none
  | fuel + 1, tag :: input =>
    if tag = 0 then some ([], input)
    else (A.read input).bind fun p ↦ (readList A fuel p.2).map fun q ↦ (p.1 :: q.1, q.2)

theorem length_lt_length_encodeList (A : Codec α) (as : List α) :
    as.length < (encodeList A as).length := by
  induction as with
  | nil => simp [encodeList]
  | cons a as ih => simp only [encodeList, List.length_cons, List.length_append]; omega

theorem readList_encodeList (A : Codec α) (as : List α) (rest : Bytes) {fuel : Nat}
    (h : as.length < fuel) : readList A fuel (encodeList A as ++ rest) = some (as, rest) := by
  induction as generalizing fuel with
  | nil =>
    obtain ⟨n, rfl⟩ : ∃ n, fuel = n + 1 := ⟨fuel - 1, by simp at h; omega⟩
    simp [encodeList, readList]
  | cons a as ih =>
    obtain ⟨n, rfl⟩ : ∃ n, fuel = n + 1 := ⟨fuel - 1, by simp at h; omega⟩
    have hn : as.length < n := by simpa using h
    simp [encodeList, readList, A.read_encode, ih hn]

/-- A sequence of values. -/
def list (A : Codec α) : Codec (List α) where
  encode := encodeList A
  read input := readList A input.length input
  read_encode as rest := by
    refine readList_encodeList A as rest ?_
    have := length_lt_length_encodeList A as
    rw [List.length_append]
    omega

/-! ## Machine words, characters and text -/

/-- Four bytes, low byte first. -/
def uint32 : Codec UInt32 :=
  (byte.prod (byte.prod (byte.prod byte))).map
    (fun p ↦ UInt32.ofNat
      (p.1.toNat + 256 * (p.2.1.toNat + 256 * (p.2.2.1.toNat + 256 * p.2.2.2.toNat))))
    (fun x ↦ (UInt8.ofNat x.toNat, UInt8.ofNat (x.toNat / 256), UInt8.ofNat (x.toNat / 65536),
      UInt8.ofNat (x.toNat / 16777216)))
    (by
      intro x
      apply UInt32.toNat_inj.mp
      have hx := x.toNat_lt
      simp only [UInt8.toNat_ofNat', UInt32.toNat_ofNat']
      omega)

/-- Two four-byte words, low word first. -/
def uint64 : Codec UInt64 :=
  (uint32.prod uint32).map (fun p ↦ UInt64.ofNat (p.1.toNat + 2 ^ 32 * p.2.toNat))
    (fun x ↦ (UInt32.ofNat x.toNat, UInt32.ofNat (x.toNat / 2 ^ 32)))
    (by
      intro x
      apply UInt64.toNat_inj.mp
      have hx := x.toNat_lt
      simp only [UInt32.toNat_ofNat', UInt64.toNat_ofNat']
      omega)

/-- A signed word in the bytes of its bit pattern. -/
def int32 : Codec Int32 := uint32.map UInt32.toInt32 Int32.toUInt32 Int32.toInt32_toUInt32

/-- A truth value in one byte. -/
def bool : Codec Bool :=
  byte.map (fun b ↦ b == 1) (fun b ↦ if b then 1 else 0) (by decide)

/-- A character in the bytes of its code point. -/
def char : Codec Char :=
  uint32.map (fun x ↦ Char.ofNat x.toNat) Char.val fun c ↦ Char.ofNat_toNat c

/-- A text as its characters. -/
def string : Codec String :=
  (list char).map String.ofList String.toList fun _ ↦ String.ofList_toList

/-- A byte string as its bytes. -/
def bytes : Codec Bytes := list byte

/-- A map, as the list of its entries. -/
def alist [DecidableEq α] (K : Codec α) (V : Codec β) : Codec (AList fun _ : α ↦ β) :=
  (list ((K.prod V).map (fun p ↦ ⟨p.1, p.2⟩) (fun e ↦ (e.1, e.2)) fun _ ↦ rfl)).map
    (fun entries ↦ if h : entries.keys.Nodup then ⟨entries, h⟩ else ∅)
    AList.entries
    (fun m ↦ dif_pos m.nodupKeys)

end Codec
