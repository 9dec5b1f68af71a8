import Mathlib.Data.Nat.Notation
import Mathlib.Data.List.Infix

/-!
# Numbers as texts

`Numeral.read` takes the digits of a number from the left, in any radix and with any idea
of what a digit is.  Read as digits of the same radix, the text `Nat.toDigits` writes is the
number again (`Numeral.read_toDigits`).
-/

namespace Numeral

/-- The value of an ASCII digit or letter. -/
def digitValue (c : Char) : Option Nat :=
  if '0' ≤ c ∧ c ≤ '9' then some (c.toNat - '0'.toNat)
  else if 'a' ≤ c ∧ c ≤ 'z' then some (c.toNat - 'a'.toNat + 10)
  else if 'A' ≤ c ∧ c ≤ 'Z' then some (c.toNat - 'A'.toNat + 10)
  else none

/-- The ASCII digits of a radix. -/
def digit (radix : Nat) (c : Char) : Option Nat := (digitValue c).filter (· < radix)

theorem toList_toString (n : Nat) : (toString n).toList = Nat.toDigits 10 n := by
  rw [Nat.toString_eq_ofList_toDigits, String.toList_ofList]

/-- The number that the digits `text` make of `value`. -/
def read (digit : Char → Option Nat) (radix : Nat) : Nat → List Char → Option Nat
  | value, [] => some value
  | value, c :: text =>
    match digit c with
    | none => none
    | some d => read digit radix (value * radix + d) text

theorem digitValue_digitChar : ∀ d < 16, digitValue d.digitChar = some d := by decide

theorem digit_digitChar {radix : Nat} (hradix : radix ≤ 16) :
    ∀ d < radix, digit radix d.digitChar = some d := by
  intro d hd
  rw [digit, digitValue_digitChar d (hd.trans_le hradix)]
  simp [hd]

/-- The decimal digits are those of `Char.isDigit`. -/
theorem digit_ten_eq (c : Char) :
    digit 10 c = if c.isDigit then some (c.toNat - '0'.toNat) else none := by
  have hdigit : c.isDigit = true ↔ '0' ≤ c ∧ c ≤ '9' := by
    simp [Char.isDigit, Char.le_def]
  by_cases h : '0' ≤ c ∧ c ≤ '9'
  · have hnine : c.toNat ≤ 57 := (Char.isDigit_iff_toNat.mp (hdigit.mpr h)).2
    have hten : c.toNat - '0'.toNat < 10 := by
      rw [show '0'.toNat = 48 from rfl]
      omega
    rw [digit, digitValue, if_pos h, if_pos (hdigit.mpr h)]
    simpa using hten
  · rw [digit, digitValue, if_neg h, if_neg (mt hdigit.mp h)]
    split_ifs
    · simp
    · simp
    · rfl

section

variable {digit : Char → Option Nat} {radix : Nat}

theorem read_append (value : Nat) (text rest : List Char) :
    read digit radix value (text ++ rest) =
      (read digit radix value text).bind fun next ↦ read digit radix next rest := by
  induction text generalizing value with
  | nil => rfl
  | cons c text ih =>
    simp only [List.cons_append, read]
    cases digit c with
    | none => rfl
    | some d => exact ih _

variable {text : List Char}

theorem read_congr {other : Char → Option Nat} (h : ∀ c ∈ text, digit c = other c) (value : Nat) :
    read digit radix value text = read other radix value text := by
  induction text generalizing value with
  | nil => rfl
  | cons c text ih =>
    obtain ⟨hc, htext⟩ := List.forall_mem_cons.mp h
    rw [read, read, hc]
    cases other c with
    | none => rfl
    | some d => exact ih htext _

theorem isSome_of_read {value n : Nat} (h : read digit radix value text = some n) :
    ∀ c ∈ text, (digit c).isSome := by
  induction text generalizing value with
  | nil => nofun
  | cons c text ih =>
    simp only [read] at h
    split at h
    · cases h
    next d hd => exact List.forall_mem_cons.mpr ⟨Option.isSome_of_eq_some hd, ih h⟩

/-- Reading on does not make the number smaller. -/
theorem le_of_read (hradix : 0 < radix) {value n : Nat} (h : read digit radix value text = some n) :
    value ≤ n := by
  induction text generalizing value with
  | nil => exact (Option.some.inj h).le
  | cons c text ih =>
    simp only [read] at h
    split at h
    · cases h
    · exact (Nat.le_add_right_of_le (Nat.le_mul_of_pos_right _ hradix)).trans (ih h)

theorem read_toDigits (hradix : 1 < radix) (hdigit : ∀ d < radix, digit d.digitChar = some d)
    (n : Nat) : read digit radix 0 (radix.toDigits n) = some n := by
  induction n using Nat.strongRecOn with
  | ind n ih =>
    rw [Nat.toDigits_eq_if hradix]
    split_ifs with hlt
    · simp [read, hdigit n hlt]
    · have hpos : 0 < n := by omega
      rw [read_append, ih (n / radix) (Nat.div_lt_self hpos hradix), Option.bind_some]
      simp [read, hdigit _ (Nat.mod_lt n (by omega)), Nat.div_add_mod']

end

section

variable {radix : Nat} (hradix : 1 < radix)

include hradix

/-- What `Nat.toDigits` writes are digits. -/
theorem forall_mem_toDigits {p : Char → Prop} (hdigit : ∀ d < radix, p d.digitChar) (n : Nat) :
    ∀ c ∈ radix.toDigits n, p c := by
  induction n using Nat.strongRecOn with
  | ind n ih =>
    rw [Nat.toDigits_eq_if hradix]
    split_ifs with hlt
    · simpa using hdigit n hlt
    · have hpos : 0 < n := by omega
      intro c hc
      rcases List.mem_append.mp hc with hc | hc
      · exact ih (n / radix) (Nat.div_lt_self hpos hradix) c hc
      · rw [List.mem_singleton.mp hc]
        exact hdigit _ (Nat.mod_lt n (by omega))

/-- There are no leading zeros. -/
theorem head?_toDigits_ne {n : Nat} (hn : 0 < n) : (radix.toDigits n).head? ≠ some '0' := by
  induction n using Nat.strongRecOn with
  | ind n ih =>
    rw [Nat.toDigits_eq_if hradix]
    split_ifs with hlt
    · rw [List.head?_cons, ne_eq, Option.some.injEq, Nat.digitChar_eq_zero]
      exact hn.ne'
    · have hquotient : 0 < n / radix := Nat.div_pos (not_lt.mp hlt) (by omega)
      rw [List.head?_append_of_ne_nil _ Nat.toDigits_ne_nil]
      exact ih (n / radix) (Nat.div_lt_self hn hradix) hquotient

end

end Numeral
