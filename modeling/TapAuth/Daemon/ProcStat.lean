import TapAuth.Lib.Numeral
import TapAuth.Daemon.PeerIdentity

/-!
# The start time in `/proc/pid/stat`

The kernel writes the name of the program between parentheses and does not escape it, so
a name may imitate the rest of the line.  What follows it holds no parenthesis: the last
one in the line ends the name, whatever is in it, and the fields after it are found by
their white space.
-/

namespace TapAuth.Daemon

/-- A line of `/proc/pid/stat`: the name is any text, the state a letter and the others
numbers, of which field 22 is the start time. -/
structure ProcStat where
  pid : Int
  comm : String
  state : Char
  /-- Fields 4 to 21. -/
  earlier : List Int
  startTime : UInt64
  later : List Int
  state_isAlpha : state.isAlpha = true
  length_earlier : earlier.length = 18

namespace ProcStat

/-- The fields after the name. -/
def fields (stat : ProcStat) : List (List Char) :=
  [stat.state] :: stat.earlier.map (fun n ↦ (toString n).toList) ++
    (toString stat.startTime.toNat).toList :: stat.later.map fun n ↦ (toString n).toList

/-- Each field after a blank, and the end of the line. -/
def afterName (fields : List (List Char)) : List Char :=
  fields.flatMap (fun field ↦ ' ' :: field) ++ ['\n']

/-- The line as the kernel writes it. -/
def text (stat : ProcStat) : String :=
  toString stat.pid ++ " (" ++ stat.comm ++ ")" ++ String.ofList (afterName stat.fields)

end ProcStat

/-! ## The end of the name -/

theorem afterComm_append {name rest : List Char} (h : ')' ∉ rest) :
    afterComm (name ++ ')' :: rest) = some rest := by
  have hkept : ∀ c ∈ rest.reverse, decide (c ≠ ')') = true := by
    intro c hc
    have hne : c ≠ ')' := fun heq ↦ h (heq ▸ List.mem_reverse.mp hc)
    simpa using hne
  rw [afterComm, if_pos (by simp), List.reverse_append, List.reverse_cons, List.append_assoc,
    List.takeWhile_append_of_pos hkept]
  simp

/-! ## The fields -/

/-- White space ends a field and belongs to none. -/
theorem splitWhitespace_append_cons (text rest : List Char) {sep : Char}
    (hsep : isWhitespace sep = true) :
    splitWhitespace (text ++ sep :: rest) = splitWhitespace text ++ splitWhitespace rest := by
  rw [splitWhitespace, List.splitOnP_append_cons _ _ hsep, List.filter_append]
  rfl

theorem splitWhitespace_cons {sep : Char} (hsep : isWhitespace sep = true) (text : List Char) :
    splitWhitespace (sep :: text) = splitWhitespace text :=
  splitWhitespace_append_cons [] text hsep

/-- The text of a field after the name: `split_whitespace` leaves it whole, and it does not
end a name. -/
structure IsField (field : List Char) : Prop where
  ne_nil : field ≠ []
  not_whitespace : ∀ c ∈ field, isWhitespace c = false
  not_parenthesis : ')' ∉ field

theorem IsField.splitWhitespace {field : List Char} (h : IsField field) :
    splitWhitespace field = [field] := by
  rw [Daemon.splitWhitespace, List.splitOnP_eq_singleton h.not_whitespace]
  simp [h.ne_nil]

theorem toNat_of_isWhitespace {c : Char} (h : isWhitespace c = true) :
    c.toNat ≤ 32 ∨ 133 ≤ c.toNat := by
  simp only [isWhitespace, Bool.or_eq_true, Bool.and_eq_true, decide_eq_true_eq,
    List.contains_iff_mem, List.mem_cons, List.not_mem_nil, or_false, Char.le_def,
    UInt32.le_iff_toNat_le] at h
  rcases h with (⟨-, h⟩ | ⟨h, -⟩) | h
  · exact .inl (h.trans (by decide))
  · exact .inr (le_trans (by decide) h)
  · rcases h with rfl | rfl | rfl | rfl | rfl | rfl | rfl | rfl | rfl <;> decide

/-- Neither white space nor a parenthesis is from the minus sign to the last letter. -/
theorem isField_of_forall {field : List Char} (hne : field ≠ [])
    (h : ∀ c ∈ field, '-'.toNat ≤ c.toNat ∧ c.toNat ≤ 'z'.toNat) : IsField field where
  ne_nil := hne
  not_whitespace c hc := by
    obtain ⟨hle, hge⟩ : 45 ≤ c.toNat ∧ c.toNat ≤ 122 := h c hc
    by_contra hspace
    have := toNat_of_isWhitespace (by simpa using hspace)
    omega
  not_parenthesis hmem := absurd (h _ hmem).1 (by decide)

namespace ProcStat

theorem afterName_cons (field : List Char) (fields : List (List Char)) :
    afterName (field :: fields) = ' ' :: (field ++ afterName fields) := by
  simp [afterName]

theorem afterName_eq_cons (fields : List (List Char)) :
    ∃ sep text, isWhitespace sep = true ∧ afterName fields = sep :: text := by
  cases fields with
  | nil => exact ⟨'\n', [], by decide, rfl⟩
  | cons field fields => exact ⟨' ', _, by decide, afterName_cons field fields⟩

theorem splitWhitespace_afterName {fields : List (List Char)}
    (h : ∀ field ∈ fields, IsField field) : splitWhitespace (afterName fields) = fields := by
  induction fields with
  | nil => decide +kernel
  | cons field fields ih =>
    obtain ⟨hfield, hfields⟩ := List.forall_mem_cons.mp h
    obtain ⟨sep, text, hsep, htext⟩ := afterName_eq_cons fields
    have hrest := ih hfields
    rw [htext, splitWhitespace_cons hsep] at hrest
    rw [afterName_cons, splitWhitespace_cons (by decide), htext,
      splitWhitespace_append_cons _ _ hsep, hfield.splitWhitespace, hrest]
    rfl

theorem not_mem_afterName {fields : List (List Char)} (h : ∀ field ∈ fields, IsField field) :
    ')' ∉ afterName fields := by
  induction fields with
  | nil => decide
  | cons field fields ih =>
    obtain ⟨hfield, hfields⟩ := List.forall_mem_cons.mp h
    rw [afterName_cons, List.mem_cons, List.mem_append]
    rintro (hblank | hmem | hmem)
    · exact absurd hblank (by decide)
    · exact hfield.not_parenthesis hmem
    · exact ih hfields hmem

end ProcStat

/-! ## The numbers -/

theorem toNat_of_mem_toDigits {n : Nat} {c : Char} (h : c ∈ Nat.toDigits 10 n) :
    '-'.toNat ≤ c.toNat ∧ c.toNat ≤ 'z'.toNat := by
  obtain ⟨hle, hge⟩ :=
    Char.isDigit_iff_toNat.mp (Nat.isDigit_of_mem_toDigits (by decide) (by decide) h)
  exact ⟨le_trans (by decide) hle, hge.trans (by decide)⟩

theorem isField_toString (n : Int) : IsField (toString n).toList := by
  rw [Int.toString_eq_repr, Int.repr_eq_if]
  split_ifs
  · rw [Nat.repr_eq_ofList_toDigits, String.toList_ofList]
    exact isField_of_forall Nat.toDigits_ne_nil fun c hc ↦ toNat_of_mem_toDigits hc
  · rw [String.toList_append, Nat.repr_eq_ofList_toDigits]
    refine isField_of_forall (by simp) fun c hc ↦ ?_
    rcases List.mem_append.mp hc with hminus | hdigit
    · rw [List.mem_singleton.mp hminus]
      decide
    · rw [String.toList_ofList] at hdigit
      exact toNat_of_mem_toDigits hdigit

theorem isField_state {c : Char} (h : c.isAlpha = true) : IsField [c] := by
  refine isField_of_forall (List.cons_ne_nil _ _) fun d hd ↦ ?_
  rw [List.mem_singleton.mp hd]
  rcases (Bool.or_eq_true _ _).mp h with hupper | hlower
  · obtain ⟨hge, hle⟩ := of_decide_eq_true hupper
    have hge : 'A'.toNat ≤ c.toNat := UInt32.le_iff_toNat_le.mp hge
    have hle : c.toNat ≤ 'Z'.toNat := UInt32.le_iff_toNat_le.mp hle
    exact ⟨le_trans (by decide) hge, hle.trans (by decide)⟩
  · obtain ⟨hge, hle⟩ := Bool.and_eq_true_iff.mp hlower
    have hge : 'a'.toNat ≤ c.toNat := UInt32.le_iff_toNat_le.mp (of_decide_eq_true hge)
    have hle : c.toNat ≤ 'z'.toNat := UInt32.le_iff_toNat_le.mp (of_decide_eq_true hle)
    exact ⟨le_trans (by decide) hge, hle⟩

theorem parseDigits_eq_ok {value n : Nat} {text : List Char}
    (h : Numeral.read (Numeral.digit 10) 10 value text = some n) (hfits : n < UInt64.size) :
    parseDigits value text = .ok (UInt64.ofNat n) := by
  induction text generalizing value with
  | nil =>
    cases h
    rfl
  | cons c text ih =>
    simp only [Numeral.read, Numeral.digit_ten_eq] at h
    by_cases hdigit : c.isDigit = true
    · rw [if_pos hdigit] at h
      have hnext := Numeral.le_of_read (by decide) h
      simp only [parseDigits, if_pos hdigit]
      rw [if_pos (hnext.trans_lt hfits), ih h]
    · simp [hdigit] at h

theorem parseU64_eq_parseDigits {text : List Char} (h : '+' ∉ text) :
    parseU64 text = parseDigits 0 text := by
  unfold parseU64
  split
  · exact absurd List.mem_cons_self h
  · rfl

theorem parseU64_toString (n : UInt64) : parseU64 (toString n.toNat).toList = .ok n := by
  have hplus : '+' ∉ Nat.toDigits 10 n.toNat := fun hmem ↦
    absurd (Nat.isDigit_of_mem_toDigits (by decide) (by decide) hmem) (by decide)
  have hread : Numeral.read (Numeral.digit 10) 10 0 (Nat.toDigits 10 n.toNat) = some n.toNat :=
    Numeral.read_toDigits (by decide) (Numeral.digit_digitChar (by decide)) _
  rw [Numeral.toList_toString, parseU64_eq_parseDigits hplus, parseDigits_eq_ok hread n.toNat_lt,
    UInt64.ofNat_toNat]

/-! ## The line -/

namespace ProcStat

variable (stat : ProcStat)

theorem isField_of_mem_fields : ∀ field ∈ stat.fields, IsField field := by
  intro field hfield
  simp only [fields, List.cons_append, List.mem_cons, List.mem_append, List.mem_map] at hfield
  rcases hfield with rfl | ⟨n, -, rfl⟩ | rfl | ⟨n, -, rfl⟩
  · exact isField_state stat.state_isAlpha
  · exact isField_toString n
  · exact isField_toString stat.startTime.toNat
  · exact isField_toString n

theorem getElem?_fields : stat.fields[19]? = some (toString stat.startTime.toNat).toList := by
  have hlength : (stat.earlier.map fun n ↦ (toString n).toList).length = 18 := by
    rw [List.length_map, stat.length_earlier]
  rw [fields, List.cons_append, List.getElem?_cons_succ, List.getElem?_append_right hlength.le,
    hlength]
  rfl

theorem afterComm_text : afterComm stat.text.toList = some (afterName stat.fields) := by
  have htext : stat.text.toList =
      ((toString stat.pid).toList ++ " (".toList ++ stat.comm.toList) ++
        ')' :: afterName stat.fields := by
    simp [text]
  rw [htext, afterComm_append (not_mem_afterName stat.isField_of_mem_fields)]

end ProcStat

/-- Whatever the name of the program, the start time is field 22. -/
theorem readProcessStartTime_text (pid : Int32) (stat : ProcStat) :
    readProcessStartTime pid (.ok stat.text) = .ok stat.startTime := by
  have hfields := ProcStat.splitWhitespace_afterName stat.isField_of_mem_fields
  simp only [readProcessStartTime, Except.mapError, bind, Except.bind, stat.afterComm_text, hfields,
    stat.getElem?_fields, parseU64_toString]

/-- A name that imitates the fields of another process. -/
def imitatingStat : ProcStat where
  pid := 4321
  comm := "x) S 1 1 1 0 -1 4 0 0 0 0 0 0 0 0 20 0 1 0 1\n(y"
  state := 'R'
  earlier := [4300, 4321, 4300, 34816, 4321, 4194304, 120, 0, 0, 0, 1, 0, 0, 0, 20, 0, 1, 0]
  startTime := 987654
  later := [11001856, 256, -1]
  state_isAlpha := by decide
  length_earlier := rfl

example :
    imitatingStat.text =
      "4321 (x) S 1 1 1 0 -1 4 0 0 0 0 0 0 0 0 20 0 1 0 1\n(y) R 4300 4321 4300 34816 4321 " ++
        "4194304 120 0 0 0 1 0 0 0 20 0 1 0 987654 11001856 256 -1\n" := by
  decide +kernel

end TapAuth.Daemon
