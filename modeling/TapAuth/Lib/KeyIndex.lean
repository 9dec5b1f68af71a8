import Mathlib.Data.List.Nodup
import Mathlib.Logic.Function.Basic

/-!
# Secondary indexes

An index files the names of a store's entries under a key that the entries carry,
so that all entries with one key can be found without a scan.  It is kept beside
the store by hand: a name is added when its entry is stored and taken out when the
entry goes, and a key whose last name went is dropped.

`KeyIndex.Indexes` says that the index agrees with the store, the store being
seen through the function that gives each name the key of its entry, `none` for
a name without an entry or an entry without a key.  The rules below it say what
each operation on the index is the counterpart of in the store.
-/

universe u v

/-- The names filed under each key. -/
abbrev KeyIndex (κ : Type u) (ι : Type v) := κ → Option (List ι)

namespace KeyIndex

open Function

variable {κ : Type u} {ι : Type v} {idx : KeyIndex κ ι} {key : ι → Option κ}

/-- The index lists exactly the names with each key: nothing twice, nothing that is
not in the store, and no key without names. -/
structure Indexes (idx : KeyIndex κ ι) (key : ι → Option κ) : Prop where
  absent : ∀ {k}, idx k = none → ∀ i, key i ≠ some k
  present : ∀ {k l}, idx k = some l → l ≠ [] ∧ l.Nodup ∧ ∀ i, i ∈ l ↔ key i = some k

theorem Indexes.empty : Indexes (fun _ : κ ↦ none) (fun _ : ι ↦ none) where
  absent _ _ := nofun
  present := nofun

theorem Indexes.nodup (h : idx.Indexes key) {k : κ} {l : List ι} (hk : idx k = some l) :
    l.Nodup := (h.present hk).2.1

theorem Indexes.mem_iff (h : idx.Indexes key) {k : κ} {l : List ι} (hk : idx k = some l) (i : ι) :
    i ∈ l ↔ key i = some k := (h.present hk).2.2 i

/-- The names of a key, whether the key is there or not. -/
theorem Indexes.mem_getD_iff (h : idx.Indexes key) (k : κ) (i : ι) :
    i ∈ (idx k).getD [] ↔ key i = some k := by
  cases hk : idx k with
  | none => simpa using h.absent hk i
  | some l => exact h.mem_iff hk i

theorem Indexes.nodup_getD (h : idx.Indexes key) (k : κ) : ((idx k).getD []).Nodup := by
  cases hk : idx k with
  | none => exact List.nodup_nil
  | some l => exact h.nodup hk

variable [DecidableEq κ]

/-- An index may be checked key by key. -/
theorem Indexes.of_update (h : idx.Indexes key) {key' : ι → Option κ} {k : κ}
    {o : Option (List ι)} (hother : ∀ i k', k' ≠ k → (key' i = some k' ↔ key i = some k'))
    (hnone : o = none → ∀ i, key' i ≠ some k)
    (hsome : ∀ l, o = some l → l ≠ [] ∧ l.Nodup ∧ ∀ i, i ∈ l ↔ key' i = some k) :
    Indexes (update idx k o) key' := by
  constructor
  · intro k' hk' i
    by_cases hk : k' = k
    · subst hk
      exact hnone (by simpa using hk') i
    · rw [update_of_ne hk] at hk'
      exact fun hi ↦ h.absent hk' i ((hother i k' hk).mp hi)
  · intro k' l hk'
    by_cases hk : k' = k
    · subst hk
      exact hsome l (by simpa using hk')
    · rw [update_of_ne hk] at hk'
      obtain ⟨hne, hnodup, hmem⟩ := h.present hk'
      exact ⟨hne, hnodup, fun i ↦ (hmem i).trans (hother i k' hk).symm⟩

/-- Drop a key with all its names. -/
def drop (idx : KeyIndex κ ι) (k : κ) : KeyIndex κ ι := update idx k none

/-- All entries with key `k` go out of sight. -/
theorem Indexes.drop (h : idx.Indexes key) (k : κ) :
    (idx.drop k).Indexes fun i ↦ if key i = some k then none else key i := by
  refine h.of_update (fun i k' hk' ↦ ?_) (fun _ i ↦ ?_) (fun l hl ↦ by simp at hl)
  · by_cases hi : key i = some k
    · simpa [hi] using Ne.symm hk'
    · simp [hi]
  · by_cases hi : key i = some k <;> simp [hi]

variable [DecidableEq ι]

/-- File a name under a key. -/
def add (idx : KeyIndex κ ι) (k : κ) (i : ι) : KeyIndex κ ι :=
  update idx k (some (((idx k).getD []).insert i))

/-- Take a name out of the list of a key, and drop the key if that was its last. -/
def remove (idx : KeyIndex κ ι) (k : κ) (i : ι) : KeyIndex κ ι :=
  match idx k with
  | none => idx
  | some l => update idx k (if l.erase i = [] then none else some (l.erase i))

/-- An entry with key `k` is stored under a name that had none. -/
theorem Indexes.add (h : idx.Indexes key) {i : ι} (hi : key i = none) (k : κ) :
    (idx.add k i).Indexes (update key i (some k)) := by
  refine h.of_update (fun j k' hk' ↦ ?_) (fun h ↦ by simp at h) ?_
  · by_cases hj : j = i
    · subst hj
      simpa [hi] using Ne.symm hk'
    · rw [update_of_ne hj]
  · rintro l ⟨⟩
    refine ⟨List.ne_nil_of_mem (List.mem_insert_self), (h.nodup_getD k).insert, fun j ↦ ?_⟩
    rw [List.mem_insert_iff, h.mem_getD_iff]
    by_cases hj : j = i
    · simp [hj]
    · simp [hj]

/-- The entry of a name with key `k` goes. -/
theorem Indexes.remove (h : idx.Indexes key) {i : ι} {k : κ} (hi : key i = some k) :
    (idx.remove k i).Indexes (update key i none) := by
  have hother : ∀ j k', k' ≠ k → (update key i none j = some k' ↔ key j = some k') := by
    intro j k' hk'
    by_cases hj : j = i
    · subst hj
      simpa [hi] using Ne.symm hk'
    · rw [update_of_ne hj]
  unfold KeyIndex.remove
  cases hk : idx k with
  | none => exact absurd hi (h.absent hk i)
  | some l =>
    have hmem : ∀ j, j ∈ l.erase i ↔ update key i none j = some k := by
      intro j
      rw [(h.nodup hk).mem_erase_iff, h.mem_iff hk]
      by_cases hj : j = i
      · simp [hj]
      · simp [hj]
    refine h.of_update hother ?_ ?_
    · intro ho j hj
      split at ho
      case isTrue hnil => simpa [hnil] using (hmem j).mpr hj
      case isFalse => cases ho
    · intro l' ho
      split at ho
      case isTrue => cases ho
      case isFalse hne =>
        cases ho
        exact ⟨hne, (h.nodup hk).erase i, hmem⟩

end KeyIndex
