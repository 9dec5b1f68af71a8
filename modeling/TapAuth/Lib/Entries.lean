import Mathlib.Logic.Function.Basic

/-!
# Maps that are filled from a list

`Entries.enter` puts the pairs of a list into a map, one after the other.  What the map holds
afterwards was in it before or is one of the pairs (`Entries.mem_of_enter`), and a key of the
list holds something (`Entries.isSome_enter_iff`).  If the list has one value for a key, it is
that value (`Entries.enter_eq_some_iff`).
-/

universe u v w

namespace Entries

variable {κ : Type u} {ν : Type v} [DecidableEq κ]

/-- Of two pairs for one key the later stays. -/
def enter (m : κ → Option ν) (entries : List (κ × ν)) : κ → Option ν :=
  entries.foldl (fun m entry ↦ Function.update m entry.1 (some entry.2)) m

theorem enter_cons (m : κ → Option ν) (entry : κ × ν) (entries : List (κ × ν)) :
    enter m (entry :: entries) = enter (Function.update m entry.1 (some entry.2)) entries := rfl

/-- Entering values that are computed from others. -/
theorem enter_map {μ : Type w} (f : ν → μ) (m : κ → Option ν) (entries : List (κ × ν)) :
    enter (fun k ↦ (m k).map f) (entries.map fun entry ↦ (entry.1, f entry.2)) =
      fun k ↦ (enter m entries k).map f := by
  induction entries generalizing m with
  | nil => rfl
  | cons entry entries ih =>
    rw [List.map_cons, enter_cons, enter_cons, ← ih]
    refine congrArg (enter · _) (funext fun k ↦ ?_)
    by_cases hk : k = entry.1
    · subst hk
      simp
    · simp [hk]

/-- Entering list after list. -/
theorem foldl_enter {δ : Type w} (f : δ → List (κ × ν)) (ds : List δ) (m : κ → Option ν) :
    ds.foldl (fun m d ↦ enter m (f d)) m = enter m (ds.flatMap f) := by
  induction ds generalizing m with
  | nil => rfl
  | cons d ds ih =>
    rw [List.foldl_cons, ih, List.flatMap_cons, enter, enter, enter, List.foldl_append]

variable {m : κ → Option ν} {entries : List (κ × ν)} {k : κ} {v : ν}

theorem mem_of_enter (h : enter m entries k = some v) : (k, v) ∈ entries ∨ m k = some v := by
  induction entries generalizing m with
  | nil => exact .inr h
  | cons entry entries ih =>
    rw [enter_cons] at h
    obtain hrest | hfirst := ih h
    · exact .inl (List.mem_cons_of_mem entry hrest)
    · by_cases hk : k = entry.1
      · subst hk
        rw [Function.update_self] at hfirst
        cases hfirst
        exact .inl List.mem_cons_self
      · rw [Function.update_of_ne hk] at hfirst
        exact .inr hfirst

theorem isSome_enter_of_isSome (h : (m k).isSome) : (enter m entries k).isSome := by
  induction entries generalizing m with
  | nil => exact h
  | cons entry entries ih =>
    rw [enter_cons]
    refine ih ?_
    by_cases hk : k = entry.1
    · subst hk
      rw [Function.update_self]
      rfl
    · rwa [Function.update_of_ne hk]

theorem isSome_enter_of_mem (h : (k, v) ∈ entries) : (enter m entries k).isSome := by
  induction entries generalizing m with
  | nil => cases h
  | cons entry entries ih =>
    rw [enter_cons]
    obtain rfl | hrest := List.mem_cons.mp h
    · refine isSome_enter_of_isSome ?_
      rw [Function.update_self]
      rfl
    · exact ih hrest

theorem isSome_enter_iff :
    (enter (fun _ ↦ none) entries k).isSome ↔ ∃ v, (k, v) ∈ entries := by
  constructor
  · intro h
    obtain ⟨v, hv⟩ := Option.isSome_iff_exists.mp h
    exact ⟨v, (mem_of_enter hv).resolve_right nofun⟩
  · rintro ⟨v, hv⟩
    exact isSome_enter_of_mem hv

theorem enter_eq_some_iff
    (hunique : ∀ v w, (k, v) ∈ entries → (k, w) ∈ entries → v = w) :
    enter (fun _ ↦ none) entries k = some v ↔ (k, v) ∈ entries := by
  constructor
  · intro h
    exact (mem_of_enter h).resolve_right nofun
  · intro h
    obtain ⟨w, hw⟩ := Option.isSome_iff_exists.mp (isSome_enter_of_mem (m := fun _ ↦ none) h)
    rw [hw, hunique w v ((mem_of_enter hw).resolve_right nofun) h]

end Entries
