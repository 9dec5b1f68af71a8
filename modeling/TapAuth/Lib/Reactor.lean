import Mathlib.Data.Sum.Basic

/-!
# Reactors: loops that read one input a turn until they return

The loops of event-driven code have one shape: wait for the next input, look at
it, then either go round again with a new local state or return.  A *reactor* is
such a loop.  `Reactor.run` feeds it a list of inputs; the result is the local
state if it still waits, or what it returned.

`Reactor.exists_turn_of_run` is the rule safety proofs use: whatever a loop
returns was returned by one turn, on one of its inputs, from a state that
satisfies the loop's invariant.  `Reactor.exists_run_eq_inl` is the rule that a
loop still waits.
-/

universe u v w

/-- A loop: each turn goes round again with a new state (`inl`) or returns
(`inr`). -/
structure Reactor (σ : Type u) (ι : Type v) (ρ : Type w) where
  turn : σ → ι → σ ⊕ ρ

namespace Reactor

variable {σ : Type u} {ι : Type v} {ρ : Type w} (R : Reactor σ ι ρ)

/-- Feed a list of inputs to the loop. -/
def run : σ → List ι → σ ⊕ ρ
  | s, [] => .inl s
  | s, i :: is =>
    match R.turn s i with
    | .inl t => run t is
    | .inr r => .inr r

theorem run_cons_of_inl {s t : σ} {i : ι} (h : R.turn s i = .inl t) (is : List ι) :
    R.run s (i :: is) = R.run t is := by
  simp [run, h]

theorem run_cons_of_inr {s : σ} {i : ι} {r : ρ} (h : R.turn s i = .inr r) (is : List ι) :
    R.run s (i :: is) = .inr r := by
  simp [run, h]

theorem run_append {s t : σ} {is : List ι} (h : R.run s is = .inl t) (js : List ι) :
    R.run s (is ++ js) = R.run t js := by
  induction is generalizing s with
  | nil => cases h; rfl
  | cons i is ih =>
    cases hi : R.turn s i with
    | inl u =>
      rw [R.run_cons_of_inl hi] at h
      rw [List.cons_append, R.run_cons_of_inl hi, ih h]
    | inr r =>
      rw [R.run_cons_of_inr hi] at h
      cases h

/-- A loop that goes round again on each of its inputs, from every state of an invariant
that it keeps, still waits after all of them. -/
theorem exists_run_eq_inl {I : σ → Prop} {is : List ι}
    (hturn : ∀ s, I s → ∀ i ∈ is, ∃ t, R.turn s i = .inl t ∧ I t) {s : σ} (hs : I s) :
    ∃ t, R.run s is = .inl t ∧ I t := by
  induction is generalizing s with
  | nil => exact ⟨s, rfl, hs⟩
  | cons i is ih =>
    obtain ⟨t, ht, hIt⟩ := hturn s hs i List.mem_cons_self
    rw [R.run_cons_of_inl ht]
    exact ih (fun s hs j hj ↦ hturn s hs j (List.mem_cons_of_mem i hj)) hIt

/-- What a loop returns is returned by one turn on one of its inputs, from a
state that satisfies any invariant of the turns before. -/
theorem exists_turn_of_run {I : σ → Prop} (hturn : ∀ s i t, I s → R.turn s i = .inl t → I t)
    {s : σ} {is : List ι} {r : ρ} (hs : I s) (h : R.run s is = .inr r) :
    ∃ t, ∃ i ∈ is, I t ∧ R.turn t i = .inr r := by
  induction is generalizing s with
  | nil => cases h
  | cons i is ih =>
    cases hi : R.turn s i with
    | inl t =>
      rw [R.run_cons_of_inl hi] at h
      obtain ⟨u, j, hj, hu, hr⟩ := ih (hturn s i t hs hi) h
      exact ⟨u, j, List.mem_cons_of_mem i hj, hu, hr⟩
    | inr q =>
      rw [R.run_cons_of_inr hi] at h
      cases h
      exact ⟨s, i, List.mem_cons_self, hs, hi⟩

end Reactor
