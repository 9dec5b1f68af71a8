import Mathlib.Data.List.Nodup
import TapAuth.Lib.Pool

/-!
# Threads that finish one after the other

A pool whose threads each do their work on the shared state at the step at which they finish
is accounted for by the order in which they have finished.  `Threads.Accounted` says so of a
state and `Threads.Accounted.next` is its step: a thread that moves leaves the shared state
alone, or comes last in the order.
-/

universe u v w x

namespace Threads

variable {ι : Type x} {σ : Type u} {ℓ : Type v} {α : Type w}

/-- The shared state is what the threads that have finished make of it, in some order. -/
def Accounted (run : List ι → σ) (finished : ℓ → Prop) (p : Pool ι σ ℓ) : Prop :=
  ∃ order : List ι, order.Nodup ∧ (∀ i, i ∈ order ↔ finished (p.locals i)) ∧ p.shared = run order

variable [DecidableEq ι] {T : Threads σ ℓ α}

theorem Accounted.next {run : List ι → σ} {finished : ℓ → Prop} {p q : Pool ι σ ℓ} {i : ι} {a : α}
    (h : Accounted run finished p) (hnext : T.pool.next p (i, a) = some q) (effect : σ → σ)
    (heffect : ∀ order, run (order ++ [i]) = effect (run order))
    (hbefore : ¬ finished (p.locals i))
    (hmove : (q.shared = p.shared ∧ ¬ finished (q.locals i)) ∨
      (q.shared = effect p.shared ∧ finished (q.locals i))) :
    Accounted run finished q := by
  obtain ⟨-, hother⟩ := T.step_of_pool_next hnext
  obtain ⟨order, hnodup, hmem, hshared⟩ := h
  have hnew : i ∉ order := fun hi ↦ hbefore ((hmem i).mp hi)
  rcases hmove with ⟨hsame, hafter⟩ | ⟨heff, hafter⟩
  · refine ⟨order, hnodup, fun j ↦ ?_, hsame.trans hshared⟩
    by_cases hj : j = i
    · subst hj
      exact iff_of_false hnew hafter
    · rw [hother j hj, hmem j]
  · refine ⟨order ++ [i], ?_, fun j ↦ ?_, ?_⟩
    · rw [← List.concat_eq_append]
      exact hnodup.concat hnew
    · rw [List.mem_append, List.mem_singleton]
      by_cases hj : j = i
      · subst hj
        exact iff_of_true (.inr rfl) hafter
      · rw [hother j hj, ← hmem j]
        exact or_iff_left hj
    · rw [heffect, ← hshared, heff]

/-- Two threads that have both finished did so in one of two orders. -/
theorem order_of_two {order : List Bool} (hnodup : order.Nodup) (hall : ∀ i, i ∈ order) :
    order = [false, true] ∨ order = [true, false] := by
  match order, hnodup with
  | [], _ => cases hall true
  | [false], _ => exact absurd (hall true) (by decide)
  | [true], _ => exact absurd (hall false) (by decide)
  | [false, true], _ => exact .inl rfl
  | [true, false], _ => exact .inr rfl
  | [false, false], h | [true, true], h => exact absurd h (by decide)
  | i :: j :: k :: rest, h =>
    exfalso
    cases i <;> cases j <;> cases k <;> simp at h

end Threads
