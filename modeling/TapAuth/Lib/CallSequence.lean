import Mathlib.Data.List.Basic

/-!
# Sequences of calls that can be cut off

A procedure makes its calls one after the other and gives up at the first that fails.  A
call has its whole effect or fails without any; work whose effect comes little by little is
one call for each step of it.

`run` makes all the calls.  `interrupted` makes some first ones only: the process stops
there, or the next call fails for a reason that lies outside the state.
-/

universe u v w

namespace CallSequence

variable {σ : Type u} {ε : Type v} {γ : Type w}

/-- Make the calls, up to the first that fails. -/
def run (step : γ → σ → Except ε σ) : List γ → σ → Except ε Unit × σ
  | [], s => (.ok (), s)
  | c :: cs, s =>
    match step c s with
    | .ok t => run step cs t
    | .error e => (.error e, s)

/-- After how many calls the procedure is cut off, and the failure of the next call; without
one, the process stops. -/
structure Interruption (ε : Type v) where
  after : Nat
  failure : Option ε

/-- The result, none if the process stopped, and the state that is left.  Nothing is cut off
after the last call. -/
def interrupted (step : γ → σ → Except ε σ) (calls : List γ) (i : Interruption ε) (s : σ) :
    Option (Except ε Unit) × σ :=
  match run step (calls.take i.after) s with
  | (.error e, t) => (some (.error e), t)
  | (.ok (), t) => (if i.after < calls.length then i.failure.map .error else some (.ok ()), t)

variable {step : γ → σ → Except ε σ}

@[simp] theorem run_nil (s : σ) : run step [] s = (.ok (), s) := rfl

theorem run_cons_of_ok {c : γ} {s t : σ} (h : step c s = .ok t) (cs : List γ) :
    run step (c :: cs) s = run step cs t := by
  rw [run, h]

theorem run_cons_of_error {c : γ} {s : σ} {e : ε} (h : step c s = .error e) (cs : List γ) :
    run step (c :: cs) s = (.error e, s) := by
  rw [run, h]

theorem run_append {xs : List γ} {s t : σ} (h : run step xs s = (.ok (), t)) (ys : List γ) :
    run step (xs ++ ys) s = run step ys t := by
  induction xs generalizing s with
  | nil =>
    cases h
    rfl
  | cons c cs ih =>
    cases hc : step c s with
    | error e =>
      rw [run_cons_of_error hc] at h
      cases h
    | ok u =>
      rw [run_cons_of_ok hc] at h
      rw [List.cons_append, run_cons_of_ok hc]
      exact ih h

theorem interrupted_snd (calls : List γ) (i : Interruption ε) (s : σ) :
    (interrupted step calls i s).2 = (run step (calls.take i.after) s).2 := by
  unfold interrupted
  split <;> rename_i hrun <;> rw [hrun]

/-- A procedure that reports success has made all its calls. -/
theorem run_eq_of_interrupted_ok {calls : List γ} {i : Interruption ε} {s t : σ}
    (h : interrupted step calls i s = (some (.ok ()), t)) :
    run step calls s = (.ok (), t) := by
  unfold interrupted at h
  split at h
  · cases h
  · rename_i u hrun
    split at h
    · cases hfailure : i.failure <;> simp [hfailure] at h
    · rename_i hlast
      cases h
      rwa [List.take_of_length_le (Nat.le_of_not_lt hlast)] at hrun

end CallSequence
