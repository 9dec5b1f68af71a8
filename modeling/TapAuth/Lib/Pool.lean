import Mathlib.Logic.Function.Basic
import TapAuth.Lib.Machine

/-!
# Pools of threads over shared memory

Threads with one program and their own local states act on a shared state, one
atomic step at a time.  The interleaving is in the labels of the pool's machine:
a label names the thread that moves.

* `Threads.pool` is the machine of all interleavings, over any type of thread
  names.
* `Threads.invariant_along` is the rule for it: an invariant of the shared state,
  an assertion at every local state, the moving thread establishes its next
  assertion and does not break the others'.  `Threads.exclusion_along` adds that at
  most one thread is in some part of its program.
* `Threads.solo` is one thread running alone, and `Threads.pool_feed` says that
  the pool offered the labels of one thread is that thread alone.
-/

universe u v w x

/-- The program all threads of a pool run: what one atomic step does to the shared
state and to the local state of the thread that takes it. -/
structure Threads (σ : Type u) (ℓ : Type v) (α : Type w) where
  step : σ → ℓ → α → Option (σ × ℓ)

/-- A shared state and a local state for every thread. -/
@[ext]
structure Pool (ι : Type x) (σ : Type u) (ℓ : Type v) where
  shared : σ
  locals : ι → ℓ

namespace Threads

variable {ι : Type x} {σ : Type u} {ℓ : Type v} {α : Type w} [DecidableEq ι] (T : Threads σ ℓ α)

/-- All interleavings. -/
def pool : Machine (Pool ι σ ℓ) (ι × α) where
  next p label :=
    (T.step p.shared (p.locals label.1) label.2).map fun moved ↦
      ⟨moved.1, Function.update p.locals label.1 moved.2⟩

variable {p q : Pool ι σ ℓ} {J : σ → Prop} {G : Pool ι σ ℓ → ι × α → Prop} {labels : List (ι × α)}

theorem pool_next_eq_some {i : ι} {a : α} :
    T.pool.next p (i, a) = some q ↔
      ∃ s l, T.step p.shared (p.locals i) a = some (s, l) ∧
        q = ⟨s, Function.update p.locals i l⟩ := by
  simp only [pool, Option.map_eq_some_iff, Prod.exists]
  exact exists_congr fun s ↦ exists_congr fun l ↦ and_congr_right fun _ ↦ eq_comm

/-- A step of the pool is a step of the thread it names, and no other thread moves. -/
theorem step_of_pool_next {i : ι} {a : α} (h : T.pool.next p (i, a) = some q) :
    T.step p.shared (p.locals i) a = some (q.shared, q.locals i) ∧
      ∀ j, j ≠ i → q.locals j = p.locals j := by
  obtain ⟨s, l, hstep, rfl⟩ := T.pool_next_eq_some.mp h
  exact ⟨by simp [hstep], fun j hj ↦ Function.update_of_ne hj ..⟩

/-- What holds of a pool: `J` of the shared state, `K` at every local state, and at
most one thread is where `C` holds. -/
structure Holds (J : σ → Prop) (K C : σ → ℓ → Prop) (p : Pool ι σ ℓ) : Prop where
  shared : J p.shared
  locals : ∀ i, K p.shared (p.locals i)
  exclusive : ∀ i j, C p.shared (p.locals i) → C p.shared (p.locals j) → i = j

variable {T} in
/-- One step of a pool.  The moving thread may enter `C` only if no other thread is there, and
does not bring another thread there. -/
theorem Holds.next {K C : σ → ℓ → Prop} {i : ι} {a : α} (hp : Holds J K C p)
    (hnext : T.pool.next p (i, a) = some q)
    (hself : ∀ s l, T.step p.shared (p.locals i) a = some (s, l) →
      J s ∧ K s l ∧ (C s l → ∀ j, j ≠ i → ¬ C s (p.locals j)))
    (hother : ∀ j s l, j ≠ i → T.step p.shared (p.locals i) a = some (s, l) →
      K s (p.locals j) ∧ (C s (p.locals j) → C p.shared (p.locals j))) :
    Holds J K C q := by
  obtain ⟨s, l, hstep, rfl⟩ := T.pool_next_eq_some.mp hnext
  obtain ⟨hJ, hK, hC⟩ := hself s l hstep
  refine ⟨hJ, fun j ↦ ?_, fun j k hj hk ↦ ?_⟩
  · by_cases hji : j = i
    · subst hji
      simpa using hK
    · simpa [hji] using (hother j s l hji hstep).1
  · -- of two threads at most one has moved
    by_cases hji : j = i
    · subst hji
      by_contra hkj
      have hk' : C s (p.locals k) := by simpa [Ne.symm hkj] using hk
      exact hC (by simpa using hj) k (Ne.symm hkj) hk'
    · have hj' : C s (p.locals j) := by simpa [hji] using hj
      by_cases hki : k = i
      · subst hki
        exact absurd hj' (hC (by simpa using hk) j hji)
      · have hk' : C s (p.locals k) := by simpa [hki] using hk
        exact hp.exclusive j k ((hother j s l hji hstep).2 hj') ((hother k s l hki hstep).2 hk')

/-- The exclusion rule for guarded runs of a pool. -/
theorem exclusion_along {K C : σ → ℓ → Prop}
    (hself : ∀ p i a s l, Holds J K C p → G p (i, a) →
      T.step p.shared (p.locals i) a = some (s, l) →
      J s ∧ K s l ∧ (C s l → ∀ j, j ≠ i → ¬ C s (p.locals j)))
    (hother : ∀ p i j a s l, Holds J K C p → G p (i, a) → j ≠ i →
      T.step p.shared (p.locals i) a = some (s, l) →
      K s (p.locals j) ∧ (C s (p.locals j) → C p.shared (p.locals j))) (hp : Holds J K C p)
    (hrun : T.pool.exec p labels = some q) (hG : T.pool.Along G p labels) :
    Holds J K C q := by
  refine T.pool.invariant_along ?_ hp hrun hG
  rintro p ⟨i, a⟩ q hp hG hnext
  exact hp.next hnext (fun s l hstep ↦ hself p i a s l hp hG hstep)
    fun j s l hj hstep ↦ hother p i j a s l hp hG hj hstep

/-- The invariant rule for guarded runs of a pool. -/
theorem invariant_along {K : σ → ℓ → Prop}
    (hself : ∀ p i a s l, J p.shared → K p.shared (p.locals i) → G p (i, a) →
      T.step p.shared (p.locals i) a = some (s, l) → J s ∧ K s l)
    (hother : ∀ p i a s l m, J p.shared → K p.shared (p.locals i) → K p.shared m → G p (i, a) →
      T.step p.shared (p.locals i) a = some (s, l) → K s m) (hJ : J p.shared)
    (hK : ∀ i, K p.shared (p.locals i)) (hrun : T.pool.exec p labels = some q)
    (hG : T.pool.Along G p labels) : J q.shared ∧ ∀ i, K q.shared (q.locals i) := by
  have hq : Holds J K (fun _ _ ↦ False) q := by
    refine T.exclusion_along ?_ ?_ ⟨hJ, hK, fun _ _ h ↦ h.elim⟩ hrun hG
    · intro p i a s l hp hG hstep
      obtain ⟨hJ, hl⟩ := hself p i a s l hp.shared (hp.locals i) hG hstep
      exact ⟨hJ, hl, fun h ↦ h.elim⟩
    · intro p i j a s l hp hG _ hstep
      exact ⟨hother p i a s l _ hp.shared (hp.locals i) (hp.locals j) hG hstep, id⟩
  exact ⟨hq.shared, hq.locals⟩

/-- One thread alone. -/
def solo : Machine (σ × ℓ) α where
  next s a := T.step s.1 s.2 a

/-- A pool that is offered only the labels of one thread is that thread alone; the
other threads stand still. -/
theorem pool_feed (p : Pool ι σ ℓ) (i : ι) (labels : List α) :
    T.pool.feed p (labels.map (Prod.mk i)) =
      ⟨(T.solo.feed (p.shared, p.locals i) labels).1,
        Function.update p.locals i (T.solo.feed (p.shared, p.locals i) labels).2⟩ := by
  induction labels generalizing p with
  | nil => simp
  | cons a labels ih =>
    rw [List.map_cons, Machine.feed_cons, Machine.feed_cons, ih]
    cases hstep : T.step p.shared (p.locals i) a with
    | none => simp [pool, solo, hstep]
    | some moved => simp [pool, solo, hstep]

end Threads
