import Mathlib.Data.List.Nodup
import TapAuth.Lib.Pool

/-!
# Locks of a pool

The threads of a pool take and free locks, and where a thread stands says which locks it
holds and for which it waits.

* `Locking.Step` is what one step may do: keep all locks, take a free one or free the
  one that was taken last.
* `Locking.Ok` says of a pool that a lock is taken iff a thread holds it, and that only one
  does.  Steps of that kind keep it (`Locking.Ok.exec`).
* `Locking.Waits` is the relation of a thread to the one that holds what it waits for.  A
  thread that waits for itself does so for ever (`Locking.Ok.stuck`).
-/

universe u v w x y

/-- Which locks are taken in a shared state, which ones a thread holds, the last one first, and
for which one it waits. -/
structure Locking (σ : Type u) (ℓ : Type v) (κ : Type y) where
  locked : σ → κ → Bool
  held : ℓ → List κ
  wants : ℓ → Option κ

namespace Locking

open Function

variable {ι : Type x} {σ : Type u} {ℓ : Type v} {α : Type w} {κ : Type y} [DecidableEq κ]
variable (L : Locking σ ℓ κ)

/-- What a step does to the locks of the thread that takes it. -/
inductive Step (s : σ) (l : ℓ) (s' : σ) (l' : ℓ) : Prop
  | keep (hlocked : L.locked s' = L.locked s) (hheld : L.held l' = L.held l)
  | take (k : κ) (hfree : L.locked s k = false)
      (hlocked : L.locked s' = update (L.locked s) k true)
      (hheld : L.held l' = k :: L.held l)
  | free (k : κ) (hlocked : L.locked s' = update (L.locked s) k false)
      (hheld : L.held l = k :: L.held l')

/-- A lock is taken iff a thread holds it, which is then the only one. -/
structure Ok (p : Pool ι σ ℓ) : Prop where
  nodup : ∀ i, (L.held (p.locals i)).Nodup
  locked : ∀ i, ∀ k ∈ L.held (p.locals i), L.locked p.shared k = true
  exists_holder : ∀ k, L.locked p.shared k = true → ∃ i, k ∈ L.held (p.locals i)
  exclusive : ∀ i j, ∀ k ∈ L.held (p.locals i), k ∈ L.held (p.locals j) → i = j

/-- Thread `i` waits for a lock that `j` holds. -/
def Waits (p : Pool ι σ ℓ) (i j : ι) : Prop :=
  ∃ k, L.wants (p.locals i) = some k ∧ k ∈ L.held (p.locals j)

variable {L}

omit [DecidableEq κ] in
/-- A thread whose lock is taken waits for the one that holds it. -/
theorem Ok.exists_waits {p : Pool ι σ ℓ} {i : ι} {k : κ} (h : L.Ok p)
    (hwants : L.wants (p.locals i) = some k) (hlocked : L.locked p.shared k = true) :
    ∃ j, L.Waits p i j := by
  obtain ⟨j, hj⟩ := h.exists_holder k hlocked
  exact ⟨j, k, hwants, hj⟩

section

variable {p q : Pool ι σ ℓ} {i : ι} {k : κ}

omit [DecidableEq κ] in
theorem Ok.keep (h : L.Ok p) (hother : ∀ j, j ≠ i → q.locals j = p.locals j)
    (hlocked : L.locked q.shared = L.locked p.shared)
    (hheld : L.held (q.locals i) = L.held (p.locals i)) : L.Ok q := by
  have hsame (j : ι) : L.held (q.locals j) = L.held (p.locals j) := by
    by_cases hj : j = i
    · rw [hj, hheld]
    · rw [hother j hj]
  constructor
  · exact fun j ↦ hsame j ▸ h.nodup j
  · intro j k hk
    rw [hsame] at hk
    rw [hlocked]
    exact h.locked j k hk
  · intro k hk
    rw [hlocked] at hk
    obtain ⟨j, hj⟩ := h.exists_holder k hk
    exact ⟨j, hsame j ▸ hj⟩
  · intro j j' k hk hk'
    rw [hsame] at hk hk'
    exact h.exclusive j j' k hk hk'

theorem Ok.take (h : L.Ok p) (hother : ∀ j, j ≠ i → q.locals j = p.locals j)
    (hfree : L.locked p.shared k = false)
    (hlocked : L.locked q.shared = update (L.locked p.shared) k true)
    (hheld : L.held (q.locals i) = k :: L.held (p.locals i)) : L.Ok q := by
  -- nobody holds a lock that is free
  have hnot (j : ι) : k ∉ L.held (p.locals j) := fun hk ↦ by
    have htaken := h.locked j k hk
    rw [hfree] at htaken
    cases htaken
  have hmem (j : ι) (m : κ) :
      m ∈ L.held (q.locals j) ↔ (j = i ∧ m = k) ∨ m ∈ L.held (p.locals j) := by
    by_cases hj : j = i
    · subst hj
      simp [hheld]
    · simp [hother j hj, hj]
  constructor
  · intro j
    by_cases hj : j = i
    · subst hj
      rw [hheld]
      exact List.nodup_cons.mpr ⟨hnot j, h.nodup j⟩
    · rw [hother j hj]
      exact h.nodup j
  · intro j m hm
    rw [hlocked]
    by_cases hmk : m = k
    · rw [hmk, update_self]
    · rw [update_of_ne hmk]
      exact h.locked j m (((hmem j m).mp hm).resolve_left fun hnew ↦ hmk hnew.2)
  · intro m hm
    by_cases hmk : m = k
    · exact ⟨i, (hmem i m).mpr (.inl ⟨rfl, hmk⟩)⟩
    · rw [hlocked, update_of_ne hmk] at hm
      obtain ⟨j, hj⟩ := h.exists_holder m hm
      exact ⟨j, (hmem j m).mpr (.inr hj)⟩
  · intro j j' m hm hm'
    rcases (hmem j m).mp hm with ⟨rfl, rfl⟩ | hold
    · rcases (hmem j' m).mp hm' with ⟨rfl, -⟩ | hold'
      · rfl
      · exact absurd hold' (hnot j')
    · rcases (hmem j' m).mp hm' with ⟨-, rfl⟩ | hold'
      · exact absurd hold (hnot j)
      · exact h.exclusive j j' m hold hold'

theorem Ok.free (h : L.Ok p) (hother : ∀ j, j ≠ i → q.locals j = p.locals j)
    (hlocked : L.locked q.shared = update (L.locked p.shared) k false)
    (hheld : L.held (p.locals i) = k :: L.held (q.locals i)) : L.Ok q := by
  have hnodup := h.nodup i
  rw [hheld, List.nodup_cons] at hnodup
  have hi : k ∈ L.held (p.locals i) := hheld ▸ List.mem_cons_self
  have hmem (j : ι) (m : κ) : m ∈ L.held (q.locals j) ↔ m ≠ k ∧ m ∈ L.held (p.locals j) := by
    by_cases hj : j = i
    · subst hj
      rw [hheld, List.mem_cons]
      constructor
      · exact fun hm ↦ ⟨fun hmk ↦ hnodup.1 (hmk ▸ hm), .inr hm⟩
      · exact fun hm ↦ hm.2.resolve_left hm.1
    · rw [hother j hj]
      refine ⟨fun hm ↦ ⟨?_, hm⟩, And.right⟩
      rintro rfl
      exact hj (h.exclusive j i m hm hi)
  constructor
  · intro j
    by_cases hj : j = i
    · subst hj
      exact hnodup.2
    · rw [hother j hj]
      exact h.nodup j
  · intro j m hm
    obtain ⟨hmk, hm⟩ := (hmem j m).mp hm
    rw [hlocked, update_of_ne hmk]
    exact h.locked j m hm
  · intro m hm
    have hmk : m ≠ k := by
      rintro rfl
      rw [hlocked, update_self] at hm
      cases hm
    rw [hlocked, update_of_ne hmk] at hm
    obtain ⟨j, hj⟩ := h.exists_holder m hm
    exact ⟨j, (hmem j m).mpr ⟨hmk, hj⟩⟩
  · intro j j' m hm hm'
    exact h.exclusive j j' m ((hmem j m).mp hm).2 ((hmem j' m).mp hm').2

end

variable {T : Threads σ ℓ α} [DecidableEq ι]

theorem Ok.next {p q : Pool ι σ ℓ} {i : ι} {a : α} (h : L.Ok p)
    (hnext : T.pool.next p (i, a) = some q)
    (hstep : L.Step p.shared (p.locals i) q.shared (q.locals i)) : L.Ok q := by
  obtain ⟨-, hother⟩ := T.step_of_pool_next hnext
  cases hstep with
  | keep hlocked hheld => exact h.keep hother hlocked hheld
  | take k hfree hlocked hheld => exact h.take hother hfree hlocked hheld
  | free k hlocked hheld => exact h.free hother hlocked hheld

/-- All steps of the threads are steps on the locks. -/
def Disciplined (L : Locking σ ℓ κ) (T : Threads σ ℓ α) : Prop :=
  ∀ s l a s' l', T.step s l a = some (s', l') → L.Step s l s' l'

/-- A thread does not move while the lock that it wants is taken. -/
def Blocking (L : Locking σ ℓ κ) (T : Threads σ ℓ α) : Prop :=
  ∀ s l a k, L.wants l = some k → L.locked s k = true → T.step s l a = none

theorem Ok.exec (hdisciplined : L.Disciplined T) {p q : Pool ι σ ℓ} {labels : List (ι × α)}
    (h : L.Ok p) (hrun : T.pool.exec p labels = some q) : L.Ok q := by
  refine T.pool.invariant (I := fun p ↦ L.Ok p) ?_ h hrun
  rintro p ⟨i, a⟩ q h hnext
  exact h.next hnext (hdisciplined _ _ _ _ _ (T.step_of_pool_next hnext).1)

/-- A thread that waits for itself stays where it is. -/
theorem Ok.stuck (hdisciplined : L.Disciplined T) (hblocking : L.Blocking T) {i : ι}
    {p q : Pool ι σ ℓ} {labels : List (ι × α)} (h : L.Ok p) (hwaits : L.Waits p i i)
    (hrun : T.pool.exec p labels = some q) : q.locals i = p.locals i := by
  have hinvariant : L.Ok q ∧ q.locals i = p.locals i := by
    refine T.pool.invariant (I := fun r ↦ L.Ok r ∧ r.locals i = p.locals i) ?_ ⟨h, rfl⟩ hrun
    rintro r ⟨j, a⟩ r' ⟨hr, hsame⟩ hnext
    obtain ⟨hstep, hother⟩ := T.step_of_pool_next hnext
    refine ⟨hr.next hnext (hdisciplined _ _ _ _ _ hstep), ?_⟩
    obtain ⟨k, hwants, hheld⟩ := hwaits
    rw [← hsame] at hwants hheld
    have hji : i ≠ j := by
      rintro rfl
      rw [hblocking _ _ a k hwants (hr.locked i k hheld)] at hstep
      cases hstep
    rw [hother i hji, hsame]
  exact hinvariant.2

end Locking
