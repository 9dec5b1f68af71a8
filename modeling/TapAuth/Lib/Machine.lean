import Mathlib.Data.Option.Basic

/-!
# Machines: runs, guarded runs and their invariants

A *machine* is a deterministic partial transition function over labels.  All
nondeterminism of the system that is modelled (the scheduler, the network, the
clock, a user) sits in the labels, so that a run is determined by its list of
labels and can be executed.

* `Machine.exec` runs a list of labels; a label that is not possible in the
  state it meets makes the whole run impossible.
* `Machine.Along` says that every step of a run meets a condition on the label
  and the state before the step.
* `Machine.invariant_along` is the one induction: what every step that meets the
  condition preserves holds at the end of every run whose steps all meet it.
* `Machine.history_along` is the same induction for what is said of the run so far.
* `Machine.potential_along` is the same induction for a quantity to which every
  step adds at most what its label is credited with.
* `Machine.Meets` says that some step of a run meets a condition, and
  `Machine.flag_iff_meets` that a flag which records such steps records the run.
* `Machine.feed` offers labels to the machine, which skips those that are not
  possible: two machines offered the same labels can be compared step by step
  (`Machine.feed_rel`).
-/

universe u v

/-- A deterministic machine: the state after a label, or `none` where the label
is not possible. -/
structure Machine (σ : Type u) (α : Type v) where
  next : σ → α → Option σ

namespace Machine

variable {σ : Type u} {α : Type v} (M : Machine σ α)

/-- Run a list of labels. -/
def exec : σ → List α → Option σ
  | s, [] => some s
  | s, a :: as => (M.next s a).bind fun t ↦ exec t as

@[simp] theorem exec_nil (s : σ) : M.exec s [] = some s := rfl

@[simp] theorem exec_cons (s : σ) (a : α) (as : List α) :
    M.exec s (a :: as) = (M.next s a).bind fun t ↦ M.exec t as := rfl

variable {as : List α} {s t : σ} {G : σ → α → Prop}

theorem exec_cons_eq_some {s u : σ} {a : α} :
    M.exec s (a :: as) = some u ↔ ∃ t, M.next s a = some t ∧ M.exec t as = some u := by
  rw [exec_cons, Option.bind_eq_some_iff]

theorem exec_append (h : M.exec s as = some t) (bs : List α) :
    M.exec s (as ++ bs) = M.exec t bs := by
  induction as generalizing s with
  | nil => cases h; rfl
  | cons a as ih =>
    obtain ⟨u, hu, hrun⟩ := M.exec_cons_eq_some.mp h
    rw [List.cons_append, exec_cons, hu, Option.bind_some, ih hrun]

/-- Every step of the run of `as` from `s` meets `G`. -/
def Along (G : σ → α → Prop) : σ → List α → Prop
  | _, [] => True
  | s, a :: as => G s a ∧ ∀ t, M.next s a = some t → Along G t as

instance Along.decidable (G : σ → α → Prop) [∀ s a, Decidable (G s a)] :
    ∀ s as, Decidable (M.Along G s as)
  | _, [] => instDecidableTrue
  | s, a :: as =>
    match h : M.next s a with
    | none => decidable_of_iff (G s a) (by simp [Along, h])
    | some t =>
      have := Along.decidable G t as
      decidable_of_iff (G s a ∧ M.Along G t as) (by simp [Along, h])

variable {M} in
theorem Along.and {G H : σ → α → Prop} {s : σ} (hG : M.Along G s as) (hH : M.Along H s as) :
    M.Along (fun s a ↦ G s a ∧ H s a) s as := by
  induction as generalizing s with
  | nil => trivial
  | cons a as ih => exact ⟨⟨hG.1, hH.1⟩, fun t ht ↦ ih (hG.2 t ht) (hH.2 t ht)⟩

theorem along_append {as bs : List α} (hrun : M.exec s as = some t) :
    M.Along G s (as ++ bs) ↔ M.Along G s as ∧ M.Along G t bs := by
  induction as generalizing s with
  | nil =>
    cases hrun
    exact (and_iff_right trivial).symm
  | cons a as ih =>
    obtain ⟨u, hu, hrun⟩ := M.exec_cons_eq_some.mp hrun
    have hcons (cs : List α) : M.Along G s (a :: cs) ↔ G s a ∧ M.Along G u cs := by
      simp [Along, hu]
    rw [List.cons_append, hcons, hcons, ih hrun, and_assoc]

/-- A condition on the labels alone. -/
theorem along_of_mem (h : ∀ a ∈ as, ∀ s, G s a) (s : σ) :
    M.Along G s as := by
  induction as generalizing s with
  | nil => trivial
  | cons a as ih =>
    exact ⟨h a List.mem_cons_self s, fun t _ ↦ ih (fun b hb ↦ h b (List.mem_cons_of_mem a hb)) t⟩

/-- Two conditions that agree wherever the run gets. -/
theorem along_congr_of_exec {G H : σ → α → Prop} {s : σ}
    (h : ∀ before a after t, as = before ++ a :: after → M.exec s before = some t →
      (G t a ↔ H t a)) : M.Along G s as ↔ M.Along H s as := by
  induction as generalizing s with
  | nil => exact Iff.rfl
  | cons a as ih =>
    refine and_congr (h [] a as s rfl rfl) (forall_congr' fun t ↦ imp_congr_right fun ht ↦
      ih fun before b after u has hrun ↦ h (a :: before) b after u ?_ ?_)
    · rw [has, List.cons_append]
    · exact M.exec_cons_eq_some.mpr ⟨t, ht, hrun⟩

theorem along_congr {G H : σ → α → Prop} (h : ∀ s a, G s a ↔ H s a) (s : σ) (as : List α) :
    M.Along G s as ↔ M.Along H s as :=
  M.along_congr_of_exec fun _ a _ t _ _ ↦ h t a

/-- The invariant rule for guarded runs: what each step that meets `G` preserves
holds at the end of every run whose steps all meet `G`. -/
theorem invariant_along {I : σ → Prop} (hstep : ∀ s a t, I s → G s a → M.next s a = some t → I t)
    (hs : I s) (hrun : M.exec s as = some t) (hG : M.Along G s as) :
    I t := by
  induction as generalizing s with
  | nil => cases hrun; exact hs
  | cons a as ih =>
    obtain ⟨u, hu, hrun⟩ := M.exec_cons_eq_some.mp hrun
    exact ih (hstep s a u hs hG.1 hu) hrun (hG.2 u hu)

/-- The invariant rule for all runs. -/
theorem invariant {I : σ → Prop} (hstep : ∀ s a t, I s → M.next s a = some t → I t) (hs : I s)
    (hrun : M.exec s as = some t) : I t :=
  M.invariant_along (G := fun _ _ ↦ True) (fun s a t hs _ hnext ↦ hstep s a t hs hnext) hs hrun
    (M.along_of_mem (fun _ _ _ ↦ trivial) s)

/-- The invariant rule with the run so far: what a step adds to the run may be said in terms of
the whole run before it. -/
theorem history_along {H : List α → σ → Prop} (hstart : H [] s)
    (hstep : ∀ before u a v, M.exec s before = some u → H before u → G u a → M.next u a = some v →
      H (before ++ [a]) v) (hrun : M.exec s as = some t) (hG : M.Along G s as) : H as t := by
  have hmore : ∀ (as before : List α) (u : σ), M.exec s before = some u → H before u →
      M.exec u as = some t → M.Along G u as → H (before ++ as) t := by
    intro as
    induction as with
    | nil =>
      intro before u _ hH hrun _
      cases hrun
      rwa [List.append_nil]
    | cons a as ih =>
      intro before u hbefore hH hrun hG
      obtain ⟨v, hv, hrun⟩ := M.exec_cons_eq_some.mp hrun
      have hlonger : M.exec s (before ++ [a]) = some v := by
        rw [M.exec_append hbefore, exec_cons, hv]
        rfl
      have hrest := ih (before ++ [a]) v hlonger (hstep before u a v hbefore hH hG.1 hv) hrun
        (hG.2 v hv)
      rwa [List.append_assoc] at hrest
  exact hmore as [] s rfl hstart hrun hG

/-- The potential rule: if each step that meets `G` adds at most its label's credit, a run
adds at most the credit of its labels. -/
theorem potential_along {I : σ → Prop} (potential : σ → Int) (credit : α → Int)
    (hstep : ∀ s a t, I s → G s a → M.next s a = some t →
      I t ∧ potential t ≤ potential s + credit a) (hs : I s) (hrun : M.exec s as = some t)
    (hG : M.Along G s as) :
    potential t ≤ potential s + as.foldr (fun a total ↦ credit a + total) 0 := by
  induction as generalizing s with
  | nil =>
    cases hrun
    simp
  | cons a as ih =>
    obtain ⟨u, hu, hrun⟩ := M.exec_cons_eq_some.mp hrun
    obtain ⟨hIu, hle⟩ := hstep s a u hs hG.1 hu
    have hrest := ih hIu hrun (hG.2 u hu)
    rw [List.foldr_cons]
    omega

/-! ## What has happened in a run -/

/-- Some step of the run of `as` from `s` meets `G`. -/
def Meets (G : σ → α → Prop) : σ → List α → Prop
  | _, [] => False
  | s, a :: as => G s a ∨ ∃ t, M.next s a = some t ∧ Meets G t as

/-- The rule for a flag: if a step raises it exactly where the step meets `G`, and
none lowers it, it is up at the end of a run iff it was at the start or some step
of the run meets `G`. -/
theorem flag_iff_meets {I F : σ → Prop}
    (hstep : ∀ s a t, I s → M.next s a = some t → I t ∧ (F t ↔ F s ∨ G s a)) (hs : I s)
    (hrun : M.exec s as = some t) :
    F t ↔ F s ∨ M.Meets G s as := by
  induction as generalizing s with
  | nil =>
    cases hrun
    exact (or_iff_left id).symm
  | cons a as ih =>
    obtain ⟨u, hu, hrun⟩ := M.exec_cons_eq_some.mp hrun
    obtain ⟨hIu, hFu⟩ := hstep s a u hs hu
    have hmeets : M.Meets G s (a :: as) ↔ G s a ∨ M.Meets G u as := by
      simp [Meets, hu]
    rw [ih hIu hrun, hFu, hmeets, or_assoc]

/-- In a run that gets to its end, a condition on the labels alone is met iff a label meets it. -/
theorem meets_iff_exists_mem {C : α → Prop} (hrun : M.exec s as = some t) :
    M.Meets (fun _ a ↦ C a) s as ↔ ∃ a ∈ as, C a := by
  induction as generalizing s with
  | nil => simp [Meets]
  | cons a as ih =>
    obtain ⟨u, hu, hrun⟩ := M.exec_cons_eq_some.mp hrun
    simp [Meets, hu, ih hrun]

/-! ## Offering labels -/

/-- Offer a list of labels; the machine skips those that are not possible. -/
def feed : σ → List α → σ
  | s, [] => s
  | s, a :: as => feed ((M.next s a).getD s) as

@[simp] theorem feed_nil (s : σ) : M.feed s [] = s := rfl

@[simp] theorem feed_cons (s : σ) (a : α) (as : List α) :
    M.feed s (a :: as) = M.feed ((M.next s a).getD s) as := rfl

theorem feed_append (s : σ) (as bs : List α) :
    M.feed s (as ++ bs) = M.feed (M.feed s as) bs := by
  induction as generalizing s with
  | nil => rfl
  | cons a as ih => exact ih _

/-- A state from which no label is possible stays. -/
theorem feed_of_stuck {s : σ} (h : ∀ a, M.next s a = none) (as : List α) : M.feed s as = s := by
  induction as with
  | nil => rfl
  | cons a as ih => rw [feed_cons, h a, Option.getD_none, ih]

/-- What is offered is run, but for the labels that are not possible. -/
theorem exists_exec_eq_feed (s : σ) (as : List α) :
    ∃ bs, bs.Sublist as ∧ M.exec s bs = some (M.feed s as) := by
  induction as generalizing s with
  | nil => exact ⟨[], .slnil, rfl⟩
  | cons a as ih =>
    cases hnext : M.next s a with
    | none =>
      obtain ⟨bs, hsub, hrun⟩ := ih s
      exact ⟨bs, hsub.cons a, by rw [hrun, feed_cons, hnext, Option.getD_none]⟩
    | some t =>
      obtain ⟨bs, hsub, hrun⟩ := ih t
      exact ⟨a :: bs, hsub.cons_cons a, by
        rw [exec_cons, hnext, Option.bind_some, hrun, feed_cons, hnext, Option.getD_some]⟩

/-- Two machines that answer every offered label in a related way stay related. -/
theorem feed_rel {τ : Type*} (N : Machine τ α) {R : σ → τ → Prop} {C : α → Prop}
    (hstep : ∀ s t a, R s t → C a → Option.Rel R (M.next s a) (N.next t a)) {s : σ} {t : τ}
    (hst : R s t) (hC : ∀ a ∈ as, C a) :
    R (M.feed s as) (N.feed t as) := by
  induction as generalizing s t with
  | nil => exact hst
  | cons a as ih =>
    have hnext : R ((M.next s a).getD s) ((N.next t a).getD t) := by
      have hrel := hstep s t a hst (hC a List.mem_cons_self)
      generalize M.next s a = x, N.next t a = y at hrel
      cases hrel with
      | some h => exact h
      | none => exact hst
    exact ih hnext fun b hb ↦ hC b (List.mem_cons_of_mem a hb)

end Machine
