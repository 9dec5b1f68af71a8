import TapAuth.Lib.Serial

/-!
# Read–modify–write without a lock

Operations on one cell that read it, compute, and write it back later.  Nothing keeps
others from writing in between.

`Rmw.run` is an operation that runs alone; `Rmw.threads` cuts it after its read.
`Rmw.serializable` is the rule: if every write finds the cell as its operation read it,
the cell is left as by running the operations one after the other, in the order in which
they finished.
-/

universe u v w

/-- An operation on a cell: what it answers if what it reads is enough, and otherwise what
it writes over the value it finds, and then answers. -/
structure Rmw (β : Type u) (ρ : Type v) where
  plan : β → Option ρ
  commit : β → β → β × ρ

namespace Rmw

variable {β : Type u} {ρ : Type v}

/-- The operation alone. -/
def run (op : Rmw β ρ) (s : β) : β × ρ :=
  match op.plan s with
  | some r => (s, r)
  | none => op.commit s s

theorem run_of_plan {op : Rmw β ρ} {s : β} {r : ρ} (h : op.plan s = some r) :
    op.run s = (s, r) := by
  rw [run, h]

theorem run_of_commit {op : Rmw β ρ} {s : β} (h : op.plan s = none) :
    op.run s = op.commit s s := by
  rw [run, h]

/-- An operation before its read, between its read and its write, and when it has
answered. -/
inductive Phase (β : Type u) (ρ : Type v) where
  | idle (op : Rmw β ρ)
  | holding (op : Rmw β ρ) (read : β)
  | done (answer : ρ)

def Phase.IsDone : Phase β ρ → Prop
  | .done _ => True
  | _ => False

def threadStep (s : β) : Phase β ρ → Option (β × Phase β ρ)
  | .idle op =>
    match op.plan s with
    | some r => some (s, .done r)
    | none => some (s, .holding op s)
  | .holding op read =>
    let moved := op.commit read s
    some (moved.1, .done moved.2)
  | .done _ => none

/-- Operations whose reads and writes interleave. -/
def threads : Threads β (Phase β ρ) Unit := ⟨fun s l _ ↦ threadStep s l⟩

variable {ι : Type w}

/-- A write finds the cell as its operation read it. -/
def Unraced (p : Pool ι β (Phase β ρ)) (label : ι × Unit) : Prop :=
  match p.locals label.1 with
  | .holding _ read => p.shared = read
  | _ => True

/-- The operations one after the other. -/
def runAll (ops : ι → Rmw β ρ) : List ι → β → β
  | [], s => s
  | i :: order, s => runAll ops order ((ops i).run s).1

theorem runAll_append (ops : ι → Rmw β ρ) (order : List ι) (i : ι) (s : β) :
    runAll ops (order ++ [i]) s = ((ops i).run (runAll ops order s)).1 := by
  induction order generalizing s with
  | nil => rfl
  | cons j order ih => exact ih _

/-- The cell is what the finished operations make of `s`, in some order. -/
structure Explained (ops : ι → Rmw β ρ) (s : β) (p : Pool ι β (Phase β ρ)) : Prop where
  order : ∃ order : List ι, order.Nodup ∧ (∀ i, i ∈ order ↔ (p.locals i).IsDone) ∧
    p.shared = runAll ops order s
  phase : ∀ i, p.locals i = .idle (ops i) ∨
    (∃ read, p.locals i = .holding (ops i) read ∧ (ops i).plan read = none) ∨ (p.locals i).IsDone

variable [DecidableEq ι]

theorem Explained.step {ops : ι → Rmw β ρ} {s : β} {p q : Pool ι β (Phase β ρ)}
    (h : Explained ops s p) {label : ι × Unit} (hunraced : Unraced p label)
    (hnext : threads.pool.next p label = some q) : Explained ops s q := by
  obtain ⟨i, u⟩ := label
  obtain ⟨hmoved, hother⟩ := threads.step_of_pool_next hnext
  replace hmoved : threadStep p.shared (p.locals i) = some (q.shared, q.locals i) := hmoved
  -- the thread that moves has read only, or it has finished with the whole operation
  have hmove : ¬ (p.locals i).IsDone ∧
      ((q.shared = p.shared ∧ q.locals i = .holding (ops i) p.shared ∧
          (ops i).plan p.shared = none) ∨
        (q.shared = ((ops i).run p.shared).1 ∧ (q.locals i).IsDone)) := by
    obtain hi | ⟨read, hi, hplan⟩ | hi := h.phase i
    · rw [hi, threadStep] at hmoved
      rw [hi]
      refine ⟨id, ?_⟩
      cases hplan : (ops i).plan p.shared with
      | some r =>
        rw [hplan] at hmoved
        obtain ⟨hshared, hlocal⟩ := Prod.mk.inj (Option.some.inj hmoved)
        rw [run_of_plan hplan, ← hshared, ← hlocal]
        exact .inr ⟨rfl, trivial⟩
      | none =>
        rw [hplan] at hmoved
        obtain ⟨hshared, hlocal⟩ := Prod.mk.inj (Option.some.inj hmoved)
        exact .inl ⟨hshared.symm, hlocal.symm, rfl⟩
    · -- the cell is as it was read, so this write is the whole operation
      have hread : p.shared = read := by simpa only [Unraced, hi] using hunraced
      rw [hi, threadStep, ← hread] at hmoved
      obtain ⟨hshared, hlocal⟩ := Prod.mk.inj (Option.some.inj hmoved)
      rw [hi, run_of_commit (hread ▸ hplan), ← hshared, ← hlocal]
      exact ⟨id, .inr ⟨rfl, trivial⟩⟩
    · cases hlocal : p.locals i with
      | done r =>
        rw [hlocal] at hmoved
        cases hmoved
      | idle op | holding op read => simp [hlocal, Phase.IsDone] at hi
  refine ⟨Threads.Accounted.next h.order hnext (fun s ↦ ((ops i).run s).1)
    (fun order ↦ runAll_append ops order i s) hmove.1 ?_, fun j ↦ ?_⟩
  · rcases hmove.2 with ⟨hshared, hlocal, -⟩ | hdone
    · exact .inl ⟨hshared, by rw [hlocal]; exact id⟩
    · exact .inr hdone
  · by_cases hj : j = i
    · subst hj
      rcases hmove.2 with ⟨-, hlocal, hplan⟩ | ⟨-, hdone⟩
      · exact .inr (.inl ⟨p.shared, hlocal, hplan⟩)
      · exact .inr (.inr hdone)
    · rw [hother j hj]
      exact h.phase j

/-- Where no write is raced, the operations are serializable: when all have finished, the cell
is as if they had run one after the other. -/
theorem serializable {ops : ι → Rmw β ρ} {p q : Pool ι β (Phase β ρ)}
    (hidle : ∀ i, p.locals i = .idle (ops i)) {labels : List (ι × Unit)}
    (hrun : threads.pool.exec p labels = some q) (hunraced : threads.pool.Along Unraced p labels)
    (hdone : ∀ i, (q.locals i).IsDone) :
    ∃ order : List ι, order.Nodup ∧ (∀ i, i ∈ order) ∧ q.shared = runAll ops order p.shared := by
  have hstart : Explained ops p.shared p := by
    refine ⟨⟨[], List.nodup_nil, fun i ↦ ?_, rfl⟩, fun i ↦ .inl (hidle i)⟩
    rw [hidle i]
    exact iff_of_false (List.not_mem_nil) id
  obtain ⟨order, hnodup, hmem, hcell⟩ :=
    (threads.pool.invariant_along (fun _ _ _ h hunraced hnext ↦ h.step hunraced hnext) hstart hrun
      hunraced).order
  exact ⟨order, hnodup, fun i ↦ (hmem i).mpr (hdone i), hcell⟩

end Rmw
