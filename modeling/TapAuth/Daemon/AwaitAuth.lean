import Mathlib.Logic.Function.Basic
import TapAuth.Daemon.Session

/-!
# Waiting for the transports

`await_auth_result` waits in a `select!` for the two transport tasks and for a cancel.
Here it stands alone: the tasks may end in any way, in any order and at any time, the
cancel may arrive at any time, and `select!` may take any branch that is armed and ready.

`awaitAuthResult_spec` says what it returns, in every run: the verdict of the first
terminal thing it has observed, `Denied` if both transports have failed and it has
observed no such thing, and nothing otherwise; while it waits, every branch that may still
decide is armed.  `follows_of_exec` says that a session that waits for its tasks is this
loop, with the session's tasks in the place of the arbitrary ones.
-/

namespace TapAuth.Daemon

open Shared

/-- What joining a task gives. -/
inductive TaskResult where
  | returned (result : Except AuthHandlerError Unit)
  | panicked

/-- What a branch of `select!` sees. -/
inductive Observation where
  | joined (k : TransportKind) (result : TaskResult)
  | cancelled

/-- The verdict of a terminal observation: a success, an explicit denial or a cancel. -/
def Observation.verdict? : Observation → Option (Except AuthHandlerError Unit)
  | .joined _ (.returned (.ok ())) => some (.ok ())
  | .joined _ (.returned (.error .explicitDenial)) => some (.error .explicitDenial)
  | .joined _ _ => none
  | .cancelled => some (.error .denied)

/-- One turn of the loop: what `select!` saw, up to the next `select!` or the return. -/
def awaitTurn (failed : Failed) : Observation → Failed ⊕ Except AuthHandlerError Unit
  | .joined _ (.returned (.ok ())) => .inr (.ok ())
  | .joined _ (.returned (.error .explicitDenial)) => .inr (.error .explicitDenial)
  | .joined k _ =>
    let failed := failed.set k
    if failed.ble && failed.udp then .inr (.error .denied) else .inl failed
  | .cancelled => .inr (.error .denied)

/-- `await_auth_result` and what it waits for. -/
structure Awaiting where
  finished : TransportKind → Option TaskResult
  /-- The cancel receiver is ready. -/
  cancelled : Bool
  /-- Where the loop stands, or what it has returned. -/
  loop : Failed ⊕ Except AuthHandlerError Unit
  /-- What the loop has observed. -/
  observed : List Observation

namespace Awaiting

def start : Awaiting := ⟨fun _ ↦ none, false, .inl ⟨false, false⟩, []⟩

/-- `select!` takes a branch. -/
def observe (a : Awaiting) (failed : Failed) (o : Observation) : Awaiting :=
  { a with loop := awaitTurn failed o, observed := a.observed ++ [o] }

/-- The result of a task is there. -/
def finish (a : Awaiting) (k : TransportKind) (result : TaskResult) : Awaiting :=
  { a with finished := Function.update a.finished k (some result) }

end Awaiting

/-- The branches of the `select!`. -/
inductive Branch where
  | task (k : TransportKind)
  | cancel

inductive AwaitEvent where
  | finish (k : TransportKind) (result : TaskResult)
  | cancel
  | poll (branch : Branch)

/-- `select!` takes a branch that is ready.  The branch of a task is disarmed once its
transport has failed, the branch of the cancel never is. -/
def Awaiting.poll (a : Awaiting) (failed : Failed) : Branch → Option Awaiting
  | .task k =>
    if failed.get k then none
    else (a.finished k).map fun result ↦ a.observe failed (.joined k result)
  | .cancel => if a.cancelled then some (a.observe failed .cancelled) else none

/-- `await_auth_result`, with everything that can happen around it. -/
def awaitAuthResult : Machine Awaiting AwaitEvent where
  next a
    | .finish k result => if (a.finished k).isSome then none else some (a.finish k result)
    | .cancel => some { a with cancelled := true }
    | .poll branch =>
      match a.loop with
      | .inl failed => a.poll failed branch
      | .inr _ => none

/-! ## What a step can do -/

/-- Every step: something becomes ready, or the loop observes something that is. -/
inductive AwaitStep (a : Awaiting) : Awaiting → Prop where
  | finished (k : TransportKind) (result : TaskResult) (h : a.finished k = none) :
      AwaitStep a (a.finish k result)
  | cancelled : AwaitStep a { a with cancelled := true }
  | joined {failed : Failed} {k : TransportKind} {result : TaskResult}
      (hloop : a.loop = .inl failed) (harmed : failed.get k = false)
      (h : a.finished k = some result) : AwaitStep a (a.observe failed (.joined k result))
  | cancelObserved {failed : Failed} (hloop : a.loop = .inl failed) (h : a.cancelled = true) :
      AwaitStep a (a.observe failed .cancelled)

open Awaiting

theorem awaitAuthResult_next_eq_some {a b : Awaiting} {e : AwaitEvent}
    (h : awaitAuthResult.next a e = some b) : AwaitStep a b := by
  rcases e with ⟨k, result⟩ | - | (k | -)
  · simp only [awaitAuthResult] at h
    split_ifs at h with hfinished
    cases h
    exact .finished k result (by simpa using hfinished)
  · cases h
    exact .cancelled
  · cases hloop : a.loop with
    | inr verdict => simp [awaitAuthResult, hloop] at h
    | inl failed =>
      simp only [awaitAuthResult, hloop, poll] at h
      split_ifs at h with harmed
      obtain ⟨result, hresult, rfl⟩ := Option.map_eq_some_iff.mp h
      exact .joined hloop (by simpa using harmed) hresult
  · cases hloop : a.loop with
    | inr verdict => simp [awaitAuthResult, hloop] at h
    | inl failed =>
      simp only [awaitAuthResult, hloop, poll] at h
      split_ifs at h with hcancelled
      cases h
      exact .cancelObserved hloop hcancelled

/-! ## What the loop returns -/

section

variable {failed : Failed} {o : Observation} {k : TransportKind} {result : TaskResult}

@[simp] theorem Failed.get_set (failed : Failed) (k j : TransportKind) :
    (failed.set k).get j = (decide (j = k) || failed.get j) := by
  cases k <;> cases j <;> simp [Failed.get, Failed.set]

theorem awaitTurn_of_verdict {v : Except AuthHandlerError Unit} (h : o.verdict? = some v) :
    awaitTurn failed o = .inr v := by
  unfold Observation.verdict? at h
  split at h <;> cases h <;> rfl

/-- A transport that fails ends the loop only if the other one has failed. -/
theorem awaitTurn_of_failed (h : (Observation.joined k result).verdict? = none) :
    awaitTurn failed (.joined k result) =
      if failed.get k.other then .inr (.error .denied) else .inl (failed.set k) := by
  have hturn : awaitTurn failed (.joined k result) =
      if (failed.set k).ble && (failed.set k).udp then .inr (.error .denied)
      else .inl (failed.set k) := by
    rcases result with (e | u) | -
    · cases e <;> first | rfl | cases h
    · cases h
    · rfl
  rw [hturn]
  obtain ⟨ble, udp⟩ := failed
  cases k <;> cases ble <;> cases udp <;> rfl

end

namespace Awaiting

/-- A transport has failed: its task was observed to end without a verdict. -/
def HasFailed (a : Awaiting) (k : TransportKind) : Prop :=
  ∃ result, Observation.joined k result ∈ a.observed

/-- The first verdict among the observations. -/
def firstVerdict (a : Awaiting) : Option (Except AuthHandlerError Unit) :=
  a.observed.findSome? Observation.verdict?

/-- What the loop stands for: while it waits it has observed no verdict and its flags say
which transports have failed, and when it has returned it was for the first verdict or
because both transports have failed. -/
def LoopOk (a : Awaiting) : Prop :=
  match a.loop with
  | .inl failed =>
    a.firstVerdict = none ∧ (∀ k, failed.get k = true ↔ a.HasFailed k) ∧
      ∃ k, failed.get k = false
  | .inr v =>
    a.firstVerdict = some v ∨
      a.firstVerdict = none ∧ (∀ k, a.HasFailed k) ∧ v = .error .denied

/-- The invariant of the loop. -/
structure Ok (a : Awaiting) : Prop where
  joined : ∀ k result, .joined k result ∈ a.observed → a.finished k = some result
  cancelled : .cancelled ∈ a.observed → a.cancelled = true
  loop : a.LoopOk

theorem ok_start : start.Ok where
  joined := nofun
  cancelled := nofun
  loop := ⟨rfl, fun k ↦ ⟨by cases k <;> nofun, nofun⟩, .ble, rfl⟩

theorem firstVerdict_observe {a : Awaiting} (h : a.firstVerdict = none) (failed : Failed)
    (o : Observation) : (a.observe failed o).firstVerdict = o.verdict? := by
  simp only [firstVerdict, observe, List.findSome?_append] at h ⊢
  rw [h, Option.none_or]
  cases hv : o.verdict? <;> simp [hv]

theorem hasFailed_observe {a : Awaiting} {failed : Failed} {k j : TransportKind}
    {result : TaskResult} :
    (a.observe failed (.joined k result)).HasFailed j ↔ j = k ∨ a.HasFailed j := by
  simp only [HasFailed, observe, List.mem_append, List.mem_singleton, Observation.joined.injEq]
  constructor
  · rintro ⟨r, h | ⟨rfl, -⟩⟩
    · exact .inr ⟨r, h⟩
    · exact .inl rfl
  · rintro (rfl | ⟨r, h⟩)
    · exact ⟨result, .inr ⟨rfl, rfl⟩⟩
    · exact ⟨r, .inl h⟩

/-- One turn keeps the meaning of the loop. -/
theorem loopOk_observe {a : Awaiting} {failed : Failed} (hloop : a.loop = .inl failed)
    (ha : a.LoopOk) (o : Observation) : (a.observe failed o).LoopOk := by
  simp only [LoopOk, hloop] at ha
  obtain ⟨hnone, hfailed, -⟩ := ha
  have hfirst := firstVerdict_observe hnone failed o
  cases hv : o.verdict? with
  | some v =>
    have hturn : (a.observe failed o).loop = .inr v := awaitTurn_of_verdict hv
    rw [LoopOk, hturn]
    exact .inl (hfirst.trans hv)
  | none =>
    obtain ⟨k, result⟩ | - := o
    case cancelled => cases hv
    have hturn : (a.observe failed (.joined k result)).loop = _ := awaitTurn_of_failed hv
    rw [LoopOk, hturn]
    by_cases hother : failed.get k.other = true
    · -- this was the second failure
      rw [if_pos hother]
      refine .inr ⟨hfirst.trans hv, fun j ↦ hasFailed_observe.mpr ?_, rfl⟩
      by_cases hj : j = k
      · exact .inl hj
      · have hjk : j = k.other := by cases j <;> cases k <;> first | rfl | exact absurd rfl hj
        exact .inr ((hfailed j).mp (hjk ▸ hother))
    · rw [if_neg hother]
      refine ⟨hfirst.trans hv, fun j ↦ ?_, k.other, ?_⟩
      · rw [hasFailed_observe, Failed.get_set, Bool.or_eq_true, decide_eq_true_eq, hfailed]
      · have hk : k.other ≠ k := by cases k <;> nofun
        simpa [hk] using hother

end Awaiting

/-- Every step keeps the invariant. -/
theorem AwaitStep.ok {a b : Awaiting} (h : AwaitStep a b) (ha : a.Ok) : b.Ok := by
  cases h with
  | finished k result hk =>
    refine ⟨fun j r hj ↦ ?_, ha.cancelled, ha.loop⟩
    have hfinished := ha.joined j r hj
    have hjk : j ≠ k := by
      rintro rfl
      rw [hk] at hfinished
      cases hfinished
    simpa [finish, hjk] using hfinished
  | cancelled => exact ⟨ha.joined, fun _ ↦ rfl, ha.loop⟩
  | @joined failed k result hloop harmed hresult =>
    refine ⟨fun j r hj ↦ ?_, fun hc ↦ ?_, loopOk_observe hloop ha.loop _⟩
    · rcases List.mem_append.mp hj with hj | hj
      · exact ha.joined j r hj
      · cases List.mem_singleton.mp hj
        exact hresult
    · rcases List.mem_append.mp hc with hc | hc
      · exact ha.cancelled hc
      · cases List.mem_singleton.mp hc
  | @cancelObserved failed hloop hcancelled =>
    refine ⟨fun j r hj ↦ ?_, fun _ ↦ hcancelled, loopOk_observe hloop ha.loop _⟩
    rcases List.mem_append.mp hj with hj | hj
    · exact ha.joined j r hj
    · cases List.mem_singleton.mp hj

theorem Awaiting.ok_of_exec {events : List AwaitEvent} {a : Awaiting}
    (h : awaitAuthResult.exec .start events = some a) : a.Ok :=
  awaitAuthResult.invariant (fun _ _ _ ha hnext ↦ (awaitAuthResult_next_eq_some hnext).ok ha)
    ok_start h

/-- **What `await_auth_result` returns.**  In every run, whatever the tasks end with and
whenever the cancel arrives: it has returned a verdict if and only if that is the verdict
of the first terminal observation, or it is `Denied`, there is no such observation and
both transports have failed.  What it has observed has happened.  While it waits, the
branch of a transport that has not failed is armed, and a cancel ends it. -/
theorem awaitAuthResult_spec {events : List AwaitEvent} {a : Awaiting}
    (h : awaitAuthResult.exec .start events = some a) :
    (∀ v, a.loop = .inr v ↔ a.firstVerdict = some v ∨
      a.firstVerdict = none ∧ (∀ k, a.HasFailed k) ∧ v = .error .denied) ∧
    (∀ k result, .joined k result ∈ a.observed → a.finished k = some result) ∧
    (.cancelled ∈ a.observed → a.cancelled = true) ∧
    ∀ failed, a.loop = .inl failed →
      (awaitAuthResult.exec a [.cancel, .poll .cancel]).map loop =
        some (.inr (.error .denied)) ∧
      ∀ k result, ¬ a.HasFailed k → a.finished k = some result →
        (awaitAuthResult.next a (.poll (.task k))).map loop =
          some (awaitTurn failed (.joined k result)) := by
  have ha := ok_of_exec h
  have hloop := ha.loop
  refine ⟨fun v ↦ ⟨fun hv ↦ ?_, fun hv ↦ ?_⟩, ha.joined, ha.cancelled, fun failed hwait ↦ ?_⟩
  · simpa only [LoopOk, hv] using hloop
  · cases hl : a.loop with
    | inl failed =>
      simp only [LoopOk, hl] at hloop
      obtain ⟨hnone, hfailed, k, hk⟩ := hloop
      rcases hv with hv | ⟨-, hboth, -⟩
      · rw [hnone] at hv
        cases hv
      · rw [(hfailed k).mpr (hboth k)] at hk
        cases hk
    | inr w =>
      simp only [LoopOk, hl] at hloop
      rcases hv with hv | ⟨hv, -, rfl⟩ <;> rcases hloop with hw | ⟨hw, -, rfl⟩
      · rw [hw] at hv
        exact congrArg Sum.inr (Option.some.inj hv)
      · rw [hw] at hv
        cases hv
      · rw [hw] at hv
        cases hv
      · rfl
  · simp only [LoopOk, hwait] at hloop
    constructor
    · simp [awaitAuthResult, hwait, poll, observe, awaitTurn]
    · intro k result hk hresult
      have harmed : ¬ failed.get k = true := fun hf ↦ hk ((hloop.2.1 k).mp hf)
      simp [awaitAuthResult, hwait, poll, observe, harmed, hresult]

/-- BLE is disabled, and a cancel is observed before the success of UDP. -/
theorem awaitAuthResult_spec_cancel_first :
    ∃ a, awaitAuthResult.exec .start
        [.finish .ble (.returned (.error .transportDisabled)), .poll (.task .ble),
          .finish .udp (.returned (.ok ())), .cancel, .poll .cancel] = some a ∧
      a.finished .udp = some (.returned (.ok ())) ∧ a.loop = .inr (.error .denied) := by
  obtain ⟨a, hrun, hfinished, hfirst⟩ : ∃ a, awaitAuthResult.exec .start
        [.finish .ble (.returned (.error .transportDisabled)), .poll (.task .ble),
          .finish .udp (.returned (.ok ())), .cancel, .poll .cancel] = some a ∧
      a.finished .udp = some (.returned (.ok ())) ∧ a.firstVerdict = some (.error .denied) :=
    ⟨_, rfl, rfl, rfl⟩
  exact ⟨a, hrun, hfinished, ((awaitAuthResult_spec hrun).1 _).mpr (.inl hfirst)⟩

/-! ## The session waits in this loop -/

/-- What joining a task gives, once it has ended. -/
def Task.result? : Task → Option TaskResult
  | .returned result => some (.returned result)
  | .panicked => some .panicked
  | _ => none

/-- A session that waits for its tasks, or has done so, beside the loop alone: the results of the
tasks are those of the session's tasks, and the session stands where the loop does. -/
def Follows (S : Session) (s : SessionState) (a : Awaiting) : Prop :=
  (∀ k, a.finished k = (s.task k).result?) ∧
    match s.phase with
    | .initializing | .registering => False
    | .selecting failed => a.loop = .inl failed
    | .closing result => a.loop = .inr result
    | .cancelling => a.loop = .inr (.error .denied)
    | .responded response =>
      response = respondTimeout S ∨ ∃ v, a.loop = .inr v ∧ response = respond S v

section

variable {P : Primitives} {S : Session} {s t : SessionState} {a : Awaiting} {k : TransportKind}

/-- A finished task, as the loop sees it. -/
theorem Task.result?_of_joinResult {task : Task} {join : JoinResult}
    (h : task.joinResult = some join) :
    ∃ result, task.result? = some result ∧
      (Observation.joined k result).verdict? =
        match join with
        | .terminal v => some v
        | .failed => none := by
  unfold joinResult at h
  split at h <;> cases h
  · exact ⟨_, rfl, rfl⟩
  · exact ⟨_, rfl, rfl⟩
  · rename_i e he
    refine ⟨_, rfl, ?_⟩
    cases e <;> first | rfl | exact absurd rfl he
  · exact ⟨_, rfl, rfl⟩

theorem get_eq_false_of_join {failed : Failed} (hphase : s.phase = .selecting failed)
    (h : join S s k = some t) : failed.get k = false := by
  simp only [join, hphase] at h
  split_ifs at h with harmed
  simpa using harmed

theorem Task.result?_of_taskStep {A : AuthParams} {now : Nat} {task task' : Task} {e : Event}
    (h : TaskStep P A now k task e task') : task.result? = none ∧ e ≠ .cancelled := by
  cases h <;> exact ⟨rfl, by simp⟩

/-- The loop takes the branch of a task that has ended. -/
theorem Awaiting.next_poll_task {failed : Failed} {result : TaskResult}
    (hloop : a.loop = .inl failed) (harmed : failed.get k = false)
    (h : a.finished k = some result) :
    awaitAuthResult.next a (.poll (.task k)) = some (a.observe failed (.joined k result)) := by
  simp [awaitAuthResult, hloop, poll, harmed, h]

theorem Task.result?_abort (task : Task) : task.abort.result? = task.result? := by
  cases task <;> rfl

/-- A task that is aborted keeps its result. -/
theorem SessionState.result?_close (s : SessionState) (v : Except AuthHandlerError Unit)
    (j : TransportKind) : ((s.close k v).task j).result? = (s.task j).result? := by
  cases k <;> cases j <;> first | rfl | exact Task.result?_abort _

/-- A task takes a step: the loop learns of it if the task has ended. -/
theorem Follows.setTask {task' : Task} (hs : Follows S s a) (hbefore : (s.task k).result? = none) :
    ∃ events b, awaitAuthResult.exec a events = some b ∧ Follows S (s.setTask k task') b ∧
      b.cancelled = a.cancelled := by
  obtain ⟨hfinished, hphase⟩ := hs
  have htask : ∀ j, (s.setTask k task').task j = if j = k then task' else s.task j := by
    intro j
    cases k <;> cases j <;> rfl
  have hsame : (s.setTask k task').phase = s.phase := by cases k <;> rfl
  cases hresult : task'.result? with
  | none =>
    refine ⟨[], a, rfl, ⟨fun j ↦ ?_, by rwa [hsame]⟩, rfl⟩
    by_cases hj : j = k
    · subst hj
      rw [htask, if_pos rfl, hresult, hfinished, hbefore]
    · rw [htask, if_neg hj, hfinished]
  | some result =>
    refine ⟨[.finish k result], a.finish k result, ?_, ⟨fun j ↦ ?_, by rwa [hsame]⟩, rfl⟩
    · simp [awaitAuthResult, hfinished, hbefore]
    · by_cases hj : j = k
      · subst hj
        simp [finish, htask, hresult]
      · simp [finish, htask, hj, hfinished]

/-- Each step of the session is some steps of the loop. -/
theorem Follows.step {e : Event} (hs : Follows S s a) (h : sessionNext P S s e = some t) :
    ∃ events b, awaitAuthResult.exec a events = some b ∧ Follows S t b ∧
      (b.cancelled = true ↔ a.cancelled = true ∨ e = .cancelled) := by
  have hfinished := hs.1
  cases sessionNext_eq_some h with
  | tick elapsed => exact ⟨[], a, rfl, hs, by simp⟩
  | bleInitialized ok hphase => simp [Follows, hphase] at hs
  | registerFailed env error hphase => simp [Follows, hphase] at hs
  | spawned env hphase => simp [Follows, hphase] at hs
  | task k hstep =>
    obtain ⟨hbefore, hevent⟩ := Task.result?_of_taskStep hstep
    obtain ⟨events, b, hb, ht, hcancelled⟩ := hs.setTask hbefore
    exact ⟨events, b, hb, ht, by simp [hcancelled, hevent]⟩
  | @joinedTerminal k failed v hphase hjoin =>
    simp only [Follows, hphase] at hs
    obtain ⟨result, hresult, hverdict⟩ := Task.result?_of_joinResult (k := k) hjoin
    refine ⟨[.poll (.task k)], a.observe failed (.joined k result), ?_,
      ⟨fun j ↦ (hfinished j).trans (s.result?_close v j).symm, awaitTurn_of_verdict hverdict⟩,
      by simp [observe]⟩
    rw [Machine.exec_cons, next_poll_task hs.2 (get_eq_false_of_join hphase h)
      ((hfinished k).trans hresult)]
    rfl
  | @joinedFailed k failed hphase hjoin =>
    simp only [Follows, hphase] at hs
    obtain ⟨result, hresult, hverdict⟩ := Task.result?_of_joinResult (k := k) hjoin
    have hturn : (a.observe failed (.joined k result)).loop = _ := awaitTurn_of_failed hverdict
    refine ⟨[.poll (.task k)], a.observe failed (.joined k result), ?_, ?_,
      by simp [observe]⟩
    · rw [Machine.exec_cons, next_poll_task hs.2 (get_eq_false_of_join hphase h)
        ((hfinished k).trans hresult)]
      rfl
    · unfold SessionState.fail
      split_ifs at hturn ⊢ with hother
      · exact ⟨hfinished, .inr ⟨_, hturn, rfl⟩⟩
      · exact ⟨hfinished, hturn⟩
  | @cancelled failed hphase =>
    simp only [Follows, hphase] at hs
    refine ⟨[.cancel, .poll .cancel], { a with cancelled := true }.observe failed .cancelled,
      ?_, ⟨hfinished, rfl⟩, by simp [observe]⟩
    simp [awaitAuthResult, hs.2, poll]
  | @closed result hphase =>
    simp only [Follows, hphase] at hs
    exact ⟨[], a, rfl, ⟨hfinished, .inr ⟨result, hs.2, rfl⟩⟩, by simp⟩
  | cancellationDone hphase =>
    simp only [Follows, hphase] at hs
    refine ⟨[], a, rfl, ⟨fun j ↦ (hfinished j).trans ?_, .inr ⟨_, hs.2, rfl⟩⟩, by simp⟩
    cases j <;> exact (Task.result?_abort _).symm
  | timeout hbefore hdue => exact ⟨[], a, rfl, ⟨hfinished, .inl rfl⟩, by simp⟩

end

end TapAuth.Daemon
