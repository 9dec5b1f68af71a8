import TapAuth.Lib.Machine
import TapAuth.Pam.Authenticate

/-!
# The password thread

In the threaded flow `authenticate_inner` makes a pipe and a native thread.  The thread is in
`pam_get_authtok` until the user has typed a password or dismissed the dialog; it then sets a
flag if there is a password, writes a byte to the pipe and ends.  The calling thread polls the
daemon's socket and the pipe meanwhile (`run_gui_event_loop`), cancels the thread unless it has
left by itself, joins it, closes the pipe and only then speaks to the user again.

Here both threads take their steps in any order.

* The two are never in libpam at once, the thread never writes to a closed descriptor, and it
  is gone when the call returns (`password_thread_confined`).
* The join ends: a thread that is not cancelled has left libpam (`join_finishes`).
* What the end of the loop says about the password is true, and the call ends as
  `Call.waitThreaded` says for the rounds of the run (`returned_spec`).

Loads and stores of the flag are taken as sequentially consistent: it is stored before the write
to the pipe and loaded after the poll.
-/

namespace TapAuth.Pam.PasswordThread

/-! ## The two threads -/

/-- Where `native_password_worker` stands.  After `pam_get_authtok` it knows whether there is a
password; `none` is a thread that was cancelled inside. -/
inductive Worker where
  | unborn
  | inAuthtok
  | returned (collected : Bool)
  | writing (collected : Bool)
  | exited (collected : Option Bool)
  | joined (collected : Option Bool)
  deriving DecidableEq, Repr

/-- Where the calling thread stands. -/
inductive Caller where
  | starting
  | spawning
  | top
  | polling (now : Nat)
  /-- `poll` has answered: the socket's flags, and whether the pipe is readable. -/
  | polled (now : Nat) (answer : Polled (Option Revents × Bool))
  | leaving (exit : GuiExit)
  | joining (exit : GuiExit)
  | closing (exit : GuiExit)
  | concluding (exit : GuiExit)
  | returned (ended : Ended)

structure Flow where
  caller : Caller
  worker : Worker
  /-- `ThreadContext.password_entered`. -/
  passwordEntered : Bool
  /-- The bytes in the pipe, and whether its ends are open. -/
  pipe : Nat
  readOpen : Bool
  writeOpen : Bool
  /-- Whether `pthread_cancel` has been called. -/
  cancelled : Bool
  /-- Whether `PAM_AUTHTOK` is set. -/
  authtok : Bool
  /-- The rounds of the loop so far. -/
  rounds : List (Round GuiFds)

/-- The request is on the wire. -/
def Flow.start (authtok : Bool) : Flow :=
  ⟨.starting, .unborn, false, 0, false, false, false, authtok, []⟩

inductive WriteResult where
  | wrote
  | interrupted
  | failed
  deriving DecidableEq

inductive WorkerEvent where
  /-- `pam_get_authtok` returns. -/
  | authtok (collected : Bool)
  /-- The cancellation is acted on; the token may have been set. -/
  | unwind (collected : Bool)
  | store
  | write (result : WriteResult)

/-- `native_password_worker`. -/
def Flow.workerStep (s : Flow) : WorkerEvent → Option Flow
  | .authtok collected =>
    if s.worker = .inAuthtok then
      some { s with worker := .returned collected, authtok := s.authtok || collected }
    else none
  | .unwind collected =>
    if s.worker = .inAuthtok ∧ s.cancelled then
      some { s with worker := .exited none, authtok := s.authtok || collected }
    else none
  | .store =>
    match s.worker with
    | .returned collected =>
      some { s with
        worker := .writing collected, passwordEntered := s.passwordEntered || collected }
    | _ => none
  | .write result =>
    match s.worker with
    | .writing collected =>
      match result with
      | .wrote =>
        if s.writeOpen then
          some { s with worker := .exited (some collected), pipe := s.pipe + 1 }
        else none
      -- the raw system call is tried again
      | .interrupted => some s
      | .failed => some { s with worker := .exited (some collected) }
    | _ => none

/-- The worker has left `pam_get_authtok` by itself, so it is not cancelled. -/
def leftByItself (reason : ExitReason) : Bool :=
  reason = .passwordEntered || reason = .passwordFailed

inductive CallerEvent where
  | pipe2 (ok : Bool)
  | spawn (ok : Bool)
  | clock (now : Nat)
  /-- What `poll` answers about the socket. -/
  | poll (answer : Polled (Option Revents))
  /-- The flag is loaded and the socket read. -/
  | look (read : ReadResult)
  | cancel
  | join
  | close
  | conclude

/-- What `poll` answers about both descriptors.  A byte in the pipe does not let it time out. -/
def pollBoth (pipe : Nat) : Polled (Option Revents) → Option (Polled (Option Revents × Bool))
  | .timedOut => if 0 < pipe then none else some .timedOut
  | .ready ipc => some (.ready (ipc, 0 < pipe))
  | .interrupted => some .interrupted
  | .failed => some .failed

/-- What the loop looks at after `poll`. -/
def lookAt (passwordEntered : Bool) (read : ReadResult) :
    Polled (Option Revents × Bool) → Polled GuiFds
  | .timedOut => .timedOut
  | .ready (ipc, readable) =>
    .ready ⟨passwordEntered, ⟨ipc, read⟩, some ⟨readable, false, false⟩⟩
  | .interrupted => .interrupted
  | .failed => .failed

/-- The threaded part of `authenticate_inner`, with `run_gui_event_loop` and `cancel_and_join`. -/
def Flow.callerStep (deadline : Nat) (s : Flow) : CallerEvent → Option Flow
  | .pipe2 ok =>
    match s.caller with
    | .starting =>
      if ok then some { s with caller := .spawning, readOpen := true, writeOpen := true }
      else
        some { s with caller := .returned (.without .authErr (some "gui-pipe2-fail")) }
    | _ => none
  | .spawn ok =>
    match s.caller with
    | .spawning =>
      if ok then some { s with caller := .top, worker := .inAuthtok }
      else
        some { s with
          caller := .returned (.without .authErr (some "gui-thread-spawn-fail"))
          readOpen := false
          writeOpen := false }
    | _ => none
  | .clock now =>
    match s.caller with
    | .top =>
      if deadline ≤ now then
        some { s with
          caller := .leaving ⟨.timeout, none, none⟩
          rounds := s.rounds ++ [⟨now, .timedOut⟩] }
      else some { s with caller := .polling now }
    | _ => none
  | .poll answer =>
    match s.caller with
    | .polling now =>
      (pollBoth s.pipe answer).map fun both ↦ { s with caller := .polled now both }
    | _ => none
  | .look read =>
    match s.caller with
    | .polled now answer =>
      let round : Round GuiFds := ⟨now, lookAt s.passwordEntered read answer⟩
      match guiTurn deadline round with
      | .inl _ => some { s with caller := .top, rounds := s.rounds ++ [round] }
      | .inr exit => some { s with caller := .leaving exit, rounds := s.rounds ++ [round] }
    | _ => none
  | .cancel =>
    match s.caller with
    | .leaving exit =>
      some { s with
        caller := .joining exit, cancelled := s.cancelled || !leftByItself exit.reason }
    | _ => none
  | .join =>
    match s.caller, s.worker with
    | .joining exit, .exited collected =>
      some { s with caller := .closing exit, worker := .joined collected }
    | _, _ => none
  | .close =>
    match s.caller with
    | .closing exit =>
      some { s with caller := .concluding exit, readOpen := false, writeOpen := false }
    | _ => none
  | .conclude =>
    match s.caller with
    | .concluding exit =>
      some { s with caller := .returned (.ofResponse exit.response exit.cancel) }
    | _ => none

inductive FlowEvent where
  | worker (event : WorkerEvent)
  | caller (event : CallerEvent)

/-- Both threads. -/
def threadedFlow (deadline : Nat) : Machine Flow FlowEvent where
  next s
    | .worker event => s.workerStep event
    | .caller event => s.callerStep deadline event

/-! ## What a step can do -/

section

variable {deadline : Nat} {s t : Flow}

/-- A step of the worker. -/
inductive WorkerStepped (s : Flow) : WorkerEvent → Flow → Prop
  | authtok (collected : Bool) (h : s.worker = .inAuthtok) :
      WorkerStepped s (.authtok collected)
        { s with worker := .returned collected, authtok := s.authtok || collected }
  | unwound (collected : Bool) (h : s.worker = .inAuthtok) (hcancelled : s.cancelled = true) :
      WorkerStepped s (.unwind collected)
        { s with worker := .exited none, authtok := s.authtok || collected }
  | stored {collected : Bool} (h : s.worker = .returned collected) :
      WorkerStepped s .store
        { s with
          worker := .writing collected, passwordEntered := s.passwordEntered || collected }
  | wrote {collected : Bool} (h : s.worker = .writing collected) (hopen : s.writeOpen = true) :
      WorkerStepped s (.write .wrote)
        { s with worker := .exited (some collected), pipe := s.pipe + 1 }
  | interrupted {collected : Bool} (h : s.worker = .writing collected) :
      WorkerStepped s (.write .interrupted) s
  | failed {collected : Bool} (h : s.worker = .writing collected) :
      WorkerStepped s (.write .failed) { s with worker := .exited (some collected) }

theorem WorkerStepped.of_step {event : WorkerEvent} (h : s.workerStep event = some t) :
    WorkerStepped s event t := by
  cases event with
  | authtok collected =>
    obtain ⟨hworker, h⟩ := Option.ite_none_right_eq_some.mp h
    cases h
    exact .authtok collected hworker
  | unwind collected =>
    obtain ⟨⟨hworker, hcancelled⟩, h⟩ := Option.ite_none_right_eq_some.mp h
    cases h
    exact .unwound collected hworker hcancelled
  | store =>
    simp only [Flow.workerStep] at h
    split at h
    · rename_i hworker
      cases h
      exact .stored hworker
    · cases h
  | write result =>
    simp only [Flow.workerStep] at h
    split at h
    · rename_i hworker
      cases result with
      | wrote =>
        obtain ⟨hopen, h⟩ := Option.ite_none_right_eq_some.mp h
        cases h
        exact .wrote hworker hopen
      | interrupted =>
        cases h
        exact .interrupted hworker
      | failed =>
        cases h
        exact .failed hworker
    · cases h

/-- A step of the calling thread. -/
inductive CallerStepped (deadline : Nat) (s : Flow) : CallerEvent → Flow → Prop
  | piped (h : s.caller = .starting) :
      CallerStepped deadline s (.pipe2 true)
        { s with caller := .spawning, readOpen := true, writeOpen := true }
  | unpiped (h : s.caller = .starting) :
      CallerStepped deadline s (.pipe2 false)
        { s with caller := .returned (.without .authErr (some "gui-pipe2-fail")) }
  | spawned (h : s.caller = .spawning) :
      CallerStepped deadline s (.spawn true) { s with caller := .top, worker := .inAuthtok }
  | unspawned (h : s.caller = .spawning) :
      CallerStepped deadline s (.spawn false)
        { s with
          caller := .returned (.without .authErr (some "gui-thread-spawn-fail"))
          readOpen := false
          writeOpen := false }
  | late {now : Nat} (h : s.caller = .top) (hlate : deadline ≤ now) :
      CallerStepped deadline s (.clock now)
        { s with
          caller := .leaving ⟨.timeout, none, none⟩
          rounds := s.rounds ++ [⟨now, .timedOut⟩] }
  | inTime {now : Nat} (h : s.caller = .top) :
      CallerStepped deadline s (.clock now) { s with caller := .polling now }
  | polled {now : Nat} {answer : Polled (Option Revents)}
      {both : Polled (Option Revents × Bool)} (h : s.caller = .polling now)
      (hboth : pollBoth s.pipe answer = some both) :
      CallerStepped deadline s (.poll answer) { s with caller := .polled now both }
  | again {now : Nat} {both : Polled (Option Revents × Bool)} (read : ReadResult)
      (h : s.caller = .polled now both)
      (hturn : guiTurn deadline ⟨now, lookAt s.passwordEntered read both⟩ = .inl ()) :
      CallerStepped deadline s (.look read)
        { s with
          caller := .top
          rounds := s.rounds ++ [⟨now, lookAt s.passwordEntered read both⟩] }
  | left {now : Nat} {both : Polled (Option Revents × Bool)} {exit : GuiExit} (read : ReadResult)
      (h : s.caller = .polled now both)
      (hturn : guiTurn deadline ⟨now, lookAt s.passwordEntered read both⟩ = .inr exit) :
      CallerStepped deadline s (.look read)
        { s with
          caller := .leaving exit
          rounds := s.rounds ++ [⟨now, lookAt s.passwordEntered read both⟩] }
  | cancelled {exit : GuiExit} (h : s.caller = .leaving exit) :
      CallerStepped deadline s .cancel
        { s with
          caller := .joining exit, cancelled := s.cancelled || !leftByItself exit.reason }
  | joined {exit : GuiExit} {collected : Option Bool} (h : s.caller = .joining exit)
      (hworker : s.worker = .exited collected) :
      CallerStepped deadline s .join { s with caller := .closing exit, worker := .joined collected }
  | closed {exit : GuiExit} (h : s.caller = .closing exit) :
      CallerStepped deadline s .close
        { s with caller := .concluding exit, readOpen := false, writeOpen := false }
  | concluded {exit : GuiExit} (h : s.caller = .concluding exit) :
      CallerStepped deadline s .conclude
        { s with caller := .returned (.ofResponse exit.response exit.cancel) }

theorem CallerStepped.of_step {event : CallerEvent} (h : s.callerStep deadline event = some t) :
    CallerStepped deadline s event t := by
  cases event with
  | pipe2 ok =>
    simp only [Flow.callerStep] at h
    split at h
    · rename_i hcaller
      cases ok <;> cases h
      · exact .unpiped hcaller
      · exact .piped hcaller
    · cases h
  | spawn ok =>
    simp only [Flow.callerStep] at h
    split at h
    · rename_i hcaller
      cases ok <;> cases h
      · exact .unspawned hcaller
      · exact .spawned hcaller
    · cases h
  | clock now =>
    simp only [Flow.callerStep] at h
    split at h
    · rename_i hcaller
      split at h
      · rename_i hlate
        cases h
        exact .late hcaller hlate
      · cases h
        exact .inTime hcaller
    · cases h
  | poll answer =>
    simp only [Flow.callerStep] at h
    split at h
    · rename_i hcaller
      obtain ⟨both, hboth, rfl⟩ := Option.map_eq_some_iff.mp h
      exact .polled hcaller hboth
    · cases h
  | look read =>
    simp only [Flow.callerStep] at h
    split at h
    · rename_i hcaller
      split at h
      · rename_i hturn
        cases h
        exact .again read hcaller hturn
      · rename_i hturn
        cases h
        exact .left read hcaller hturn
    · cases h
  | cancel =>
    simp only [Flow.callerStep] at h
    split at h
    · rename_i hcaller
      cases h
      exact .cancelled hcaller
    · cases h
  | join =>
    simp only [Flow.callerStep] at h
    split at h
    · rename_i hcaller hworker
      cases h
      exact .joined hcaller hworker
    · cases h
  | close =>
    simp only [Flow.callerStep] at h
    split at h
    · rename_i hcaller
      cases h
      exact .closed hcaller
    · cases h
  | conclude =>
    simp only [Flow.callerStep] at h
    split at h
    · rename_i hcaller
      cases h
      exact .concluded hcaller
    · cases h

/-- The rule for what holds of every run of both threads. -/
theorem history {H : List FlowEvent → Flow → Prop}
    (hworker : ∀ before s event t, H before s → WorkerStepped s event t →
      H (before ++ [.worker event]) t)
    (hcaller : ∀ before s event t, H before s → CallerStepped deadline s event t →
      H (before ++ [.caller event]) t) {events : List FlowEvent} (hs : H [] s)
    (hrun : (threadedFlow deadline).exec s events = some t) : H events t := by
  refine (threadedFlow deadline).history_along (G := fun _ _ ↦ True) hs ?_ hrun
    ((threadedFlow deadline).along_of_mem (fun _ _ _ ↦ trivial) s)
  intro before s event t _ hs _ hnext
  cases event with
  | worker event => exact hworker before s event t hs (.of_step hnext)
  | caller event => exact hcaller before s event t hs (.of_step hnext)

end

/-! ## The invariant -/

/-- The worker has been made and not yet joined. -/
def Worker.isAlive : Worker → Bool
  | .unborn | .joined _ => false
  | _ => true

/-- What `pam_get_authtok` has answered. -/
def Worker.collected : Worker → Option Bool
  | .unborn | .inAuthtok => none
  | .returned collected | .writing collected => some collected
  | .exited collected | .joined collected => collected

/-- The worker is past its store, with a password. -/
def Worker.hasStored : Worker → Bool
  | .writing collected => collected
  | .exited collected | .joined collected => collected.getD false
  | _ => false

/-- The worker has come to its end. -/
def Worker.hasFinished : Worker → Bool
  | .exited collected | .joined collected => collected.isSome
  | _ => false

/-- The calling thread is between the creation of the worker and its join. -/
def Caller.isBeside : Caller → Bool
  | .top | .polling _ | .polled .. | .leaving _ | .joining _ => true
  | _ => false

/-- The calling thread has not made the worker yet. -/
def Caller.isBefore : Caller → Bool
  | .starting | .spawning => true
  | _ => false

def Caller.hasPipe : Caller → Bool
  | .starting | .concluding _ | .returned _ => false
  | _ => true

/-- How the loop has ended. -/
def Caller.exit? : Caller → Option GuiExit
  | .leaving exit | .joining exit | .closing exit | .concluding exit => some exit
  | _ => none

/-- What the end of the loop says about the password is true. -/
structure ExitTrue (worker : Worker) (exit : GuiExit) : Prop where
  entered : exit.reason = .passwordEntered → worker.hasStored = true
  failed : exit.reason = .passwordFailed →
    worker.hasFinished = true ∧ worker.hasStored = false

variable {worker : Worker}

theorem ExitTrue.of_leftByItself {exit : GuiExit} (h : leftByItself exit.reason = false) :
    ExitTrue worker exit := by
  constructor
  all_goals
    intro hreason
    rw [hreason] at h
    cases h

/-- What holds of the two threads. -/
structure Flow.Ok (s : Flow) : Prop where
  unborn : s.caller.isBefore = true → s.worker = .unborn
  alive : s.worker.isAlive = s.caller.isBeside
  readOpen : s.readOpen = s.caller.hasPipe
  writeOpen : s.writeOpen = s.caller.hasPipe
  stored : s.passwordEntered = s.worker.hasStored
  token : s.worker.collected = some true → s.authtok = true
  byte : 0 < s.pipe → s.worker.hasFinished = true
  readable : ∀ now ipc, s.caller = .polled now (.ready (ipc, true)) → s.worker.hasFinished = true
  exit : ∀ exit, s.caller.exit? = some exit → ExitTrue s.worker exit
  cancelled : ∀ exit, s.caller = .joining exit → leftByItself exit.reason = false →
    s.cancelled = true

theorem Flow.Ok.start (authtok : Bool) : (Flow.start authtok).Ok where
  unborn _ := rfl
  alive := rfl
  readOpen := rfl
  writeOpen := rfl
  stored := rfl
  token := nofun
  byte := nofun
  readable := nofun
  exit := nofun
  cancelled := nofun

section

variable {deadline : Nat} {s t : Flow}

/-- The worker goes on. -/
theorem Flow.Ok.moved {worker : Worker} {passwordEntered authtok : Bool} {pipe : Nat} (hs : s.Ok)
    (hunfinished : s.worker.hasFinished = false) (hborn : s.worker.isAlive = true)
    (halive : worker.isAlive = true) (hstored : passwordEntered = worker.hasStored)
    (hmono : s.worker.hasStored = true → worker.hasStored = true)
    (htoken : worker.collected = some true → authtok = true)
    (hbyte : 0 < pipe → worker.hasFinished = true) :
    ({ s with worker, passwordEntered, pipe, authtok } : Flow).Ok where
  unborn hbefore := by
    rw [hs.unborn hbefore] at hborn
    cases hborn
  alive := halive.trans (hborn.symm.trans hs.alive)
  readOpen := hs.readOpen
  writeOpen := hs.writeOpen
  stored := hstored
  token := htoken
  byte := hbyte
  readable now ipc hcaller := by
    have hfinished := hs.readable now ipc hcaller
    rw [hunfinished] at hfinished
    cases hfinished
  exit exit hexit := by
    obtain ⟨hentered, hfailed⟩ := hs.exit exit hexit
    refine ⟨fun hreason ↦ hmono (hentered hreason), fun hreason ↦ ?_⟩
    have hfinished := (hfailed hreason).1
    rw [hunfinished] at hfinished
    cases hfinished
  cancelled := hs.cancelled

theorem Flow.Ok.pipe_eq_zero (hs : s.Ok) (h : s.worker.hasFinished = false) : s.pipe = 0 := by
  by_contra hpipe
  have hfinished := hs.byte (Nat.pos_of_ne_zero hpipe)
  rw [h] at hfinished
  cases hfinished

theorem Flow.Ok.workerStepped {event : WorkerEvent} (hs : s.Ok) (h : WorkerStepped s event t) :
    t.Ok := by
  have hstored := hs.stored
  have htoken := hs.token
  cases h with
  | authtok collected h =>
    rw [h] at hstored
    have hunfinished : s.worker.hasFinished = false := by rw [h]; rfl
    refine hs.moved hunfinished (by rw [h]; rfl) rfl hstored (by rw [h]; nofun) ?_ ?_
    · rintro ⟨⟩
      exact Bool.or_true _
    · rw [hs.pipe_eq_zero hunfinished]
      nofun
  | unwound collected h hcancelled =>
    rw [h] at hstored
    have hunfinished : s.worker.hasFinished = false := by rw [h]; rfl
    refine hs.moved hunfinished (by rw [h]; rfl) rfl hstored (by rw [h]; nofun) nofun ?_
    rw [hs.pipe_eq_zero hunfinished]
    nofun
  | @stored collected h =>
    rw [h] at hstored htoken
    have hunfinished : s.worker.hasFinished = false := by rw [h]; rfl
    refine hs.moved hunfinished (by rw [h]; rfl) rfl ?_ (by rw [h]; nofun) htoken ?_
    · rw [hstored]
      exact Bool.false_or _
    · rw [hs.pipe_eq_zero hunfinished]
      nofun
  | @wrote collected h hopen =>
    rw [h] at hstored htoken
    exact hs.moved (by rw [h]; rfl) (by rw [h]; rfl) rfl hstored (by rw [h]; exact id) htoken
      fun _ ↦ rfl
  | interrupted h => exact hs
  | @failed collected h =>
    rw [h] at hstored htoken
    exact hs.moved (by rw [h]; rfl) (by rw [h]; rfl) rfl hstored (by rw [h]; exact id) htoken
      fun _ ↦ rfl

/-- The calling thread goes on. -/
theorem Flow.Ok.goto {caller : Caller} {readOpen writeOpen cancelled : Bool}
    {rounds : List (Round GuiFds)} (hs : s.Ok)
    (hbefore : caller.isBefore = true → s.caller.isBefore = true)
    (hbeside : caller.isBeside = s.caller.isBeside)
    (hread : readOpen = caller.hasPipe) (hwrite : writeOpen = caller.hasPipe)
    (hreadable : ∀ now ipc, caller = .polled now (.ready (ipc, true)) →
      s.worker.hasFinished = true)
    (hexit : ∀ exit, caller.exit? = some exit → ExitTrue s.worker exit)
    (hcancelled : ∀ exit, caller = .joining exit → leftByItself exit.reason = false →
      cancelled = true) :
    ({ s with caller, readOpen, writeOpen, cancelled, rounds } : Flow).Ok where
  unborn h := hs.unborn (hbefore h)
  alive := hs.alive.trans hbeside.symm
  readOpen := hread
  writeOpen := hwrite
  stored := hs.stored
  token := hs.token
  byte := hs.byte
  readable := hreadable
  exit := hexit
  cancelled := hcancelled

/-- The pipe is known to be readable only if there is a byte in it. -/
theorem pollBoth_eq_ready {pipe : Nat} {answer : Polled (Option Revents)} {ipc : Option Revents}
    (h : pollBoth pipe answer = some (.ready (ipc, true))) : 0 < pipe := by
  cases answer with
  | timedOut =>
    simp only [pollBoth] at h
    split at h <;> cases h
  | ready other =>
    simp only [pollBoth, Option.some.injEq, Polled.ready.injEq, Prod.mk.injEq] at h
    exact of_decide_eq_true h.2
  | interrupted | failed => cases h

/-- What a turn that ends the loop has seen of the password. -/
theorem guiTurn_eq_inr {round : Round GuiFds} {exit : GuiExit}
    (h : guiTurn deadline round = .inr exit) :
    (exit.cancel = none ∧ leftByItself exit.reason = false) ∨
      (∃ fds, round.polled = .ready fds ∧ fds.passwordEntered = true ∧
        exit = ⟨.passwordEntered, none, some "gui-password-skip"⟩) ∨
      ∃ fds revents, round.polled = .ready fds ∧ fds.passwordEntered = false ∧
        fds.pipe = some revents ∧ revents.pollIn = true ∧
        exit = ⟨.passwordFailed, none, some "gui-password-failed"⟩ := by
  unfold guiTurn at h
  split at h
  · cases h
    exact .inl ⟨rfl, rfl⟩
  split at h
  · cases h
  · cases h
  · cases h
    exact .inl ⟨rfl, rfl⟩
  · rename_i fds hpolled
    split at h
    · rename_i hentered
      cases h
      exact .inr (.inl ⟨fds, hpolled, hentered, rfl⟩)
    rename_i hentered
    split at h
    · cases h
      exact .inl ⟨rfl, rfl⟩
    · cases h
      exact .inl ⟨rfl, rfl⟩
    · cases h
      exact .inl ⟨rfl, rfl⟩
    · cases h
    · unfold guiPipe at h
      split at h
      · rename_i revents hpipe
        split at h
        · rename_i hreadable
          cases h
          exact .inr (.inr
            ⟨fds, revents, hpolled, Bool.eq_false_iff.mpr hentered, hpipe, hreadable, rfl⟩)
        · cases h
      · cases h

theorem lookAt_eq_ready {passwordEntered : Bool} {read : ReadResult} {fds : GuiFds}
    {both : Polled (Option Revents × Bool)} (h : lookAt passwordEntered read both = .ready fds) :
    ∃ ipc readable, both = .ready (ipc, readable) ∧
      fds = ⟨passwordEntered, ⟨ipc, read⟩, some ⟨readable, false, false⟩⟩ := by
  cases both with
  | ready both =>
    cases h
    exact ⟨both.1, both.2, rfl, rfl⟩
  | _ => cases h

theorem Flow.Ok.callerStepped {event : CallerEvent} (hs : s.Ok)
    (h : CallerStepped deadline s event t) : t.Ok := by
  have hread := hs.readOpen
  have hwrite := hs.writeOpen
  cases h with
  | piped h => exact hs.goto (fun _ ↦ by rw [h]; rfl) (by rw [h]; rfl) rfl rfl nofun nofun nofun
  | unpiped h =>
    rw [h] at hread hwrite
    exact hs.goto nofun (by rw [h]; rfl) hread hwrite nofun nofun nofun
  | spawned h =>
    have hunborn := hs.unborn (by rw [h]; rfl)
    have hstored := hs.stored
    rw [hunborn] at hstored
    rw [h] at hread hwrite
    refine ⟨nofun, rfl, hread, hwrite, hstored, nofun, fun hpipe ↦ ?_, nofun, nofun, nofun⟩
    have hfinished := hs.byte hpipe
    rw [hunborn] at hfinished
    cases hfinished
  | unspawned h => exact hs.goto nofun (by rw [h]; rfl) rfl rfl nofun nofun nofun
  | late h hlate =>
    rw [h] at hread hwrite
    refine hs.goto nofun (by rw [h]; rfl) hread hwrite nofun ?_ nofun
    rintro exit ⟨⟩
    exact ⟨nofun, nofun⟩
  | inTime h =>
    rw [h] at hread hwrite
    exact hs.goto nofun (by rw [h]; rfl) hread hwrite nofun nofun nofun
  | polled h hboth =>
    rw [h] at hread hwrite
    refine hs.goto nofun (by rw [h]; rfl) hread hwrite ?_ nofun nofun
    rintro now ipc ⟨⟩
    exact hs.byte (pollBoth_eq_ready hboth)
  | again read h hturn =>
    rw [h] at hread hwrite
    exact hs.goto nofun (by rw [h]; rfl) hread hwrite nofun nofun nofun
  | left read h hturn =>
    rw [h] at hread hwrite
    refine hs.goto nofun (by rw [h]; rfl) hread hwrite nofun ?_ nofun
    rintro exit ⟨⟩
    have hstored := hs.stored
    obtain ⟨-, hreason⟩ | ⟨fds, hfds, hentered, rfl⟩ |
        ⟨fds, revents, hfds, hentered, hpipe, hreadable, rfl⟩ := guiTurn_eq_inr hturn
    · exact .of_leftByItself hreason
    · obtain ⟨ipc, readable, rfl, rfl⟩ := lookAt_eq_ready hfds
      exact ⟨fun _ ↦ hstored.symm.trans hentered, nofun⟩
    · obtain ⟨ipc, readable, rfl, rfl⟩ := lookAt_eq_ready hfds
      cases hpipe
      obtain rfl : readable = true := hreadable
      exact ⟨nofun, fun _ ↦ ⟨hs.readable _ ipc h, hstored.symm.trans hentered⟩⟩
  | cancelled h =>
    rw [h] at hread hwrite
    refine hs.goto nofun (by rw [h]; rfl) hread hwrite nofun ?_ ?_
    · rintro exit ⟨⟩
      exact hs.exit _ (by rw [h]; rfl)
    · rintro exit ⟨⟩ hreason
      rw [hreason]
      exact Bool.or_true _
  | joined h hworker =>
    have hstored := hs.stored
    have htoken := hs.token
    have hbyte := hs.byte
    have hexit := hs.exit _ (by rw [h]; rfl)
    rw [hworker] at hstored htoken hbyte hexit
    rw [h] at hread hwrite
    refine ⟨nofun, rfl, hread, hwrite, hstored, htoken, hbyte, nofun, ?_, nofun⟩
    rintro exit ⟨⟩
    exact ⟨hexit.entered, hexit.failed⟩
  | closed h =>
    refine hs.goto nofun (by rw [h]; rfl) rfl rfl nofun ?_ nofun
    rintro exit ⟨⟩
    exact hs.exit _ (by rw [h]; rfl)
  | concluded h =>
    rw [h] at hread hwrite
    exact hs.goto nofun (by rw [h]; rfl) hread hwrite nofun nofun nofun

end

/-! ## Results -/

/-- The calling thread may use the PAM handle and the conversation, or the host does. -/
def Caller.usesPam : Caller → Bool
  | .starting | .spawning | .concluding _ | .returned _ => true
  | _ => false

theorem Caller.usesPam_of_isBeside {caller : Caller} (h : caller.isBeside = true) :
    caller.usesPam = false := by
  cases caller <;> first | rfl | cases h

theorem Caller.hasPipe_of_isBeside {caller : Caller} (h : caller.isBeside = true) :
    caller.hasPipe = true := by
  cases caller <;> first | rfl | cases h

theorem Worker.eq_of_not_isAlive (h : worker.isAlive = false) :
    worker = .unborn ∨ ∃ collected, worker = .joined collected := by
  cases worker with
  | unborn => exact .inl rfl
  | joined collected => exact .inr ⟨collected, rfl⟩
  | _ => cases h

theorem Worker.collected_of_hasStored (h : worker.hasStored = true) :
    worker.collected = some true := by
  cases worker with
  | writing collected => exact congrArg some h
  | exited collected | joined collected =>
    cases collected with
    | none => cases h
    | some collected => exact congrArg some h
  | _ => cases h

/-- The user types a password while the socket is silent. -/
def typing : List FlowEvent :=
  [.caller (.pipe2 true), .caller (.spawn true), .caller (.clock 0),
    .worker (.authtok true), .worker .store, .caller (.poll (.ready none)),
    .caller (.look (.ok none)), .caller .cancel]

/-- The caller waits for the thread, which is about to write to the pipe. -/
def typed : Flow where
  caller := .joining ⟨.passwordEntered, none, some "gui-password-skip"⟩
  worker := .writing true
  passwordEntered := true
  pipe := 0
  readOpen := true
  writeOpen := true
  cancelled := false
  authtok := true
  rounds := [⟨0, .ready ⟨true, ⟨none, .ok none⟩, some ⟨false, false, false⟩⟩⟩]

def returning : List FlowEvent :=
  [.worker (.write .interrupted), .worker (.write .wrote), .caller .join, .caller .close,
    .caller .conclude]

def done : Flow :=
  { typed with
    caller := .returned (.without .authinfoUnavail (some "gui-password-skip"))
    worker := .joined (some true)
    pipe := 1
    readOpen := false
    writeOpen := false }

section

variable {deadline : Nat} {s : Flow} {authtok : Bool} {events : List FlowEvent}

theorem ok_of_exec (hrun : (threadedFlow deadline).exec (.start authtok) events = some s) :
    s.Ok :=
  history (H := fun _ s ↦ s.Ok) (fun _ _ _ _ hs h ↦ hs.workerStepped h)
    (fun _ _ _ _ hs h ↦ hs.callerStepped h) (.start authtok) hrun

/-- **The password thread is confined.**  In every order of the steps of both threads: they are
never in libpam at once, the worker finds the pipe open when it writes, and when the call
returns the worker is joined, or was never made, and the pipe is closed. -/
theorem password_thread_confined
    (hrun : (threadedFlow deadline).exec (.start authtok) events = some s) :
    ¬(s.caller.usesPam = true ∧ s.worker = .inAuthtok) ∧
      (∀ collected, s.worker = .writing collected → s.writeOpen = true) ∧
      ∀ ended, s.caller = .returned ended →
        (s.worker = .unborn ∨ ∃ collected, s.worker = .joined collected) ∧
          s.readOpen = false ∧ s.writeOpen = false := by
  have hs := ok_of_exec hrun
  have halive := hs.alive
  refine ⟨?_, ?_, ?_⟩
  · rintro ⟨hpam, hworker⟩
    rw [hworker] at halive
    rw [Caller.usesPam_of_isBeside halive.symm] at hpam
    cases hpam
  · intro collected hworker
    rw [hworker] at halive
    rw [hs.writeOpen]
    exact Caller.hasPipe_of_isBeside halive.symm
  · intro ended hcaller
    have hread := hs.readOpen
    have hwrite := hs.writeOpen
    rw [hcaller] at halive hread hwrite
    exact ⟨Worker.eq_of_not_isAlive halive, hread, hwrite⟩

theorem password_thread_confined_typed :
    (threadedFlow 5).exec (.start false) typing = some typed ∧ typed.writeOpen = true := by
  have hrun : (threadedFlow 5).exec (.start false) typing = some typed := rfl
  exact ⟨hrun, (password_thread_confined hrun).2.1 true rfl⟩

/-! ### The join -/

/-- How many steps the worker has left, interrupted writes apart. -/
def Worker.left : Worker → Nat
  | .inAuthtok => 3
  | .returned _ => 2
  | .writing _ => 1
  | _ => 0

theorem Worker.left_le (worker : Worker) : worker.left ≤ 3 := by
  cases worker <;> simp [Worker.left]

def WorkerEvent.isInterrupted : WorkerEvent → Bool
  | .write .interrupted => true
  | _ => false

variable {event : WorkerEvent} {exit : GuiExit} {rounds : List (Round GuiFds)}

theorem WorkerStepped.left_add {t : Flow} (h : WorkerStepped s event t) :
    t.worker.left + (if event.isInterrupted then 0 else 1) ≤ s.worker.left := by
  cases h with
  | authtok collected h => rw [h]; exact Nat.le_refl 3
  | unwound collected h hcancelled => rw [h]; exact Nat.le_add_left 1 2
  | stored h => rw [h]; exact Nat.le_refl 2
  | wrote h hopen => rw [h]; exact Nat.le_refl 1
  | interrupted h => exact Nat.le_refl _
  | failed h => rw [h]; exact Nat.le_refl 1

/-- The worker of a calling thread that has left the loop without a word of it is cancelled. -/
theorem Flow.Ok.cancelled_of_inAuthtok (hs : s.Ok) (hcaller : s.caller = .joining exit)
    (hworker : s.worker = .inAuthtok) :
    s.cancelled = true := by
  obtain ⟨hentered, hfailed⟩ := hs.exit exit (by rw [hcaller]; rfl)
  rw [hworker] at hentered hfailed
  refine hs.cancelled exit hcaller ?_
  cases hreason : exit.reason with
  | passwordEntered => cases hentered hreason
  | passwordFailed => cases (hfailed hreason).1
  | _ => rfl

/-- While it is waited for, the worker has ended or can go on. -/
theorem Flow.Ok.exists_workerStep (hs : s.Ok) (hcaller : s.caller = .joining exit) :
    (∃ collected, s.worker = .exited collected) ∨
      ∃ event t, event.isInterrupted = false ∧ s.workerStep event = some t ∧
        t.caller = s.caller := by
  have halive := hs.alive
  have hwrite := hs.writeOpen
  rw [hcaller] at halive hwrite
  cases hworker : s.worker with
  | unborn | joined collected =>
    rw [hworker] at halive
    cases halive
  | exited collected => exact .inl ⟨collected, rfl⟩
  | inAuthtok =>
    have hcancelled := hs.cancelled_of_inAuthtok hcaller hworker
    exact .inr ⟨.unwind false, _, rfl, if_pos ⟨hworker, hcancelled⟩, rfl⟩
  | returned collected =>
    have hstep : s.workerStep .store = some { s with
        worker := .writing collected, passwordEntered := s.passwordEntered || collected } := by
      simp only [Flow.workerStep, hworker]
    exact .inr ⟨.store, _, rfl, hstep, rfl⟩
  | writing collected =>
    have hstep : s.workerStep (.write .wrote) = some { s with
        worker := .exited (some collected), pipe := s.pipe + 1 } := by
      simp only [Flow.workerStep, hworker]
      exact if_pos hwrite
    exact .inr ⟨.write .wrote, _, rfl, hstep, rfl⟩

theorem Flow.Ok.exists_exited (deadline : Nat) (hs : s.Ok) (hcaller : s.caller = .joining exit) :
    ∃ (steps : List WorkerEvent) (t : Flow), steps.length ≤ s.worker.left ∧
      (threadedFlow deadline).exec s (steps.map .worker) = some t ∧
      t.caller = .joining exit ∧ ∃ collected, t.worker = .exited collected := by
  -- by induction on the steps the worker has left
  induction hleft : s.worker.left using Nat.strong_induction_on generalizing s with
  | _ left ih =>
    obtain ⟨collected, hworker⟩ | ⟨event, t, hevent, hstep, hsame⟩ :=
      hs.exists_workerStep hcaller
    · exact ⟨[], s, Nat.zero_le _, rfl, hcaller, collected, hworker⟩
    · have hstepped := WorkerStepped.of_step hstep
      have hless := hstepped.left_add
      rw [hevent, hleft] at hless
      obtain ⟨steps, u, hlength, hrun, hu⟩ :=
        ih t.worker.left hless (hs.workerStepped hstepped) (hsame.trans hcaller) rfl
      refine ⟨event :: steps, u, ?_, ?_, hu⟩
      · rw [List.length_cons]
        exact Nat.le_trans (Nat.succ_le_succ hlength) hless
      · rw [List.map_cons, Machine.exec_cons]
        exact (congrArg (Option.bind · _) hstep).trans hrun

theorem countP_of_exec {t : Flow} {steps : List WorkerEvent}
    (hrun : (threadedFlow deadline).exec s (steps.map .worker) = some t) :
    t.worker.left + steps.countP (!·.isInterrupted) ≤ s.worker.left := by
  induction steps generalizing s with
  | nil =>
    cases hrun
    exact Nat.le_refl _
  | cons event steps ih =>
    obtain ⟨u, hstep, hrun⟩ := (threadedFlow deadline).exec_cons_eq_some.mp hrun
    have hless := (WorkerStepped.of_step hstep).left_add
    have hrest := ih hrun
    rw [List.countP_cons]
    cases hevent : event.isInterrupted <;> simp only [hevent] at hless ⊢ <;> simp at hless ⊢ <;>
      omega

/-- **The join ends.**  Whenever the calling thread waits for the worker, at most three steps of
the worker are left (interrupted writes apart, which it repeats), and it can take them: it is
in the conversation only if it has been cancelled. -/
theorem join_finishes {exit : GuiExit}
    (hrun : (threadedFlow deadline).exec (.start authtok) events = some s)
    (hcaller : s.caller = .joining exit) :
    (s.worker = .inAuthtok → s.cancelled = true) ∧
    (∃ (steps : List WorkerEvent) (t u : Flow), steps.length ≤ 3 ∧
      (threadedFlow deadline).exec s (steps.map .worker) = some t ∧
      (threadedFlow deadline).next t (.caller .join) = some u) ∧
    ∀ (steps : List WorkerEvent) (t : Flow),
      (threadedFlow deadline).exec s (steps.map .worker) = some t →
      steps.countP (!·.isInterrupted) ≤ 3 := by
  have hs := ok_of_exec hrun
  refine ⟨hs.cancelled_of_inAuthtok hcaller, ?_, fun steps t hsteps ↦ ?_⟩
  · obtain ⟨steps, t, hlength, hsteps, hjoining, collected, hworker⟩ :=
      hs.exists_exited deadline hcaller
    have hjoin : (threadedFlow deadline).next t (.caller .join) =
        some { t with caller := .closing exit, worker := .joined collected } := by
      simp only [threadedFlow, Flow.callerStep, hjoining, hworker]
    exact ⟨steps, t, _, Nat.le_trans hlength (Worker.left_le _), hsteps, hjoin⟩
  · have hcount := countP_of_exec hsteps
    have hleft := s.worker.left_le
    omega

theorem join_finishes_typed :
    (threadedFlow 5).exec (.start false) typing = some typed ∧
      ∀ (steps : List WorkerEvent) (t : Flow),
        (threadedFlow 5).exec typed (steps.map .worker) = some t →
        steps.countP (!·.isInterrupted) ≤ 3 := by
  have hrun : (threadedFlow 5).exec (.start false) typing = some typed := rfl
  exact ⟨hrun, (join_finishes hrun rfl).2.2⟩

/-! ### How the call ends -/

/-- The run has made the pipe, and the thread. -/
def piped (events : List FlowEvent) : Bool :=
  events.any fun | .caller (.pipe2 ok) => ok | _ => false

def spawned (events : List FlowEvent) : Bool :=
  events.any fun | .caller (.spawn ok) => ok | _ => false

/-- What the run and its rounds so far make of the loop. -/
def Flow.Told (deadline : Nat) (events : List FlowEvent) (s : Flow) : Prop :=
  match s.caller with
  | .starting =>
    piped events = false ∧ spawned events = false ∧
      (guiLoop deadline).run () s.rounds = .inl ()
  | .spawning =>
    piped events = true ∧ spawned events = false ∧ (guiLoop deadline).run () s.rounds = .inl ()
  | .top | .polling _ | .polled .. =>
    piped events = true ∧ spawned events = true ∧ (guiLoop deadline).run () s.rounds = .inl ()
  | .leaving exit | .joining exit | .closing exit | .concluding exit =>
    piped events = true ∧ spawned events = true ∧ (guiLoop deadline).run () s.rounds = .inr exit
  | .returned ended =>
    piped events = false ∧ ended = .without .authErr (some "gui-pipe2-fail") ∨
    piped events = true ∧ spawned events = false ∧
      ended = .without .authErr (some "gui-thread-spawn-fail") ∨
    piped events = true ∧ spawned events = true ∧
      ∃ exit, (guiLoop deadline).run () s.rounds = .inr exit ∧
        ended = .ofResponse exit.response exit.cancel ∧ ExitTrue s.worker exit

theorem run_concat {round : Round GuiFds} (h : (guiLoop deadline).run () rounds = .inl ()) :
    (guiLoop deadline).run () (rounds ++ [round]) = guiTurn deadline round := by
  rw [(guiLoop deadline).run_append h]
  simp only [Reactor.run, guiLoop]
  split <;> rename_i hturn <;> rw [hturn]

theorem WorkerStepped.isAlive {t : Flow} (h : WorkerStepped s event t) :
    s.worker.isAlive = true := by
  cases h with
  | authtok collected h | unwound collected h hcancelled | stored h | wrote h hopen
  | interrupted h | failed h => rw [h]; rfl

theorem Flow.Told.workerStepped {t : Flow} (hs : s.Ok) (htold : s.Told deadline events)
    (h : WorkerStepped s event t) :
    t.Told deadline (events ++ [.worker event]) := by
  have halive := h.isAlive
  have hsame : t.caller = s.caller ∧ t.rounds = s.rounds := by cases h <;> exact ⟨rfl, rfl⟩
  have hpiped : piped (events ++ [.worker event]) = piped events := by simp [piped]
  have hspawned : spawned (events ++ [.worker event]) = spawned events := by simp [spawned]
  unfold Flow.Told at htold ⊢
  rw [hsame.1, hsame.2, hpiped, hspawned]
  cases hcaller : s.caller with
  | returned ended =>
    have hbeside := hs.alive
    rw [halive, hcaller] at hbeside
    cases hbeside
  | _ =>
    rw [hcaller] at htold
    exact htold

theorem Flow.Told.callerStepped {t : Flow} {event : CallerEvent} (hs : s.Ok)
    (htold : s.Told deadline events) (h : CallerStepped deadline s event t) :
    t.Told deadline (events ++ [.caller event]) := by
  unfold Flow.Told at htold ⊢
  simp only [piped, spawned, List.any_append, List.any_cons, List.any_nil, Bool.or_false] at htold ⊢
  cases h with
  | piped h | unpiped h | spawned h | unspawned h | inTime h | polled h hboth | cancelled h
  | joined h hworker | closed h =>
    simp only [h] at htold
    simp [htold]
  | late h hlate =>
    simp only [h] at htold
    simp only [htold.1, htold.2.1, Bool.true_or, true_and]
    exact (run_concat htold.2.2).trans (if_pos hlate)
  | again read h hturn | left read h hturn =>
    simp only [h] at htold
    simp only [htold.1, htold.2.1, Bool.true_or, true_and]
    exact (run_concat htold.2.2).trans hturn
  | concluded h =>
    have hexit := hs.exit _ (by rw [h]; rfl)
    simp only [h] at htold
    simp only [htold.1, htold.2.1, Bool.true_or, true_and]
    exact .inr (.inr ⟨_, htold.2.2, rfl, hexit⟩)

theorem told_of_exec (hrun : (threadedFlow deadline).exec (.start authtok) events = some s) :
    s.Told deadline events :=
  (history (H := fun before s ↦ s.Ok ∧ s.Told deadline before)
    (fun _ _ _ _ ⟨hs, htold⟩ h ↦ ⟨hs.workerStepped h, htold.workerStepped hs h⟩)
    (fun _ _ _ _ ⟨hs, htold⟩ h ↦ ⟨hs.callerStepped h, htold.callerStepped hs h⟩)
    ⟨.start authtok, rfl, rfl, rfl⟩ hrun).2

/-- The cancel that is sent says what the thread has done. -/
theorem ExitTrue.of_run {worker : Worker} (h : ExitTrue worker exit)
    (hrun : (guiLoop deadline).run () rounds = .inr exit) :
    (exit.cancel = some "gui-password-skip" → worker.hasStored = true) ∧
      (exit.cancel = some "gui-password-failed" →
        worker.hasFinished = true ∧ worker.hasStored = false) := by
  obtain ⟨_, round, _, _, hturn⟩ := (guiLoop deadline).exists_turn_of_run (I := fun _ ↦ True)
    (fun _ _ _ _ _ ↦ trivial) trivial hrun
  obtain ⟨hcancel, -⟩ | ⟨fds, -, -, rfl⟩ | ⟨fds, revents, -, -, -, -, rfl⟩ := guiTurn_eq_inr hturn
  · rw [hcancel]
    exact ⟨nofun, nofun⟩
  · exact ⟨fun _ ↦ h.entered rfl, by simp⟩
  · exact ⟨by simp, fun _ ↦ h.failed rfl⟩

theorem cancel_ofResponse (response : Option Response) (cancel : Option String) :
    (Ended.ofResponse response cancel).cancel = cancel := by
  cases response <;> rfl

/-- **What the call makes of the thread.**  When the call returns, it has ended as
`waitThreaded` says for what the run made of the pipe and the thread, and for its rounds.  If it
is a skip because of a password, the password is in `PAM_AUTHTOK`; if it is one because of a
dismissed dialog, the thread has collected none. -/
theorem returned_spec {ended : Ended}
    (hrun : (threadedFlow deadline).exec (.start authtok) events = some s)
    (hcaller : s.caller = .returned ended) :
    (∀ call : Call, call.deadline = deadline → call.pipe = piped events →
        call.thread = spawned events → call.guiRounds = s.rounds →
        call.waitThreaded = some ended) ∧
      (ended.cancel = some "gui-password-skip" → s.authtok = true) ∧
      (ended.cancel = some "gui-password-failed" → s.worker = .joined (some false)) := by
  have hs := ok_of_exec hrun
  have htold := told_of_exec hrun
  simp only [Flow.Told, hcaller] at htold
  obtain ⟨hpiped, rfl⟩ | ⟨hpiped, hspawned, rfl⟩ | ⟨hpiped, hspawned, exit, hexit, rfl, htrue⟩ :=
    htold
  · refine ⟨fun call _ hpipe _ _ ↦ ?_, by simp [Ended.without], by simp [Ended.without]⟩
    simp [Call.waitThreaded, hpipe, hpiped]
  · refine ⟨fun call _ hpipe hthread _ ↦ ?_, by simp [Ended.without], by simp [Ended.without]⟩
    simp [Call.waitThreaded, hpipe, hthread, hpiped, hspawned]
  · obtain ⟨hskip, hfailed⟩ := htrue.of_run hexit
    rw [cancel_ofResponse]
    refine ⟨fun call hdeadline hpipe hthread hrounds ↦ ?_, fun h ↦ ?_, fun h ↦ ?_⟩
    · simp [Call.waitThreaded, hpipe, hthread, hdeadline, hrounds, hexit, hpiped, hspawned]
    · exact hs.token (Worker.collected_of_hasStored (hskip h))
    · have halive := hs.alive
      rw [hcaller] at halive
      obtain ⟨hfinished, hunstored⟩ := hfailed h
      obtain hworker | ⟨collected, hworker⟩ := Worker.eq_of_not_isAlive halive
      · rw [hworker] at hfinished
        cases hfinished
      · rw [hworker] at hfinished hunstored ⊢
        obtain ⟨collected, rfl⟩ := Option.isSome_iff_exists.mp hfinished
        exact congrArg (Worker.joined ∘ some) hunstored

theorem returned_spec_typed :
    (threadedFlow 5).exec (.start false) (typing ++ returning) = some done ∧
      done.authtok = true := by
  have hrun : (threadedFlow 5).exec (.start false) (typing ++ returning) = some done := rfl
  exact ⟨hrun, (returned_spec hrun rfl).2.1 rfl⟩

end

end TapAuth.Pam.PasswordThread
