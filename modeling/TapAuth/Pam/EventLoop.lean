import TapAuth.Lib.Reactor
import TapAuth.Shared.Messages

/-!
# Waiting for the daemon

The three loops in which the PAM module waits for the daemon's answer.  Each turn
reads the clock and polls: the daemon's socket alone (`run_sequential_event_loop`),
the socket and the pipe of the password thread (`run_gui_event_loop`), or the socket
and the terminal (the loop at the end of `authenticate_inner`).

What the clock and the poll answer is the turn's input.  The loops have in common
that a response they return was read from the socket in one of their turns
(`sequentialLoop_readIn`, `guiLoop_readIn`, `terminalLoop_readIn`).

Instants are in nanoseconds.
-/

namespace TapAuth.Pam

open Shared

/-- A `PamAuthenticateResponse` as it is read: the outcome is the raw number. -/
structure Response where
  outcome : Int32
  detail : String
  deriving DecidableEq

/-- The flags `poll` sets for a descriptor. -/
structure Revents where
  pollIn : Bool
  pollHup : Bool
  pollErr : Bool
  deriving DecidableEq

def Revents.hangup (revents : Revents) : Bool := revents.pollHup || revents.pollErr

/-- What `try_read_response_nonblocking` answers: no frame yet, a response, or an
error. -/
abbrev ReadResult := Except String (Option Response)

/-- What `poll` answers. -/
inductive Polled (α : Type) where
  | timedOut
  | ready (fds : α)
  | interrupted
  | failed

/-- One turn of a loop: the clock at its top and the poll. -/
structure Round (α : Type) where
  now : Nat
  polled : Polled α

/-- The daemon's socket after a poll. -/
structure IpcFd where
  revents : Option Revents
  read : ReadResult

/-- What the three loops make of the daemon's socket. -/
inductive IpcEvent where
  | idle
  | incomplete
  | response (response : Response)
  | connectionLost
  | readFailed
  deriving DecidableEq

/-- Data is read first: it can arrive together with a hang-up. -/
def IpcFd.event (fd : IpcFd) : IpcEvent :=
  match fd.revents with
  | none => .idle
  | some revents =>
    if revents.pollIn then
      match fd.read with
      | .ok (some response) => .response response
      | .ok none => if revents.hangup then .connectionLost else .incomplete
      | .error _ => .readFailed
    else if revents.hangup then .connectionLost
    else .idle

variable {response : Response} {deadline : Nat}

theorem IpcFd.event_eq_response {fd : IpcFd} (h : fd.event = .response response) :
    fd.read = .ok (some response) := by
  unfold IpcFd.event at h
  split at h
  · cases h
  · split at h
    · split at h
      · rename_i hread
        cases h
        exact hread
      · split at h <;> cases h
      · cases h
    · split at h <;> cases h

inductive ExitReason where
  | timeout
  | ipcResponseReceived
  | ipcError
  | passwordEntered
  | passwordFailed
  deriving DecidableEq, Repr

/-! ## The sequential loop -/

def sequentialTurn (deadline : Nat) (round : Round IpcFd) :
    Unit ⊕ ExitReason × Option Response :=
  if deadline ≤ round.now then .inr (.timeout, none)
  else
    match round.polled with
    | .timedOut | .interrupted => .inl ()
    | .failed => .inr (.ipcError, none)
    | .ready fd =>
      match fd.event with
      | .response response => .inr (.ipcResponseReceived, some response)
      | .connectionLost | .readFailed => .inr (.ipcError, none)
      | .incomplete | .idle => .inl ()

def sequentialLoop (deadline : Nat) :
    Reactor Unit (Round IpcFd) (ExitReason × Option Response) where
  turn _ := sequentialTurn deadline

/-! ## The loop beside the password thread -/

/-- The descriptors of the threaded flow, and the flag the thread sets. -/
structure GuiFds where
  passwordEntered : Bool
  ipc : IpcFd
  pipe : Option Revents

/-- How the loop ends, with the reason of the cancel it sends, if it does. -/
structure GuiExit where
  reason : ExitReason
  response : Option Response
  cancel : Option String
  deriving DecidableEq

/-- The pipe is looked at when the socket had nothing; it is readable when the
dialog was dismissed. -/
def guiPipe (pipe : Option Revents) : Unit ⊕ GuiExit :=
  match pipe with
  | some revents =>
    if revents.pollIn then .inr ⟨.passwordFailed, none, some "gui-password-failed"⟩ else .inl ()
  | none => .inl ()

def guiTurn (deadline : Nat) (round : Round GuiFds) : Unit ⊕ GuiExit :=
  if deadline ≤ round.now then .inr ⟨.timeout, none, none⟩
  else
    match round.polled with
    | .timedOut | .interrupted => .inl ()
    | .failed => .inr ⟨.ipcError, none, none⟩
    | .ready fds =>
      -- a password takes precedence over a response
      if fds.passwordEntered then .inr ⟨.passwordEntered, none, some "gui-password-skip"⟩
      else
        match fds.ipc.event with
        | .response response => .inr ⟨.ipcResponseReceived, some response, none⟩
        | .connectionLost | .readFailed => .inr ⟨.ipcError, none, none⟩
        | .incomplete => .inl ()
        | .idle => guiPipe fds.pipe

def guiLoop (deadline : Nat) : Reactor Unit (Round GuiFds) GuiExit where
  turn _ := guiTurn deadline

/-! ## The terminal loop -/

/-- What reading a byte from the terminal answers. -/
inductive TtyRead where
  | byte (b : UInt8)
  | eof
  | wouldBlock
  | failed
  deriving DecidableEq

structure TerminalFds where
  ipc : IpcFd
  tty : Option Revents
  key : TtyRead

inductive TerminalExit where
  | response (response : Response)
  | connectionLost
  | readFailed
  | skipped
  | timedOut
  deriving DecidableEq

def isEnter (b : UInt8) : Bool := b = 10 || b = 13

/-- The terminal after a poll: Enter skips, other keys are discarded, and a terminal
that is gone is not polled again. -/
def terminalTty (fds : TerminalFds) : Bool ⊕ TerminalExit :=
  match fds.tty with
  | none => .inl true
  | some revents =>
    if revents.pollIn then
      match fds.key with
      | .byte b => if isEnter b then .inr .skipped else .inl true
      | .eof => .inl false
      | .wouldBlock => .inl true
      | .failed => .inl false
    else .inl (!revents.hangup)

/-- The state is whether the terminal is still polled. -/
def terminalTurn (deadline : Nat) (pollTty : Bool) (round : Round TerminalFds) :
    Bool ⊕ TerminalExit :=
  if deadline ≤ round.now then .inr .timedOut
  else
    match round.polled with
    | .timedOut | .interrupted | .failed => .inl pollTty
    | .ready fds =>
      match fds.ipc.event with
      | .response response => .inr (.response response)
      | .connectionLost => .inr .connectionLost
      | .readFailed => .inr .readFailed
      | .incomplete | .idle => if pollTty then terminalTty fds else .inl pollTty

def terminalLoop (deadline : Nat) : Reactor Bool (Round TerminalFds) TerminalExit where
  turn := terminalTurn deadline

/-! ## Where a response comes from -/

/-- The response was read from the daemon's socket in one of the turns. -/
def ReadIn {α : Type} (ipc : α → IpcFd) (rounds : List (Round α)) (response : Response) : Prop :=
  ∃ round ∈ rounds, ∃ fds, round.polled = .ready fds ∧ (ipc fds).read = .ok (some response)

theorem sequentialTurn_eq_response {round : Round IpcFd} {reason : ExitReason}
    (h : sequentialTurn deadline round = .inr (reason, some response)) :
    ∃ fd, round.polled = .ready fd ∧ fd.read = .ok (some response) := by
  unfold sequentialTurn at h
  split at h
  · cases h
  cases hpolled : round.polled with
  | ready fd =>
    simp only [hpolled] at h
    cases hevent : fd.event with
    | response r =>
      simp only [hevent] at h
      cases h
      exact ⟨fd, rfl, IpcFd.event_eq_response hevent⟩
    | _ => simp [hevent] at h
  | _ => simp [hpolled] at h

theorem guiTurn_eq_response {round : Round GuiFds} {exit : GuiExit}
    (h : guiTurn deadline round = .inr exit) (hresponse : exit.response = some response) :
    ∃ fds, round.polled = .ready fds ∧ fds.ipc.read = .ok (some response) := by
  unfold guiTurn at h
  split at h
  · cases h
    cases hresponse
  cases hpolled : round.polled with
  | ready fds =>
    simp only [hpolled] at h
    split at h
    · cases h
      cases hresponse
    cases hevent : fds.ipc.event with
    | response r =>
      simp only [hevent] at h
      cases h
      cases hresponse
      exact ⟨fds, rfl, IpcFd.event_eq_response hevent⟩
    | idle =>
      simp only [hevent, guiPipe] at h
      split at h
      · split at h
        · cases h
          cases hresponse
        · cases h
      · cases h
    | incomplete => simp [hevent] at h
    | _ =>
      simp only [hevent] at h
      cases h
      cases hresponse
  | failed =>
    simp only [hpolled] at h
    cases h
    cases hresponse
  | _ => simp [hpolled] at h

theorem terminalTty_ne_response {fds : TerminalFds} :
    terminalTty fds ≠ .inr (.response response) := by
  unfold terminalTty
  intro h
  split at h
  · cases h
  · split at h
    · split at h
      · split at h <;> cases h
      all_goals cases h
    · cases h

theorem terminalTurn_eq_response {pollTty : Bool} {round : Round TerminalFds}
    (h : terminalTurn deadline pollTty round = .inr (.response response)) :
    ∃ fds, round.polled = .ready fds ∧ fds.ipc.read = .ok (some response) := by
  unfold terminalTurn at h
  split at h
  · cases h
  cases hpolled : round.polled with
  | ready fds =>
    simp only [hpolled] at h
    have htty : (if pollTty then terminalTty fds else .inl pollTty) ≠
        (.inr (.response response) : Bool ⊕ TerminalExit) := by
      split
      · exact terminalTty_ne_response
      · nofun
    cases hevent : fds.ipc.event with
    | response r =>
      simp only [hevent] at h
      cases h
      exact ⟨fds, rfl, IpcFd.event_eq_response hevent⟩
    | incomplete =>
      simp only [hevent] at h
      exact absurd h htty
    | idle =>
      simp only [hevent] at h
      exact absurd h htty
    | _ => simp [hevent] at h
  | _ => simp [hpolled] at h

/-- What a loop returns was read in one of its turns if what a turn returns was read
in that turn. -/
theorem ReadIn.of_run {σ α ρ : Type} {R : Reactor σ (Round α) ρ} {ipc : α → IpcFd} {r : ρ}
    (hturn : ∀ s round, R.turn s round = .inr r →
      ∃ fds, round.polled = .ready fds ∧ (ipc fds).read = .ok (some response)) {s : σ}
    {rounds : List (Round α)} (h : R.run s rounds = .inr r) :
    ReadIn ipc rounds response := by
  obtain ⟨t, round, hround, _, hreturn⟩ :=
    R.exists_turn_of_run (I := fun _ ↦ True) (fun _ _ _ _ _ ↦ trivial) trivial h
  exact ⟨round, hround, hturn t round hreturn⟩

theorem sequentialLoop_readIn {rounds : List (Round IpcFd)} {reason : ExitReason}
    (h : (sequentialLoop deadline).run () rounds = .inr (reason, some response)) :
    ReadIn id rounds response :=
  .of_run (fun _ _ hturn ↦ sequentialTurn_eq_response hturn) h

theorem guiLoop_readIn {rounds : List (Round GuiFds)} {exit : GuiExit}
    (h : (guiLoop deadline).run () rounds = .inr exit) (hresponse : exit.response = some response) :
    ReadIn GuiFds.ipc rounds response :=
  .of_run (fun _ _ hturn ↦ guiTurn_eq_response hturn hresponse) h

theorem terminalLoop_readIn {rounds : List (Round TerminalFds)} {pollTty : Bool}
    (h : (terminalLoop deadline).run pollTty rounds = .inr (.response response)) :
    ReadIn TerminalFds.ipc rounds response :=
  .of_run (fun _ _ hturn ↦ terminalTurn_eq_response hturn) h

end TapAuth.Pam
