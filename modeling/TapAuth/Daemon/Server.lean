import Mathlib.Logic.Function.Basic
import TapAuth.Daemon.Session

/-!
# Connections and the cancel registry

The daemon spawns one task for each connection.  The task reads exactly one frame:
a `PamAuthenticate` starts a session, a `PamCancel` looks its request id up in the
cancel registry and signals the session it finds there.  A session registers the
sender of its cancel channel under its request id once its transports are
initialized, the build without the `ble` feature never does, and nothing removes
the entry when the session ends.

The `Server` is the whole daemon as one machine: the clock, the two maps that the
tasks share, and for each connection what its client has written and where its
task stands.  A session's own steps are those of `sessionNext`; what this module
adds is the channel between it and the registry.  Three facts of the runtime are
built in:

* a registration that replaces an entry drops the sender it replaces;
* the receiver of a dropped sender is ready, as that of a used one is;
* `select!` takes any branch that is ready.

`cancelProcessed` is a ghost: it records that a `PamCancel` with the session's own
request id was processed while the session ran (`cancelProcessed_iff_meets`).  No
step reads it.
-/

universe u

namespace TapAuth.Daemon

open Shared Function

/-! ## Messages and connections -/

structure PamAuthenticateRequest where
  username : String
  timeoutSeconds : UInt32
  requestId : String

/-- What a client writes.  The administrative requests do not touch the registry
and are left out. -/
inductive IpcMessage where
  | pamAuthenticate (request : PamAuthenticateRequest)
  | pamCancel (reason requestId : String)
  /-- A frame of length zero. -/
  | healthCheck
  /-- Anything else: no envelope, an empty one, or a response. -/
  | unrecognized

/-- The cancel channel of a session, by what happened to its sender. -/
inductive CancelChannel where
  | absent
  /-- The sender is in the registry. -/
  | pending
  | sent
  | dropped
  deriving DecidableEq

/-- The branch of the cancel receiver can be taken. -/
def CancelChannel.ready : CancelChannel → Bool
  | .sent | .dropped => true
  | .absent | .pending => false

/-- How a session ended: through `handle_cancellation`, or in any other way. -/
inductive Ending where
  | cancelled
  | other
  deriving DecidableEq

/-- Where the task of a connection stands. -/
inductive Connection where
  /-- It waits for the frame. -/
  | reading
  /-- A session of the `ble` build. -/
  | authenticating (requestId : String) (S : Session) (s : SessionState)
  /-- A session of the other build: the UDP loop, which runs in the connection's
  own task. -/
  | plain (requestId : String) (S : Session) (task : Task)
  /-- A session has ended and its response is written. -/
  | ended (requestId : String) (ending : Ending) (response : PamAuthenticateResponse)
  /-- A request that started no session is answered. -/
  | answered (response : PamAuthenticateResponse)
  /-- The task has ended and has written nothing. -/
  | closed

namespace Connection

/-- The request id of the session that runs. -/
def running? : Connection → Option String
  | .authenticating requestId _ _ | .plain requestId _ _ => some requestId
  | _ => none

/-- The request id of the session, also once it has ended. -/
def requestId? : Connection → Option String
  | .authenticating requestId _ _ | .plain requestId _ _ | .ended requestId _ _ => some requestId
  | _ => none

def ending? : Connection → Option Ending
  | .ended _ ending _ => some ending
  | _ => none

/-- The session waits in the `select!` of `await_auth_result`. -/
def isSelecting : Connection → Bool
  | .authenticating _ _ s =>
    match s.phase with
    | .selecting _ => true
    | _ => false
  | _ => false

def tick (elapsed : Nat) : Connection → Connection
  | .authenticating requestId S s =>
    .authenticating requestId S { s with now := s.now + elapsed }
  | connection => connection

/-- The connection of a session after its event `e`. -/
def ofSession (requestId : String) (S : Session) (e : Event) (s : SessionState) : Connection :=
  match s.response? with
  | some response =>
    let ending := match e with
      | .cancellationDone => .cancelled
      | _ => .other
    .ended requestId ending response
  | none => .authenticating requestId S s

/-- The connection of a session without `select!`, after a step of its loop. -/
def ofTask (requestId : String) (S : Session) : Task → Connection
  | .returned result => .ended requestId .other (respond S result)
  | task => .plain requestId S task

end Connection

/-! ## The server -/

structure Server (ι : Type u) where
  now : Nat
  /-- When each user last asked. -/
  recentRequests : String → Option Nat
  /-- Whose sender is registered under a request id. -/
  cancelRegistry : String → Option ι
  channel : ι → CancelChannel
  /-- What each client has written and the daemon has not read. -/
  inbox : ι → List IpcMessage
  connection : ι → Connection
  cancelProcessed : ι → Bool

/-- What a session reads at its start. -/
structure SessionInput where
  daemon : DaemonState
  challenge : Except String Bytes32
  transports : TransportsEnabled
  env : Ambient

inductive ServerEvent (ι : Type u) where
  | tick (elapsed : Nat)
  /-- The client of a connection writes a frame. -/
  | write (i : ι) (message : IpcMessage)
  /-- The task of a connection reads its frame and acts on it. -/
  | read (i : ι) (input : SessionInput)
  /-- The read fails, or takes more than three seconds. -/
  | readFailed (i : ι)
  | session (i : ι) (e : Event)

namespace Server

variable {ι : Type u}

def start : Server ι where
  now := 0
  recentRequests _ := none
  cancelRegistry _ := none
  channel _ := .absent
  inbox _ := []
  connection _ := .reading
  cancelProcessed _ := false

def tick (s : Server ι) (elapsed : Nat) : Server ι :=
  { s with now := s.now + elapsed, connection := fun i ↦ (s.connection i).tick elapsed }

variable [DecidableEq ι]

def setConnection (s : Server ι) (i : ι) (connection : Connection) : Server ι :=
  { s with connection := update s.connection i connection }

def answer (s : Server ι) (i : ι) (response : PamAuthenticateResponse) : Server ι :=
  s.setConnection i (.answered response)

/-- The client of connection `i` writes a frame. -/
def write (s : Server ι) (i : ι) (message : IpcMessage) : Server ι :=
  { s with inbox := update s.inbox i (s.inbox i ++ [message]) }

/-- The entries of `recent_requests` that are kept, at `now`. -/
def retainRecent (s : Server ι) : String → Option Nat := fun username ↦
  (s.recentRequests username).filter fun timestamp ↦ s.now - timestamp < 2000

/-- `DEDUP_WINDOW`, in milliseconds. -/
def dedupWindow : Nat := 1000

def isDuplicate (s : Server ι) (username : String) : Bool :=
  (s.retainRecent username).any fun timestamp ↦ s.now - timestamp < dedupWindow

def internalError (text : String) : PamAuthenticateResponse :=
  ⟨.error, "Internal error: " ++ text, []⟩

/-- The task of a session that `handle_authenticate` has begun. -/
def openSession (ble : Bool) (s : Server ι) (i : ι) (requestId : String) (S : Session) :
    Server ι :=
  s.setConnection i <|
    if ble then .authenticating requestId S (.start s.now)
    else .plain requestId S (.running s.now .top LoopState.start)

/-- `AuthSession::new` and `handle_authenticate` up to its first wait.  The build
without `ble` skips the temporal identifier, which cannot fail
(`generateCurrentTemporalIdentifierBle_isOk`). -/
def startSession (P : Primitives) (ble : Bool) (input : SessionInput) (s : Server ι) (i : ι)
    (request : PamAuthenticateRequest) : Server ι :=
  match input.challenge with
  | .error text => s.answer i (internalError ("random generation failed: " ++ text))
  | .ok challenge =>
    let attempt : AuthSession :=
      { state := input.daemon
        username := request.username
        challenge := challenge
        transports := ⟨input.transports.network, ble && input.transports.ble⟩
        timeoutSeconds := some request.timeoutSeconds
        startedAt := s.now
        env := input.env }
    match beginAuthenticate P attempt with
    | .responded (.ok response) => s.answer i response
    | .responded (.error e) => s.answer i (internalError e.display)
    | .running S => s.openSession ble i request.requestId S

def handlePamAuthenticate (P : Primitives) (ble : Bool) (input : SessionInput) (s : Server ι)
    (i : ι) (request : PamAuthenticateRequest) : Server ι :=
  if s.isDuplicate request.username then
    { s with recentRequests := s.retainRecent }.answer i
      ⟨.ignore, "Duplicate request - another authentication is in progress", []⟩
  else
    startSession P ble input
      { s with recentRequests := update s.retainRecent request.username (some s.now) }
      i request

/-- The ghost of a `PamCancel`: it reaches the sessions that run under its id. -/
def noteCancel (s : Server ι) (requestId : String) : Server ι :=
  { s with
    cancelProcessed := fun i ↦
      s.cancelProcessed i || decide ((s.connection i).running? = some requestId) }

def handlePamCancel (s : Server ι) (i : ι) (requestId : String) : Server ι :=
  match s.cancelRegistry requestId with
  | some j =>
    { s.noteCancel requestId with
      cancelRegistry := update s.cancelRegistry requestId none
      channel := update s.channel j .sent }.answer i ⟨.ignore, "Cancel forwarded", []⟩
  | none => (s.noteCancel requestId).answer i ⟨.ignore, "No matching request to cancel", []⟩

/-- `handle_conn` from the frame it has read. -/
def handleConn (P : Primitives) (ble : Bool) (input : SessionInput) (s : Server ι) (i : ι) :
    IpcMessage → Server ι
  | .pamAuthenticate request => s.handlePamAuthenticate P ble input i request
  | .pamCancel _ requestId => s.handlePamCancel i requestId
  | .healthCheck => s.setConnection i .closed
  | .unrecognized => s.answer i ⟨.error, "Unknown IPC message", []⟩

/-- The sender of `i` is stored under its request id; the one it replaces is
dropped. -/
def registerCancelHandler (s : Server ι) (i : ι) (requestId : String) : Server ι :=
  let replaced := match s.cancelRegistry requestId with
    | some j => update s.channel j .dropped
    | none => s.channel
  { s with
    cancelRegistry := update s.cancelRegistry requestId (some i)
    channel := update replaced i .pending }

end Server

section

variable {ι : Type u} [DecidableEq ι] (P : Primitives)

/-- What the server offers a session: time passes for all sessions at once, and the
cancel branch needs a receiver that is ready. -/
def CancelChannel.offers (channel : CancelChannel) : Event → Bool
  | .tick _ => false
  | .cancelled => channel.ready
  | _ => true

namespace Server

/-- A step of a session of the `ble` build. -/
def parallelStep (s : Server ι) (i : ι) (requestId : String) (S : Session) (t : SessionState)
    (e : Event) : Option (Server ι) :=
  if (s.channel i).offers e then
    (sessionNext P S t e).map fun t' ↦
      let s' := match e with
        | .registered _ => s.registerCancelHandler i requestId
        | _ => s
      s'.setConnection i (.ofSession requestId S e t')
  else none

/-- A step of a session of the other build: of its one loop, or of the outer
timeout. -/
def plainStep (now : Nat) (requestId : String) (S : Session) (task : Task) :
    Event → Option Connection
  | .taskTop .udp sent => (task.atTop now sent).map (.ofTask requestId S)
  | .taskReceive .udp received env =>
    (task.receive P S.params received env).map (.ofTask requestId S)
  -- the loop is part of the connection's task, which a panic ends
  | .taskPanic .udp => task.panic.map fun _ ↦ .closed
  | .timeout =>
    if S.deadline ≤ now then some (.ended requestId .other (respondTimeout S)) else none
  | _ => none

def sessionStep (s : Server ι) (i : ι) (e : Event) : Option (Server ι) :=
  match s.connection i with
  | .authenticating requestId S t => s.parallelStep P i requestId S t e
  | .plain requestId S task => (plainStep P s.now requestId S task e).map (s.setConnection i)
  | _ => none

/-- The connection's task reads the frame that was written first. -/
def readStep (ble : Bool) (s : Server ι) (i : ι) (input : SessionInput) : Option (Server ι) :=
  match s.connection i, s.inbox i with
  | .reading, message :: rest =>
    some (handleConn P ble input { s with inbox := update s.inbox i rest } i message)
  | _, _ => none

def next (ble : Bool) (s : Server ι) : ServerEvent ι → Option (Server ι)
  | .tick elapsed => some (s.tick elapsed)
  | .write i message => some (s.write i message)
  | .read i input => s.readStep P ble i input
  | .readFailed i =>
    match s.connection i with
    | .reading => some (s.setConnection i .closed)
    | _ => none
  | .session i e => s.sessionStep P i e

end Server

def server (ble : Bool) : Machine (Server ι) (ServerEvent ι) := ⟨Server.next P ble⟩

end

/-! ## What a step can do to a connection -/

section

variable {ι : Type u} [DecidableEq ι] {P : Primitives} {ble : Bool} {input : SessionInput}
  {s t : Server ι} {i : ι}

/-- From `s` to `t` the task of connection `i` has read its frame or has moved on,
with a session whose request id is one of `ids` if it has one. -/
structure Moves (s t : Server ι) (i : ι) (ids : String → Prop) : Prop where
  others : ∀ j, j ≠ i → t.connection j = s.connection j
  notReading : t.connection i ≠ .reading
  requestId : ∀ id, (t.connection i).requestId? = some id → ids id
  inbox : t.inbox = s.inbox
  cancelProcessed : t.cancelProcessed = s.cancelProcessed

variable {s₀ : Server ι} {e : ServerEvent ι}

/-- The maps and the clock may change with it. -/
theorem moves_setConnection {c : Connection} {ids : String → Prop}
    (hconnection : s₀.connection = s.connection) (hinbox : s₀.inbox = s.inbox)
    (hprocessed : s₀.cancelProcessed = s.cancelProcessed) (hc : c ≠ .reading)
    (hid : ∀ id, c.requestId? = some id → ids id) :
    Moves s (s₀.setConnection i c) i ids where
  others j hne := by simp [Server.setConnection, hne, hconnection]
  notReading := by simpa [Server.setConnection] using hc
  requestId id h := hid id (by simpa [Server.setConnection] using h)
  inbox := hinbox
  cancelProcessed := hprocessed

/-- A connection that starts no session. -/
theorem moves_answer {ids : String → Prop} {response : PamAuthenticateResponse}
    (hconnection : s₀.connection = s.connection) (hinbox : s₀.inbox = s.inbox)
    (hprocessed : s₀.cancelProcessed = s.cancelProcessed) : Moves s (s₀.answer i response) i ids :=
  moves_setConnection hconnection hinbox hprocessed nofun nofun

theorem moves_startSession (hconnection : s₀.connection = s.connection)
    (hinbox : s₀.inbox = s.inbox) (hprocessed : s₀.cancelProcessed = s.cancelProcessed)
    (request : PamAuthenticateRequest) :
    Moves s (s₀.startSession P ble input i request) i (request.requestId = ·) := by
  unfold Server.startSession
  split
  · exact moves_answer hconnection hinbox hprocessed
  · dsimp only
    split
    · exact moves_answer hconnection hinbox hprocessed
    · exact moves_answer hconnection hinbox hprocessed
    · apply moves_setConnection hconnection hinbox hprocessed
      · cases ble <;> nofun
      · intro id h
        cases ble <;> exact Option.some.inj h

theorem moves_handlePamAuthenticate (request : PamAuthenticateRequest) :
    Moves s (s.handlePamAuthenticate P ble input i request) i (request.requestId = ·) := by
  unfold Server.handlePamAuthenticate
  split
  · apply moves_answer <;> rfl
  · apply moves_startSession <;> rfl

theorem moves_handlePamCancel (requestId : String) (ids : String → Prop) :
    Moves (s.noteCancel requestId) (s.handlePamCancel i requestId) i ids := by
  unfold Server.handlePamCancel
  split <;> apply moves_answer <;> rfl

/-- The request ids a frame can start a session with. -/
def IpcMessage.starts : IpcMessage → String → Prop
  | .pamAuthenticate request => (request.requestId = ·)
  | _ => fun _ ↦ False

/-- The sessions a frame reaches, in the ghost. -/
def Server.note (s : Server ι) : IpcMessage → Server ι
  | .pamCancel _ requestId => s.noteCancel requestId
  | _ => s

theorem moves_handleConn (message : IpcMessage) :
    Moves (s.note message) (s.handleConn P ble input i message) i message.starts := by
  cases message with
  | pamAuthenticate request => exact moves_handlePamAuthenticate request
  | pamCancel reason requestId => exact moves_handlePamCancel requestId _
  | healthCheck => exact moves_setConnection rfl rfl rfl nofun nofun
  | unrecognized => exact moves_answer rfl rfl rfl

open Connection

theorem Connection.ofSession_ne_reading (requestId : String) (S : Session) (e : Event)
    (t : SessionState) : ofSession requestId S e t ≠ .reading := by
  unfold ofSession
  split <;> nofun

@[simp] theorem Connection.requestId?_ofSession (requestId : String) (S : Session) (e : Event)
    (t : SessionState) : (ofSession requestId S e t).requestId? = some requestId := by
  unfold ofSession
  split <;> rfl

theorem moves_parallelStep {requestId : String} {S : Session} {t₀ : SessionState} {e : Event}
    (h : s.parallelStep P i requestId S t₀ e = some t) : Moves s t i (requestId = ·) := by
  unfold Server.parallelStep at h
  split_ifs at h
  obtain ⟨t', -, rfl⟩ := Option.map_eq_some_iff.mp h
  have hid : ∀ id, (ofSession requestId S e t').requestId? = some id →
      requestId = id := by
    intro id h
    rw [requestId?_ofSession] at h
    exact Option.some.inj h
  cases e <;> exact moves_setConnection rfl rfl rfl (ofSession_ne_reading _ _ _ _) hid

theorem plainStep_spec {now : Nat} {requestId : String} {S : Session} {task : Task} {e : Event}
    {c : Connection} (h : Server.plainStep P now requestId S task e = some c) :
    c = .closed ∨ (∃ task, c = .plain requestId S task) ∨
      ∃ response, c = .ended requestId .other response := by
  have hofTask : ∀ task, (∃ task', ofTask requestId S task = .plain requestId S task') ∨
      ∃ response, ofTask requestId S task = .ended requestId .other response := by
    intro task
    cases task with
    | returned result => exact .inr ⟨_, rfl⟩
    | _ => exact .inl ⟨_, rfl⟩
  unfold Server.plainStep at h
  split at h
  · obtain ⟨task', -, rfl⟩ := Option.map_eq_some_iff.mp h
    exact .inr (hofTask task')
  · obtain ⟨task', -, rfl⟩ := Option.map_eq_some_iff.mp h
    exact .inr (hofTask task')
  · obtain ⟨task', -, rfl⟩ := Option.map_eq_some_iff.mp h
    exact .inl rfl
  · split_ifs at h
    cases h
    exact .inr (.inr ⟨_, rfl⟩)
  · cases h

/-- A step of a session keeps its request id. -/
theorem moves_sessionStep {e : Event} (h : s.sessionStep P i e = some t) :
    Moves s t i fun id ↦ (s.connection i).requestId? = some id := by
  unfold Server.sessionStep at h
  split at h
  next requestId S t₀ hconnection =>
    obtain ⟨hothers, hreading, hid, hinbox, hprocessed⟩ := moves_parallelStep h
    refine ⟨hothers, hreading, ?_, hinbox, hprocessed⟩
    rintro id h
    obtain rfl := hid id h
    rw [hconnection]
    rfl
  next requestId S task hconnection =>
    obtain ⟨c, hstep, rfl⟩ := Option.map_eq_some_iff.mp h
    rw [hconnection]
    rcases plainStep_spec hstep with rfl | ⟨task', rfl⟩ | ⟨response, rfl⟩
    · exact moves_setConnection rfl rfl rfl nofun nofun
    · exact moves_setConnection rfl rfl rfl nofun fun _ ↦ id
    · exact moves_setConnection rfl rfl rfl nofun fun _ ↦ id
  · cases h

/-- A connection reads at most one frame, and only while it has not moved on. -/
theorem readStep_spec (h : s.readStep P ble i input = some t) :
    s.connection i = .reading ∧ ∃ message rest, s.inbox i = message :: rest ∧
      Moves (Server.note { s with inbox := update s.inbox i rest } message) t i
        message.starts := by
  unfold Server.readStep at h
  split at h
  case h_2 => cases h
  case h_1 message rest hreading hinbox =>
      cases h
      exact ⟨hreading, message, rest, hinbox, moves_handleConn message⟩

omit [DecidableEq ι] in
@[simp] theorem Server.connection_note (message : IpcMessage) :
    (s.note message).connection = s.connection := by
  cases message <;> rfl

omit [DecidableEq ι] in
@[simp] theorem Server.inbox_note (message : IpcMessage) : (s.note message).inbox = s.inbox := by
  cases message <;> rfl

/-- A read that fails closes a connection whose task reads. -/
theorem readFailed_spec (h : s.next P ble (.readFailed i) = some t) :
    s.connection i = .reading ∧ t = s.setConnection i .closed := by
  simp only [Server.next] at h
  split at h
  next hreading =>
    cases h
    exact ⟨hreading, rfl⟩
  · cases h

/-- What is written comes after what is there. -/
theorem Server.inbox_prefix_write (s : Server ι) (i j : ι) (message : IpcMessage) :
    s.inbox i <+: (s.write j message).inbox i := by
  rcases eq_or_ne i j with rfl | hne
  · simp [Server.write]
  · simp [Server.write, hne]

/-- Once a connection's task has moved on, it never reads again: what its client
writes stays where it is, and its session keeps its request id. -/
theorem next_of_not_reading (h : s.next P ble e = some t) (hi : s.connection i ≠ .reading) :
    t.connection i ≠ .reading ∧ s.inbox i <+: t.inbox i ∧
      ∀ id, (t.connection i).requestId? = some id → (s.connection i).requestId? = some id := by
  cases e with
  | tick elapsed =>
    cases h
    refine ⟨?_, List.prefix_rfl, ?_⟩
    · change (s.connection i).tick elapsed ≠ .reading
      cases hconnection : s.connection i <;> first | exact absurd hconnection hi | nofun
    · change ∀ id, ((s.connection i).tick elapsed).requestId? = some id → _
      cases s.connection i <;> exact fun _ ↦ id
  | write j message =>
    cases h
    exact ⟨hi, s.inbox_prefix_write i j message, fun _ ↦ id⟩
  | read j input =>
    obtain ⟨hreading, message, rest, -, hmoves⟩ := readStep_spec h
    have hne : i ≠ j := by
      rintro rfl
      exact hi hreading
    have hconnection : t.connection i = s.connection i := by
      simpa using hmoves.others i hne
    have hinbox : t.inbox i = s.inbox i := by
      simp [hmoves.inbox, hne]
    rw [hconnection, hinbox]
    exact ⟨hi, List.prefix_rfl, fun _ ↦ id⟩
  | readFailed j =>
    obtain ⟨hreading, rfl⟩ := readFailed_spec h
    have hne : i ≠ j := by
      rintro rfl
      exact hi hreading
    simpa [Server.setConnection, hne] using hi
  | session j e =>
    have hmoves := moves_sessionStep h
    rw [hmoves.inbox]
    rcases eq_or_ne i j with rfl | hne
    · exact ⟨hmoves.notReading, List.prefix_rfl, hmoves.requestId⟩
    · rw [hmoves.others i hne]
      exact ⟨hi, List.prefix_rfl, fun _ ↦ id⟩

/-- A connection whose task reads either goes on reading, or it starts a session
under the id of the first frame, if that is a `PamAuthenticate`. -/
theorem next_of_reading (h : s.next P ble e = some t) (hi : s.connection i = .reading) :
    t.connection i = .reading ∧ s.inbox i <+: t.inbox i ∨
      t.connection i ≠ .reading ∧ ∀ id, (t.connection i).requestId? = some id →
        ∃ message rest, s.inbox i = message :: rest ∧ message.starts id := by
  cases e with
  | tick elapsed =>
    cases h
    refine .inl ⟨?_, List.prefix_rfl⟩
    change (s.connection i).tick elapsed = .reading
    rw [hi]
    rfl
  | write j message =>
    cases h
    exact .inl ⟨hi, s.inbox_prefix_write i j message⟩
  | read j input =>
    obtain ⟨hreading, message, rest, hinbox, hmoves⟩ := readStep_spec h
    rcases eq_or_ne i j with rfl | hne
    · exact .inr ⟨hmoves.notReading, fun id hid ↦
        ⟨message, rest, hinbox, hmoves.requestId id hid⟩⟩
    · refine .inl ⟨?_, ?_⟩
      · simpa [hi] using hmoves.others i hne
      · simp [hmoves.inbox, hne]
  | readFailed j =>
    obtain ⟨hreading, rfl⟩ := readFailed_spec h
    rcases eq_or_ne i j with rfl | hne
    · exact .inr (by simp [Server.setConnection, requestId?])
    · exact .inl (by simpa [Server.setConnection, hne] using hi)
  | session j e =>
    have hmoves := moves_sessionStep h
    rcases eq_or_ne i j with rfl | hne
    · simp [Server.next, Server.sessionStep, hi] at h
    · rw [hmoves.others i hne, hmoves.inbox]
      exact .inl ⟨hi, List.prefix_rfl⟩

/-- The step is the processing of a `PamCancel` whose request id is that of the
session that runs on connection `i`. -/
def Cancels (i : ι) (s : Server ι) : ServerEvent ι → Prop
  | .read j _ =>
    match s.inbox j with
    | .pamCancel _ requestId :: _ => (s.connection i).running? = some requestId
    | _ => False
  | _ => False

/-- What the ghost records. -/
theorem cancelProcessed_next (h : s.next P ble e = some t) :
    t.cancelProcessed i = true ↔ s.cancelProcessed i = true ∨ Cancels i s e := by
  cases e with
  | read j input =>
    obtain ⟨hreading, message, rest, hinbox, hmoves⟩ := readStep_spec h
    rw [hmoves.cancelProcessed]
    cases message <;> simp [Cancels, hinbox, Server.note, Server.noteCancel]
  | session j e =>
    rw [(moves_sessionStep h).cancelProcessed]
    exact (or_iff_left id).symm
  | readFailed j =>
    obtain ⟨-, rfl⟩ := readFailed_spec h
    exact (or_iff_left id).symm
  | tick | write =>
    cases h
    exact (or_iff_left id).symm

/-- The ghost is set iff such a `PamCancel` was processed in the run. -/
theorem cancelProcessed_iff_meets {events : List (ServerEvent ι)}
    (hrun : (server P ble).exec .start events = some s) (i : ι) :
    s.cancelProcessed i = true ↔ (server P ble).Meets (Cancels i) .start events := by
  have hflag := (server P ble).flag_iff_meets (I := fun _ ↦ True)
    (F := fun s ↦ s.cancelProcessed i = true) (G := Cancels i)
    (fun _ _ _ _ hnext ↦ ⟨trivial, cancelProcessed_next hnext⟩) trivial hrun
  simpa [Server.start] using hflag

end

end TapAuth.Daemon
