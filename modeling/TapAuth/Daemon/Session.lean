import TapAuth.Lib.Machine
import TapAuth.Daemon.AuthLoop

/-!
# An authentication session

`handle_authenticate` checks whether an attempt makes sense, builds the request
and then runs the BLE and the UDP loop as two spawned tasks under an outer
timeout (the build with the `ble` feature).  The part before the first wait is
the function `beginAuthenticate`; from there on the session is a machine.

A label is one thing that can happen next: a task reaches the top of its loop or
receives something, `select!` notices a finished task or a cancel, an awaited
clean-up ends, time passes, the outer timeout fires.  What the source does
between two waits is one step.  Three facts of the runtime are built in:

* `abort` stops a task that has not finished; it takes no further step;
* dropping the future that waits for the tasks, as the outer timeout does, leaves
  the tasks running: a dropped join handle detaches its task;
* a task whose transport is disabled has returned at once.
-/

namespace TapAuth.Daemon

open Shared

/-! ## Responses -/

structure PamAuthenticateResponse where
  outcome : PamOutcome
  detail : String
  challenge : Bytes
  deriving DecidableEq

def NetworkError.display : NetworkError → String
  | .io text => "IO error: " ++ text
  | .protocol error => "Protocol error: " ++ error.display
  | .decode text => "Decode error: " ++ text
  | .noResponse => "No response received"
  | .timeout => "Timeout"

def AuthHandlerError.display : AuthHandlerError → String
  | .config error => "Configuration error: " ++ error.display
  | .network error => "Network error: " ++ error.display
  | .protocol error => "Protocol error: " ++ error.display
  | .crypto error => "Crypto error: " ++ error.display
  | .timeout => "Authentication timeout"
  | .denied => "Authentication denied"
  | .explicitDenial => "Authentication explicitly denied by user"
  | .noPairedDevices => "No paired devices"
  | .transportDisabled => "Transport disabled by configuration"
  | .bleError text => "BLE error: " ++ text

/-! ## The session's surroundings -/

/-- The daemon state a session reads. -/
structure DaemonState where
  pairedServers : ServerMap
  keypair : Option Ed25519KeyPair
  csk : Option ClientSymmetricKey
  hostname : String
  initError : Option String

structure TransportsEnabled where
  network : Bool
  ble : Bool
  deriving DecidableEq

def TransportsEnabled.any (transports : TransportsEnabled) : Bool :=
  transports.network || transports.ble

/-- One request: its session and what is read at its start.  `transports` is what
the configuration says at that moment. -/
structure AuthSession where
  state : DaemonState
  username : String
  challenge : Bytes32
  transports : TransportsEnabled
  timeoutSeconds : Option UInt32
  /-- The time at the start, in milliseconds. -/
  startedAt : Nat
  env : Ambient

/-- A session that got past the checks, with what its tasks share. -/
structure Session where
  username : String
  transports : TransportsEnabled
  params : AuthParams
  /-- The request its tasks transmit. -/
  packet : EncryptedPacket
  /-- When the outer timeout fires. -/
  deadline : Nat

/-- The servers a request for `username` may be answered by. -/
def allowedServers (servers : ServerMap) (username : String) : List PairedServer :=
  servers.values.filter fun server ↦ server.isUserAllowed username

/-- How `handle_authenticate` gets to its first wait. -/
inductive Begin where
  | responded (response : Except AuthHandlerError PamAuthenticateResponse)
  | running (session : Session)

/-- The session, if one was started. -/
def Begin.session? : Begin → Option Session
  | .responded _ => none
  | .running session => some session

/-! ## The two tasks -/

inductive TransportKind where
  | ble
  | udp
  deriving DecidableEq, Repr

def TransportKind.other : TransportKind → TransportKind
  | .ble => .udp
  | .udp => .ble

/-- Where a task stands in its loop: at the top, or waiting for a packet. -/
inductive LoopPoint where
  | top
  | waiting
  deriving DecidableEq, Repr

inductive Task where
  | notSpawned
  | running (start : Nat) (point : LoopPoint) (locals : LoopState)
  | returned (result : Except AuthHandlerError Unit)
  | panicked
  | aborted
  deriving DecidableEq

def Task.abort : Task → Task
  | .running _ _ _ => .aborted
  | task => task

/-- A spawned task: its loop, or an immediate error if the transport is not
there. -/
def Task.spawn (enabled : Bool) (now : Nat) : Task :=
  if enabled then .running now .top LoopState.start
  else .returned (.error .transportDisabled)

/-- Which transports have failed with a non-terminal error. -/
structure Failed where
  ble : Bool
  udp : Bool
  deriving DecidableEq

def Failed.get (failed : Failed) : TransportKind → Bool
  | .ble => failed.ble
  | .udp => failed.udp

def Failed.set (failed : Failed) : TransportKind → Failed
  | .ble => { failed with ble := true }
  | .udp => { failed with udp := true }

/-- Where `handle_authenticate` waits. -/
inductive Phase where
  /-- For `BleTransport::new`. -/
  | initializing
  /-- For the lock of the cancel registry. -/
  | registering
  /-- In the `select!` of `await_auth_result`. -/
  | selecting (failed : Failed)
  /-- For the clean-up after a terminal result. -/
  | closing (result : Except AuthHandlerError Unit)
  /-- In `handle_cancellation`, before it aborts the tasks. -/
  | cancelling
  | responded (response : PamAuthenticateResponse)
  deriving DecidableEq

structure SessionState where
  now : Nat
  phase : Phase
  ble : Task
  udp : Task
  /-- Whether there is a BLE transport. -/
  bleTransport : Bool
  deriving DecidableEq

namespace SessionState

def start (now : Nat) : SessionState := ⟨now, .initializing, .notSpawned, .notSpawned, false⟩

def task (s : SessionState) : TransportKind → Task
  | .ble => s.ble
  | .udp => s.udp

def setTask (s : SessionState) (k : TransportKind) (task : Task) : SessionState :=
  match k with
  | .ble => { s with ble := task }
  | .udp => { s with udp := task }

/-- The response, once there is one. -/
def response? (s : SessionState) : Option PamAuthenticateResponse :=
  match s.phase with
  | .responded response => some response
  | _ => none

end SessionState

inductive Event where
  /-- Time passes, in milliseconds. -/
  | tick (elapsed : Nat)
  /-- `BleTransport::new` answers. -/
  | bleInitialized (ok : Bool)
  /-- The cancel handler is registered; the cancel packet is built and the tasks
  are spawned. -/
  | registered (env : Ambient)
  | taskTop (k : TransportKind) (sent : Except TransportError Unit)
  | taskReceive (k : TransportKind) (received : Except TransportError ReceiveResult)
      (env : Ambient)
  | taskPanic (k : TransportKind)
  /-- `select!` takes the branch of a finished task. -/
  | joined (k : TransportKind)
  /-- `select!` takes the branch of the cancel receiver. -/
  | cancelled
  /-- The awaited clean-up after a terminal result ends. -/
  | closed
  /-- The waits of `handle_cancellation` end. -/
  | cancellationDone
  /-- The outer timeout fires. -/
  | timeout

section

variable (P : Primitives)

def createCancelPacket (S : Session) (env : Ambient) : Except AuthHandlerError EncryptedPacket :=
  match createAuthCancel S.params.challenge.bytes with
  | .error e => .error (.protocol e)
  | .ok cancel =>
    let wrapper := signWrapperMessage P (wrapAuthCancel cancel) S.params.keypair
    (createEncryptedPacketWithCskNonce P env S.params.csk wrapper).mapError .protocol

/-- The response to what `try_parallel_authentication` returns in time. -/
def respond (S : Session) (result : Except AuthHandlerError Unit) : PamAuthenticateResponse :=
  match result with
  | .ok () => ⟨.success, "Authenticated user " ++ S.username ++ " successfully",
      S.params.challenge.bytes⟩
  | .error .explicitDenial => ⟨.denied, "Authentication explicitly denied by user",
      S.params.challenge.bytes⟩
  | .error e => ⟨.ignore, "Authentication failed: " ++ e.display, S.params.challenge.bytes⟩

/-- The response when the outer timeout fires first. -/
def respondTimeout (S : Session) : PamAuthenticateResponse :=
  ⟨.timeout, "Authentication timeout", S.params.challenge.bytes⟩

/-- `handle_authenticate` up to its first wait. -/
def beginAuthenticate (S : AuthSession) : Begin :=
  let respondNow (outcome : PamOutcome) (detail : String) : Begin :=
    .responded (.ok ⟨outcome, detail, S.challenge.bytes⟩)
  if ¬ S.transports.any then
    respondNow .ignore "All transports (BLE and Local Network) are disabled"
  else if S.state.pairedServers.entries = [] then
    respondNow .ignore "No paired devices configured"
  else
    match S.state.keypair, S.state.csk with
    | some keypair, some csk =>
      if allowedServers S.state.pairedServers S.username = [] then
        respondNow .ignore ("No servers authorized for user " ++ S.username)
      else
        match createAuthRequestWithChallenge S.env.unixSeconds S.username S.state.hostname
            S.challenge.bytes with
        | .error e => .responded (.error (.protocol e))
        | .ok request =>
          let wrapper := signWrapperMessage P (wrapAuthRequest request) keypair
          match createEncryptedPacketWithCskNonce P S.env csk wrapper with
          | .error e => .responded (.error (.protocol e))
          | .ok packet =>
            let session : Session :=
              { username := S.username
                transports := S.transports
                -- the tasks get every stored server, not the allowed ones
                params := ⟨csk, keypair, S.challenge, S.state.pairedServers⟩
                packet := packet
                deadline := S.startedAt + (S.timeoutSeconds.getD 30).toNat * 1000 }
            match generateCurrentTemporalIdentifierBle P S.env.unixSeconds csk with
            | .error e => .responded (.ok (respond session (.error (.crypto e))))
            | .ok _ => .running session
    | _, _ =>
      respondNow .error (S.state.initError.getD
        "Keypair unavailable. Please run tapauth-config to regenerate keys.")

/-- A task runs from the top of its loop to its wait. -/
def Task.atTop (now : Nat) (sent : Except TransportError Unit) : Task → Option Task
  | .running start .top locals =>
    match loopTop (now - start) sent with
    | some outcome => some (.returned outcome.result)
    | none => some (.running start .waiting locals)
  | _ => none

/-- A waiting task gets an answer from its transport. -/
def Task.receive (A : AuthParams) (received : Except TransportError ReceiveResult)
    (env : Ambient) : Task → Option Task
  | .running start .waiting locals =>
    match loopReceive P A locals received env with
    | .inr outcome => some (.returned outcome.result)
    | .inl locals => some (.running start .top locals)
  | _ => none

def Task.panic : Task → Option Task
  | .running _ _ _ => some .panicked
  | _ => none

/-- How `await_auth_result` reads a finished task. -/
inductive JoinResult where
  /-- A grant or an explicit denial. -/
  | terminal (result : Except AuthHandlerError Unit)
  /-- Any other error, or a panic: the other transport may still decide. -/
  | failed

def Task.joinResult : Task → Option JoinResult
  | .returned (.ok ()) => some (.terminal (.ok ()))
  | .returned (.error .explicitDenial) => some (.terminal (.error .explicitDenial))
  | .returned (.error _) => some .failed
  | .panicked => some .failed
  | _ => none

/-- A terminal result of task `k`: the other task is aborted and the clean-up
begins. -/
def SessionState.close (s : SessionState) (k : TransportKind)
    (result : Except AuthHandlerError Unit) : SessionState :=
  { s.setTask k.other (s.task k.other).abort with phase := .closing result }

/-- Transport `k` failed: the session goes on with the other one, if that has not
failed before. -/
def SessionState.fail (s : SessionState) (S : Session) (failed : Failed) (k : TransportKind) :
    SessionState :=
  if failed.get k.other then { s with phase := .responded (respond S (.error .denied)) }
  else { s with phase := .selecting (failed.set k) }

/-- `select!` takes the branch of task `k`, which is disarmed once its transport
has failed. -/
def join (S : Session) (s : SessionState) (k : TransportKind) : Option SessionState :=
  match s.phase with
  | .selecting failed =>
    if failed.get k then none
    else (s.task k).joinResult.map fun
      | .terminal result => s.close k result
      | .failed => s.fail S failed k
  | _ => none

/-- The session as a machine. -/
def sessionNext (S : Session) (s : SessionState) (e : Event) : Option SessionState :=
  match e with
  | .tick elapsed => some { s with now := s.now + elapsed }
  | .bleInitialized ok =>
    match s.phase with
    | .initializing =>
      some { s with phase := .registering, bleTransport := S.transports.ble && ok }
    | _ => none
  | .registered env =>
    match s.phase with
    | .registering =>
      match createCancelPacket P S env with
      | .error e => some { s with phase := .responded (respond S (.error e)) }
      | .ok _ => some
          { s with
            phase := .selecting ⟨false, false⟩
            ble := Task.spawn s.bleTransport s.now
            udp := Task.spawn S.transports.network s.now }
    | _ => none
  | .taskTop k sent => ((s.task k).atTop s.now sent).map (s.setTask k)
  | .taskReceive k received env =>
    ((s.task k).receive P S.params received env).map (s.setTask k)
  | .taskPanic k => (s.task k).panic.map (s.setTask k)
  | .joined k => join S s k
  | .cancelled =>
    match s.phase with
    | .selecting _ => some { s with phase := .cancelling }
    | _ => none
  | .closed =>
    match s.phase with
    | .closing result => some { s with phase := .responded (respond S result) }
    | _ => none
  | .cancellationDone =>
    match s.phase with
    | .cancelling => some
        { s with
          phase := .responded (respond S (.error .denied))
          ble := s.ble.abort
          udp := s.udp.abort }
    | _ => none
  | .timeout =>
    match s.phase with
    | .responded _ => none
    | _ =>
      if S.deadline ≤ s.now then
        some { s with phase := .responded (respondTimeout S) }
      else none

def session (S : Session) : Machine SessionState Event := ⟨sessionNext P S⟩

/-! ## What a step can do -/

/-- The event is a step of task `k`, from `task` to `task'`. -/
inductive TaskStep (A : AuthParams) (now : Nat) (k : TransportKind) :
    Task → Event → Task → Prop where
  | expired {start sent locals outcome} (h : loopTop (now - start) sent = some outcome) :
      TaskStep A now k (.running start .top locals) (.taskTop k sent) (.returned outcome.result)
  | sent {start sent locals} (h : loopTop (now - start) sent = none) :
      TaskStep A now k (.running start .top locals) (.taskTop k sent)
        (.running start .waiting locals)
  | decided {start received env locals outcome}
      (h : loopReceive P A locals received env = .inr outcome) :
      TaskStep A now k (.running start .waiting locals) (.taskReceive k received env)
        (.returned outcome.result)
  | again {start received env locals locals'}
      (h : loopReceive P A locals received env = .inl locals') :
      TaskStep A now k (.running start .waiting locals) (.taskReceive k received env)
        (.running start .top locals')
  | panic {start point locals} :
      TaskStep A now k (.running start point locals) (.taskPanic k) .panicked

/-- Everything a session can do, by where it stands. -/
inductive SessionStep (S : Session) (s : SessionState) : Event → SessionState → Prop where
  | tick (elapsed : Nat) : SessionStep S s (.tick elapsed) { s with now := s.now + elapsed }
  | bleInitialized (ok : Bool) (hphase : s.phase = .initializing) :
      SessionStep S s (.bleInitialized ok)
        { s with phase := .registering, bleTransport := S.transports.ble && ok }
  | registerFailed (env : Ambient) (error : AuthHandlerError) (hphase : s.phase = .registering) :
      SessionStep S s (.registered env)
        { s with phase := .responded (respond S (.error error)) }
  | spawned (env : Ambient) (hphase : s.phase = .registering) :
      SessionStep S s (.registered env)
        { s with
          phase := .selecting ⟨false, false⟩
          ble := Task.spawn s.bleTransport s.now
          udp := Task.spawn S.transports.network s.now }
  | task (k : TransportKind) {e : Event} {task' : Task}
      (hstep : TaskStep P S.params s.now k (s.task k) e task') :
      SessionStep S s e (s.setTask k task')
  | joinedTerminal (k : TransportKind) {failed : Failed} {result : Except AuthHandlerError Unit}
      (hphase : s.phase = .selecting failed)
      (hjoin : (s.task k).joinResult = some (.terminal result)) :
      SessionStep S s (.joined k) (s.close k result)
  | joinedFailed (k : TransportKind) {failed : Failed} (hphase : s.phase = .selecting failed)
      (hjoin : (s.task k).joinResult = some .failed) :
      SessionStep S s (.joined k) (s.fail S failed k)
  | cancelled {failed : Failed} (hphase : s.phase = .selecting failed) :
      SessionStep S s .cancelled { s with phase := .cancelling }
  | closed {result : Except AuthHandlerError Unit} (hphase : s.phase = .closing result) :
      SessionStep S s .closed { s with phase := .responded (respond S result) }
  | cancellationDone (hphase : s.phase = .cancelling) :
      SessionStep S s .cancellationDone
        { s with
          phase := .responded (respond S (.error .denied))
          ble := s.ble.abort
          udp := s.udp.abort }
  | timeout (hbefore : s.response? = none) (hdue : S.deadline ≤ s.now) :
      SessionStep S s .timeout { s with phase := .responded (respondTimeout S) }

variable {P}

variable {k : TransportKind} {task task' : Task} {A : AuthParams} {now : Nat}

theorem Task.atTop_eq_some {sent : Except TransportError Unit}
    (h : task.atTop now sent = some task') :
    TaskStep P A now k task (.taskTop k sent) task' := by
  rcases task with _ | ⟨start, _ | _, locals⟩ | result | _ | _
  case running.top =>
    simp only [Task.atTop] at h
    cases htop : loopTop (now - start) sent with
    | some outcome =>
      rw [htop] at h
      cases h
      exact .expired htop
    | none =>
      rw [htop] at h
      cases h
      exact .sent htop
  all_goals cases h

theorem Task.receive_eq_some {received : Except TransportError ReceiveResult} {env : Ambient}
    (h : task.receive P A received env = some task') :
    TaskStep P A now k task (.taskReceive k received env) task' := by
  rcases task with _ | ⟨start, _ | _, locals⟩ | result | _ | _
  case running.waiting =>
    simp only [Task.receive] at h
    cases hloop : loopReceive P A locals received env with
    | inr outcome =>
      rw [hloop] at h
      cases h
      exact .decided hloop
    | inl locals' =>
      rw [hloop] at h
      cases h
      exact .again hloop
  all_goals cases h

theorem Task.panic_eq_some (h : task.panic = some task') :
    TaskStep P A now k task (.taskPanic k) task' := by
  cases task with
  | running start point locals => cases h; exact .panic
  | _ => cases h

theorem join_eq_some {S : Session} {s t : SessionState} (h : join S s k = some t) :
    SessionStep P S s (.joined k) t := by
  unfold join at h
  cases hphase : s.phase with
  | selecting failed =>
    simp only [hphase] at h
    split_ifs at h
    rcases hjoin : (s.task k).joinResult with - | (result | -)
    · simp [hjoin] at h
    · rw [hjoin] at h
      cases h
      exact .joinedTerminal k hphase hjoin
    · rw [hjoin] at h
      cases h
      exact .joinedFailed k hphase hjoin
  | _ => simp [hphase] at h

/-- Every step of the machine is one of the listed ones. -/
theorem sessionNext_eq_some {S : Session} {s t : SessionState} {e : Event}
    (h : sessionNext P S s e = some t) : SessionStep P S s e t := by
  cases e with
  | tick elapsed => cases h; exact .tick elapsed
  | bleInitialized ok =>
    cases hphase : s.phase <;>
      simp only [sessionNext, hphase, Option.some.injEq, reduceCtorEq] at h
    subst h
    exact .bleInitialized ok hphase
  | registered env =>
    cases hphase : s.phase <;> simp only [sessionNext, hphase, reduceCtorEq] at h
    cases hcancel : createCancelPacket P S env with
    | error e =>
      rw [hcancel] at h
      cases h
      exact .registerFailed env e hphase
    | ok packet =>
      rw [hcancel] at h
      cases h
      exact .spawned env hphase
  | taskTop k sent =>
    obtain ⟨task', htask, rfl⟩ := Option.map_eq_some_iff.mp h
    exact .task k (Task.atTop_eq_some htask)
  | taskReceive k received env =>
    obtain ⟨task', htask, rfl⟩ := Option.map_eq_some_iff.mp h
    exact .task k (Task.receive_eq_some htask)
  | taskPanic k =>
    obtain ⟨task', htask, rfl⟩ := Option.map_eq_some_iff.mp h
    exact .task k (Task.panic_eq_some htask)
  | joined k => exact join_eq_some h
  | cancelled =>
    cases hphase : s.phase <;>
      simp only [sessionNext, hphase, Option.some.injEq, reduceCtorEq] at h
    subst h
    exact .cancelled hphase
  | closed =>
    cases hphase : s.phase <;>
      simp only [sessionNext, hphase, Option.some.injEq, reduceCtorEq] at h
    subst h
    exact .closed hphase
  | cancellationDone =>
    cases hphase : s.phase <;>
      simp only [sessionNext, hphase, Option.some.injEq, reduceCtorEq] at h
    subst h
    exact .cancellationDone hphase
  | timeout =>
    cases hphase : s.phase with
    | responded response => simp [sessionNext, hphase] at h
    | _ =>
      simp only [sessionNext, hphase] at h
      split_ifs at h with hdue
      cases h
      exact .timeout (by simp [SessionState.response?, hphase]) hdue

variable (P)

/-- What `handle_authenticate` returns when it is offered `events`, `none` while
it still waits. -/
def handleAuthenticate (S : AuthSession) (events : List Event) :
    Option (Except AuthHandlerError PamAuthenticateResponse) :=
  match beginAuthenticate P S with
  | .responded response => some response
  | .running running =>
    (((session P running).feed (.start S.startedAt) events).response?).map .ok

/-- The packets that events deliver to the session's tasks. -/
def deliveredPackets (events : List Event) : List EncryptedPacket :=
  events.filterMap fun
    | .taskReceive _ (.ok (.response packet _)) _ => some packet
    | _ => none

end

end TapAuth.Daemon
