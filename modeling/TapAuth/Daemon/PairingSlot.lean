import TapAuth.Daemon.AdminReload

/-!
# The slot of the pairing session

The daemon has one slot for a pairing session.  `handle_start_pairing` puts a pending
session there, `handle_wait_for_pairing` takes it out, waits for the phone and puts
the active session back, and `handle_complete_pairing` takes that out.  Each holds the
lock only while it looks at the slot; a session that waits for the phone is in no one's
sight.  Two kinds of timeouts empty the slot, each for the generation it was set for.

Here the handlers are cut at their locks and their waits.  Completing a pairing goes on
in `AdminReload` once the session is taken.
-/

namespace TapAuth.Daemon

open Shared

/-! ## The slot -/

inductive PairingPhase where
  | pending
  | active
  deriving DecidableEq

def PairingState.phase : PairingState → PairingPhase
  | .pending _ => .pending
  | .active _ => .active

def PairingState.generation : PairingState → UInt64
  | .pending pairing => pairing.generation
  | .active pairing => pairing.generation

/-- The task that `spawn_pairing_timeout` (of a pending session) and
`spawn_active_pairing_timeout` start. -/
structure PairingTimeout where
  phase : PairingPhase
  generation : UInt64
  deriving DecidableEq

/-- What the task does when its time is up: it empties a slot that holds its session in its
phase. -/
def PairingTimeout.fire (t : PairingTimeout) (slot : Option PairingState) : Option PairingState :=
  if slot.any fun s ↦ s.phase = t.phase ∧ s.generation = t.generation then none else slot

/-- A timeout leaves the slot alone or discards a session of its own generation. -/
theorem PairingTimeout.fire_eq_or (t : PairingTimeout) (slot : Option PairingState) :
    t.fire slot = slot ∨
      t.fire slot = none ∧ ∃ s ∈ slot, s.phase = t.phase ∧ s.generation = t.generation := by
  unfold fire
  cases slot with
  | none => exact .inl rfl
  | some s =>
    split
    next hown => exact .inr ⟨rfl, s, rfl, of_decide_eq_true hown⟩
    · exact .inl rfl

structure PairingSlot where
  slot : Option PairingState
  /-- `PAIRING_GENERATION`. -/
  nextGeneration : UInt64
  /-- The timeouts that were started and have not yet run. -/
  timeouts : List PairingTimeout

/-- The port that a request names, if any, has to be that of the session. -/
def checkPort (expected : UInt16) (port : UInt32) : Except AdminResponse Unit :=
  if port ≠ 0 ∧ port ≠ expected.toUInt32 then
    .error (errResp .error ("Port mismatch: expected " ++ toString expected.toNat ++ ", got " ++
      toString port.toNat))
  else .ok ()

/-- The slot when `handle_wait_for_pairing` holds the lock. -/
def takePending (slot : Option PairingState) (port : UInt32) :
    Except AdminResponse PendingPairing :=
  match slot with
  | some (.pending pending) => (checkPort pending.port port).map fun _ ↦ pending
  | some (.active _) => .error (errResp .error "Pairing already in active phase")
  | none => .error (errResp .error "No pending pairing session")

/-- The slot when `handle_complete_pairing` holds the lock. -/
def takeActive (slot : Option PairingState) (port : UInt32) :
    Except AdminResponse ActivePairing :=
  match slot with
  | some (.active active) => (checkPort active.port port).map fun _ ↦ active
  | some (.pending _) =>
    .error (errResp .error "Pairing still pending, wait for connection first")
  | none => .error (errResp .error "No active pairing session")

theorem takePending_eq_ok {slot : Option PairingState} {port : UInt32} {pending : PendingPairing}
    (h : takePending slot port = .ok pending) : slot = some (.pending pending) := by
  unfold takePending at h
  split at h
  next pending' =>
    cases hport : checkPort pending'.port port with
    | error response => simp [hport, Except.map] at h
    | ok _ =>
      simp only [hport, Except.map, Except.ok.injEq] at h
      rw [h]
  · cases h
  · cases h

/-- The handler of `Admin` takes the active session in the same way. -/
theorem handleCompletePairing_eq (P : Primitives) (d : Disk) (slot : Option PairingState)
    (username : String) (port : UInt32) (io : CompletionIo) :
    handleCompletePairing P d slot username port io =
      match takeActive slot port with
      | .error response => (response, d, slot)
      | .ok active =>
        ((completePairing P d active username io).1, (completePairing P d active username io).2,
          none) := by
  rcases slot with _ | (pending | active)
  · rfl
  · rfl
  · simp only [handleCompletePairing, takeActive, checkPort]
    by_cases hport : port ≠ 0 ∧ port ≠ active.port.toUInt32
    · rw [if_pos hport, if_pos hport]
      rfl
    · rw [if_neg hport, if_neg hport]
      rfl

/-! ## The handlers -/

def generatePairingUrl (publicKeyHex : String) (port : UInt16) (ipv4 ipv6 : Option String) :
    String :=
  "tapauth://pair?v=1&pk=" ++ publicKeyHex ++ "&p=" ++ toString port.toNat ++
    ipv4.elim "" ("&ip4=" ++ ·) ++ ipv6.elim "" ("&ip6=" ++ ·)

/-- What the surroundings of `handle_start_pairing` answer once it has the key pair. -/
structure ListenIo where
  ipv4 : Option String
  ipv6 : Option String
  bindListener : Except String Unit
  localPort : Except String UInt16
  firewall : Except String Unit
  x25519Keypair : Except CryptoError X25519KeyPair

/-- The listener, the firewall rule and the session of a new pairing. -/
def listen (P : Primitives) (keypair : Ed25519KeyPair) (generation : UInt64) (io : ListenIo) :
    Except AdminResponse PendingPairing := do
  io.bindListener.mapError fun e ↦ errResp .error ("Failed to bind TCP listener: " ++ e)
  let port ← io.localPort.mapError fun e ↦ errResp .error ("Failed to get port: " ++ e)
  io.firewall.mapError fun e ↦ errResp .error ("Firewall error: " ++ e)
  let x25519Keypair ← io.x25519Keypair.mapError fun e ↦
    errResp .error ("Session creation failed: " ++ e.display)
  let session := ClientPairingSession.new x25519Keypair keypair
  let url := generatePairingUrl (hexEncode (x25519Keypair.publicKeyBytes P).bytes) port
    io.ipv4 io.ipv6
  return ⟨session, url, port, generation⟩

/-- Where a handler stands. -/
inductive PairingThread where
  | loadingKeypair
  | generatingKeypair
  | preparing (keypair : Ed25519KeyPair)
  /-- Waiting for the lock with a session that is to go into the slot. -/
  | installing (pending : PendingPairing)
  | spawning (timeout : PairingTimeout) (response : AdminResponse)
  | lockingPending (port : UInt32)
  | accepting (pending : PendingPairing)
  | handshaking (pending : PendingPairing)
  | activating (active : ActivePairing) (sas : String)
  | lockingActive (port : UInt32) (username : String)
  | taken (job : PairingJob)
  | finished (response : AdminResponse)

inductive AcceptError where
  | io (text : String)
  | timeout

inductive PairingEvent where
  | loadKeypair (result : Except ConfigError Ed25519KeyPair)
  | generateKeypair (result : Except ConfigError Ed25519KeyPair)
  | listen (io : ListenIo)
  | lock
  | accept (result : Except AcceptError Unit)
  /-- The phone's `PairingHello`, and the host's name if it can be told. -/
  | handshake (frame : Frame) (hostname : Option String)
  | spawn

/-- The answer to a connection that did not come. -/
def acceptFailed : AcceptError → AdminResponse
  | .io text => errResp .error ("Accept error: " ++ text)
  | .timeout => errResp .error "Timeout waiting for connection"

def activePairing (pending : PendingPairing) (initiated : ClientPairingSession.Initiated) :
    ActivePairing where
  session := initiated.session
  serverPublicKey := initiated.serverEd25519Public
  serverDeviceName := initiated.serverDeviceName
  port := pending.port
  generation := pending.generation

/-- One step of a handler. -/
def pairingStep (P : Primitives) (s : PairingSlot) :
    PairingThread → PairingEvent → Option (PairingSlot × PairingThread)
  | .loadingKeypair, .loadKeypair result =>
    match result with
    | .ok keypair => some (s, .preparing keypair)
    | .error .invalidConfig => some (s, .generatingKeypair)
    | .error e => some (s, .finished (errResp .error ("Failed to load keypair: " ++ e.display)))
  | .generatingKeypair, .generateKeypair result =>
    match result with
    | .ok keypair => some (s, .preparing keypair)
    | .error e =>
      some (s, .finished (errResp .error ("Keypair generation failed: " ++ e.display)))
  | .preparing keypair, .listen io =>
    match listen P keypair s.nextGeneration io with
    | .error response => some (s, .finished response)
    | .ok pending =>
      some ({ s with nextGeneration := s.nextGeneration + 1 }, .installing pending)
  | .installing pending, .lock =>
    if s.slot.isSome then
      some (s, .finished (errResp .error
        "A pairing session is already in progress. Cancel or complete it first."))
    else
      some ({ s with slot := some (.pending pending) },
        .spawning ⟨.pending, pending.generation⟩
          ⟨.success, "", some (.startPairing pending.url pending.port.toUInt32)⟩)
  | .lockingPending port, .lock =>
    match takePending s.slot port with
    | .error response => some (s, .finished response)
    | .ok pending => some ({ s with slot := none }, .accepting pending)
  | .accepting pending, .accept result =>
    match result with
    | .ok () => some (s, .handshaking pending)
    | .error e => some (s, .finished (acceptFailed e))
  | .handshaking pending, .handshake frame hostname =>
    match pending.session.initiatePairing P frame (hostname.getD "Unknown") with
    | .ok initiated =>
      some (s, .activating (activePairing pending initiated) (formatSas initiated.sas))
    | .error e =>
      some (s, .finished (errResp .error ("Pairing initiation failed: " ++ e.display)))
  | .activating active sas, .lock =>
    if s.slot.isSome then
      some (s, .finished (errResp .error "Pairing session was superseded by a newer request"))
    else
      some ({ s with slot := some (.active active) },
        .spawning ⟨.active, active.generation⟩
          ⟨.success, "", some (.waitForPairing sas active.port.toUInt32)⟩)
  | .lockingActive port username, .lock =>
    match takeActive s.slot port with
    | .error response => some (s, .finished response)
    | .ok active => some ({ s with slot := none }, .taken ⟨active, username⟩)
  | .spawning timeout response, .spawn =>
    some ({ s with timeouts := timeout :: s.timeouts }, .finished response)
  | _, _ => none

end TapAuth.Daemon
