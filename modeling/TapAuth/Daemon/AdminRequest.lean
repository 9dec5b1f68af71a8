import TapAuth.Daemon.PairingSlot

/-!
# Administrative requests, from the socket to the answer

`handle_admin_request` takes a snapshot of the daemon's state, finds out who the
peer is, asks PolKit and only then looks at what is requested.  Here any number of
requests of any kind, and the timeouts of the pairing sessions, interleave over the
state directory, the pairing slot and the daemon's state.

A request keeps what PolKit has answered about it.  `unchanged_unless_granted` says
that a request nobody granted changes nothing and is answered with an error, in every
run.

The files of the key pair and of the configuration are byte strings that a write leaves
in an arbitrary state.
-/

namespace TapAuth.Daemon

open Shared

/-- What is requested. -/
inductive RequestPayload where
  | getServers
  | startPairing
  | waitForPairing (port : UInt32)
  | completePairing (port : UInt32)
  | removeDevice (publicKey : String)
  | rotateCsk
  | saveConfig (request : SaveConfigRequest)
  | recoverTpm
  | getConfig
  | getDaemonStatus

/-- A request as it comes from the socket, with the snapshot it works on. -/
structure AdminCall where
  daemon : DaemonState
  payload : Option RequestPayload
  pid : Int32
  uid : UInt32

/-- The files that are no part of `Disk`. -/
structure OtherFiles where
  clientKey : Option Bytes
  tpmPublic : Option Bytes
  tpmPrivate : Option Bytes
  clientConfig : Option Bytes
  configToml : Option Bytes

structure AdminWorld where
  reload : ReloadState
  pairing : PairingSlot
  files : OtherFiles

/-- The configuration as `handle_get_config` reads it. -/
structure ConfigReading where
  hostname : String
  udpPort : UInt16
  enableBle : Bool
  enableNetwork : Bool

inductive Stage where
  | resolving
  | authorizing (identity : PeerIdentity)
  | gettingServers (username : String)
  | gettingConfig
  | gettingDaemonStatus
  | pairing (l : PairingThread)
  | reloading (l : AdminThread)
  | finished (response : AdminResponse)

/-- A task of the daemon: one that has nothing to do yet, a timeout, or a request with what
PolKit has answered so far. -/
inductive RequestThread where
  | idle
  | sleeping (timeout : PairingTimeout)
  | timedOut
  | request (call : AdminCall) (reply : Option PolkitReply) (stage : Stage)

inductive RequestEvent where
  | receive (payload : Option RequestPayload) (pid : Int32) (uid : UInt32)
  | resolve (user : Except String (Option String)) (stat : Except String String)
  | polkit (reply : PolkitReply)
  | loadServers (fault : Option IoFault)
  | readConfig (config : ConfigReading)
  | readStatus
  /-- With what the files are like after a step that writes one of them. -/
  | pairing (event : PairingEvent) (left : OtherFiles)
  | reload (event : ReloadEvent) (left : OtherFiles)
  /-- The task of a timeout begins to sleep. -/
  | sleep (timeout : PairingTimeout)
  | elapse

def getServersResponse (username : String) : Except ConfigError ServerMap → AdminResponse
  | .error e => errResp .error ("Failed to load servers: " ++ e.display)
  | .ok servers =>
    ⟨.success, "", some (.getServers
      ((servers.entries.filter fun entry ↦ entry.2.isUserAllowed username).map fun entry ↦
        ⟨entry.2.name, entry.1, entry.2.allowedUsers, entry.2.pairedAt⟩))⟩

def getConfigResponse (config : ConfigReading) : AdminResponse :=
  ⟨.success, "", some (.getConfig config.hostname config.udpPort.toUInt32 config.enableBle
    config.enableNetwork)⟩

/-- `handle_get_daemon_status`; `tpm` is a feature of the build. -/
def getDaemonStatusResponse (tpm : Bool) (daemon : DaemonState) : AdminResponse :=
  ⟨.success, "", some (.getDaemonStatus tpm
    (if tpm ∧ daemon.keypair.isNone then daemon.initError.getD "TPM key unseal failed" else ""))⟩

namespace Stage

/-- A reload that is done has its answer. -/
def ofReload : AdminThread → Stage
  | .finished answer => .finished answer.response
  | l => .reloading l

def startReload (tpm : Bool) (daemon : DaemonState) (request : ReloadRequest) : Stage :=
  .reloading (AdminThread.start tpm daemon request)

/-- A handler of the slot that is done; completing a pairing goes on with its session, and
reloads whatever became of it. -/
def ofPairing (tpm : Bool) (call : AdminCall) : PairingThread → Stage
  | .taken job => startReload tpm call.daemon (.completePairing (.ok job))
  | .finished response =>
    match call.payload with
    | some (.completePairing _) =>
      startReload tpm call.daemon (.completePairing (.error response))
    | _ => .finished response
  | l => .pairing l

/-- The arms of `handle_admin_request`. -/
def dispatch (tpm : Bool) (call : AdminCall) (username : String) : Stage :=
  match call.payload with
  | some .getServers => .gettingServers username
  | some .startPairing => .pairing .loadingKeypair
  | some (.waitForPairing port) => .pairing (.lockingPending port)
  | some (.completePairing port) => .pairing (.lockingActive port username)
  | some (.removeDevice publicKey) => startReload tpm call.daemon (.removeDevice publicKey username)
  | some .rotateCsk => startReload tpm call.daemon .rotateCsk
  | some (.saveConfig request) => startReload tpm call.daemon (.saveConfig request)
  | some .recoverTpm => startReload tpm call.daemon .recoverTpm
  | some .getConfig => .gettingConfig
  | some .getDaemonStatus => .gettingDaemonStatus
  | none => .finished (errResp .error "Empty admin request")

end Stage

/-- The next step of a reloading request writes one of the other files. -/
def AdminThread.writesFiles : AdminThread → Bool
  | .savingToml _ | .savingClientConfig _ => true
  | .recovering _ .removingKeyFiles | .recovering _ .generatingKeypair => true
  | _ => false

def PairingThread.writesFiles : PairingThread → Bool
  | .generatingKeypair => true
  | _ => false

section

variable (P : Primitives) (tpm : Bool)

/-- One step of a request, with what PolKit answers in it. -/
def stageStep (s : AdminWorld) (call : AdminCall) :
    Stage → RequestEvent → Option (AdminWorld × Option PolkitReply × Stage)
  | .resolving, .resolve user stat =>
    match resolvePeer call.pid call.uid user stat with
    | .error e => some (s, none, .finished (errResp .error e.display))
    | .ok identity => some (s, none, .authorizing identity)
  | .authorizing identity, .polkit reply =>
    match checkAuthorization identity reply with
    | .error e => some (s, some reply, .finished (errResp .unauthorized e.display))
    | .ok () => some (s, some reply, .dispatch tpm call identity.username)
  | .gettingServers username, .loadServers fault =>
    some (s, none,
      .finished (getServersResponse username (s.reload.disk.loadPairedServers fault)))
  | .gettingConfig, .readConfig config => some (s, none, .finished (getConfigResponse config))
  | .gettingDaemonStatus, .readStatus =>
    some (s, none, .finished (getDaemonStatusResponse tpm call.daemon))
  | .pairing l, .pairing event left =>
    (pairingStep P s.pairing l event).map fun moved ↦
      ({ s with pairing := moved.1, files := if l.writesFiles then left else s.files }, none,
        .ofPairing tpm call moved.2)
  | .reloading l, .reload event left =>
    (adminStep P tpm s.reload l event).map fun moved ↦
      ({ s with reload := moved.1, files := if l.writesFiles then left else s.files }, none,
        .ofReload moved.2)
  | _, _ => none

/-- One step of a task. -/
def requestStep (s : AdminWorld) :
    RequestThread → RequestEvent → Option (AdminWorld × RequestThread)
  | .idle, .receive payload pid uid =>
    some (s, .request ⟨s.reload.daemon, payload, pid, uid⟩ none .resolving)
  | .idle, .sleep timeout =>
    if timeout ∈ s.pairing.timeouts then
      some ({ s with pairing := { s.pairing with timeouts := s.pairing.timeouts.erase timeout } },
        .sleeping timeout)
    else none
  | .sleeping timeout, .elapse =>
    some ({ s with pairing := { s.pairing with slot := timeout.fire s.pairing.slot } }, .timedOut)
  | .request call reply stage, event =>
    (stageStep P tpm s call stage event).map fun moved ↦
      (moved.1, .request call (moved.2.1.or reply) moved.2.2)
  | _, _ => none

def adminRequests : Threads AdminWorld RequestThread RequestEvent where
  step := requestStep P tpm

end

/-! ## The gate -/

/-- PolKit has answered, and its answer lets the caller through. -/
def AdminCall.Granted (call : AdminCall) (reply : Option PolkitReply) : Prop :=
  ∃ answer, reply = some answer ∧ answer.Grants call.uid

/-- What holds of a request at each of its stages: beyond the authorization it is granted,
and an answer that is no error is given to a granted one only. -/
def Stage.Gated (call : AdminCall) (reply : Option PolkitReply) : Stage → Prop
  | .resolving => True
  | .authorizing identity => identity.uid = call.uid
  | .finished response => response.status ≠ .success ∨ call.Granted reply
  | _ => call.Granted reply

section

variable {P : Primitives} {tpm : Bool} {s t : AdminWorld} {call : AdminCall}
  {reply reply' : Option PolkitReply} {stage stage' : Stage} {event : RequestEvent}

theorem Stage.gated_of_granted (h : call.Granted reply) (stage : Stage)
    (hstage : ∀ identity, stage ≠ .authorizing identity) : stage.Gated call reply := by
  cases stage with
  | resolving => trivial
  | authorizing identity => exact absurd rfl (hstage identity)
  | finished response => exact .inr h
  | _ => exact h

theorem Stage.ofReload_ne_authorizing (l : AdminThread) (identity : PeerIdentity) :
    Stage.ofReload l ≠ .authorizing identity := by
  cases l <;> exact nofun

theorem Stage.ofPairing_ne_authorizing (l : PairingThread) (identity : PeerIdentity) :
    Stage.ofPairing tpm call l ≠ .authorizing identity := by
  cases l with
  | finished response =>
    unfold ofPairing
    dsimp only
    split <;> exact nofun
  | _ => exact nofun

theorem Stage.dispatch_ne_authorizing (username : String) (identity : PeerIdentity) :
    Stage.dispatch tpm call username ≠ .authorizing identity := by
  unfold dispatch
  split <;> exact nofun

theorem stageStep_resolving
    (h : stageStep P tpm s call .resolving event = some (t, reply', stage')) :
    stage'.Gated call (reply'.or reply) ∧ t = s := by
  cases event with
  | resolve user stat =>
    cases hpeer : resolvePeer call.pid call.uid user stat with
    | error e =>
      simp only [stageStep, hpeer, Option.some.injEq, Prod.mk.injEq] at h
      obtain ⟨rfl, rfl, rfl⟩ := h
      exact ⟨.inl nofun, rfl⟩
    | ok identity =>
      simp only [stageStep, hpeer, Option.some.injEq, Prod.mk.injEq] at h
      obtain ⟨rfl, rfl, rfl⟩ := h
      exact ⟨resolvePeer_uid hpeer, rfl⟩
  | _ => cases h

/-- Only PolKit's answer lets a request past the authorization. -/
theorem stageStep_authorizing {identity : PeerIdentity} (huid : identity.uid = call.uid)
    (h : stageStep P tpm s call (.authorizing identity) event = some (t, reply', stage')) :
    stage'.Gated call (reply'.or reply) ∧ t = s := by
  cases event with
  | polkit answer =>
    cases hcheck : checkAuthorization identity answer with
    | error e =>
      simp only [stageStep, hcheck, Option.some.injEq, Prod.mk.injEq] at h
      obtain ⟨rfl, rfl, rfl⟩ := h
      exact ⟨.inl nofun, rfl⟩
    | ok _ =>
      simp only [stageStep, hcheck, Option.some.injEq, Prod.mk.injEq] at h
      obtain ⟨rfl, rfl, rfl⟩ := h
      have hgrants := checkAuthorization_eq_ok_iff.mp hcheck
      rw [huid] at hgrants
      exact ⟨Stage.gated_of_granted ⟨answer, rfl, hgrants⟩ _
        (Stage.dispatch_ne_authorizing _), rfl⟩
  | _ => cases h

/-- A step of a request keeps the gate, and changes the state for a granted one only. -/
theorem stageStep_gated (hgated : stage.Gated call reply)
    (h : stageStep P tpm s call stage event = some (t, reply', stage')) :
    stage'.Gated call (reply'.or reply) ∧ (t = s ∨ call.Granted reply) := by
  cases stage with
  | resolving => exact (stageStep_resolving h).imp_right .inl
  | authorizing identity => exact (stageStep_authorizing hgated h).imp_right .inl
  | gettingServers username =>
    cases event with
    | loadServers fault =>
      cases h
      exact ⟨.inr hgated, .inr hgated⟩
    | _ => cases h
  | gettingConfig =>
    cases event with
    | readConfig config =>
      cases h
      exact ⟨.inr hgated, .inr hgated⟩
    | _ => cases h
  | gettingDaemonStatus =>
    cases event with
    | readStatus =>
      cases h
      exact ⟨.inr hgated, .inr hgated⟩
    | _ => cases h
  | pairing l =>
    cases event with
    | pairing event left =>
      obtain ⟨moved, -, hmoved⟩ := Option.map_eq_some_iff.mp h
      cases hmoved
      exact ⟨Stage.gated_of_granted hgated _ (Stage.ofPairing_ne_authorizing _), .inr hgated⟩
    | _ => cases h
  | reloading l =>
    cases event with
    | reload event left =>
      obtain ⟨moved, -, hmoved⟩ := Option.map_eq_some_iff.mp h
      cases hmoved
      exact ⟨Stage.gated_of_granted hgated _ (Stage.ofReload_ne_authorizing _), .inr hgated⟩
    | _ => cases h
  | finished response => cases event <;> cases h

def RequestThread.Gated : RequestThread → Prop
  | .request call reply stage => stage.Gated call reply
  | _ => True

theorem requestStep_gated {l l' : RequestThread} (hgated : l.Gated)
    (h : requestStep P tpm s l event = some (t, l')) : l'.Gated := by
  cases l with
  | idle =>
    cases event with
    | receive payload pid uid =>
      cases h
      trivial
    | sleep timeout =>
      simp only [requestStep] at h
      split at h
      · cases h
        trivial
      · cases h
    | _ => cases h
  | sleeping timeout =>
    cases event with
    | elapse =>
      cases h
      trivial
    | _ => cases h
  | timedOut => cases event <;> cases h
  | request call reply stage =>
    obtain ⟨⟨t', reply', stage'⟩, hstep, hmoved⟩ := Option.map_eq_some_iff.mp h
    cases hmoved
    exact (stageStep_gated hgated hstep).1

end

section

variable (P : Primitives) (tpm : Bool) {ι : Type*} [DecidableEq ι]
  {p q : Pool ι AdminWorld RequestThread} {labels : List (ι × RequestEvent)}

/-- In every run the requests stay behind the gate. -/
theorem gated_of_exec (hp : ∀ i, (p.locals i).Gated)
    (hrun : (adminRequests P tpm).pool.exec p labels = some q) (i : ι) : (q.locals i).Gated := by
  refine (adminRequests P tpm).pool.invariant (I := fun p ↦ ∀ i, (p.locals i).Gated) ?_ hp hrun i
  rintro p ⟨j, event⟩ q hp hnext i
  obtain ⟨hstep, hothers⟩ := (adminRequests P tpm).step_of_pool_next hnext
  by_cases hij : i = j
  · subst hij
    exact requestStep_gated (hp i) hstep
  · rw [hothers i hij]
    exact hp i

/-- A request alone. -/
theorem solo_next_request {s t : AdminWorld} {call : AdminCall} (reply : Option PolkitReply)
    {reply' : Option PolkitReply} {stage stage' : Stage} {event : RequestEvent}
    (h : stageStep P tpm s call stage event = some (t, reply', stage')) :
    (adminRequests P tpm).solo.next (s, .request call reply stage) event =
      some (t, .request call (reply'.or reply) stage') :=
  Option.map_eq_some_iff.mpr ⟨(t, reply', stage'), h, rfl⟩

/-- A request that is not granted is answered with an error as soon as it is known who sent it
and what PolKit says. -/
theorem feed_of_not_grants (s : AdminWorld) (call : AdminCall)
    (user : Except String (Option String)) (stat : Except String String) {answer : PolkitReply}
    (h : ¬ answer.Grants call.uid) :
    ∃ reply response, response.status ≠ .success ∧
      (adminRequests P tpm).solo.feed (s, .request call none .resolving)
          [.resolve user stat, .polkit answer] =
        (s, .request call reply (.finished response)) := by
  cases hpeer : resolvePeer call.pid call.uid user stat with
  | error e =>
    have hrefused : stageStep P tpm s call .resolving (.resolve user stat) =
        some (s, none, .finished (errResp .error e.display)) := by
      simp only [stageStep, hpeer]
    refine ⟨none, errResp .error e.display, nofun, ?_⟩
    rw [Machine.feed_cons, solo_next_request P tpm none hrefused]
    rfl
  | ok identity =>
    rw [← resolvePeer_uid hpeer, ← checkAuthorization_eq_ok_iff] at h
    cases hcheck : checkAuthorization identity answer with
    | ok _ => exact absurd hcheck h
    | error e =>
      have hresolved : stageStep P tpm s call .resolving (.resolve user stat) =
          some (s, none, .authorizing identity) := by
        simp only [stageStep, hpeer]
      have hrefused : stageStep P tpm s call (.authorizing identity) (.polkit answer) =
          some (s, some answer, .finished (errResp .unauthorized e.display)) := by
        simp only [stageStep, hcheck]
      refine ⟨some answer, errResp .unauthorized e.display, nofun, ?_⟩
      rw [Machine.feed_cons, solo_next_request P tpm none hresolved]
      change (adminRequests P tpm).solo.feed (s, .request call none (.authorizing identity))
        [.polkit answer] = _
      rw [Machine.feed_cons, solo_next_request P tpm none hrefused]
      rfl

/-- **The gate.**  However the requests of a daemon interleave: a step of a request changes
the state directory, the configuration, the pairing slot or the daemon's state only if PolKit
has said yes to its caller, or could not be asked and the caller is root; any other caller who
is answered is answered with an error, and is answered. -/
theorem unchanged_unless_granted (hp : ∀ i, p.locals i = .idle)
    (hrun : (adminRequests P tpm).pool.exec p labels = some q) {i : ι} {call : AdminCall}
    {reply : Option PolkitReply} {stage : Stage} (hi : q.locals i = .request call reply stage) :
    (∀ event r, (adminRequests P tpm).pool.next q (i, event) = some r →
      r.shared = q.shared ∨ call.Granted reply) ∧
    (∀ response, stage = .finished response →
      response.status ≠ .success ∨ call.Granted reply) ∧
    (reply = none → stage = .resolving → ∀ user stat answer, ¬ answer.Grants call.uid →
      ∃ reply' response, response.status ≠ .success ∧
        (adminRequests P tpm).pool.feed q [(i, .resolve user stat), (i, .polkit answer)] =
          ⟨q.shared,
            Function.update q.locals i (.request call reply' (.finished response))⟩) := by
  have hgated : (q.locals i).Gated :=
    gated_of_exec P tpm (fun j ↦ by rw [hp j]; trivial) hrun i
  rw [hi] at hgated
  refine ⟨fun event r hnext ↦ ?_, ?_, ?_⟩
  · have hstep := ((adminRequests P tpm).step_of_pool_next hnext).1
    rw [hi] at hstep
    obtain ⟨⟨t, reply', stage'⟩, hstage, hmoved⟩ := Option.map_eq_some_iff.mp hstep
    have ht : t = r.shared := congrArg Prod.fst hmoved
    rw [← ht]
    exact (stageStep_gated hgated hstage).2
  · rintro response rfl
    exact hgated
  · rintro rfl rfl user stat answer hanswer
    obtain ⟨reply', response, herror, hfeed⟩ :=
      feed_of_not_grants P tpm q.shared call user stat hanswer
    refine ⟨reply', response, herror, ?_⟩
    have hpool := (adminRequests P tpm).pool_feed q i [.resolve user stat, .polkit answer]
    rw [hi, hfeed] at hpool
    exact hpool

end

namespace RequestSample

def world : AdminWorld where
  reload := ReloadSample.loaded ReloadSample.ownServers
  pairing := ⟨none, 0, []⟩
  files := ⟨none, none, none, none, none⟩

def start : Pool Bool AdminWorld RequestThread := ⟨world, fun _ ↦ .idle⟩

/-- A process of user `uid` asks for something. -/
def ask (uid : UInt32) (payload : RequestPayload) : RequestEvent := .receive (some payload) 41 uid

/-- The user database and `/proc` know the caller. -/
def resolved : RequestEvent :=
  .resolve (.ok (some "alice"))
    (.ok "41 (tapauth (gui)) S 1 41 41 0 -1 4194304 0 0 0 0 0 0 0 0 20 0 1 0 8721 0")

def states (labels : List (Bool × RequestEvent)) : Option (Pool Bool AdminWorld RequestThread) :=
  (adminRequests Sample.primitives false).pool.exec start labels

def statusOf : RequestThread → Option AdminStatus
  | .request _ _ (.finished response) => some response.status
  | _ => none

end RequestSample

open RequestSample

/-- PolKit's "not found" lets root through but not alice, who asks for a rotation. -/
theorem unchanged_unless_granted_sample :
    ∃ q call reply stage, states [(true, ask 1000 .rotateCsk),
        (true, resolved), (true, .polkit (.callFailed "Method NOT FOUND"))] =
        some q ∧ q.locals true = .request call reply stage ∧
      (∀ event r, (adminRequests Sample.primitives false).pool.next q (true, event) = some r →
        r.shared = q.shared ∨ call.Granted reply) := by
  have hfinal : (states [(true, ask 1000 .rotateCsk),
      (true, resolved), (true, .polkit (.callFailed "Method NOT FOUND"))]).map
        (fun q ↦ decide (statusOf (q.locals true) = some .unauthorized)) =
      some true := by decide +kernel
  obtain ⟨q, hq, hend⟩ := Option.map_eq_some_iff.mp hfinal
  have hstatus := of_decide_eq_true hend
  cases hi : q.locals true with
  | request call reply stage =>
    exact ⟨q, call, reply, stage, hq, hi,
      (unchanged_unless_granted Sample.primitives false (fun _ ↦ rfl) hq hi).1⟩
  | _ =>
    rw [hi] at hstatus
    cases hstatus

end TapAuth.Daemon
