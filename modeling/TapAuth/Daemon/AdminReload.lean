import Mathlib.Data.Fintype.Basic
import TapAuth.Daemon.AdminInterleaving
import TapAuth.Daemon.Authorization
import TapAuth.Daemon.PeerIdentity

/-!
# Reloading the daemon's state

An admin request works on a snapshot of the daemon's state.  When its handler has
answered, `reload` reads the state directory once more and the result replaces the
daemon's state, which new authentications use.  Only that last step takes the write
lock.

Here the requests that reload are cut at their accesses to the state directory, the
reads of the reload and the replacement; the handlers of pairings and rotations are those
of `AdminInterleaving`.  `daemon_agrees_of_unraced` is what holds of the outcome: memory
and disk agree when all requests have finished, and a phone whose removal was answered
with success does not authenticate its user, provided that no request writes the directory
while another holds what it has read there, and that the phone had no other user.

The key file, the TOML file and the client configuration are not part of the model: an
access to them is a step with an arbitrary result.  A request that is refused before its
handler runs neither writes nor reloads and is left out.
-/

namespace TapAuth.Daemon

open Shared Disk

structure SaveConfigRequest where
  udpPort : UInt32
  hostname : String
  enableBle : Option Bool
  enableNetwork : Option Bool

/-- The checks of `handle_save_config`, before it touches a file. -/
def SaveConfigRequest.check (request : SaveConfigRequest) : Except AdminResponse Unit :=
  if request.udpPort = 0 ∨ 65535 < request.udpPort then
    .error (errResp .error "Invalid UDP port: must be 1-65535")
  else if request.hostname.toList.all isWhitespace then
    .error (errResp .error "Hostname must not be empty")
  else .ok ()

def removeDeviceFailed (e : ConfigError) : AdminResponse :=
  errResp .error ("Failed to remove device: " ++ e.display)

def saveTomlFailed (text : String) : AdminResponse :=
  errResp .error ("Failed to save TOML config: " ++ text)

def saveClientConfigFailed (e : ConfigError) : AdminResponse :=
  errResp .error ("Failed to save client config: " ++ e.display)

def recoverTpmFailed (e : ConfigError) : AdminResponse :=
  errResp .error ("TPM recovery failed: " ++ e.display)

/-- The requests after which the state is reloaded. -/
inductive ReloadRequest where
  /-- With what the slot of the pairings gave. -/
  | completePairing (taken : Except AdminResponse PairingJob)
  | rotateCsk
  | removeDevice (publicKey username : String)
  | saveConfig (request : SaveConfigRequest)
  | recoverTpm

/-- The phone and the user of a removal that succeeded, and how often that phone had been
stored by then. -/
structure Removal where
  publicKey : String
  username : String
  pairings : Nat

/-- What a request answers.  The removal is not part of the message. -/
structure Answer where
  response : AdminResponse
  removed : Option Removal

/-- Where `recover_from_tpm_failure` stands. -/
inductive Recovery where
  | removingKeyFiles
  | clearing
  | generatingKeypair
  | clearingAgain
  | savingFreshCsk

/-- Where `reload` stands, with what it has read. -/
inductive ReloadPoint where
  | keypair
  | csk (keypair : Option Ed25519KeyPair)
  | servers (keypair : Option Ed25519KeyPair) (csk : Option ClientSymmetricKey)
  | config (keypair : Option Ed25519KeyPair) (csk : Option ClientSymmetricKey)
      (servers : ServerMap)

/-- Where a request stands, with the snapshot it began with. -/
inductive AdminThread where
  | idle
  | handling (daemon : DaemonState) (handler : Handler)
  | removing (daemon : DaemonState) (publicKey username : String)
  /-- With the map that is to be saved. -/
  | savingRemoval (daemon : DaemonState) (publicKey username : String) (edited : ServerMap)
  | savingToml (daemon : DaemonState)
  | savingClientConfig (daemon : DaemonState)
  | recovering (daemon : DaemonState) (stage : Recovery)
  | reloading (daemon : DaemonState) (answer : Answer) (point : ReloadPoint)
  | installing (reloaded : DaemonState) (answer : Answer)
  | finished (answer : Answer)

/-- The steps of the requests, with what the surroundings answer. -/
inductive ReloadEvent where
  | receive (request : ReloadRequest)
  | handler (event : AdminEvent)
  | loadServers (fault : Option IoFault)
  | saveServers (fault : Option WriteFault)
  | saveToml (result : Except String Unit)
  /-- A write to the client configuration or to the key files. -/
  | writeOther (result : Except ConfigError Unit)
  | clearServers (fault : Option IoFault)
  | saveFreshCsk (fresh : Option ClientSymmetricKey) (fault : Option WriteFault)
  | loadKeypair (result : Except ConfigError Ed25519KeyPair)
  | loadCsk (fault : Option IoFault)
  | loadConfig (hostname : Except ConfigError String)
  | install

/-- The state directory and the state that new connections use. -/
structure ReloadState where
  admin : AdminState
  daemon : DaemonState
  /-- How often a pairing has stored a phone. -/
  pairings : String → Nat

namespace ReloadState

def disk (s : ReloadState) : Disk := s.admin.disk

def withAdmin (s : ReloadState) (admin : AdminState) : ReloadState := { s with admin }

def withDisk (s : ReloadState) (disk : Disk) : ReloadState :=
  s.withAdmin { s.admin with disk }

@[simp] theorem disk_withDisk (s : ReloadState) (d : Disk) : (s.withDisk d).disk = d := rfl

end ReloadState

/-- What `reload` makes of its reads. -/
def DaemonState.reloaded (keypair : Option Ed25519KeyPair) (csk : Option ClientSymmetricKey)
    (servers : ServerMap) (hostname : String) : DaemonState where
  pairedServers := servers
  keypair := keypair
  csk := csk
  hostname := hostname
  initError :=
    if keypair.isSome ∧ csk.isSome then none
    else
      let missing := (if keypair.isNone then ["Keypair"] else []) ++
        (if csk.isNone then ["CSK"] else [])
      some (" and ".intercalate missing ++
        " unavailable after reload. Use tapauth-config to regenerate keys.")

namespace AdminThread

/-- The handler has answered, and the reload begins. -/
def answered (daemon : DaemonState) (response : AdminResponse) : AdminThread :=
  .reloading daemon ⟨response, none⟩ .keypair

def removed (daemon : DaemonState) (removal : Removal) : AdminThread :=
  .reloading daemon ⟨emptySuccess, some removal⟩ .keypair

/-- The first wait of a request, by its kind; `tpm` is a feature of the build. -/
def start (tpm : Bool) (daemon : DaemonState) : ReloadRequest → AdminThread
  | .completePairing (.ok job) => .handling daemon (.loadingCsk job)
  | .completePairing (.error response) => answered daemon response
  | .rotateCsk => .handling daemon .clearingServers
  | .removeDevice publicKey username => .removing daemon publicKey username
  | .saveConfig request =>
    match request.check with
    | .ok () => .savingToml daemon
    | .error response => answered daemon response
  | .recoverTpm =>
    if tpm then .recovering daemon .removingKeyFiles
    else answered daemon (errResp .error "TPM support not compiled in")

def ofHandler (daemon : DaemonState) : Handler → AdminThread
  | .finished response => answered daemon response
  | handler => .handling daemon handler

end AdminThread

/-- The count of pairings after a step of a handler: a pairing counts when its data
reaches the file. -/
def countPairing (pairings : String → Nat) : Handler → AdminEvent → String → Nat
  | .savingServers job _ _ _ _, .saveServers fault =>
    if (writeOutcome fault).2 then
      Function.update pairings job.serverHex (pairings job.serverHex + 1)
    else pairings
  | _, _ => pairings

/-- One step of `recover_from_tpm_failure`. -/
def recoveryStep (s : ReloadState) (daemon : DaemonState) :
    Recovery → ReloadEvent → Option (ReloadState × AdminThread)
  | .removingKeyFiles, .writeOther result =>
    match result with
    | .ok () => some (s, .recovering daemon .clearing)
    | .error e => some (s, .answered daemon (recoverTpmFailed e))
  | .clearing, .clearServers fault =>
    match s.disk.clearPairedServers fault with
    | (.ok (), d) => some (s.withDisk d, .recovering daemon .generatingKeypair)
    | (.error e, d) => some (s.withDisk d, .answered daemon (recoverTpmFailed e))
  | .generatingKeypair, .writeOther result =>
    match result with
    | .ok () => some (s, .recovering daemon .clearingAgain)
    | .error e => some (s, .answered daemon (recoverTpmFailed e))
  | .clearingAgain, .clearServers fault =>
    -- this is the clearing of `rotate_csk`, whose result is ignored
    some (s.withDisk (s.disk.clearPairedServers fault).2, .recovering daemon .savingFreshCsk)
  | .savingFreshCsk, .saveFreshCsk fresh fault =>
    match s.disk.generateAndSaveCsk fresh fault with
    | (.ok _, d) => some (s.withAdmin (s.admin.withCskFile d), .answered daemon emptySuccess)
    | (.error e, d) =>
      some (s.withAdmin (s.admin.withCskFile d), .answered daemon (recoverTpmFailed e))
  | _, _ => none

/-- One step of `reload`: a read that fails leaves the value of the snapshot. -/
def reloadStep (s : ReloadState) (daemon : DaemonState) (answer : Answer) :
    ReloadPoint → ReloadEvent → Option AdminThread
  | .keypair, .loadKeypair result =>
    some (.reloading daemon answer
      (.csk (match result with
        | .ok keypair => some keypair
        | .error _ => daemon.keypair)))
  | .csk keypair, .loadCsk fault =>
    some (.reloading daemon answer
      (.servers keypair (match s.disk.loadCsk fault with
        | .ok csk => some csk
        | .error _ => daemon.csk)))
  | .servers keypair csk, .loadServers fault =>
    some (.reloading daemon answer
      (.config keypair csk (match s.disk.loadPairedServers fault with
        | .ok servers => servers
        | .error _ => daemon.pairedServers)))
  | .config keypair csk servers, .loadConfig result =>
    some (.installing
      (.reloaded keypair csk servers (match result with
        | .ok hostname => hostname
        | .error _ => daemon.hostname)) answer)
  | _, _ => none

section

variable (P : Primitives) (tpm : Bool)

/-- One step of a request. -/
def adminStep (s : ReloadState) :
    AdminThread → ReloadEvent → Option (ReloadState × AdminThread)
  | .idle, .receive request => some (s, .start tpm s.daemon request)
  | .handling daemon handler, .handler event =>
    (handlerStep P s.admin handler event).map fun moved ↦
      ({ s with admin := moved.1, pairings := countPairing s.pairings handler event },
        .ofHandler daemon moved.2)
  | .removing daemon publicKey username, .loadServers fault =>
    match s.disk.loadPairedServers fault with
    | .error e => some (s, .answered daemon (removeDeviceFailed e))
    | .ok servers =>
      match withoutUser servers publicKey username with
      | none => some (s, .removed daemon ⟨publicKey, username, s.pairings publicKey⟩)
      | some edited => some (s, .savingRemoval daemon publicKey username edited.1)
  | .savingRemoval daemon publicKey username edited, .saveServers fault =>
    match s.disk.savePairedServers fault edited with
    | (.ok (), d) =>
      some (s.withDisk d, .removed daemon ⟨publicKey, username, s.pairings publicKey⟩)
    | (.error e, d) => some (s.withDisk d, .answered daemon (removeDeviceFailed e))
  | .savingToml daemon, .saveToml result =>
    match result with
    | .ok () => some (s, .savingClientConfig daemon)
    | .error text => some (s, .answered daemon (saveTomlFailed text))
  | .savingClientConfig daemon, .writeOther result =>
    match result with
    | .ok () => some (s, .answered daemon emptySuccess)
    | .error e => some (s, .answered daemon (saveClientConfigFailed e))
  | .recovering daemon stage, event => recoveryStep s daemon stage event
  | .reloading daemon answer point, event =>
    (reloadStep s daemon answer point event).map (Prod.mk s)
  | .installing reloaded answer, .install => some ({ s with daemon := reloaded }, .finished answer)
  | _, _ => none

def adminThreads : Threads ReloadState AdminThread ReloadEvent where
  step := adminStep P tpm

end

/-! ## Requests that nobody interrupts -/

@[simp] theorem adminThreads_solo_next (P : Primitives) (tpm : Bool) (s : ReloadState)
    (l : AdminThread) (e : ReloadEvent) :
    (adminThreads P tpm).solo.next (s, l) e = adminStep P tpm s l e := rfl

/-- The state `reload` makes of a directory that nobody writes meanwhile. -/
def DaemonState.reload (daemon : DaemonState) (d : Disk)
    (keypair : Except ConfigError Ed25519KeyPair) (cskFault serversFault : Option IoFault)
    (hostname : Except ConfigError String) : DaemonState :=
  .reloaded (match keypair with
    | .ok keypair => some keypair
    | .error _ => daemon.keypair)
    (match d.loadCsk cskFault with
    | .ok csk => some csk
    | .error _ => daemon.csk)
    (match d.loadPairedServers serversFault with
    | .ok servers => servers
    | .error _ => daemon.pairedServers)
    (match hostname with
    | .ok hostname => hostname
    | .error _ => daemon.hostname)

/-- **A reload that nobody interrupts installs what `reload` returns.** -/
theorem feed_reload (P : Primitives) (tpm : Bool) (s : ReloadState) (daemon : DaemonState)
    (answer : Answer) (keypair : Except ConfigError Ed25519KeyPair)
    (cskFault serversFault : Option IoFault) (hostname : Except ConfigError String) :
    (adminThreads P tpm).solo.feed (s, .reloading daemon answer .keypair)
        [.loadKeypair keypair, .loadCsk cskFault, .loadServers serversFault,
          .loadConfig hostname, .install] =
      ({ s with daemon := daemon.reload s.disk keypair cskFault serversFault hostname },
        .finished answer) := rfl

variable {daemon : DaemonState} {answer : Answer} {servers : ServerMap} {P : Primitives}
  {entry : PairedServer} {s : ReloadState} {sentTo : String → Option ClientSymmetricKey}
  {csk : ClientSymmetricKey}

/-- The same while other requests are in progress and stand still. -/
theorem pool_feed_reload (P : Primitives) (tpm : Bool) {ι : Type} [DecidableEq ι]
    (p : Pool ι ReloadState AdminThread) {i : ι}
    (hi : p.locals i = .reloading daemon answer .keypair)
    (keypair : Except ConfigError Ed25519KeyPair) (cskFault serversFault : Option IoFault)
    (hostname : Except ConfigError String) :
    (adminThreads P tpm).pool.feed p ([.loadKeypair keypair, .loadCsk cskFault,
        .loadServers serversFault, .loadConfig hostname, .install].map (Prod.mk i)) =
      ⟨{ p.shared with
          daemon := daemon.reload p.shared.disk keypair cskFault serversFault hostname },
        Function.update p.locals i (.finished answer)⟩ := by
  rw [Threads.pool_feed, hi, feed_reload]

/-- **A removal that nobody interrupts is `remove_user_from_pairing`.** -/
theorem feed_removing (P : Primitives) (tpm : Bool) (s : ReloadState) (daemon : DaemonState)
    (publicKey username : String) (readFault : Option IoFault) (writeFault : Option WriteFault) :
    ((adminThreads P tpm).solo.feed (s, .removing daemon publicKey username)
        [.loadServers readFault, .saveServers writeFault]).map ReloadState.disk id =
      ((s.disk.removeUserFromPairing readFault writeFault publicKey username).2,
        match (s.disk.removeUserFromPairing readFault writeFault publicKey username).1 with
        | .ok _ => .removed daemon ⟨publicKey, username, s.pairings publicKey⟩
        | .error e => .answered daemon (removeDeviceFailed e)) := by
  cases hload : s.disk.loadPairedServers readFault with
  | error e => simp [adminStep, reloadStep, removeUserFromPairing, hload, AdminThread.answered]
  | ok servers =>
    cases hedited : withoutUser servers publicKey username with
    | none =>
      simp [adminStep, reloadStep, removeUserFromPairing, hload, hedited,
        AdminThread.removed]
    | some edited =>
      rcases hsave : s.disk.savePairedServers writeFault edited.1 with ⟨e | u, d⟩
      all_goals
        simp only [Machine.feed_cons, Machine.feed_nil, adminThreads_solo_next, adminStep,
          Option.getD_some, removeUserFromPairing, hload, hedited, hsave]
        rfl

/-! ## What the requests keep apart -/

/-- The next step of the request writes the CSK file or the servers' file. -/
def AdminThread.writes : AdminThread → Bool
  | .handling _ (.savingCsk _ _) | .handling _ (.savingServers _ _ _ _ _) => true
  | .handling _ .clearingServers | .handling _ .savingFreshCsk => true
  | .savingRemoval _ _ _ _ => true
  | .recovering _ .clearing | .recovering _ .clearingAgain => true
  | .recovering _ .savingFreshCsk => true
  | _ => false

/-- The request holds what it has read from these files in order to write it back or to
make it the daemon's state. -/
def AdminThread.holdsRead : AdminThread → Bool
  | .handling _ (.savingServers _ _ _ _ _) | .savingRemoval _ _ _ _ => true
  | .reloading _ _ (.servers _ _) | .reloading _ _ (.config _ _ _) => true
  | .installing _ _ => true
  | _ => false

/-- A request that is received and not yet answered. -/
def AdminThread.inProgress : AdminThread → Bool
  | .idle | .finished _ => false
  | _ => true

/-- No request writes while another holds what it has read. -/
def Undisturbed {ι : Type*} (p : Pool ι ReloadState AdminThread) (label : ι × ReloadEvent) :
    Prop :=
  (p.locals label.1).writes = true → ∀ j, j ≠ label.1 → (p.locals j).holdsRead = false

/-- The reads of `reload` succeed. -/
def ReadsSucceed (s : ReloadState) : AdminThread → ReloadEvent → Prop
  | .reloading _ _ (.csk _), .loadCsk fault => (s.disk.loadCsk fault).isOk = true
  | .reloading _ _ (.servers _ _), .loadServers fault =>
    (s.disk.loadPairedServers fault).isOk = true
  | _, _ => True

/-- A phone that is looked up to be removed has no other user. -/
def SoleUser (s : ReloadState) : AdminThread → ReloadEvent → Prop
  | .removing _ publicKey username, .loadServers _ =>
    ∀ server ∈ s.disk.pairedServers.lookup publicKey,
      ∀ user ∈ server.allowedUsers, user = username
  | _, _ => True

/-! ## What a step can do -/

/-- A request in progress that has read nothing it still relies on and has removed no
phone. -/
def AdminThread.Plain : AdminThread → Prop
  | .idle | .finished _ | .installing _ _ => False
  | .handling _ (.savingServers _ _ _ _ _) | .savingRemoval _ _ _ _ => False
  | .reloading _ answer .keypair => answer.removed = none
  | .reloading _ _ _ => False
  | _ => True

/-- A step that touches files only. -/
structure ReloadState.FilesOnly (s t : ReloadState) : Prop where
  daemon : t.daemon = s.daemon
  pairings : t.pairings = s.pairings

/-- Every step of a request, with what it does to the stored servers, to the daemon's
state and to the count of pairings. -/
inductive AdminStep (s : ReloadState) :
    AdminThread → ReloadEvent → ReloadState → AdminThread → Prop where
  | plain {l l' : AdminThread} {e : ReloadEvent} (h : l'.Plain) : AdminStep s l e s l'
  | written {l l' : AdminThread} {e : ReloadEvent} {t : ReloadState} (hw : l.writes = true)
      (hservers : t.disk.pairedServers = s.disk.pairedServers ∨ t.disk.pairedServers = ∅)
      (ht : s.FilesOnly t) (h : l'.Plain) : AdminStep s l e t l'
  | serversLoaded {daemon : DaemonState} {job : PairingJob} {csk : ClientSymmetricKey}
      {event : AdminEvent} {entry : PairedServer} (hentry : entry.publicKey = job.serverHex) :
      AdminStep s (.handling daemon (.loadingServers job csk)) (.handler event) s
        (.handling daemon
          (.savingServers job csk s.disk.pairedServers s.admin.sentTo entry))
  | serverAdded {daemon : DaemonState} {job : PairingJob} {csk : ClientSymmetricKey}
      {servers : ServerMap} {sentTo : String → Option ClientSymmetricKey} {entry : PairedServer}
      {event : AdminEvent} {t : ReloadState} {l' : AdminThread}
      (hservers : t.disk.pairedServers = servers.insert job.serverHex entry)
      (hdaemon : t.daemon = s.daemon)
      (hpairings : t.pairings =
        Function.update s.pairings job.serverHex (s.pairings job.serverHex + 1))
      (h : l'.Plain) :
      AdminStep s (.handling daemon (.savingServers job csk servers sentTo entry))
        (.handler event) t l'
  | removalLoaded {daemon : DaemonState} {publicKey username : String} {fault : Option IoFault}
      {edited : ServerMap × Bool}
      (h : withoutUser s.disk.pairedServers publicKey username = some edited) :
      AdminStep s (.removing daemon publicKey username) (.loadServers fault) s
        (.savingRemoval daemon publicKey username edited.1)
  | notFound {daemon : DaemonState} {publicKey username : String} {fault : Option IoFault}
      (h : publicKey ∉ s.disk.pairedServers) :
      AdminStep s (.removing daemon publicKey username) (.loadServers fault) s
        (.removed daemon ⟨publicKey, username, s.pairings publicKey⟩)
  | removalSaved {daemon : DaemonState} {publicKey username : String} {edited : ServerMap}
      {fault : Option WriteFault} {t : ReloadState} (hservers : t.disk.pairedServers = edited)
      (ht : s.FilesOnly t) :
      AdminStep s (.savingRemoval daemon publicKey username edited) (.saveServers fault) t
        (.removed daemon ⟨publicKey, username, s.pairings publicKey⟩)
  | removalFailed {daemon : DaemonState} {publicKey username : String} {edited : ServerMap}
      {fault : Option WriteFault} {t : ReloadState} {response : AdminResponse}
      (hservers : t.disk.pairedServers = s.disk.pairedServers ∨ t.disk.pairedServers = edited)
      (ht : s.FilesOnly t) :
      AdminStep s (.savingRemoval daemon publicKey username edited) (.saveServers fault) t
        (.answered daemon response)
  | keypairRead {daemon : DaemonState} {answer : Answer} {e : ReloadEvent}
      {keypair : Option Ed25519KeyPair} :
      AdminStep s (.reloading daemon answer .keypair) e s (.reloading daemon answer (.csk keypair))
  | cskRead {daemon : DaemonState} {answer : Answer} {keypair : Option Ed25519KeyPair}
      {fault : Option IoFault} {csk : Option ClientSymmetricKey}
      (h : (s.disk.loadCsk fault).isOk = true → csk = s.disk.csk) :
      AdminStep s (.reloading daemon answer (.csk keypair)) (.loadCsk fault) s
        (.reloading daemon answer (.servers keypair csk))
  | serversRead {daemon : DaemonState} {answer : Answer} {keypair : Option Ed25519KeyPair}
      {csk : Option ClientSymmetricKey} {fault : Option IoFault} {servers : ServerMap}
      (h : (s.disk.loadPairedServers fault).isOk = true → servers = s.disk.pairedServers) :
      AdminStep s (.reloading daemon answer (.servers keypair csk)) (.loadServers fault) s
        (.reloading daemon answer (.config keypair csk servers))
  | configRead {daemon reloaded : DaemonState} {answer : Answer} {e : ReloadEvent}
      {keypair : Option Ed25519KeyPair} {csk : Option ClientSymmetricKey} {servers : ServerMap}
      (hcsk : reloaded.csk = csk) (hservers : reloaded.pairedServers = servers) :
      AdminStep s (.reloading daemon answer (.config keypair csk servers)) e s
        (.installing reloaded answer)
  | installed {reloaded : DaemonState} {answer : Answer} :
      AdminStep s (.installing reloaded answer) .install { s with daemon := reloaded }
        (.finished answer)

theorem AdminThread.plain_start (tpm : Bool) (daemon : DaemonState) (request : ReloadRequest) :
    (AdminThread.start tpm daemon request).Plain := by
  rcases request with (response | job) | - | ⟨publicKey, username⟩ | request | -
  · rfl
  · trivial
  · trivial
  · trivial
  · simp only [start]
    split
    · trivial
    · rfl
  · cases tpm
    · rfl
    · trivial

theorem AdminThread.plain_ofHandler (daemon : DaemonState) {handler : Handler}
    (h : ¬ handler.AfterSaveCsk) : (AdminThread.ofHandler daemon handler).Plain := by
  cases handler with
  | savingServers job csk servers sentTo entry => exact absurd trivial h
  | finished response => rfl
  | _ => trivial

/-- The entry that a handler is about to add is filed under the key of the phone. -/
theorem publicKey_of_handlerStep {s t : AdminState} {l : Handler} {event : AdminEvent}
    {job : PairingJob}
    (h : handlerStep P s l event = some (t, .savingServers job csk servers sentTo entry)) :
    entry.publicKey = job.serverHex := by
  unfold handlerStep at h
  split at h
  case h_8 =>
    split at h
    · cases h; rfl
    · cases h
  all_goals try dsimp only at h
  all_goals try split at h
  all_goals cases h

theorem pairedServers_saveCsk (d : Disk) (fault : Option WriteFault) (csk : ClientSymmetricKey) :
    (d.saveCsk fault csk).2.pairedServers = d.pairedServers := by
  rcases d.saveCsk_snd fault csk with h | h <;> simp [h, pairedServers]

theorem pairedServers_generateAndSaveCsk (d : Disk) (fresh : Option ClientSymmetricKey)
    (fault : Option WriteFault) :
    (d.generateAndSaveCsk fresh fault).2.pairedServers = d.pairedServers := by
  rcases d.generateAndSaveCsk_snd fresh fault with h | ⟨csk, -, h⟩ <;> simp [h, pairedServers]

theorem pairedServers_savePairedServers (d : Disk) (fault : Option WriteFault)
    (servers : ServerMap) :
    (d.savePairedServers fault servers).2.pairedServers =
      if (writeOutcome fault).2 then servers else d.pairedServers := by
  rcases fault with - | (fault | fault) <;> rfl

/-- A pairing saves its phone: the phone is added, or nothing is written. -/
theorem AdminStep.of_savingServers {t : AdminState} {job : PairingJob} {fault : Option WriteFault}
    {l' : Handler}
    (h : handlerStep P s.admin (.savingServers job csk servers sentTo entry)
      (.saveServers fault) = some (t, l')) :
    AdminStep s (.handling daemon (.savingServers job csk servers sentTo entry))
      (.handler (.saveServers fault))
      { s with
        admin := t
        pairings := countPairing s.pairings (.savingServers job csk servers sentTo entry)
          (.saveServers fault) }
      (.ofHandler daemon l') := by
  have hservers := pairedServers_savePairedServers s.disk fault
    (servers.insert job.serverHex entry)
  obtain ⟨ht, response, rfl⟩ : t.disk =
      (s.disk.savePairedServers fault (servers.insert job.serverHex entry)).2 ∧
      ∃ response, l' = .finished response := by
    simp only [handlerStep] at h
    split at h <;> cases h <;> exact ⟨rfl, _, rfl⟩
  rw [← ht] at hservers
  by_cases hw : (writeOutcome fault).2 = true
  · rw [if_pos hw] at hservers
    exact .serverAdded hservers rfl (if_pos hw) rfl
  · rw [if_neg hw] at hservers
    exact .written rfl (.inl hservers) ⟨rfl, if_neg hw⟩ rfl

/-- The steps of a request that runs its handler. -/
theorem AdminStep.of_handler {t : AdminState} {l l' : Handler} {event : AdminEvent}
    (h : handlerStep P s.admin l event = some (t, l')) :
    AdminStep s (.handling daemon l) (.handler event)
      { s with admin := t, pairings := countPairing s.pairings l event }
      (.ofHandler daemon l') := by
  by_cases hsaving : ∃ job csk servers sentTo entry fault,
      l = .savingServers job csk servers sentTo entry ∧ event = .saveServers fault
  · obtain ⟨job, csk, servers, sentTo, entry, fault, rfl, rfl⟩ := hsaving
    exact .of_savingServers h
  -- every other step leaves the count alone
  have hcount : countPairing s.pairings l event = s.pairings := by
    unfold countPairing
    split
    · exact absurd ⟨_, _, _, _, _, _, rfl, rfl⟩ hsaving
    · rfl
  rw [hcount]
  cases handlerStep_eq_some h with
  | quiet hquiet => exact .plain (AdminThread.plain_ofHandler daemon hquiet)
  | @cskSaved job csk fault d hsave =>
    have hd : d.pairedServers = s.disk.pairedServers := by
      rw [← pairedServers_saveCsk s.disk fault csk, show s.disk = s.admin.disk from rfl, hsave]
    exact .written rfl (.inl hd) ⟨rfl, rfl⟩ trivial
  | @cskSaveFailed job csk fault response =>
    exact .written rfl (.inl (pairedServers_saveCsk s.disk fault csk)) ⟨rfl, rfl⟩ rfl
  | serversLoaded => exact .serversLoaded (publicKey_of_handlerStep h)
  | serversSaved => exact absurd ⟨_, _, _, _, _, _, rfl, rfl⟩ hsaving
  | @serversCleared fault =>
    exact .written rfl (s.disk.pairedServers_clearPairedServers fault) ⟨rfl, rfl⟩ trivial
  | @rotated fresh fault csk d hsave =>
    have hd : d.pairedServers = s.disk.pairedServers := by
      rw [← pairedServers_generateAndSaveCsk s.disk fresh fault,
        show s.disk = s.admin.disk from rfl, hsave]
    exact .written rfl (.inl hd) ⟨rfl, rfl⟩ rfl
  | @rotateFailed fresh fault response =>
    exact .written rfl (.inl (pairedServers_generateAndSaveCsk s.disk fresh fault)) ⟨rfl, rfl⟩ rfl

/-- The steps of a recovery. -/
theorem AdminStep.of_recovery {s t : ReloadState} {stage : Recovery} {e : ReloadEvent}
    {l' : AdminThread} (h : recoveryStep s daemon stage e = some (t, l')) :
    AdminStep s (.recovering daemon stage) e t l' := by
  unfold recoveryStep at h
  split at h
  · split at h <;> cases h
    · exact .plain trivial
    · exact .plain rfl
  · rename_i fault
    have hservers := s.disk.pairedServers_clearPairedServers fault
    rcases hclear : s.disk.clearPairedServers fault with ⟨e | u, d⟩ <;> rw [hclear] at h hservers
    · cases h
      exact .written rfl hservers ⟨rfl, rfl⟩ rfl
    · cases h
      exact .written rfl hservers ⟨rfl, rfl⟩ trivial
  · split at h <;> cases h
    · exact .plain trivial
    · exact .plain rfl
  · rename_i fault
    cases h
    exact .written rfl (s.disk.pairedServers_clearPairedServers fault) ⟨rfl, rfl⟩ trivial
  · rename_i fresh fault
    have hservers := pairedServers_generateAndSaveCsk s.disk fresh fault
    rcases hsave : s.disk.generateAndSaveCsk fresh fault with ⟨e | csk, d⟩ <;>
      rw [hsave] at h hservers <;> cases h <;>
      exact .written rfl (.inl hservers) ⟨rfl, rfl⟩ rfl
  · cases h

/-- The steps of a reload. -/
theorem AdminStep.of_reload {point : ReloadPoint} {e : ReloadEvent} {l' : AdminThread}
    (h : reloadStep s daemon answer point e = some l') :
    AdminStep s (.reloading daemon answer point) e s l' := by
  unfold reloadStep at h
  split at h
  · cases h
    exact .keypairRead
  · rename_i keypair fault
    cases h
    refine .cskRead fun hok ↦ ?_
    cases hload : s.disk.loadCsk fault with
    | error e => rw [hload] at hok; cases hok
    | ok csk => exact (loadCsk_eq_ok hload).symm
  · rename_i keypair csk fault
    cases h
    refine .serversRead fun hok ↦ ?_
    cases hload : s.disk.loadPairedServers fault with
    | error e => rw [hload] at hok; cases hok
    | ok servers => exact loadPairedServers_eq_ok hload
  · cases h
    exact .configRead rfl rfl
  · cases h

theorem adminStep_eq_some {tpm : Bool} {s t : ReloadState} {l l' : AdminThread} {e : ReloadEvent}
    (h : adminStep P tpm s l e = some (t, l')) : AdminStep s l e t l' := by
  unfold adminStep at h
  split at h
  · cases h
    exact .plain (AdminThread.plain_start ..)
  · obtain ⟨⟨t, l'⟩, hstep, ⟨⟩⟩ := Option.map_eq_some_iff.mp h
    exact .of_handler hstep
  · rename_i daemon publicKey username fault
    cases hload : s.disk.loadPairedServers fault with
    | error e =>
      rw [hload] at h
      cases h
      exact .plain rfl
    | ok servers =>
      rw [hload] at h
      obtain rfl := loadPairedServers_eq_ok hload
      dsimp only at h
      split at h <;> cases h
      case h_1 hnone =>
        refine .notFound ?_
        rw [← AList.lookup_eq_none]
        simpa [withoutUser] using hnone
      case h_2 hedited => exact .removalLoaded hedited
  · rename_i daemon publicKey username edited fault
    have hservers := pairedServers_savePairedServers s.disk fault edited
    rcases hsave : s.disk.savePairedServers fault edited with ⟨e | u, d⟩ <;>
      rw [hsave] at h hservers <;> cases h
    · refine .removalFailed ?_ ⟨rfl, rfl⟩
      by_cases hw : (writeOutcome fault).2 = true
      · exact .inr (by rw [if_pos hw] at hservers; exact hservers)
      · exact .inl (by rw [if_neg hw] at hservers; exact hservers)
    · refine .removalSaved ?_ ⟨rfl, rfl⟩
      rw [ReloadState.disk_withDisk, savePairedServers_eq_ok hsave]
      rfl
  · split at h <;> cases h
    · exact .plain trivial
    · exact .plain rfl
  · split at h <;> cases h <;> exact .plain rfl
  · exact .of_recovery h
  · obtain ⟨l', hstep, ⟨⟩⟩ := Option.map_eq_some_iff.mp h
    exact .of_reload hstep
  · cases h
    exact .installed
  · cases h

/-! ## What the requests know -/

/-- Every stored server has the hexadecimal digits of its key as its identifier. -/
def Filed (servers : ServerMap) : Prop :=
  ∀ id server key, servers.lookup id = some server → server.key = some key →
    id = hexEncode key.bytes

theorem Filed.empty : Filed ∅ := by
  intro id server key h
  simp at h

theorem Filed.insert (h : Filed servers) {key : Bytes32}
    (hentry : entry.publicKey = hexEncode key.bytes) :
    Filed (servers.insert (hexEncode key.bytes) entry) := by
  intro id server key' hlookup hkey
  by_cases hid : id = hexEncode key.bytes
  · subst hid
    rw [AList.lookup_insert, Option.some.injEq] at hlookup
    subst hlookup
    rw [PairedServer.key, hentry, hexDecode_hexEncode] at hkey
    simp only [Option.bind_some, FixedBytes.ofBytes_bytes, Option.some.injEq] at hkey
    rw [hkey]
  · rw [AList.lookup_insert_ne hid] at hlookup
    exact h id server key' hlookup hkey

theorem Filed.erase (h : Filed servers) (id : String) :
    Filed (servers.erase id) := by
  intro id' server key hlookup hkey
  by_cases hid : id' = id
  · subst hid
    simp at hlookup
  · rw [AList.lookup_erase_ne hid] at hlookup
    exact h id' server key hlookup hkey

/-- A phone that is filed and not stored has no stored key. -/
theorem Filed.not_mem_storedKeys (h : Filed servers) {key : Bytes32}
    (hid : hexEncode key.bytes ∉ servers) : key ∉ storedKeys servers := by
  intro hkey
  obtain ⟨server, hmem, hkey⟩ := List.mem_filterMap.mp hkey
  obtain ⟨id, hlookup⟩ := ServerMap.mem_values.mp hmem
  obtain rfl := h id server key hlookup hkey
  rw [AList.lookup_eq_none.mpr hid] at hlookup
  cases hlookup

/-- The daemon's state holds the CSK and the servers of the disk. -/
structure ReloadState.Agrees (s : ReloadState) : Prop where
  csk : s.daemon.csk = s.disk.csk
  pairedServers : s.daemon.pairedServers = s.disk.pairedServers

/-- A removed phone that has not been paired again is not stored. -/
def Answer.Gone (s : ReloadState) (answer : Answer) : Prop :=
  ∀ removal, answer.removed = some removal →
    removal.pairings ≤ s.pairings removal.publicKey ∧
    (removal.pairings = s.pairings removal.publicKey →
      removal.publicKey ∉ s.disk.pairedServers)

/-- What a reload has read is what is stored. -/
def ReloadPoint.Current (s : ReloadState) : ReloadPoint → Prop
  | .keypair | .csk _ => True
  | .servers _ read => read = s.disk.csk
  | .config _ read stored => read = s.disk.csk ∧ stored = s.disk.pairedServers

/-- What a request knows of the directory and the daemon's state. -/
def AdminThread.Knows (s : ReloadState) : AdminThread → Prop
  | .handling _ (.savingServers job _ servers _ entry) =>
    servers = s.disk.pairedServers ∧ entry.publicKey = job.serverHex
  | .savingRemoval _ publicKey _ edited => edited = s.disk.pairedServers.erase publicKey
  | .reloading _ answer point => answer.Gone s ∧ point.Current s
  | .installing reloaded answer =>
    answer.Gone s ∧ reloaded.csk = s.disk.csk ∧ reloaded.pairedServers = s.disk.pairedServers
  | .finished answer =>
    answer.Gone s ∧ ∀ removal, answer.removed = some removal →
      removal.pairings = s.pairings removal.publicKey →
      removal.publicKey ∉ s.daemon.pairedServers
  | _ => True

/-- What no request does to another: the counts grow, a phone appears only by a pairing,
and the daemon's servers become those of the disk if they change. -/
structure ReloadState.Advances (s t : ReloadState) : Prop where
  pairings : ∀ id, s.pairings id ≤ t.pairings id
  absent : ∀ id, t.pairings id = s.pairings id → id ∉ s.disk.pairedServers →
    id ∉ t.disk.pairedServers
  daemon : t.daemon = s.daemon ∨ t.daemon.pairedServers = t.disk.pairedServers

theorem Answer.Gone.of_none (h : answer.removed = none) :
    answer.Gone s := by
  intro removal hremoved
  rw [h] at hremoved
  cases hremoved

theorem Answer.Gone.advance {s t : ReloadState} (h : answer.Gone s) (hst : s.Advances t) :
    answer.Gone t := by
  intro removal hremoved
  obtain ⟨hle, habsent⟩ := h removal hremoved
  have hgrow := hst.pairings removal.publicKey
  refine ⟨hle.trans hgrow, fun hsame ↦ ?_⟩
  have hs : removal.pairings = s.pairings removal.publicKey := by omega
  exact hst.absent _ (hsame.symm.trans hs) (habsent hs)

theorem AdminThread.Knows.of_plain {l : AdminThread} (h : l.Plain) :
    l.Knows s := by
  cases l with
  | handling daemon handler =>
    cases handler with
    | savingServers => exact h.elim
    | _ => trivial
  | reloading daemon answer point =>
    cases point with
    | keypair => exact ⟨.of_none h, trivial⟩
    | _ => exact h.elim
  | savingRemoval | installing | finished => exact h.elim
  | _ => trivial

/-- What a request knows survives the steps of the others, if the files stay as they are
while it holds what it has read there. -/
theorem AdminThread.Knows.advance {s t : ReloadState} {l : AdminThread} (h : l.Knows s)
    (hst : s.Advances t) (hdisk : l.holdsRead = true → t.disk = s.disk) : l.Knows t := by
  cases l with
  | handling daemon handler =>
    cases handler with
    | savingServers job csk servers sentTo entry => exact ⟨by rw [hdisk rfl]; exact h.1, h.2⟩
    | _ => trivial
  | savingRemoval daemon publicKey username edited =>
    change edited = t.disk.pairedServers.erase publicKey
    rw [hdisk rfl]
    exact h
  | reloading daemon answer point =>
    refine ⟨h.1.advance hst, ?_⟩
    cases point with
    | keypair | csk => trivial
    | servers | config => simpa only [ReloadPoint.Current, hdisk rfl] using h.2
  | installing reloaded answer =>
    refine ⟨h.1.advance hst, ?_⟩
    rw [hdisk rfl]
    exact h.2
  | finished answer =>
    have hgone := h.1.advance hst
    refine ⟨hgone, fun removal hremoved hsame ↦ ?_⟩
    rcases hst.daemon with hdaemon | hdaemon
    · have hle := (h.1 removal hremoved).1
      have hgrow := hst.pairings removal.publicKey
      rw [hdaemon]
      exact h.2 removal hremoved (by omega)
    · rw [hdaemon]
      exact (hgone removal hremoved).2 hsame
  | _ => trivial

theorem ReloadState.Advances.refl (s : ReloadState) : s.Advances s :=
  ⟨fun _ ↦ le_rfl, fun _ _ h ↦ h, .inl rfl⟩

/-- A step that only touches files advances if no phone appears. -/
theorem ReloadState.FilesOnly.advances {s t : ReloadState} (h : s.FilesOnly t)
    (habsent : ∀ id, id ∉ s.disk.pairedServers → id ∉ t.disk.pairedServers) : s.Advances t :=
  ⟨fun id ↦ by rw [h.pairings], fun id _ ↦ habsent id, .inl h.daemon⟩

/-- The phone of a removal is gone once it is not stored. -/
theorem Answer.Gone.removed {publicKey : String} (h : publicKey ∉ s.disk.pairedServers)
    (response : AdminResponse) (username : String) :
    Answer.Gone s ⟨response, some ⟨publicKey, username, s.pairings publicKey⟩⟩ := by
  rintro _ ⟨⟩
  exact ⟨le_rfl, fun _ ↦ h⟩

/-- The removal of a phone's only user removes the phone. -/
theorem withoutUser_eq_erase {id username : String} {edited : ServerMap × Bool}
    (h : withoutUser servers id username = some edited)
    (hsole : ∀ server ∈ servers.lookup id, ∀ user ∈ server.allowedUsers, user = username) :
    edited.1 = servers.erase id := by
  obtain ⟨server, hlookup, rfl⟩ := Option.map_eq_some_iff.mp h
  have hnone : server.allowedUsers.filter (fun u ↦ u ≠ username) = [] := by
    rw [List.filter_eq_nil_iff]
    intro user huser
    simp [hsole server hlookup user huser]
  simp only [hnone, if_true]

namespace AdminStep

variable {s t : ReloadState} {l l' : AdminThread} {e : ReloadEvent}

/-- Only a request that is about to write changes the files. -/
theorem disk_eq (h : AdminStep s l e t l') : l.writes = true ∨ t.disk = s.disk := by
  cases h with
  | written hw => exact .inl hw
  | serverAdded | removalSaved | removalFailed => exact .inl rfl
  | _ => exact .inr rfl

theorem advances (h : AdminStep s l e t l') (hl : l.Knows s) : s.Advances t := by
  cases h with
  | written hw hservers ht =>
    refine ht.advances fun id hid ↦ ?_
    rcases hservers with hservers | hservers <;> rw [hservers]
    · exact hid
    · exact AList.notMem_empty id
  | @serverAdded daemon job csk servers sentTo entry event t l' hservers hdaemon hpairings =>
    obtain ⟨rfl, -⟩ := hl
    refine ⟨fun id ↦ ?_, fun id hsame hid ↦ ?_, .inl hdaemon⟩
    · rw [hpairings]
      by_cases hjob : id = job.serverHex
      · subst hjob
        simp
      · simp [hjob]
    · -- the count of the phone that was added has grown
      have hjob : id ≠ job.serverHex := by
        rintro rfl
        simp [hpairings] at hsame
      rw [hservers, AList.mem_insert]
      exact not_or.mpr ⟨hjob, hid⟩
  | removalSaved hservers ht =>
    obtain rfl : _ = _ := hl
    refine ht.advances fun id hid ↦ ?_
    rw [hservers, AList.mem_erase]
    exact fun h ↦ hid h.2
  | removalFailed hservers ht =>
    obtain rfl : _ = _ := hl
    refine ht.advances fun id hid ↦ ?_
    rcases hservers with hservers | hservers <;> rw [hservers]
    · exact hid
    · rw [AList.mem_erase]
      exact fun h ↦ hid h.2
  | installed => exact ⟨fun _ ↦ le_rfl, fun _ _ h ↦ h, .inr hl.2.2⟩
  | _ => exact .refl s

/-- What the request knows after its step. -/
theorem knows (h : AdminStep s l e t l') (hl : l.Knows s) (hreads : ReadsSucceed s l e)
    (hsole : SoleUser s l e) : l'.Knows t := by
  cases h with
  | plain hplain => exact .of_plain hplain
  | written _ _ _ hplain => exact .of_plain hplain
  | serversLoaded hentry => exact ⟨rfl, hentry⟩
  | serverAdded _ _ _ hplain => exact .of_plain hplain
  | removalLoaded hedited => exact withoutUser_eq_erase hedited hsole
  | notFound hid => exact ⟨.removed hid _ _, trivial⟩
  | @removalSaved daemon publicKey username edited fault t hservers ht =>
    have hid : publicKey ∉ t.disk.pairedServers := by
      rw [hservers, show edited = _ from hl]
      simp
    refine ⟨?_, trivial⟩
    rw [← ht.pairings]
    exact .removed hid _ _
  | removalFailed => exact ⟨.of_none rfl, trivial⟩
  | keypairRead => exact ⟨hl.1, trivial⟩
  | cskRead hcsk => exact ⟨hl.1, hcsk hreads⟩
  | serversRead hservers => exact ⟨hl.1, hl.2, hservers hreads⟩
  | configRead hcsk hservers => exact ⟨hl.1, hcsk.trans hl.2.1, hservers.trans hl.2.2⟩
  | installed =>
    refine ⟨hl.1, fun removal hremoved hsame ↦ ?_⟩
    rw [hl.2.2]
    exact (hl.1 removal hremoved).2 hsame

/-- The stored servers stay filed, and so do the daemon's. -/
theorem filed (h : AdminStep s l e t l') (hl : l.Knows s)
    (hs : Filed s.disk.pairedServers ∧ Filed s.daemon.pairedServers) :
    Filed t.disk.pairedServers ∧ Filed t.daemon.pairedServers := by
  cases h with
  | written hw hservers ht =>
    rw [ht.daemon]
    rcases hservers with hservers | hservers <;> rw [hservers]
    · exact hs
    · exact ⟨.empty, hs.2⟩
  | serverAdded hservers hdaemon =>
    obtain ⟨rfl, hentry⟩ := hl
    rw [hservers, hdaemon]
    exact ⟨hs.1.insert hentry, hs.2⟩
  | removalSaved hservers ht =>
    obtain rfl : _ = _ := hl
    rw [hservers, ht.daemon]
    exact ⟨hs.1.erase _, hs.2⟩
  | removalFailed hservers ht =>
    obtain rfl : _ = _ := hl
    rw [ht.daemon]
    rcases hservers with hservers | hservers <;> rw [hservers]
    · exact hs
    · exact ⟨hs.1.erase _, hs.2⟩
  | installed => exact ⟨hs.1, by rw [hl.2.2]; exact hs.1⟩
  | _ => exact hs

/-- A request that has stepped is in progress, or it has brought memory and disk to
agree. -/
theorem agrees_or_inProgress (h : AdminStep s l e t l') (hl : l.Knows s) :
    t.Agrees ∨ l'.inProgress = true := by
  have hplain : l'.Plain → l'.inProgress = true := by
    cases l' with
    | idle | finished => exact False.elim
    | _ => exact fun _ ↦ rfl
  cases h with
  | plain h => exact .inr (hplain h)
  | written _ _ _ h => exact .inr (hplain h)
  | serverAdded _ _ _ h => exact .inr (hplain h)
  | installed => exact .inl ⟨hl.2.1, hl.2.2⟩
  | _ => exact .inr rfl

end AdminStep

/-! ## Memory and disk -/

section

variable {ι : Type*} {P : Primitives} {tpm : Bool}

/-- The invariant of the requests. -/
structure Coherent (p : Pool ι ReloadState AdminThread) : Prop where
  filed : Filed p.shared.disk.pairedServers ∧ Filed p.shared.daemon.pairedServers
  knows : ∀ i, (p.locals i).Knows p.shared
  agrees : p.shared.Agrees ∨ ∃ i, (p.locals i).inProgress = true

/-- Before any request. -/
def reloadPool (s : ReloadState) : Pool ι ReloadState AdminThread := ⟨s, fun _ ↦ .idle⟩

theorem Coherent.initial {s : ReloadState} (hagrees : s.Agrees)
    (hfiled : Filed s.disk.pairedServers) : Coherent (reloadPool s : Pool ι _ _) :=
  ⟨⟨hfiled, hagrees.pairedServers ▸ hfiled⟩, fun _ ↦ trivial, .inl hagrees⟩

theorem Coherent.step [DecidableEq ι] {p q : Pool ι ReloadState AdminThread}
    {label : ι × ReloadEvent} (hp : Coherent p)
    (hreads : ReadsSucceed p.shared (p.locals label.1) label.2)
    (hundisturbed : Undisturbed p label) (hsole : SoleUser p.shared (p.locals label.1) label.2)
    (hnext : (adminThreads P tpm).pool.next p label = some q) : Coherent q := by
  obtain ⟨i, e⟩ := label
  obtain ⟨hmove, hothers⟩ := Threads.step_of_pool_next _ hnext
  have hstep := adminStep_eq_some hmove
  have hadvances := hstep.advances (hp.knows i)
  refine ⟨hstep.filed (hp.knows i) hp.filed, fun j ↦ ?_, ?_⟩
  · by_cases hji : j = i
    · subst hji
      exact hstep.knows (hp.knows j) hreads hsole
    · rw [hothers j hji]
      refine (hp.knows j).advance hadvances fun hholds ↦ ?_
      rcases hstep.disk_eq with hwrites | hdisk
      · rw [hundisturbed hwrites j hji] at hholds
        cases hholds
      · exact hdisk
  · exact (hstep.agrees_or_inProgress (hp.knows i)).imp_right fun h ↦ ⟨i, h⟩

/-- The session runs and its tasks trust the signatures of a key. -/
def Begin.trusts (key : Bytes32) : Begin → Bool
  | .running S => key ∈ storedKeys S.params.pairedServers
  | .responded _ => false

variable (P) in
/-- A phone can authenticate a user on a connection that is accepted in this state. -/
def CanAuthenticate (daemon : DaemonState) (key : Bytes32) (username : String) : Prop :=
  ∃ S : AuthSession, S.state = daemon ∧ S.username = username ∧
    (beginAuthenticate P S).trusts key = true

theorem not_canAuthenticate {daemon : DaemonState} (hfiled : Filed daemon.pairedServers)
    {key : Bytes32} (hkey : hexEncode key.bytes ∉ daemon.pairedServers) (username : String) :
    ¬ CanAuthenticate P daemon key username := by
  rintro ⟨S, rfl, -, htrusts⟩
  cases hbegin : beginAuthenticate P S with
  | responded response =>
    rw [hbegin] at htrusts
    cases htrusts
  | running running =>
    obtain ⟨-, -, hservers, -⟩ := beginAuthenticate_eq_running hbegin
    rw [hbegin, Begin.trusts, decide_eq_true_eq, hservers] at htrusts
    exact hfiled.not_mem_storedKeys hkey htrusts

variable (P tpm) in
/-- **Memory and disk, where they agree.**  Take any interleaving of admin requests from a
state that agrees with the disk, in which the reads of the reloads succeed, no request
writes while another holds what it has read, and a phone that is removed has no other
user.  If no request is in progress, memory and disk hold the same servers and the same
CSK.  At any time, a phone whose removal was answered with success and that was not paired
again does not authenticate the user. -/
theorem daemon_agrees_of_unraced [DecidableEq ι] {s : ReloadState} (hagrees : s.Agrees)
    (hfiled : Filed s.disk.pairedServers) {labels : List (ι × ReloadEvent)}
    {q : Pool ι ReloadState AdminThread}
    (hrun : (adminThreads P tpm).pool.exec (reloadPool s) labels = some q)
    (hreads : (adminThreads P tpm).pool.Along
      (fun p label ↦ ReadsSucceed p.shared (p.locals label.1) label.2) (reloadPool s) labels)
    (hundisturbed : (adminThreads P tpm).pool.Along Undisturbed (reloadPool s) labels)
    (hsole : (adminThreads P tpm).pool.Along
      (fun p label ↦ SoleUser p.shared (p.locals label.1) label.2) (reloadPool s) labels) :
    ((∀ i, (q.locals i).inProgress = false) →
      q.shared.daemon.csk = q.shared.disk.csk ∧
      q.shared.daemon.pairedServers = q.shared.disk.pairedServers) ∧
    ∀ i answer removal key, q.locals i = .finished answer → answer.removed = some removal →
      removal.pairings = q.shared.pairings removal.publicKey →
      removal.publicKey = hexEncode key.bytes →
      ¬ CanAuthenticate P q.shared.daemon key removal.username := by
  have hq : Coherent q := (adminThreads P tpm).pool.invariant_along
    (fun _ _ _ hp hG hnext ↦ hp.step hG.1 hG.2.1 hG.2.2 hnext) (.initial hagrees hfiled) hrun
    (hreads.and (hundisturbed.and hsole))
  refine ⟨fun hdone ↦ ?_, fun i answer removal key hi hremoved hsame hkey ↦ ?_⟩
  · rcases hq.agrees with h | ⟨i, hi⟩
    · exact ⟨h.csk, h.pairedServers⟩
    · rw [hdone i] at hi
      cases hi
  · have hknows := hq.knows i
    rw [hi] at hknows
    have habsent := hknows.2 removal hremoved hsame
    exact not_canAuthenticate hq.filed.2 (hkey ▸ habsent) _

end

/-! ## Two requests

Phone 5 is alice's.  In the second directory bob uses it too, and alice has phone 6. -/

instance (s : ReloadState) (l : AdminThread) (e : ReloadEvent) :
    Decidable (ReadsSucceed s l e) := by
  unfold ReadsSucceed
  split <;> infer_instance

instance (s : ReloadState) (l : AdminThread) (e : ReloadEvent) : Decidable (SoleUser s l e) := by
  unfold SoleUser
  split <;> infer_instance

instance {ι : Type*} [DecidableEq ι] [Fintype ι] (p : Pool ι ReloadState AdminThread)
    (label : ι × ReloadEvent) : Decidable (Undisturbed p label) := by
  unfold Undisturbed
  infer_instance

namespace ReloadSample

def key (n : UInt8) : Bytes32 := (Sample.phone n).verifyingKeyBytes Sample.primitives

def id (n : UInt8) : String := hexEncode (key n).bytes

def ownServers : ServerMap := AList.singleton (id 5) (Sample.server 5 ["alice"])

def sharedServers : ServerMap :=
  (AList.singleton (id 6) (Sample.server 6 ["alice"])).insert (id 5)
    (Sample.server 5 ["alice", "bob"])

/-- A daemon that has loaded its directory. -/
def loaded (servers : ServerMap) : ReloadState where
  admin := .initial ⟨some Sample.csk.bytes, some (.servers servers)⟩
  daemon := ⟨servers, some Sample.desktop, some Sample.csk, "desktop", none⟩
  pairings := fun _ ↦ 0

def reads : List ReloadEvent :=
  [.loadKeypair (.ok Sample.desktop), .loadCsk none, .loadServers none]

def installation : List ReloadEvent := [.loadConfig (.ok "desktop"), .install]

def configRequest : List ReloadEvent :=
  [.receive (.saveConfig ⟨36692, "desktop", none, none⟩), .saveToml (.ok ()), .writeOther (.ok ())]

def removalRequest : List ReloadEvent :=
  [.receive (.removeDevice (id 5) "alice"), .loadServers none, .saveServers none]

/-- The phone is removed while the reload of another request is under way. -/
def raced : List (Bool × ReloadEvent) :=
  (configRequest ++ reads).map (Prod.mk false) ++
    (removalRequest ++ reads ++ installation).map (Prod.mk true) ++
    installation.map (Prod.mk false)

/-- The phone is removed after the other request, whose installation comes last. -/
def ordered : List (Bool × ReloadEvent) :=
  configRequest.map (Prod.mk false) ++ removalRequest.map (Prod.mk true) ++
    reads.map (Prod.mk false) ++ (reads ++ installation).map (Prod.mk true) ++
    installation.map (Prod.mk false)

def removal : List (Bool × ReloadEvent) :=
  (removalRequest ++ reads ++ installation).map (Prod.mk true)

def final (servers : ServerMap) (labels : List (Bool × ReloadEvent)) :
    Option (Pool Bool ReloadState AdminThread) :=
  (adminThreads Sample.primitives false).pool.exec (reloadPool (loaded servers)) labels

/-- The removal that a request was answered with. -/
def removedBy : AdminThread → Option (String × String × Nat)
  | .finished answer => answer.removed.map fun r ↦ (r.publicKey, r.username, r.pairings)
  | _ => none

/-- Alice's request on a new connection. -/
def request (daemon : DaemonState) : AuthSession := { Sample.aliceSession with state := daemon }

theorem filed_ownServers : Filed ownServers := by
  have h : Filed ((∅ : ServerMap).insert (hexEncode (key 5).bytes) (Sample.server 5 ["alice"])) :=
    Filed.empty.insert rfl
  rwa [AList.insert_empty] at h

end ReloadSample

/-- A reload that began before the removal is installed after it: memory holds a phone that
the disk does not, and the removed phone authenticates alice.  Alone, the removal of a
phone that bob uses too leaves memory and disk in agreement, and the removed phone still
authenticates alice. -/
theorem removed_phone_authenticates :
    (∃ q, ReloadSample.final ReloadSample.ownServers ReloadSample.raced = some q ∧
      (adminThreads Sample.primitives false).pool.Along
        (fun p label ↦ ReadsSucceed p.shared (p.locals label.1) label.2)
        (reloadPool (ReloadSample.loaded ReloadSample.ownServers)) ReloadSample.raced ∧
      (∀ i, (q.locals i).inProgress = false) ∧
      ReloadSample.removedBy (q.locals true) = some (ReloadSample.id 5, "alice", 0) ∧
      q.shared.pairings (ReloadSample.id 5) = 0 ∧
      q.shared.daemon.pairedServers ≠ q.shared.disk.pairedServers ∧
      CanAuthenticate Sample.primitives q.shared.daemon (ReloadSample.key 5) "alice") ∧
    (∃ q, ReloadSample.final ReloadSample.sharedServers ReloadSample.removal = some q ∧
      (∀ i, (q.locals i).inProgress = false) ∧
      ReloadSample.removedBy (q.locals true) = some (ReloadSample.id 5, "alice", 0) ∧
      q.shared.pairings (ReloadSample.id 5) = 0 ∧
      CanAuthenticate Sample.primitives q.shared.daemon (ReloadSample.key 5) "alice") := by
  constructor
  · have hfinal : (ReloadSample.final ReloadSample.ownServers ReloadSample.raced).map (fun q ↦
        decide ((∀ i, (q.locals i).inProgress = false) ∧
          ReloadSample.removedBy (q.locals true) = some (ReloadSample.id 5, "alice", 0) ∧
          q.shared.pairings (ReloadSample.id 5) = 0 ∧
          ReloadSample.id 5 ∈ q.shared.daemon.pairedServers ∧
          ReloadSample.id 5 ∉ q.shared.disk.pairedServers ∧
          (beginAuthenticate Sample.primitives (ReloadSample.request q.shared.daemon)).trusts
            (ReloadSample.key 5) = true)) = some true := by decide +kernel
    obtain ⟨q, hq, hend⟩ := Option.map_eq_some_iff.mp hfinal
    obtain ⟨hdone, hremoved, hpairings, hmemory, hdisk, htrusts⟩ := of_decide_eq_true hend
    have hservers : q.shared.daemon.pairedServers ≠ q.shared.disk.pairedServers := by
      intro heq
      rw [heq] at hmemory
      exact hdisk hmemory
    exact ⟨q, hq, by decide +kernel, hdone, hremoved, hpairings, hservers, _, rfl, rfl, htrusts⟩
  · have hfinal : (ReloadSample.final ReloadSample.sharedServers ReloadSample.removal).map (fun q ↦
        decide ((∀ i, (q.locals i).inProgress = false) ∧
          ReloadSample.removedBy (q.locals true) = some (ReloadSample.id 5, "alice", 0) ∧
          q.shared.pairings (ReloadSample.id 5) = 0 ∧
          (beginAuthenticate Sample.primitives (ReloadSample.request q.shared.daemon)).trusts
            (ReloadSample.key 5) = true)) = some true := by decide +kernel
    obtain ⟨q, hq, hend⟩ := Option.map_eq_some_iff.mp hfinal
    obtain ⟨hdone, hremoved, hpairings, htrusts⟩ := of_decide_eq_true hend
    exact ⟨q, hq, hdone, hremoved, hpairings, _, rfl, rfl, htrusts⟩

/-- The removal's write comes before the reads of both reloads: whichever is installed
last, the removed phone is gone. -/
theorem daemon_agrees_of_unraced_removal :
    ∃ q, ReloadSample.final ReloadSample.ownServers ReloadSample.ordered = some q ∧
      q.shared.daemon.csk = q.shared.disk.csk ∧
      q.shared.daemon.pairedServers = q.shared.disk.pairedServers ∧
      ¬ CanAuthenticate Sample.primitives q.shared.daemon (ReloadSample.key 5) "alice" := by
  have hfinal : (ReloadSample.final ReloadSample.ownServers ReloadSample.ordered).map (fun q ↦
      decide ((∀ i, (q.locals i).inProgress = false) ∧
        ReloadSample.removedBy (q.locals true) = some (ReloadSample.id 5, "alice", 0) ∧
        q.shared.pairings (ReloadSample.id 5) = 0)) = some true := by decide +kernel
  obtain ⟨q, hq, hend⟩ := Option.map_eq_some_iff.mp hfinal
  obtain ⟨hdone, hremoved, hpairings⟩ := of_decide_eq_true hend
  obtain ⟨hagree, hgone⟩ := daemon_agrees_of_unraced Sample.primitives false
    (s := ReloadSample.loaded ReloadSample.ownServers) ⟨by decide +kernel, rfl⟩
    ReloadSample.filed_ownServers hq (by decide +kernel) (by decide +kernel) (by decide +kernel)
  refine ⟨q, hq, (hagree hdone).1, (hagree hdone).2, ?_⟩
  cases hi : q.locals true with
  | finished answer =>
    rw [hi] at hremoved
    obtain ⟨⟨publicKey, username, pairings⟩, hanswer, hfields⟩ :=
      Option.map_eq_some_iff.mp hremoved
    simp only [Prod.mk.injEq] at hfields
    obtain ⟨rfl, rfl, rfl⟩ := hfields
    exact hgone true answer _ (ReloadSample.key 5) hi hanswer hpairings.symm rfl
  | _ =>
    rw [hi] at hremoved
    cases hremoved

end TapAuth.Daemon
