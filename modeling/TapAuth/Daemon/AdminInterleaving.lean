import TapAuth.Daemon.Admin
import TapAuth.Lib.Pool

/-!
# Interleaved administrative requests

`handle_complete_pairing` and `handle_rotate_csk` hold no lock while they read and
write the state directory, so any number of them interleave.  Here each handler is
cut at its disk reads, its waits for the phone and its disk writes; a pool of
handlers over one state directory runs the pieces in any order.

The state carries, next to the directory, what the result is about and no code
reads: for each stored server the CSK that the pairing that stored it had sent,
every key that has been in the CSK file, and the keys that successful rotations
discarded.

`feed_completePairing` and `feed_rotateCsk` say that a handler nobody interrupts
is the handler of `Admin`.  `keysAgree_of_unraced` is what holds under
interleaving: stored servers and stored CSK agree in every run in which no write
finds that the state it was based on is gone.
-/

namespace TapAuth.Daemon

open Shared

/-- The state directory and its ghosts. -/
structure AdminState where
  disk : Disk
  /-- The CSK that was sent to a stored server by the pairing that stored it. -/
  sentTo : String → Option ClientSymmetricKey
  /-- Every key that has been in the CSK file. -/
  history : List ClientSymmetricKey
  /-- The keys that successful rotations discarded. -/
  discarded : List ClientSymmetricKey

namespace AdminState

/-- The directory at the start: the stored servers have been sent the stored CSK. -/
def initial (d : Disk) : AdminState := ⟨d, fun _ ↦ d.csk, d.csk.toList, []⟩

/-- The directory after a write to the CSK file. -/
def withCskFile (s : AdminState) (d : Disk) : AdminState :=
  { s with disk := d, history := d.csk.toList ++ s.history }

/-- The directory after a write of the servers, whose ghosts come along if the
data reaches the file. -/
def withServersFile (s : AdminState) (fault : Option WriteFault) (d : Disk)
    (sentTo : String → Option ClientSymmetricKey) : AdminState :=
  { s with disk := d, sentTo := if (Disk.writeOutcome fault).2 then sentTo else s.sentTo }

end AdminState

/-- A pairing that is being completed. -/
structure PairingJob where
  active : ActivePairing
  username : String

inductive AdminRequest where
  | completePairing (job : PairingJob)
  | rotateCsk

/-- Where a handler stands, with what it has read. -/
inductive Handler where
  | idle
  | loadingCsk (job : PairingJob)
  | lookingForCskFile (job : PairingJob)
  | sendingCsk (job : PairingJob) (csk : ClientSymmetricKey)
  | awaitingComplete (job : PairingJob) (csk : ClientSymmetricKey)
  | savingCsk (job : PairingJob) (csk : ClientSymmetricKey)
  | loadingServers (job : PairingJob) (csk : ClientSymmetricKey)
  /-- With the servers that were loaded, their ghosts and the entry to add. -/
  | savingServers (job : PairingJob) (csk : ClientSymmetricKey) (servers : ServerMap)
      (sentTo : String → Option ClientSymmetricKey) (entry : PairedServer)
  | clearingServers
  | savingFreshCsk
  | finished (response : AdminResponse)

def Handler.isFinished : Handler → Bool
  | .finished _ => true
  | _ => false

/-- The steps of the handlers, with what the surroundings answer. -/
inductive AdminEvent where
  | receive (request : AdminRequest)
  | loadCsk (fault : Option IoFault)
  | lookForCskFile (generated : Option ClientSymmetricKey)
  | sendCsk (nonce : Option (FixedBytes 12))
  | receiveComplete (frame : Frame)
  | saveCsk (fault : Option WriteFault)
  | loadServers (fault : Option IoFault) (now : Int)
  | saveServers (fault : Option WriteFault)
  | clearServers (fault : Option IoFault)
  | saveFreshCsk (fresh : Option ClientSymmetricKey) (fault : Option WriteFault)

section

variable (P : Primitives)

def PairingJob.serverHex (job : PairingJob) : String := hexEncode job.active.serverPublicKey.bytes

/-- One step of a handler. -/
def handlerStep (s : AdminState) : Handler → AdminEvent → Option (AdminState × Handler)
  | .idle, .receive (.completePairing job) => some (s, .loadingCsk job)
  | .idle, .receive .rotateCsk => some (s, .clearingServers)
  | .loadingCsk job, .loadCsk fault =>
    match s.disk.loadCsk fault with
    | .ok csk => some (s, .sendingCsk job csk)
    | .error .invalidConfig => some (s, .lookingForCskFile job)
    | .error e => some (s, .finished (errResp .error (loadCskFailed e)))
  | .lookingForCskFile job, .lookForCskFile generated =>
    match cskWithoutKey s.disk.hasCskFile generated with
    | .ok csk => some (s, .sendingCsk job csk)
    | .error message => some (s, .finished (errResp .error message))
  | .sendingCsk job csk, .sendCsk nonce =>
    match job.active.session.cskMessage P nonce csk job.username with
    | .ok _ => some (s, .awaitingComplete job csk)
    | .error e => some (s, .finished (finishPairingFailed e))
  | .awaitingComplete job csk, .receiveComplete frame =>
    match job.active.session.receivePairingComplete P frame csk with
    | .ok () => some (s, .savingCsk job csk)
    | .error e => some (s, .finished (finishPairingFailed e))
  | .savingCsk job csk, .saveCsk fault =>
    match s.disk.saveCsk fault csk with
    | (.ok (), d) => some (s.withCskFile d, .loadingServers job csk)
    | (.error e, d) => some (s.withCskFile d, .finished (saveCskFailed e))
  | .loadingServers job csk, .loadServers fault now =>
    match s.disk.loadPairedServers fault with
    | .ok servers =>
      some (s, .savingServers job csk servers s.sentTo
        (newPairedServer job.active job.username now))
    | .error e => some (s, .finished (saveServerFailed e))
  | .savingServers job csk servers sentTo entry, .saveServers fault =>
    let written := s.disk.savePairedServers fault (servers.insert job.serverHex entry)
    let s := s.withServersFile fault written.2 (Function.update sentTo job.serverHex (some csk))
    match written.1 with
    | .ok () => some (s, .finished (completePairingSuccess job.serverHex))
    | .error e => some (s, .finished (saveServerFailed e))
  | .clearingServers, .clearServers fault =>
    -- the result is ignored
    some ({ s with disk := (s.disk.clearPairedServers fault).2 }, .savingFreshCsk)
  | .savingFreshCsk, .saveFreshCsk fresh fault =>
    match s.disk.generateAndSaveCsk fresh fault with
    | (.ok _, d) =>
      some ({ s.withCskFile d with discarded := s.disk.csk.toList ++ s.discarded },
        .finished emptySuccess)
    | (.error e, d) => some (s.withCskFile d, .finished (rotateCskFailed e))
  | _, _ => none

def handlers : Threads AdminState Handler AdminEvent where
  step := handlerStep P

end

/-! ## A handler nobody interrupts -/

/-- The labels of a completed pairing; the handler skips those of the paths it
does not take. -/
def completionEvents (job : PairingJob) (io : CompletionIo) : List AdminEvent :=
  [.receive (.completePairing job), .loadCsk io.loadCsk, .lookForCskFile io.generated,
    .sendCsk io.nonce, .receiveComplete io.complete, .saveCsk io.saveCsk,
    .loadServers io.loadServers io.now, .saveServers io.saveServers]

def rotationEvents (clearFault : Option IoFault) (fresh : Option ClientSymmetricKey)
    (fault : Option WriteFault) : List AdminEvent :=
  [.receive .rotateCsk, .clearServers clearFault, .saveFreshCsk fresh fault]

section

variable {P : Primitives}

@[simp] theorem handlers_step (s : AdminState) (l : Handler) (e : AdminEvent) :
    (handlers P).solo.next (s, l) e = handlerStep P s l e := rfl

/-- A finished handler takes no step. -/
@[simp] theorem feed_finished (s : AdminState) (response : AdminResponse)
    (events : List AdminEvent) :
    (handlers P).solo.feed (s, .finished response) events = (s, .finished response) :=
  Machine.feed_of_stuck _ (fun _ ↦ rfl) events

/-- From the CSK on: what is left of a pairing that has its key. -/
theorem feed_sendingCsk (s : AdminState) (job : PairingJob) (csk : ClientSymmetricKey)
    (io : CompletionIo) (hcsk : pairingCsk s.disk io.loadCsk io.generated = .ok csk) :
    ((handlers P).solo.feed (s, .sendingCsk job csk)
        [.sendCsk io.nonce, .receiveComplete io.complete, .saveCsk io.saveCsk,
          .loadServers io.loadServers io.now, .saveServers io.saveServers]).map
        AdminState.disk id =
      ((completePairing P s.disk job.active job.username io).2,
        .finished (completePairing P s.disk job.active job.username io).1) := by
  simp only [completePairing, hcsk, ClientPairingSession.finishPairing, Machine.feed_cons,
    handlers_step, handlerStep]
  cases hsend : job.active.session.cskMessage P io.nonce csk job.username with
  | error e => simp [bind, Except.bind, handlerStep]
  | ok message =>
    cases hcomplete : job.active.session.receivePairingComplete P io.complete csk with
    | error e => simp [bind, Except.bind, handlerStep, hcomplete]
    | ok u =>
      rcases hsave : s.disk.saveCsk io.saveCsk csk with ⟨e | u, d⟩
      · simp [bind, Except.bind, handlerStep, hcomplete, hsave, AdminState.withCskFile]
      cases hload : d.loadPairedServers io.loadServers with
      | error e =>
        simp [bind, Except.bind, handlerStep, hcomplete, hsave, AdminState.withCskFile,
          Disk.addPairedServer, hload]
      | ok servers =>
        rcases hwrite : d.savePairedServers io.saveServers (servers.insert job.serverHex
          (newPairedServer job.active job.username io.now)) with ⟨e | u, d'⟩
        all_goals
          simp only [PairingJob.serverHex] at hwrite
          simp [bind, Except.bind, handlerStep, hcomplete, hsave, AdminState.withCskFile,
            AdminState.withServersFile, Disk.addPairedServer, hload, PairingJob.serverHex,
            hwrite]

/-- **A pairing that nobody interrupts is the handler of `Admin`.** -/
theorem feed_completePairing (s : AdminState) (job : PairingJob) (io : CompletionIo) :
    ((handlers P).solo.feed (s, .idle) (completionEvents job io)).map AdminState.disk id =
      ((completePairing P s.disk job.active job.username io).2,
        .finished (completePairing P s.disk job.active job.username io).1) := by
  rw [completionEvents, Machine.feed_cons]
  cases hload : s.disk.loadCsk io.loadCsk with
  | ok csk =>
    have hcsk : pairingCsk s.disk io.loadCsk io.generated = .ok csk := by
      simp only [pairingCsk, hload]
    rw [← feed_sendingCsk s job csk io hcsk]
    simp [handlerStep, hload]
  | error e =>
    by_cases he : e = .invalidConfig
    · subst he
      cases hfile : cskWithoutKey s.disk.hasCskFile io.generated with
      | ok csk =>
        have hcsk : pairingCsk s.disk io.loadCsk io.generated = .ok csk := by
          simp only [pairingCsk, hload, hfile]
        rw [← feed_sendingCsk s job csk io hcsk]
        simp [handlerStep, hload, hfile]
      | error message =>
        simp [handlerStep, hload, hfile, completePairing, pairingCsk]
    · have hcsk : pairingCsk s.disk io.loadCsk io.generated = .error (loadCskFailed e) := by
        cases e <;> simp_all [pairingCsk]
      have hfailed : handlerStep P s (.loadingCsk job) (.loadCsk io.loadCsk) =
          some (s, .finished (errResp .error (loadCskFailed e))) := by
        cases e <;> simp_all [handlerStep]
      change ((handlers P).solo.feed (s, .loadingCsk job) _).map AdminState.disk id = _
      rw [Machine.feed_cons, handlers_step, hfailed, Option.getD_some, feed_finished]
      simp [completePairing, hcsk]

/-- **A rotation that nobody interrupts is the handler of `Admin`.** -/
theorem feed_rotateCsk (s : AdminState) (clearFault : Option IoFault)
    (fresh : Option ClientSymmetricKey) (fault : Option WriteFault) :
    ((handlers P).solo.feed (s, .idle) (rotationEvents clearFault fresh fault)).map
        AdminState.disk id =
      ((handleRotateCsk s.disk clearFault fresh fault).2,
        .finished (handleRotateCsk s.disk clearFault fresh fault).1) := by
  rcases hsave : (s.disk.clearPairedServers clearFault).2.generateAndSaveCsk fresh fault with
    ⟨e | csk, d⟩
  all_goals
    simp [rotationEvents, handlerStep, handleRotateCsk, Disk.rotateCsk, hsave,
      AdminState.withCskFile]

end

/-! ## What a step can do -/

/-- The handler has saved its CSK and not yet the server. -/
def Handler.AfterSaveCsk : Handler → Prop
  | .loadingServers _ _ | .savingServers _ _ _ _ _ => True
  | _ => False

/-- Every step of a handler, with what it does to the directory.  Reads, and the
steps that only talk to the phone, are `quiet`. -/
inductive HandlerStep (s : AdminState) : Handler → AdminEvent → AdminState → Handler → Prop where
  | quiet {l l' : Handler} {e : AdminEvent} (hquiet : ¬ l'.AfterSaveCsk) : HandlerStep s l e s l'
  | cskSaved {job : PairingJob} {csk : ClientSymmetricKey} {fault : Option WriteFault} {d : Disk}
      (hsave : s.disk.saveCsk fault csk = (.ok (), d)) :
      HandlerStep s (.savingCsk job csk) (.saveCsk fault) (s.withCskFile d)
        (.loadingServers job csk)
  | cskSaveFailed {job : PairingJob} {csk : ClientSymmetricKey} {fault : Option WriteFault}
      {response : AdminResponse} :
      HandlerStep s (.savingCsk job csk) (.saveCsk fault)
        (s.withCskFile (s.disk.saveCsk fault csk).2) (.finished response)
  | serversLoaded {job : PairingJob} {csk : ClientSymmetricKey} {fault : Option IoFault} {now : Int}
      {entry : PairedServer} :
      HandlerStep s (.loadingServers job csk) (.loadServers fault now) s
        (.savingServers job csk s.disk.pairedServers s.sentTo entry)
  | serversSaved {job : PairingJob} {csk : ClientSymmetricKey} {servers : ServerMap}
      {sentTo : String → Option ClientSymmetricKey} {entry : PairedServer}
      {fault : Option WriteFault} {response : AdminResponse} :
      HandlerStep s (.savingServers job csk servers sentTo entry) (.saveServers fault)
        (s.withServersFile fault
          (s.disk.savePairedServers fault (servers.insert job.serverHex entry)).2
          (Function.update sentTo job.serverHex (some csk)))
        (.finished response)
  | serversCleared {fault : Option IoFault} :
      HandlerStep s .clearingServers (.clearServers fault)
        { s with disk := (s.disk.clearPairedServers fault).2 } .savingFreshCsk
  | rotated {fresh : Option ClientSymmetricKey} {fault : Option WriteFault}
      {csk : ClientSymmetricKey} {d : Disk}
      (hsave : s.disk.generateAndSaveCsk fresh fault = (.ok csk, d)) :
      HandlerStep s .savingFreshCsk (.saveFreshCsk fresh fault)
        { s.withCskFile d with discarded := s.disk.csk.toList ++ s.discarded }
        (.finished emptySuccess)
  | rotateFailed {fresh : Option ClientSymmetricKey} {fault : Option WriteFault}
      {response : AdminResponse} :
      HandlerStep s .savingFreshCsk (.saveFreshCsk fresh fault)
        (s.withCskFile (s.disk.generateAndSaveCsk fresh fault).2) (.finished response)

theorem handlerStep_eq_some {P : Primitives} {s t : AdminState} {l l' : Handler} {e : AdminEvent}
    (h : handlerStep P s l e = some (t, l')) : HandlerStep s l e t l' := by
  unfold handlerStep at h
  split at h
  · cases h; exact .quiet id
  · cases h; exact .quiet id
  · split at h <;> cases h <;> exact .quiet id
  · split at h <;> cases h <;> exact .quiet id
  · split at h <;> cases h <;> exact .quiet id
  · split at h <;> cases h <;> exact .quiet id
  · rename_i job csk fault
    rcases hsave : s.disk.saveCsk fault csk with ⟨e | u, d⟩
    · rw [hsave] at h
      cases h
      rw [show d = (s.disk.saveCsk fault csk).2 by rw [hsave]]
      exact .cskSaveFailed
    · rw [hsave] at h
      cases h
      exact .cskSaved hsave
  · rename_i job csk fault now
    cases hload : s.disk.loadPairedServers fault with
    | error e =>
      rw [hload] at h
      cases h
      exact .quiet id
    | ok servers =>
      rw [hload] at h
      cases h
      rw [Disk.loadPairedServers_eq_ok hload]
      exact .serversLoaded
  · dsimp only at h
    split at h <;> cases h <;> exact .serversSaved
  · cases h; exact .serversCleared
  · rename_i fresh fault
    rcases hsave : s.disk.generateAndSaveCsk fresh fault with ⟨e | csk, d⟩
    · rw [hsave] at h
      cases h
      rw [show d = (s.disk.generateAndSaveCsk fresh fault).2 by rw [hsave]]
      exact .rotateFailed
    · rw [hsave] at h
      cases h
      exact .rotated hsave
  · cases h

/-! ## Stored servers and the stored CSK -/

/-- Every stored server was sent the stored CSK, and no discarded CSK is stored. -/
structure KeysAgree (s : AdminState) : Prop where
  sent : ∀ id ∈ s.disk.pairedServers, ∃ csk, s.disk.csk = some csk ∧ s.sentTo id = some csk
  discarded : ∀ csk ∈ s.discarded, s.disk.csk ≠ some csk

/-- The write is based on what is still there: a pairing writes its CSK where none
is stored or over the same one, it adds its server while its CSK is the stored
one, and a rotation writes its CSK while no server is stored. -/
def unraced (s : AdminState) : Handler → AdminEvent → Bool
  | .savingCsk _ csk, .saveCsk _ => s.disk.csk = none ∨ s.disk.csk = some csk
  | .savingServers _ csk _ _ _, .saveServers _ => s.disk.csk = some csk
  | .savingFreshCsk, .saveFreshCsk _ _ => s.disk.pairedServers.keys = []
  | _, _ => true

/-- The generator does not repeat a key that has been in the CSK file. -/
def freshKey (s : AdminState) : AdminEvent → Bool
  | .saveFreshCsk (some fresh) _ => fresh ∉ s.history
  | _ => true

/-- The invariant of the directory. -/
structure AdminState.Ok (s : AdminState) : Prop extends KeysAgree s where
  current : ∀ csk, s.disk.csk = some csk → csk ∈ s.history
  history : s.disk.csk = none → s.history = []
  discarded_subset : s.discarded ⊆ s.history

/-- What a handler knows between its two writes: its CSK has been stored, and if
it still is, the servers it read were sent that CSK. -/
def Handler.Ok (s : AdminState) : Handler → Prop
  | .loadingServers _ csk => csk ∈ s.history
  | .savingServers _ csk servers sentTo _ =>
    csk ∈ s.history ∧ (s.disk.csk = some csk → ∀ id ∈ servers, sentTo id = some csk)
  | _ => True

theorem Handler.Ok.of_not_afterSaveCsk {s : AdminState} {l : Handler} (h : ¬ l.AfterSaveCsk) :
    l.Ok s := by
  cases l with
  | loadingServers job csk => exact absurd trivial h
  | savingServers job csk servers sentTo entry => exact absurd trivial h
  | _ => trivial

/-- What the steps of others look like: keys are only added to the history, and a
CSK that replaces another has not been stored before. -/
structure AdminState.Evolves (s t : AdminState) : Prop where
  history : s.history ⊆ t.history
  csk : t.disk.csk = s.disk.csk ∨ ∀ csk ∈ s.history, t.disk.csk ≠ some csk

theorem AdminState.Evolves.refl (s : AdminState) : s.Evolves s :=
  ⟨List.Subset.refl _, .inl rfl⟩

theorem Handler.Ok.evolve {s t : AdminState} {l : Handler} (h : l.Ok s) (hst : s.Evolves t) :
    l.Ok t := by
  cases l with
  | loadingServers job csk => exact hst.history h
  | savingServers job csk servers sentTo entry =>
    obtain ⟨hcsk, hservers⟩ := h
    refine ⟨hst.history hcsk, fun hstored ↦ ?_⟩
    rcases hst.csk with hsame | hnew
    · exact hservers (hsame ▸ hstored)
    · exact absurd hstored (hnew csk hcsk)
  | _ => trivial

namespace AdminState.Ok

variable {s : AdminState} {csk : ClientSymmetricKey}

/-- A key that may be written is not discarded. -/
theorem not_discarded (hs : s.Ok) (hcsk : s.disk.csk = none ∨ s.disk.csk = some csk ∨
    (csk ∉ s.history ∧ s.disk.pairedServers.keys = [])) : csk ∉ s.discarded := by
  intro hmem
  rcases hcsk with hnone | hsame | ⟨hnew, -⟩
  · have hin := hs.discarded_subset hmem
    rw [hs.history hnone] at hin
    cases hin
  · exact hs.discarded csk hmem hsame
  · exact hnew (hs.discarded_subset hmem)

/-- A write to the CSK file that fails before the data is there. -/
theorem unwritten (hs : s.Ok) : (s.withCskFile s.disk).Ok ∧ s.Evolves (s.withCskFile s.disk) := by
  have hgrow : s.history ⊆ (s.withCskFile s.disk).history := List.subset_append_right _ _
  refine ⟨⟨⟨hs.sent, hs.discarded⟩, fun k hk ↦ hgrow (hs.current k hk), fun hnone ↦ ?_,
    List.Subset.trans hs.discarded_subset hgrow⟩, hgrow, .inl rfl⟩
  have hnone : s.disk.csk = none := hnone
  simp [AdminState.withCskFile, hnone, hs.history hnone]

/-- A write to the CSK file that finds no key, the same key, or no servers and
brings a new key. -/
theorem written (hs : s.Ok) (hcsk : s.disk.csk = none ∨ s.disk.csk = some csk ∨
      (csk ∉ s.history ∧ s.disk.pairedServers.keys = [])) :
    (s.withCskFile { s.disk with cskFile := some csk.bytes }).Ok ∧
      s.Evolves (s.withCskFile { s.disk with cskFile := some csk.bytes }) := by
  set t := s.withCskFile { s.disk with cskFile := some csk.bytes } with ht
  have hstored : t.disk.csk = some csk := Disk.csk_withCskFile s.disk csk
  have hgrow : s.history ⊆ t.history := List.subset_append_right _ _
  refine ⟨⟨⟨fun id hid ↦ ⟨csk, hstored, ?_⟩, fun k hk hk' ↦ ?_⟩, fun k hk ↦ ?_, fun hnone ↦ ?_,
    List.Subset.trans hs.discarded_subset hgrow⟩, hgrow, ?_⟩
  · have hid : id ∈ s.disk.pairedServers := hid
    obtain ⟨k, hk, hsent⟩ := hs.sent id hid
    rcases hcsk with hnone | hsame | ⟨-, hempty⟩
    · exact absurd (hk.symm.trans hnone) (by simp)
    · rw [hsame] at hk
      cases hk
      exact hsent
    · exact absurd (AList.mem_keys.mp hid) (by simp [hempty])
  · rw [hstored] at hk'
    cases hk'
    exact hs.not_discarded hcsk hk
  · exact List.mem_append_left _ (Option.mem_toList.mpr hk)
  · rw [hstored] at hnone
    cases hnone
  · rw [hstored]
    rcases hcsk with hnone | hsame | ⟨hnew, -⟩
    · right
      rw [hs.history hnone]
      simp
    · exact .inl hsame.symm
    · right
      rintro k hk hk'
      cases hk'
      exact hnew hk

/-- A rotation that succeeds puts the old key among the discarded ones. -/
theorem rotated (hs : s.Ok) (hnew : csk ∉ s.history) (hempty : s.disk.pairedServers.keys = []) :
    ({ s.withCskFile { s.disk with cskFile := some csk.bytes } with
        discarded := s.disk.csk.toList ++ s.discarded } : AdminState).Ok := by
  obtain ⟨hok, -⟩ := hs.written (.inr (.inr ⟨hnew, hempty⟩))
  have hold : s.disk.csk.toList ++ s.discarded ⊆ s.history := by
    intro k hk
    rcases List.mem_append.mp hk with hk | hk
    · exact hs.current k (Option.mem_toList.mp hk)
    · exact hs.discarded_subset hk
  refine ⟨⟨hok.sent, fun k hk hk' ↦ ?_⟩, hok.current, hok.history, fun k hk ↦ ?_⟩
  · have hstored : some csk = some k := (Disk.csk_withCskFile s.disk csk).symm.trans hk'
    cases hstored
    exact hnew (hold hk)
  · exact List.mem_append_right _ (hold hk)

/-- A write of servers that were all sent the stored key. -/
theorem withServersFile (hs : s.Ok) (hcsk : s.disk.csk = some csk) {servers : ServerMap}
    {sentTo : String → Option ClientSymmetricKey} (hsent : ∀ id ∈ servers, sentTo id = some csk)
    (fault : Option WriteFault) :
    (s.withServersFile fault (s.disk.savePairedServers fault servers).2 sentTo).Ok := by
  cases hwritten : (Disk.writeOutcome fault).2 with
  | false =>
    have hsame :
        s.withServersFile fault (s.disk.savePairedServers fault servers).2 sentTo = s := by
      simp [AdminState.withServersFile, Disk.savePairedServers, hwritten]
    rw [hsame]
    exact hs
  | true =>
    have hafter : s.withServersFile fault (s.disk.savePairedServers fault servers).2 sentTo =
        { s with disk := { s.disk with serversFile := some (.servers servers) }, sentTo } := by
      simp [AdminState.withServersFile, Disk.savePairedServers, hwritten]
    rw [hafter]
    exact ⟨⟨fun id hid ↦ ⟨csk, hcsk, hsent id hid⟩, hs.discarded⟩, hs.current, hs.history,
      hs.discarded_subset⟩

theorem cleared (hs : s.Ok) (fault : Option IoFault) :
    ({ s with disk := (s.disk.clearPairedServers fault).2 } : AdminState).Ok := by
  have hcsk := s.disk.csk_clearPairedServers fault
  refine ⟨⟨fun id hid ↦ ?_, fun k hk ↦ ?_⟩, fun k hk ↦ hs.current k (hcsk ▸ hk),
    fun hnone ↦ hs.history (hcsk ▸ hnone), hs.discarded_subset⟩
  · rcases s.disk.pairedServers_clearPairedServers fault with hkept | hgone
    · dsimp only at hid ⊢
      rw [hkept] at hid
      rw [hcsk]
      exact hs.sent id hid
    · dsimp only at hid
      rw [hgone] at hid
      exact absurd hid (AList.notMem_empty id)
  · dsimp only
    rw [hcsk]
    exact hs.discarded k hk

end AdminState.Ok

/-- One step that is not raced keeps the directory's invariant, establishes what
its handler knows next, and is harmless to the others. -/
theorem HandlerStep.ok {s t : AdminState} {l l' : Handler} {e : AdminEvent}
    (h : HandlerStep s l e t l') (hs : s.Ok) (hl : l.Ok s) (hfresh : freshKey s e = true)
    (hunraced : unraced s l e = true) : (t.Ok ∧ l'.Ok t) ∧ s.Evolves t := by
  cases h with
  | quiet hquiet => exact ⟨⟨hs, .of_not_afterSaveCsk hquiet⟩, .refl s⟩
  | @cskSaved job csk fault d hsave =>
    have hcsk : s.disk.csk = none ∨ s.disk.csk = some csk := by simpa [unraced] using hunraced
    obtain rfl := Disk.saveCsk_eq_ok hsave
    obtain ⟨hok, hev⟩ := hs.written (hcsk.imp_right .inl)
    exact ⟨⟨hok, hok.current csk (Disk.csk_withCskFile s.disk csk)⟩, hev⟩
  | @cskSaveFailed job csk fault response =>
    have hcsk : s.disk.csk = none ∨ s.disk.csk = some csk := by simpa [unraced] using hunraced
    rcases s.disk.saveCsk_snd fault csk with hd | hd
    · rw [hd]
      exact ⟨⟨hs.unwritten.1, trivial⟩, hs.unwritten.2⟩
    · obtain ⟨hok, hev⟩ := hs.written (hcsk.imp_right .inl)
      rw [hd]
      exact ⟨⟨hok, trivial⟩, hev⟩
  | @serversLoaded job csk fault now entry =>
    refine ⟨⟨hs, hl, fun hcsk id hid ↦ ?_⟩, .refl s⟩
    obtain ⟨k, hk, hsent⟩ := hs.sent id hid
    rw [hsent, ← hk, hcsk]
  | @serversSaved job csk servers sentTo entry fault response =>
    have hcsk : s.disk.csk = some csk := by simpa [unraced] using hunraced
    have hsent : ∀ id ∈ servers.insert job.serverHex entry,
        Function.update sentTo job.serverHex (some csk) id = some csk := by
      intro id hid
      by_cases hself : id = job.serverHex
      · rw [hself, Function.update_self]
      · rw [Function.update_of_ne hself]
        exact hl.2 hcsk id ((AList.mem_insert servers |>.mp hid).resolve_left hself)
    refine ⟨⟨hs.withServersFile hcsk hsent fault, trivial⟩, List.Subset.refl _, .inl ?_⟩
    simp only [AdminState.withServersFile, Disk.savePairedServers]
    split <;> rfl
  | @serversCleared fault =>
    exact ⟨⟨hs.cleared fault, trivial⟩, List.Subset.refl _,
      .inl (s.disk.csk_clearPairedServers fault)⟩
  | @rotated fresh fault csk d hsave =>
    have hempty : s.disk.pairedServers.keys = [] := by simpa [unraced] using hunraced
    obtain ⟨rfl, rfl⟩ := Disk.generateAndSaveCsk_eq_ok hsave
    have hnew : csk ∉ s.history := by simpa [freshKey] using hfresh
    obtain ⟨-, hev⟩ := hs.written (.inr (.inr ⟨hnew, hempty⟩))
    exact ⟨⟨hs.rotated hnew hempty, trivial⟩, hev.history, hev.csk⟩
  | @rotateFailed fresh fault response =>
    have hempty : s.disk.pairedServers.keys = [] := by simpa [unraced] using hunraced
    rcases s.disk.generateAndSaveCsk_snd fresh fault with hd | ⟨csk, rfl, hd⟩
    · rw [hd]
      exact ⟨⟨hs.unwritten.1, trivial⟩, hs.unwritten.2⟩
    · have hnew : csk ∉ s.history := by simpa [freshKey] using hfresh
      obtain ⟨hok, hev⟩ := hs.written (.inr (.inr ⟨hnew, hempty⟩))
      rw [hd]
      exact ⟨⟨hok, trivial⟩, hev⟩

theorem AdminState.Ok.initial {d : Disk} (hd : d.csk = none → d.pairedServers.keys = []) :
    (AdminState.initial d).Ok := by
  refine ⟨⟨fun id hid ↦ ?_, fun k hk ↦ by cases hk⟩, fun k hk ↦ Option.mem_toList.mpr hk,
    fun hnone ↦ ?_, List.nil_subset _⟩
  · cases hcsk : d.csk with
    | none => exact absurd (AList.mem_keys.mp hid) (by simp [AdminState.initial, hd hcsk])
    | some k => exact ⟨k, hcsk, hcsk⟩
  · have hnone : d.csk = none := hnone
    simp [AdminState.initial, hnone]

section

variable {ι : Type*} [DecidableEq ι]

/-- All handlers idle over a state directory. -/
def adminPool (d : Disk) : Pool ι AdminState Handler := ⟨.initial d, fun _ ↦ .idle⟩

/-- **Interleaved pairings and rotations.**  In every run from a directory that
stores no server without a CSK, with a generator that does not repeat keys, in
which no write is raced, every state reached has its servers and its CSK in
agreement, and no discarded CSK is stored again. -/
theorem keysAgree_of_unraced (P : Primitives) {d : Disk}
    (hd : d.csk = none → d.pairedServers.keys = []) {labels : List (ι × AdminEvent)}
    {q : Pool ι AdminState Handler}
    (hrun : (handlers P).pool.exec (adminPool d) labels = some q)
    (hfresh : (handlers P).pool.Along (fun p label ↦ freshKey p.shared label.2 = true)
      (adminPool d) labels)
    (hunraced : (handlers P).pool.Along
      (fun p label ↦ unraced p.shared (p.locals label.1) label.2 = true) (adminPool d) labels) :
    KeysAgree q.shared := by
  have hstep : ∀ (p : Pool ι AdminState Handler) i e t l, p.shared.Ok → (p.locals i).Ok p.shared →
      freshKey p.shared e = true ∧ unraced p.shared (p.locals i) e = true →
      handlerStep P p.shared (p.locals i) e = some (t, l) →
      (t.Ok ∧ l.Ok t) ∧ p.shared.Evolves t :=
    fun p i e t l hJ hK hG hnext ↦ (handlerStep_eq_some hnext).ok hJ hK hG.1 hG.2
  have hinv := (handlers P).invariant_along (p := adminPool d) (J := AdminState.Ok)
    (K := fun s l ↦ l.Ok s)
    (fun p i e t l hJ hK hG hnext ↦ (hstep p i e t l hJ hK hG hnext).1)
    (fun p i e t l m hJ hK hm hG hnext ↦ hm.evolve (hstep p i e t l hJ hK hG hnext).2)
    (AdminState.Ok.initial hd) (fun _ ↦ trivial) hrun (hfresh.and hunraced)
  exact hinv.1.toKeysAgree

end

namespace PairingSample

def fresh : ClientSymmetricKey := FixedBytes.fill 32 9

def job : PairingJob := ⟨active, "alice"⟩

/-- The directory of a desktop without pairings. -/
def emptyDisk : Disk := ⟨some csk.bytes, none⟩

/-- The pairing's steps up to the phone's confirmation. -/
def untilConfirmed : List AdminEvent :=
  [.receive (.completePairing job), .loadCsk none, .sendCsk io.nonce, .receiveComplete io.complete]

/-- The pairing's writes. -/
def writes : List AdminEvent := [.saveCsk none, .loadServers none 100, .saveServers none]

def rotation : List AdminEvent := rotationEvents none (some fresh) none

/-- A rotation runs while the pairing waits for its phone. -/
def raced : List (Bool × AdminEvent) :=
  untilConfirmed.map (Prod.mk false) ++ rotation.map (Prod.mk true) ++ writes.map (Prod.mk false)

/-- A rotation runs between the pairing's two writes. -/
def racedLater : List (Bool × AdminEvent) :=
  untilConfirmed.map (Prod.mk false) ++ [(false, .saveCsk none)] ++ rotation.map (Prod.mk true) ++
    [(false, .loadServers none 100), (false, .saveServers none)]

/-- The rotation is asked for first and runs when the pairing is done. -/
def orderly : List (Bool × AdminEvent) :=
  (true, .receive .rotateCsk) :: (untilConfirmed.map (Prod.mk false) ++
    writes.map (Prod.mk false) ++
    [(true, .clearServers none), (true, .saveFreshCsk (some fresh) none)])

/-- The state a run of two handlers ends in. -/
def final (labels : List (Bool × AdminEvent)) : Option (Pool Bool AdminState Handler) :=
  (handlers primitives).pool.exec (adminPool emptyDisk) labels

end PairingSample

open PairingSample

/-- A pairing and, when it is done, a rotation. -/
theorem keysAgree_of_unraced_sample :
    ∃ q, final orderly = some q ∧
      q.shared.disk.csk = some fresh ∧ KeysAgree q.shared := by
  obtain ⟨q, hq, hcsk⟩ : ∃ q, final orderly = some q ∧
      q.shared.disk.csk = some fresh := by
    have hfinal : (final orderly).map (·.shared.disk.csk) =
        some (some fresh) := by decide +kernel
    simpa using hfinal
  exact ⟨q, hq, hcsk, keysAgree_of_unraced primitives (by decide +kernel) hq
    (by decide +kernel) (by decide +kernel)⟩

/-- A rotation while a pairing waits for its phone: when both handlers have
finished, the CSK the rotation discarded is stored again.  A rotation between the
pairing's writes: when both have finished, the stored phone was sent a CSK that is
not the stored one. -/
theorem not_keysAgree_of_raced :
    (∃ q, final raced = some q ∧
      (∀ i, (q.locals i).isFinished = true) ∧ csk ∈ q.shared.discarded ∧
      q.shared.disk.csk = some csk ∧ ¬ KeysAgree q.shared) ∧
    (∃ q, final racedLater = some q ∧
      (∀ i, (q.locals i).isFinished = true) ∧
      job.serverHex ∈ q.shared.disk.pairedServers ∧
      q.shared.sentTo job.serverHex = some csk ∧
      q.shared.disk.csk = some fresh ∧ ¬ KeysAgree q.shared) := by
  constructor
  · have hfinal : (final raced).map (fun q ↦
        (decide (∀ i, (q.locals i).isFinished = true),
          decide (csk ∈ q.shared.discarded), q.shared.disk.csk)) =
        some (true, true, some csk) := by decide +kernel
    obtain ⟨q, hq, hend⟩ := Option.map_eq_some_iff.mp hfinal
    simp only [Prod.mk.injEq, decide_eq_true_eq] at hend
    obtain ⟨hfinished, hdiscarded, hcsk⟩ := hend
    exact ⟨q, hq, hfinished, hdiscarded, hcsk, fun h ↦ h.discarded _ hdiscarded hcsk⟩
  · have hfinal : (final racedLater).map (fun q ↦
        (decide (∀ i, (q.locals i).isFinished = true),
          decide (job.serverHex ∈ q.shared.disk.pairedServers),
          q.shared.sentTo job.serverHex, q.shared.disk.csk)) =
        some (true, true, some csk, some fresh) := by decide +kernel
    obtain ⟨q, hq, hend⟩ := Option.map_eq_some_iff.mp hfinal
    simp only [Prod.mk.injEq, decide_eq_true_eq] at hend
    obtain ⟨hfinished, hserver, hsent, hcsk⟩ := hend
    refine ⟨q, hq, hfinished, hserver, hsent, hcsk, fun h ↦ ?_⟩
    obtain ⟨k, hk, hk'⟩ := h.sent _ hserver
    rw [hcsk] at hk
    rw [hsent, ← hk] at hk'
    exact absurd hk' (by decide +kernel)

end TapAuth.Daemon
