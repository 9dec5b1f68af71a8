import TapAuth.Shared.Config
import TapAuth.Lib.Except

/-!
# Rotating the client symmetric key, call by call

`Disk.rotateCsk` says of a write only whether its data reached the file.  A
rotation removes one file and overwrites another, and what it leaves when it fails
depends on which call failed: `fs::write` truncates the key file and can stop after
any number of bytes, and the permissions and the owner are set when the new key is
already there.  Here every call to the operating system has its own answer.

The rotation removes the paired servers first and ignores how that went.
`rotateCsk_clean_iff` says for which answers the rotation is all or nothing.
-/

namespace TapAuth.Shared.Rotation

/-- What a call answers: nothing, or the text of its error. -/
abbrev Answer := Option String

def Answer.toExcept : Answer → Except ConfigError Unit
  | none => .ok ()
  | some text => .error (.io text)

/-- `is_euid_privileged_for_writes` is asked before anything is done. -/
def requirePrivileged (privileged : Bool) : Except ConfigError Unit :=
  if privileged then .ok () else .error .insufficientPermissions

/-- The answers to the calls that set the mode and the owner of a path. -/
structure ProtectCalls where
  metadata : Answer
  setPermissions : Answer
  /-- `is_euid_tapauthd`, asked again before the owner is changed. -/
  euidTapauthd : Bool
  chown : Answer

def ProtectCalls.protect (c : ProtectCalls) : Except ConfigError Unit := do
  c.metadata.toExcept
  c.setPermissions.toExcept
  (if c.euidTapauthd then none else c.chown : Answer).toExcept

structure DirectoryCalls where
  privileged : Bool
  pathExists : Bool
  createDirAll : Answer
  protectCalls : ProtectCalls

def ensureSecureDirectory (c : DirectoryCalls) : Except ConfigError Unit := do
  requirePrivileged c.privileged
  (if c.pathExists then none else c.createDirAll : Answer).toExcept
  c.protectCalls.protect

structure WriteCalls where
  /-- Asked again: the user lookup can answer otherwise. -/
  privileged : Bool
  /-- `fs::write` opens and truncates the file. -/
  openFile : Answer
  /-- The number of bytes in the file when a write fails, and the error. -/
  writeAll : Option (Nat × String)
  protectCalls : ProtectCalls

/-- The result and what the file holds afterwards. -/
def writeSecureFile (c : WriteCalls) (file : Option Bytes) (data : Bytes) :
    Except ConfigError Unit × Option Bytes :=
  match requirePrivileged c.privileged, c.openFile, c.writeAll with
  | .error e, _, _ => (.error e, file)
  | .ok (), some text, _ => (.error (.io text), file)
  | .ok (), none, some (n, text) => (.error (.io text), some (data.take n))
  | .ok (), none, none => (c.protectCalls.protect, some data)

structure SaveCalls where
  directory : DirectoryCalls
  write : WriteCalls

def saveCsk (c : SaveCalls) (d : Disk) (csk : ClientSymmetricKey) :
    Except ConfigError Unit × Disk :=
  match ensureSecureDirectory c.directory with
  | .error e => (.error e, d)
  | .ok () =>
    let (result, cskFile) := writeSecureFile c.write d.cskFile csk.bytes
    (result, { d with cskFile })

def generateAndSaveCsk (c : SaveCalls) (fresh : Option ClientSymmetricKey) (d : Disk) :
    Except ConfigError ClientSymmetricKey × Disk :=
  match fresh with
  | none => (.error (.crypto .randomGenerationFailed), d)
  | some csk =>
    let (result, d) := saveCsk c d csk
    (result.map fun _ ↦ csk, d)

structure ClearCalls where
  /-- Whether `exists` can look: it answers false when the metadata cannot be read. -/
  statOk : Bool
  removeFile : Answer

def clearPairedServers (c : ClearCalls) (d : Disk) : Except ConfigError Unit × Disk :=
  if d.serversFile.isSome ∧ c.statOk then
    match c.removeFile with
    | some text => (.error (.io text), d)
    | none => (.ok (), { d with serversFile := none })
  else (.ok (), d)

structure Calls where
  clear : ClearCalls
  /-- The key of the system's generator, if it answers. -/
  fresh : Option ClientSymmetricKey
  save : SaveCalls

def rotateCsk (c : Calls) (d : Disk) : Except ConfigError ClientSymmetricKey × Disk :=
  generateAndSaveCsk c.save c.fresh (clearPairedServers c.clear d).2

/-! ## What each part can leave behind -/

/-- Whether the file of the paired servers is really removed, if there is one. -/
def ClearCalls.removes (c : ClearCalls) : Prop := c.statOk = true ∧ c.removeFile = none

variable {c : ClearCalls} {e : ConfigError}

theorem clearPairedServers_of_removes (h : c.removes) (d : Disk) :
    (clearPairedServers c d).2 = { d with serversFile := none } := by
  obtain ⟨hstat, hremove⟩ := h
  rcases d with ⟨cskFile, _ | file⟩
  · simp [clearPairedServers]
  · simp [clearPairedServers, hstat, hremove]

theorem clearPairedServers_of_not_removes (h : ¬ c.removes) (d : Disk) :
    (clearPairedServers c d).2 = d := by
  unfold clearPairedServers
  split
  next hsee =>
    cases hremove : c.removeFile with
    | none => exact absurd ⟨hsee.2, hremove⟩ h
    | some text => rfl
  · rfl

/-- The calls that come before the key file is opened, and the opening. -/
def SaveCalls.beforeWrite (c : SaveCalls) : Except ConfigError Unit := do
  ensureSecureDirectory c.directory
  requirePrivileged c.write.privileged
  c.write.openFile.toExcept

/-- What a save leaves in the key file once the file is open. -/
def SaveCalls.written (c : SaveCalls) (csk : ClientSymmetricKey) : Bytes :=
  match c.write.writeAll with
  | some (n, _) => csk.bytes.take n
  | none => csk.bytes

/-- How the calls after the opening end. -/
def SaveCalls.afterOpen (c : SaveCalls) : Except ConfigError Unit :=
  match c.write.writeAll with
  | some (_, text) => .error (.io text)
  | none => c.write.protectCalls.protect

/-- A save fails with the key file untouched, or opens it and writes. -/
theorem saveCsk_eq (c : SaveCalls) (d : Disk) (csk : ClientSymmetricKey) :
    saveCsk c d csk =
      match c.beforeWrite with
      | .error e => (.error e, d)
      | .ok () => (c.afterOpen, { d with cskFile := some (c.written csk) }) := by
  unfold saveCsk SaveCalls.beforeWrite
  cases ensureSecureDirectory c.directory with
  | error e => rfl
  | ok _ =>
    unfold writeSecureFile SaveCalls.afterOpen SaveCalls.written
    cases requirePrivileged c.write.privileged with
    | error e => rfl
    | ok _ =>
      cases c.write.openFile with
      | some text => rfl
      | none => rcases c.write.writeAll with _ | ⟨n, text⟩ <;> rfl

/-- Whether every call of a save succeeds. -/
def SaveCalls.succeeds (c : SaveCalls) : Prop := c.beforeWrite = .ok () ∧ c.afterOpen = .ok ()

theorem SaveCalls.written_of_afterOpen {c : SaveCalls} (h : c.afterOpen = .ok ())
    (csk : ClientSymmetricKey) : c.written csk = csk.bytes := by
  unfold afterOpen at h
  unfold written
  rcases hw : c.write.writeAll with _ | ⟨n, text⟩
  · rfl
  · rw [hw] at h
    cases h

/-! ## The coarser model

Without a torn write the rotation is that of `Disk`, for the faults these answers make. -/

/-- The errors that the operating system can cause. -/
def Caused (e : ConfigError) : Prop := ∃ fault : IoFault, e = fault.toConfigError

theorem Answer.caused_of_toExcept {a : Answer} (h : a.toExcept = .error e) :
    Caused e := by
  cases a with
  | none => cases h
  | some text =>
    cases h
    exact ⟨.io text, rfl⟩

theorem caused_of_requirePrivileged {privileged : Bool}
    (h : requirePrivileged privileged = .error e) : Caused e := by
  cases privileged with
  | true => cases h
  | false =>
    cases h
    exact ⟨.insufficientPermissions, rfl⟩

theorem ProtectCalls.caused_of_protect {c : ProtectCalls} (h : c.protect = .error e) :
    Caused e := by
  obtain hmeta | ⟨_, -, h⟩ := Except.bind_eq_error_iff.mp h
  · exact Answer.caused_of_toExcept hmeta
  obtain hperm | ⟨_, -, howner⟩ := Except.bind_eq_error_iff.mp h
  · exact Answer.caused_of_toExcept hperm
  · exact Answer.caused_of_toExcept howner

theorem caused_of_ensureSecureDirectory {c : DirectoryCalls}
    (h : ensureSecureDirectory c = .error e) : Caused e := by
  obtain hpriv | ⟨_, -, h⟩ := Except.bind_eq_error_iff.mp h
  · exact caused_of_requirePrivileged hpriv
  obtain hcreate | ⟨_, -, hprotect⟩ := Except.bind_eq_error_iff.mp h
  · exact Answer.caused_of_toExcept hcreate
  · exact ProtectCalls.caused_of_protect hprotect

theorem SaveCalls.caused_of_beforeWrite {c : SaveCalls} (h : c.beforeWrite = .error e) :
    Caused e := by
  obtain hdir | ⟨_, -, h⟩ := Except.bind_eq_error_iff.mp h
  · exact caused_of_ensureSecureDirectory hdir
  obtain hpriv | ⟨_, -, hopen⟩ := Except.bind_eq_error_iff.mp h
  · exact caused_of_requirePrivileged hpriv
  · exact Answer.caused_of_toExcept hopen

/-- A save without a torn write is the coarse one for some fault. -/
theorem exists_saveCsk_eq {c : SaveCalls} (hwrite : c.write.writeAll = none) (d : Disk)
    (csk : ClientSymmetricKey) : ∃ fault, saveCsk c d csk = d.saveCsk fault csk := by
  have hafter : c.afterOpen = c.write.protectCalls.protect := by simp [SaveCalls.afterOpen, hwrite]
  have hwritten : c.written csk = csk.bytes := by simp [SaveCalls.written, hwrite]
  rw [saveCsk_eq, hafter, hwritten]
  cases hbefore : c.beforeWrite with
  | error e =>
    obtain ⟨fault, rfl⟩ := SaveCalls.caused_of_beforeWrite hbefore
    exact ⟨some (.before fault), rfl⟩
  | ok _ =>
    cases hprotect : c.write.protectCalls.protect with
    | error e =>
      obtain ⟨fault, rfl⟩ := ProtectCalls.caused_of_protect hprotect
      exact ⟨some (.after fault), rfl⟩
    | ok _ => exact ⟨none, rfl⟩

theorem exists_clearPairedServers_eq (c : ClearCalls) (d : Disk) :
    ∃ fault, (clearPairedServers c d).2 = (d.clearPairedServers fault).2 := by
  by_cases h : c.removes
  · refine ⟨none, ?_⟩
    rw [clearPairedServers_of_removes h]
    rcases d with ⟨cskFile, _ | file⟩ <;> rfl
  · refine ⟨some .insufficientPermissions, ?_⟩
    rw [clearPairedServers_of_not_removes h]
    rcases d with ⟨cskFile, _ | file⟩ <;> rfl

/-- A rotation without a torn write is the coarse one for some faults. -/
theorem exists_rotateCsk_eq {c : Calls} (hwrite : c.save.write.writeAll = none) (d : Disk) :
    ∃ clearFault fault, rotateCsk c d = d.rotateCsk clearFault c.fresh fault := by
  obtain ⟨clearFault, hclear⟩ := exists_clearPairedServers_eq c.clear d
  unfold rotateCsk Disk.rotateCsk generateAndSaveCsk Disk.generateAndSaveCsk
  rw [hclear]
  cases c.fresh with
  | none => exact ⟨clearFault, none, rfl⟩
  | some csk =>
    obtain ⟨fault, hsave⟩ := exists_saveCsk_eq hwrite (d.clearPairedServers clearFault).2 csk
    refine ⟨clearFault, fault, ?_⟩
    simp only [hsave]
    rcases (d.clearPairedServers clearFault).2.saveCsk fault csk with ⟨_ | _, d'⟩ <;> rfl

/-! ## All or nothing -/

/-- A rotation as a caller wants it: when it succeeds no paired server is stored and the key
that it returns is a fresh one and is stored; when it fails both files are as before. -/
def Clean (d : Disk) (fresh : Option ClientSymmetricKey) :
    Except ConfigError ClientSymmetricKey × Disk → Prop
  | (.ok csk, d') => d'.pairedServers = ∅ ∧ fresh = some csk ∧ d'.csk = some csk
  | (.error _, d') => d' = d

/-- Whether the removal takes nothing away: there is no file, or it stays. -/
def ClearCalls.spares (c : ClearCalls) (d : Disk) : Prop :=
  d.serversFile = none ∨ ¬ c.removes

/-- The answers for which a rotation of this store is all or nothing.  When the save goes
through, the removal must have; when it does not, nothing must have been removed, and the
save must have failed before the key file was opened or have left there what it held. -/
def Calls.Harmless (c : Calls) (d : Disk) : Prop :=
  match c.fresh with
  | none => c.clear.spares d
  | some csk =>
    (c.save.succeeds → d.pairedServers = ∅ ∨ c.clear.removes) ∧
    (¬ c.save.succeeds → c.clear.spares d ∧
      (c.save.beforeWrite = .ok () → d.cskFile = some (c.save.written csk)))

theorem clearPairedServers_eq_self_iff {d : Disk} :
    (clearPairedServers c d).2 = d ↔ c.spares d := by
  by_cases h : c.removes
  · rw [clearPairedServers_of_removes h]
    constructor
    · intro heq
      exact .inl (congrArg Disk.serversFile heq).symm
    · rintro (hnone | hkeep)
      · cases d
        cases hnone
        rfl
      · exact absurd h hkeep
  · exact ⟨fun _ ↦ .inr h, fun _ ↦ clearPairedServers_of_not_removes h d⟩

theorem pairedServers_clearPairedServers_eq_empty_iff {d : Disk} :
    (clearPairedServers c d).2.pairedServers = ∅ ↔ d.pairedServers = ∅ ∨ c.removes := by
  by_cases h : c.removes
  · rw [clearPairedServers_of_removes h]
    exact iff_of_true rfl (.inr h)
  · rw [clearPairedServers_of_not_removes h]
    exact ⟨.inl, fun h' ↦ h'.resolve_right h⟩

/-- Clearing the servers does not touch the key file. -/
@[simp] theorem cskFile_clearPairedServers (c : ClearCalls) (d : Disk) :
    (clearPairedServers c d).2.cskFile = d.cskFile := by
  by_cases h : c.removes
  · rw [clearPairedServers_of_removes h]
  · rw [clearPairedServers_of_not_removes h]

/-- A store in which a key was written is the old one if nothing was removed and the file
held these bytes. -/
theorem withCskFile_eq_self_iff {d : Disk} {data : Bytes} :
    { (clearPairedServers c d).2 with cskFile := some data } = d ↔
      c.spares d ∧ d.cskFile = some data := by
  rw [← clearPairedServers_eq_self_iff]
  have hkeep := cskFile_clearPairedServers c d
  generalize (clearPairedServers c d).2 = cleared at hkeep ⊢
  constructor
  · rintro rfl
    obtain ⟨cskFile, serversFile⟩ := cleared
    cases hkeep
    exact ⟨rfl, rfl⟩
  · rintro ⟨rfl, hfile⟩
    rw [← hfile]

/-- A rotation is all or nothing exactly for harmless answers. -/
theorem rotateCsk_clean_iff (c : Calls) (d : Disk) :
    Clean d c.fresh (rotateCsk c d) ↔ c.Harmless d := by
  unfold rotateCsk generateAndSaveCsk Calls.Harmless
  cases hfresh : c.fresh with
  | none => exact clearPairedServers_eq_self_iff
  | some csk =>
    simp only [saveCsk_eq]
    cases hbefore : c.save.beforeWrite with
    | error e =>
      -- the key file was not opened, so only the removal can have left a trace
      have hfails : ¬ c.save.succeeds := fun h ↦ nomatch hbefore.symm.trans h.1
      simp only [hfails, false_implies, true_and, not_false_eq_true, true_implies,
        reduceCtorEq, and_true]
      exact clearPairedServers_eq_self_iff
    | ok _ =>
      cases hafter : c.save.afterOpen with
      | error e =>
        have hfails : ¬ c.save.succeeds := fun h ↦ nomatch hafter.symm.trans h.2
        simp only [hfails, false_implies, true_and, not_false_eq_true, true_implies]
        exact withCskFile_eq_self_iff
      | ok _ =>
        have hsucceeds : c.save.succeeds := ⟨hbefore, hafter⟩
        simp only [hsucceeds, true_implies, not_true_eq_false, false_implies, and_true]
        rw [← pairedServers_clearPairedServers_eq_empty_iff,
          SaveCalls.written_of_afterOpen hafter]
        constructor
        · intro h
          exact h.1
        · intro h
          exact ⟨h, rfl, Disk.csk_withCskFile _ csk⟩

/-- One paired phone and a stored key. -/
def paired : Disk where
  cskFile := some (FixedBytes.fill 32 1).bytes
  serversFile := some (.servers (AList.insert "phone"
    { name := "phone", publicKey := "", allowedUsers := ["alice"], pairedAt := 0 } ∅))

/-- The answers of a rotation in which every call succeeds. -/
def working : Calls where
  clear := { statOk := true, removeFile := none }
  fresh := some (FixedBytes.fill 32 7)
  save :=
    { directory :=
        { privileged := true, pathExists := true, createDirAll := none, protectCalls := untroubled }
      write :=
        { privileged := true, openFile := none, writeAll := none, protectCalls := untroubled } }
where
  untroubled :=
    { metadata := none, setPermissions := none, euidTapauthd := true, chown := none }

/-- The file of the paired servers cannot be removed. -/
def undeletable : Calls :=
  { working with clear := { statOk := true, removeFile := some "Operation not permitted" } }

/-- The disk is full after ten bytes of the new key. -/
def diskFull : Calls :=
  { working with save :=
      { working.save with write :=
          { working.save.write with writeAll := some (10, "No space left on device") } } }

/-- A rotation can succeed and leave the phone paired, and it can fail with the phone and both
keys gone. -/
theorem rotateCsk_not_clean :
    ¬ Clean paired undeletable.fresh (rotateCsk undeletable paired) ∧
      ¬ Clean paired diskFull.fresh (rotateCsk diskFull paired) := by
  constructor
  · intro h
    have hempty : (rotateCsk undeletable paired).2.pairedServers = ∅ := h.1
    exact absurd (congrArg AList.keys hempty) (by decide)
  · intro h
    have hsame : (rotateCsk diskFull paired).2 = paired := h
    exact absurd (congrArg (·.serversFile.isSome) hsame) (by decide)

end TapAuth.Shared.Rotation
