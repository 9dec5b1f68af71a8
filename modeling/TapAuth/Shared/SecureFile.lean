import TapAuth.Lib.CallSequence
import TapAuth.Lib.Codec
import TapAuth.Lib.Except
import TapAuth.Shared.Config

/-!
# Secure files, call by call

`write_secure_file` truncates the file it is about to replace, appends the data, and sets
the mode and the owner afterwards; `read_secure_file` refuses a file whose mode or owner is
not one it trusts.  Here a file has a mode and an owner besides its content, and a write is
the sequence of its calls to the system, each appended byte a call of its own, so that it
can be cut off anywhere.

The client symmetric key, the Ed25519 key and the map of paired servers are kept in such
files.  `interrupted_save_iff` says which interruptions of a save leave the old value or the
new one.  The later load runs as the same user as the save.
-/

namespace TapAuth.Shared

open CallSequence

/-- A file.  Of the mode only the permission bits matter. -/
structure Inode where
  content : Bytes
  mode : BitVec 9
  owner : UInt32
  deriving DecidableEq

/-- What the functions learn about the machine. -/
structure Host where
  /-- The uid of the user `tapauthd`, if there is one. -/
  tapauthdUid : Option UInt32
  /-- A build for development that runs with `TAPAUTH_STATE_DIR`. -/
  stateDirOverride : Bool
  deriving DecidableEq

/-- The user a process runs as, and the bits that its new files do not get. -/
structure Identity where
  euid : UInt32
  umask : BitVec 9
  deriving DecidableEq

namespace Host

variable (host : Host)

def isEuidTapauthd (p : Identity) : Bool := host.tapauthdUid = some p.euid

def isEuidPrivilegedForWrites (p : Identity) : Bool :=
  host.stateDirOverride || host.isEuidTapauthd p || p.euid = 0

/-- The owner that `chown_to_tapauthd` gives a file, if it changes the owner. -/
def chownToTapauthd (p : Identity) : Option UInt32 :=
  if host.stateDirOverride then none
  else if p.euid ≠ 0 then none
  else host.tapauthdUid

/-- `write_secure_file` does not ask for the change when it runs as `tapauthd`. -/
def newOwner (p : Identity) : Option UInt32 :=
  if host.isEuidTapauthd p then none else host.chownToTapauthd p

/-- The owners that `read_secure_file` trusts. -/
def ownerOk (p : Identity) (owner : UInt32) : Bool :=
  owner = 0 || host.tapauthdUid = some owner || (host.stateDirOverride && owner = p.euid)

end Host

/-- The system lets only root and the owner read a file of mode 0600 or 0400, or change the
mode of any file. -/
def Identity.isRootOr (p : Identity) (owner : UInt32) : Bool := p.euid = 0 || p.euid = owner

/-- The modes that `read_secure_file` accepts. -/
def modeOk (mode : BitVec 9) : Bool := mode = 0o600 || mode = 0o400

def readSecureFile (host : Host) (p : Identity) (f : Inode) : Except ConfigError Bytes :=
  if ¬ host.ownerOk p f.owner then .error .insufficientPermissions
  else if ¬ modeOk f.mode then .error .insufficientPermissions
  else if ¬ p.isRootOr f.owner then .error (.io "Permission denied (os error 13)")
  else .ok f.content

/-! ## The calls of a write -/

/-- What a save asks of the system, and its own check of the user. -/
inductive FileCall where
  | ensureSecureDirectory
  | requirePrivileged
  | create
  | append (byte : UInt8)
  | metadata
  | setPermissions (mode : BitVec 9)
  | chown (uid : UInt32)
  deriving DecidableEq

/-- A file that is opened for writing is empty.  One that was there keeps its mode and its
owner, a new one belongs to the process. -/
def createdFile (p : Identity) : Option Inode → Inode
  | some f => { f with content := [] }
  | none => ⟨[], 0o666 &&& ~~~p.umask, p.euid⟩

def noSuchFile : ConfigError := .io "No such file or directory (os error 2)"

/-- A call on the file of a save.  The directory itself is not modelled. -/
def FileCall.step (host : Host) (p : Identity) :
    FileCall → Option Inode → Except ConfigError (Option Inode)
  | .ensureSecureDirectory, file | .requirePrivileged, file =>
    if host.isEuidPrivilegedForWrites p then .ok file else .error .insufficientPermissions
  | .create, file => .ok (some (createdFile p file))
  | .append byte, some f => .ok (some { f with content := f.content ++ [byte] })
  | .metadata, some f => .ok (some f)
  | .setPermissions mode, some f =>
    if p.isRootOr f.owner then .ok (some { f with mode })
    else .error (.io "Operation not permitted (os error 1)")
  | .chown uid, some f => .ok (some { f with owner := uid })
  | .append _, none | .metadata, none | .setPermissions _, none | .chown _, none =>
    .error noSuchFile

/-- What `write_secure_file` does after the data is in the file. -/
def protectCalls (host : Host) (p : Identity) : List FileCall :=
  [.metadata, .setPermissions 0o600] ++ (host.newOwner p).toList.map .chown

def writeCalls (host : Host) (p : Identity) (data : Bytes) : List FileCall :=
  [.requirePrivileged, .create] ++ data.map .append ++ protectCalls host p

def saveCalls (host : Host) (p : Identity) (data : Bytes) : List FileCall :=
  .ensureSecureDirectory :: writeCalls host p data

/-! ## The files of the state directory -/

/-- A value kept in a file: its bytes, what a load makes of the bytes, and what it answers
without the file. -/
structure SecureFile (α : Type) where
  encode : α → Bytes
  decode : Bytes → Except ConfigError α
  absent : Except ConfigError α
  decode_encode : ∀ a, decode (encode a) = .ok a
  /-- Nothing that is only the beginning of a value reads as one. -/
  decode_take : ∀ a n b, n < (encode a).length → decode ((encode a).take n) ≠ .ok b

namespace SecureFile

variable {α : Type} (f : SecureFile α)

def load (host : Host) (p : Identity) : Option Inode → Except ConfigError α
  | none => f.absent
  | some inode => (readSecureFile host p inode).bind f.decode

/-- A save that is cut off after some of its calls; the result is none if the process
stopped. -/
def save (host : Host) (p : Identity) (file : Option Inode) (value : α)
    (i : Interruption ConfigError) :
    Option (Except ConfigError Unit) × Option Inode :=
  interrupted (FileCall.step host p) (saveCalls host p (f.encode value)) i file

end SecureFile

/-- The check of the length that both key files get. -/
def keyOfBytes {α : Type} (key : Bytes32 → α) (data : Bytes) : Except ConfigError α :=
  match FixedBytes.ofBytes 32 data with
  | none => .error .invalidConfig
  | some bytes => .ok (key bytes)

theorem keyOfBytes_bytes {α : Type} (key : Bytes32 → α) (b : Bytes32) :
    keyOfBytes key b.bytes = .ok (key b) := by
  simp [keyOfBytes]

theorem keyOfBytes_take {α : Type} (key : Bytes32 → α) {data : Bytes} {n : Nat} (b : α)
    (hdata : data.length = 32) (hn : n < data.length) : keyOfBytes key (data.take n) ≠ .ok b := by
  have hlength : (data.take n).length ≠ 32 := by
    rw [List.length_take]
    omega
  rw [keyOfBytes, FixedBytes.ofBytes, dif_neg hlength]
  nofun

/-- `client_symmetric_key`, with `save_csk` and `load_csk`. -/
def cskFile : SecureFile ClientSymmetricKey where
  encode csk := csk.bytes
  decode := keyOfBytes id
  absent := .error .invalidConfig
  decode_encode csk := keyOfBytes_bytes id csk
  decode_take csk _ b hn := keyOfBytes_take id b csk.length_bytes hn

/-- `client_key`, with `save_keypair` and `load_keypair` without a TPM. -/
def clientKeyFile : SecureFile Ed25519KeyPair where
  encode keypair := keypair.signingKeyBytes.bytes
  decode := keyOfBytes Ed25519KeyPair.mk
  absent := .error .invalidConfig
  decode_encode keypair := keyOfBytes_bytes Ed25519KeyPair.mk keypair.signingKeyBytes
  decode_take keypair _ b hn :=
    keyOfBytes_take Ed25519KeyPair.mk b keypair.signingKeyBytes.length_bytes hn

/-- How the map of paired servers is spelled.  An object ends with its closing brace, and
so no beginning of it can be read. -/
structure ServersJson extends Format ServerMap where
  decode_take : ∀ servers n other, n < (encode servers).length →
    decode ((encode servers).take n) ≠ .ok other

/-- `paired_servers.json`, with `save_paired_servers` and `load_paired_servers`. -/
def pairedServersFile (J : ServersJson) : SecureFile ServerMap where
  encode := J.encode
  decode data := (J.decode data).mapError .serialization
  absent := .ok ∅
  decode_encode servers := by rw [J.decode_encode]; rfl
  decode_take servers n other hn h :=
    J.decode_take servers n other hn (Except.mapError_eq_ok_iff.mp h)

/-! ## Who can read a file -/

/-- The owner is trusted, and lets the process read. -/
def OwnerReadable (host : Host) (p : Identity) (owner : UInt32) : Prop :=
  host.ownerOk p owner = true ∧ p.isRootOr owner = true

theorem readSecureFile_eq_ok {host : Host} {p : Identity} {f : Inode} {data : Bytes} :
    readSecureFile host p f = .ok data ↔
      (OwnerReadable host p f.owner ∧ modeOk f.mode = true) ∧ f.content = data := by
  unfold readSecureFile OwnerReadable
  split
  · simp_all
  · split
    · simp_all
    · split <;> simp_all

theorem SecureFile.load_some {α : Type} {f : SecureFile α} {host : Host} {p : Identity}
    {inode : Inode} {a : α} : f.load host p (some inode) = .ok a ↔
      (OwnerReadable host p inode.owner ∧ modeOk inode.mode = true) ∧
        f.decode inode.content = .ok a := by
  have hbind := Except.bind_eq_ok_iff (x := readSecureFile host p inode) (f := f.decode) (b := a)
  refine hbind.trans ?_
  simp only [readSecureFile_eq_ok]
  constructor
  · rintro ⟨data, ⟨hreadable, rfl⟩, hdecode⟩
    exact ⟨hreadable, hdecode⟩
  · rintro ⟨hreadable, hdecode⟩
    exact ⟨_, ⟨hreadable, rfl⟩, hdecode⟩

section

variable {host : Host} {p : Identity}

/-- Whoever may write can read what belongs to them. -/
theorem ownerReadable_euid (h : host.isEuidPrivilegedForWrites p = true) :
    OwnerReadable host p p.euid := by
  simp only [Host.isEuidPrivilegedForWrites, Host.isEuidTapauthd, Bool.or_eq_true,
    decide_eq_true_eq] at h
  refine ⟨?_, by simp [Identity.isRootOr]⟩
  rcases h with (hoverride | htapauthd) | hroot
  · simp [Host.ownerOk, hoverride]
  · simp [Host.ownerOk, htapauthd]
  · simp [Host.ownerOk, hroot]

/-- Root gives a file to `tapauthd` and can still read it. -/
theorem ownerReadable_newOwner {uid : UInt32} (h : host.newOwner p = some uid) :
    OwnerReadable host p uid := by
  unfold Host.newOwner Host.chownToTapauthd at h
  split at h
  · cases h
  · split at h
    · cases h
    · split at h
      · cases h
      · rename_i hroot
        exact ⟨by simp [Host.ownerOk, h], by simp [Identity.isRootOr, not_not.mp hroot]⟩

/-! ## What is left after some of the calls -/

/-- The file is opened once three calls are made. -/
theorem run_opening (h : host.isEuidPrivilegedForWrites p = true) (file : Option Inode) :
    run (FileCall.step host p) [.ensureSecureDirectory, .requirePrivileged, .create]
      file = (.ok (), some (createdFile p file)) := by
  simp [run, FileCall.step, h]

theorem run_appends (data : Bytes) (f : Inode) :
    run (FileCall.step host p) (data.map .append) (some f) =
      (.ok (), some { f with content := f.content ++ data }) := by
  induction data generalizing f with
  | nil => simp
  | cons byte data ih =>
    rw [List.map_cons, run_cons_of_ok rfl, ih]
    simp

theorem saveCalls_eq (host : Host) (p : Identity) (data : Bytes) :
    saveCalls host p data = [.ensureSecureDirectory, .requirePrivileged, .create] ++
      (data.map .append ++ protectCalls host p) := by
  simp [saveCalls, writeCalls]

theorem ensureSecureDirectory_denied (h : host.isEuidPrivilegedForWrites p = false)
    (file : Option Inode) :
    FileCall.step host p .ensureSecureDirectory file = .error .insufficientPermissions := by
  simp [FileCall.step, h]

/-- A process that may not write stops at the first call. -/
theorem left_of_not_privileged (h : host.isEuidPrivilegedForWrites p = false) (data : Bytes)
    (k : Nat) (file : Option Inode) :
    (run (FileCall.step host p) ((saveCalls host p data).take k) file).2 = file := by
  cases k with
  | zero => rfl
  | succ k =>
    rw [saveCalls, List.take_succ_cons,
      run_cons_of_error (ensureSecureDirectory_denied h file)]

theorem left_of_unopened {k : Nat} (hk : k ≤ 2) (data : Bytes) (file : Option Inode) :
    (run (FileCall.step host p) ((saveCalls host p data).take k) file).2 = file := by
  cases h : host.isEuidPrivilegedForWrites p with
  | false => exact left_of_not_privileged h data k file
  | true =>
    rw [saveCalls_eq, List.take_append_of_le_length (Nat.le_succ_of_le hk)]
    obtain rfl | rfl | rfl : k = 0 ∨ k = 1 ∨ k = 2 := by omega
    · rfl
    · simp [run, FileCall.step, h]
    · simp [run, FileCall.step, h]

/-- The calls after the opening, from the file it leaves. -/
theorem left_of_opened (h : host.isEuidPrivilegedForWrites p = true) (data : Bytes) (n : Nat)
    (file : Option Inode) :
    run (FileCall.step host p) ((saveCalls host p data).take (3 + n)) file =
      run (FileCall.step host p)
        ((data.map FileCall.append ++ protectCalls host p).take n) (some (createdFile p file)) := by
  rw [saveCalls_eq]
  exact (congrArg (run _ · file) (List.take_length_add_append n)).trans
    (run_append (run_opening h file) _)

theorem left_of_torn (h : host.isEuidPrivilegedForWrites p = true) {data : Bytes} {n : Nat}
    (hn : n ≤ data.length) (file : Option Inode) :
    (run (FileCall.step host p) ((saveCalls host p data).take (3 + n)) file).2 =
      some { createdFile p file with content := data.take n } := by
  rw [left_of_opened h, List.take_append_of_le_length (by simpa using hn), ← List.map_take,
    run_appends]
  cases file <;> rfl

/-- Once the data is written, only the mode and the owner are left to be set. -/
theorem left_of_written (h : host.isEuidPrivilegedForWrites p = true) (data : Bytes) (j : Nat)
    (file : Option Inode) :
    run (FileCall.step host p)
        ((saveCalls host p data).take (3 + (data.length + j))) file =
      run (FileCall.step host p) ((protectCalls host p).take j)
        (some { createdFile p file with content := data }) := by
  have htake : (data.map FileCall.append ++ protectCalls host p).take (data.length + j) =
      data.map .append ++ (protectCalls host p).take j := by
    rw [← data.length_map (f := FileCall.append)]
    exact List.take_length_add_append j
  rw [left_of_opened h, htake, run_append (run_appends data _)]
  cases file <;> rfl

theorem run_protect_of_lt {j : Nat} (hj : j < 2) (f : Inode) :
    (run (FileCall.step host p) ((protectCalls host p).take j) (some f)).2 =
      some f := by
  obtain rfl | rfl : j = 0 ∨ j = 1 := by omega
  · rfl
  · rfl

/-- Once the mode is set, the file has it, and the owner it had or the new one. -/
theorem run_protect_of_le (host : Host) {j : Nat} (hj : 2 ≤ j) {f : Inode}
    (hroot : p.isRootOr f.owner = true) :
    ∃ owner, (owner = f.owner ∨ host.newOwner p = some owner) ∧
      (run (FileCall.step host p) ((protectCalls host p).take j) (some f)).2 =
        some { f with mode := 0o600, owner } := by
  obtain ⟨j, rfl⟩ := Nat.exists_eq_add_of_le' hj
  have hset : run (FileCall.step host p)
      ((protectCalls host p).take (j + 2)) (some f) =
      run (FileCall.step host p) (((host.newOwner p).toList.map .chown).take j)
        (some { f with mode := 0o600 }) := by
    simp [protectCalls, run, FileCall.step, hroot]
  rw [hset]
  cases howner : host.newOwner p with
  | none => exact ⟨f.owner, .inl rfl, by simp⟩
  | some uid =>
    cases j with
    | zero => exact ⟨f.owner, .inl rfl, by simp⟩
    | succ j => exact ⟨uid, .inr rfl, by simp [run, FileCall.step]⟩

end

/-! ## All or nothing -/

/-- Whether the file is opened with a mode that a load accepts: the one it had, or for a new
file what the process's mask leaves of 0666. -/
def opensPrivate (p : Identity) (file : Option Inode) : Bool :=
  file.isSome || modeOk (0o666 &&& ~~~p.umask)

/-- The interruptions of a save of `data` that do no harm: the file has not been opened yet
(two calls come before), or all of the data is in it and, unless it was opened private, its
mode has been set too (by the second call after the data). -/
def HarmlessAfter (host : Host) (p : Identity) (file : Option Inode) (data : Bytes) (k : Nat) :
    Prop :=
  host.isEuidPrivilegedForWrites p = false ∨ k ≤ 2 ∨
    (3 + data.length ≤ k ∧ (opensPrivate p file = true ∨ 3 + data.length + 2 ≤ k))

instance (host : Host) (p : Identity) (file : Option Inode) (data : Bytes) (k : Nat) :
    Decidable (HarmlessAfter host p file data k) :=
  inferInstanceAs (Decidable (_ ∨ _ ∨ _ ∧ (_ ∨ _)))

namespace SecureFile

variable {α : Type} {f : SecureFile α} {host : Host} {p : Identity} {file : Option Inode}
  {old : α}

/-- The opened file belongs to someone the process can read from. -/
theorem ownerReadable_created (hprivileged : host.isEuidPrivilegedForWrites p = true)
    (hold : f.load host p file = .ok old) : OwnerReadable host p (createdFile p file).owner := by
  cases file with
  | none => exact ownerReadable_euid hprivileged
  | some inode => exact (load_some.mp hold).1.1

theorem modeOk_created_iff (hold : f.load host p file = .ok old) :
    modeOk (createdFile p file).mode = true ↔ opensPrivate p file = true := by
  cases file with
  | none => simp [createdFile, opensPrivate]
  | some inode => simp [createdFile, opensPrivate, (load_some.mp hold).1.2]

/-- A load of a beginning of a value fails. -/
theorem load_ne_ok_of_torn {inode : Inode} {new : α} {n : Nat} (hn : n < (f.encode new).length)
    (hcontent : inode.content = (f.encode new).take n) (a : α) :
    f.load host p (some inode) ≠ .ok a := by
  intro h
  have hdecode := (load_some.mp h).2
  rw [hcontent] at hdecode
  exact f.decode_take new n a hn hdecode

/-- A file with all of a value reads as nothing but the value, if it can be read. -/
theorem load_of_written {inode : Inode} {new : α} (hcontent : inode.content = f.encode new) :
    (f.load host p (some inode) = .ok old ∨ f.load host p (some inode) = .ok new) ↔
      OwnerReadable host p inode.owner ∧ modeOk inode.mode = true := by
  simp only [load_some, hcontent, f.decode_encode]
  constructor
  · rintro (h | h) <;> exact h.1
  · exact fun h ↦ .inr ⟨h, trivial⟩

/-- After the data, the file can be read if it was opened private or its mode is set. -/
theorem load_of_protected (hprivileged : host.isEuidPrivilegedForWrites p = true)
    (hold : f.load host p file = .ok old) (new : α) (j : Nat) :
    (f.load host p (run (FileCall.step host p) ((protectCalls host p).take j)
          (some { createdFile p file with content := f.encode new })).2 = .ok old ∨
        f.load host p (run (FileCall.step host p) ((protectCalls host p).take j)
          (some { createdFile p file with content := f.encode new })).2 = .ok new) ↔
      opensPrivate p file = true ∨ 2 ≤ j := by
  have howner := ownerReadable_created hprivileged hold
  by_cases hj : 2 ≤ j
  · obtain ⟨owner, hcases, hleft⟩ := run_protect_of_le host hj
      (f := { createdFile p file with content := f.encode new }) howner.2
    have hreadable : OwnerReadable host p owner := by
      rcases hcases with rfl | hnew
      · exact howner
      · exact ownerReadable_newOwner hnew
    rw [hleft, load_of_written rfl]
    exact ⟨fun _ ↦ .inr hj, fun _ ↦ ⟨hreadable, rfl⟩⟩
  · rw [run_protect_of_lt (Nat.lt_of_not_le hj), load_of_written rfl]
    simp only [← modeOk_created_iff hold, howner, hj, true_and, or_false]

/-- After a save of `new` over `old` that was interrupted, a load gives one of them. -/
def AllOrNothing (f : SecureFile α) (host : Host) (p : Identity) (file : Option Inode)
    (old new : α) (i : Interruption ConfigError) : Prop :=
  f.load host p (f.save host p file new i).2 = .ok old ∨
    f.load host p (f.save host p file new i).2 = .ok new

/-- What a later load answers, for an interruption anywhere. -/
theorem allOrNothing_iff (hold : f.load host p file = .ok old) (new : α)
    (i : Interruption ConfigError) :
    f.AllOrNothing host p file old new i ↔
      HarmlessAfter host p file (f.encode new) i.after := by
  rw [AllOrNothing, save, interrupted_snd]
  obtain ⟨k, failure⟩ := i
  cases hprivileged : host.isEuidPrivilegedForWrites p with
  | false => simp [left_of_not_privileged hprivileged, hold, HarmlessAfter, hprivileged]
  | true =>
    simp only [HarmlessAfter, hprivileged, Bool.true_eq_false, false_or]
    obtain hk | hk | hk : k ≤ 2 ∨ (2 < k ∧ k < 3 + (f.encode new).length) ∨
        3 + (f.encode new).length ≤ k := by omega
    · -- not opened
      simp [left_of_unopened hk, hold, hk]
    · -- opened, with a beginning of the data
      obtain ⟨n, rfl⟩ := Nat.exists_eq_add_of_le hk.1
      have hn : n < (f.encode new).length := by omega
      rw [left_of_torn hprivileged hn.le]
      refine iff_of_false ?_ (by omega)
      rintro (h | h) <;> exact load_ne_ok_of_torn hn rfl _ h
    · -- with all of it
      obtain ⟨j, rfl⟩ := Nat.exists_eq_add_of_le hk
      rw [Nat.add_assoc, left_of_written hprivileged, load_of_protected hprivileged hold]
      have hopened : ¬ 3 + (f.encode new).length + j ≤ 2 := by omega
      simp only [hopened, false_or, ← Nat.add_assoc, hk, true_and, Nat.add_le_add_iff_left]

end SecureFile

/-- **Saves that are cut off.**  For each of the three files, whatever it holds and whatever
is saved, and wherever the process stops or a call fails: a later load gives the complete old
or the complete new value exactly if the interruption is harmless. -/
theorem interrupted_save_iff (J : ServersJson) (host : Host) (p : Identity)
    (i : Interruption ConfigError) :
    (∀ file old new, cskFile.load host p file = .ok old →
      (cskFile.AllOrNothing host p file old new i ↔
        HarmlessAfter host p file new.bytes i.after)) ∧
    (∀ file old new, (pairedServersFile J).load host p file = .ok old →
      ((pairedServersFile J).AllOrNothing host p file old new i ↔
        HarmlessAfter host p file (J.encode new) i.after)) ∧
    (∀ file old new, clientKeyFile.load host p file = .ok old →
      (clientKeyFile.AllOrNothing host p file old new i ↔
        HarmlessAfter host p file new.signingKeyBytes.bytes i.after)) := by
  refine ⟨?_, ?_, ?_⟩
  · intro file old new hold
    exact SecureFile.allOrNothing_iff hold new i
  · intro file old new hold
    exact SecureFile.allOrNothing_iff hold new i
  · intro file old new hold
    exact SecureFile.allOrNothing_iff hold new i

namespace SecureFileSample

/-- Bytes with a mark before each of them and another at the end. -/
def mark : Bytes → Bytes
  | [] => [0]
  | b :: bs => 1 :: b :: mark bs

def unmark : Bytes → Except String Bytes
  | [0] => .ok []
  | 1 :: b :: bs => (unmark bs).map (b :: ·)
  | _ => .error "EOF while parsing an object"

theorem unmark_mark (b : Bytes) : unmark (mark b) = .ok b := by
  induction b with
  | nil => rfl
  | cons x b ih =>
    rw [mark, unmark, ih]
    rfl

theorem unmark_take_mark (b c : Bytes) {n : Nat} (hn : n < (mark b).length) :
    unmark ((mark b).take n) ≠ .ok c := by
  induction b generalizing c n with
  | nil =>
    obtain rfl : n = 0 := Nat.lt_one_iff.mp hn
    nofun
  | cons x b ih =>
    match n with
    | 0 => nofun
    | 1 => nofun
    | n + 2 =>
      have hrest : n < (mark b).length := by simpa [mark] using hn
      intro h
      rw [mark, List.take_succ_cons, List.take_succ_cons, unmark] at h
      cases hunmark : unmark ((mark b).take n) with
      | error e =>
        rw [hunmark] at h
        cases h
      | ok bs => exact ih bs hrest hunmark

def int : Codec Int :=
  (Codec.sum (.list .unit) (.list .unit)).map
    (fun | .inl l => l.length | .inr l => .negSucc l.length)
    (fun | .ofNat n => .inl (.replicate n ()) | .negSucc n => .inr (.replicate n ()))
    (fun n ↦ by cases n <;> simp)

def server : Codec PairedServer :=
  (Codec.prod .string (.prod .string (.prod (.list .string) int))).map
    (fun (name, publicKey, allowedUsers, pairedAt) ↦ ⟨name, publicKey, allowedUsers, pairedAt⟩)
    (fun s ↦ (s.name, s.publicKey, s.allowedUsers, s.pairedAt))
    (fun _ ↦ rfl)

def servers : Codec ServerMap := Codec.alist .string server

/-- A spelling of the map that ends with a mark of its own. -/
def json : ServersJson where
  encode map := mark (servers.encode map)
  decode b := (unmark b).bind servers.decode
  decode_encode map := by
    rw [unmark_mark]
    exact servers.format.decode_encode map
  decode_take map n other hn h := by
    cases hunmark : unmark ((mark (servers.encode map)).take n) with
    | error e =>
      rw [hunmark] at h
      cases h
    | ok b => exact unmark_take_mark _ b hn hunmark

def host : Host := ⟨some 990, false⟩

/-- The daemon. -/
def tapauthd : Identity := ⟨990, 0o022⟩

def oldKey : ClientSymmetricKey := FixedBytes.fill 32 1

def newKey : ClientSymmetricKey := FixedBytes.fill 32 2

def stored : Option Inode := some ⟨oldKey.bytes, 0o600, 990⟩

/-- The process stops after `k` calls. -/
def stopAfter (k : Nat) : Interruption ConfigError := ⟨k, none⟩

end SecureFileSample

open SecureFileSample

/-- The key is in the file when the owner is not yet changed. -/
theorem interrupted_save_sample :
    HarmlessAfter host tapauthd stored
        newKey.bytes 36 ∧
      cskFile.AllOrNothing host tapauthd stored
        oldKey newKey (stopAfter 36) := by
  have hharmless : HarmlessAfter host tapauthd
      stored newKey.bytes 36 := by decide
  refine ⟨hharmless, ?_⟩
  exact ((interrupted_save_iff json _ _ _).1 _ _ _ (by decide)).mpr hharmless

/-- A process that stops between the truncation and the first byte leaves neither key: the
file is empty, and a load reports an invalid configuration. -/
theorem csk_lost_by_truncation :
    cskFile.load host tapauthd stored =
        .ok oldKey ∧
      cskFile.load host tapauthd
          (cskFile.save host tapauthd stored
            newKey (stopAfter 3)).2 = .error .invalidConfig ∧
      ¬ cskFile.AllOrNothing host tapauthd
          stored oldKey newKey
          (stopAfter 3) := by
  have hload : cskFile.load host tapauthd
      (cskFile.save host tapauthd stored
        newKey (stopAfter 3)).2 = .error .invalidConfig := by
    decide
  refine ⟨by decide, hload, ?_⟩
  rw [SecureFile.AllOrNothing, hload]
  rintro (h | h) <;> cases h

end TapAuth.Shared
