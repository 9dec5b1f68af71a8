import TapAuth.Shared.SecureFile
import TapAuth.Shared.TomlConfig

/-!
# Where the Ed25519 key is kept

`save_keypair` and `load_keypair` keep the key in a file, or seal it with the TPM if the
build has the feature and the configuration asks for it.  The functions of `tpm.rs` get one
path, `client_key.tpm`, and derive the names of the files they use by changing its extension.

`keypair_round_trip_iff` says when a key that was saved can be loaded again.
-/

namespace TapAuth.Shared

open CallSequence

/-- The state directory by the names of its files. -/
abbrev Directory := AList fun _ : String ↦ Inode

def Directory.file (dir : Directory) (name : String) : Option Inode := dir.lookup name

/-- `fs::write`, or what another program writes as the same user. -/
def Directory.write (dir : Directory) (p : Identity) (name : String) (content : Bytes) :
    Directory :=
  dir.insert name { createdFile p (dir.file name) with content }

/-- `let _ = fs::remove_file`, which may not succeed. -/
def Directory.remove (dir : Directory) (name : String) (removed : Bool) : Directory :=
  if removed then dir.erase name else dir

/-- `Path::file_stem`: the name up to its last dot, if anything comes before that. -/
def fileStem (name : String) : String :=
  let stem := ((name.toList.reverse.dropWhile (· ≠ '.')).drop 1).reverse
  if stem = [] then name else String.ofList stem

/-- `Path::with_extension`. -/
def withExtension (name extension : String) : String := fileStem name ++ "." ++ extension

/-- The policy to seal the key with, if the build has the TPM feature and the configuration
asks for it. -/
def TapAuthConfig.sealing (config : TapAuthConfig) : Option TpmPcrPolicy :=
  config.tpm.bind fun tpm ↦ if tpm.useTpm then some tpm.tpmPcrPolicy else none

/-- The programs of tpm2-tools, by what they write or complain about. -/
structure TpmTools where
  /-- `tpm2_getrandom --help` succeeds. -/
  available : Bool
  /-- The public and the private part that `tpm2_create` makes of a secret. -/
  tpm2Create : Bytes → String → Bytes × Bytes
  /-- The context that `tpm2_load` makes of the two parts, where there are files. -/
  tpm2Load : Option Bytes → Option Bytes → Except String Bytes
  /-- The secret that `tpm2_unseal` finds in a context. -/
  tpm2Unseal : Bytes → Except String Bytes
  unseal_create : ∀ secret pcrs, ∃ context,
    tpm2Load (some (tpm2Create secret pcrs).1) (some (tpm2Create secret pcrs).2) = .ok context ∧
      tpm2Unseal context = .ok secret

inductive TpmKeyError where
  | notAvailable
  | keyNotFound
  | invalidKeyFormat
  | operationFailed (text : String)
  | io (text : String)
  deriving DecidableEq, Repr

def TpmKeyError.display : TpmKeyError → String
  | .notAvailable => "TPM not available"
  | .keyNotFound => "Key not found"
  | .invalidKeyFormat => "Invalid key format"
  | .operationFailed text => "Operation failed: " ++ text
  | .io text => "IO error: " ++ text

/-- How sealing fails. -/
inductive SealFault where
  | createInput (text : String)
  /-- With the bytes that are in the file by then. -/
  | writeInput (written : Nat) (text : String)
  | spawn (text : String)
  | status (stderr : String)
  deriving DecidableEq

/-- `seal_data_with_tpm`.  The file with the secret is removed at the end, which can fail
unnoticed. -/
def sealDataWithTpm (tools : TpmTools) (p : Identity) (fault : Option SealFault)
    (inputRemoved : Bool) (data : Bytes) (outputPath pcrList : String) (dir : Directory) :
    Except TpmKeyError Unit × Directory :=
  let tempInput := withExtension outputPath "tmp_in"
  match fault with
  | some (.createInput text) => (.error (.io text), dir)
  | some (.writeInput n text) => (.error (.io text), dir.write p tempInput (data.take n))
  | some (.spawn text) =>
    (.error (.operationFailed ("Failed to run tpm2_create: " ++ text)),
      (dir.write p tempInput data).remove tempInput inputRemoved)
  | some (.status stderr) =>
    (.error (.operationFailed ("tpm2_create failed: " ++ stderr)),
      (dir.write p tempInput data).remove tempInput inputRemoved)
  | none =>
    let parts := tools.tpm2Create data pcrList
    let dir := (dir.write p tempInput data).write p (withExtension outputPath "pub") parts.1
    let dir := dir.write p (withExtension outputPath "priv") parts.2
    (.ok (), dir.remove tempInput inputRemoved)

/-- `unseal_data_with_tpm`, through a context file and an output file that go again. -/
def unsealDataWithTpm (tools : TpmTools) (sealedPath : String) (dir : Directory) :
    Except TpmKeyError Bytes × Directory :=
  let tempOutput := withExtension sealedPath "tmp_out"
  let context := withExtension tempOutput "ctx"
  let content (name : String) := (dir.file name).map Inode.content
  match tools.tpm2Load (content (withExtension sealedPath "pub"))
      (content (withExtension sealedPath "priv")) with
  | .error stderr => (.error (.operationFailed ("tpm2_load failed: " ++ stderr)), dir)
  | .ok loaded =>
    match tools.tpm2Unseal loaded with
    | .error stderr =>
      (.error (.operationFailed ("tpm2_unseal failed: " ++ stderr)), dir.erase context)
    | .ok data => (.ok data, (dir.erase tempOutput).erase context)

def loadSealedKeypair (tools : TpmTools) (sealedKeyPath : String) (dir : Directory) :
    Except TpmKeyError Ed25519KeyPair × Directory :=
  if ¬ tools.available then (.error .notAvailable, dir)
  else if (dir.file sealedKeyPath).isNone then (.error .keyNotFound, dir)
  else
    match unsealDataWithTpm tools sealedKeyPath dir with
    | (.error e, dir) => (.error e, dir)
    | (.ok privateBytes, dir) =>
      match FixedBytes.ofBytes 32 privateBytes with
      | none => (.error .invalidKeyFormat, dir)
      | some keyBytes => (.ok ⟨keyBytes⟩, dir)

def clientKeyName : String := "client_key"

def tpmKeyPath : String := clientKeyName ++ ".tpm"

section

variable (host : Host) (tools : TpmTools) (config : TapAuthConfig) (p : Identity)

def loadKeypair (dir : Directory) : Except ConfigError Ed25519KeyPair × Directory :=
  match config.sealing with
  | some _ =>
    if (dir.file (withExtension tpmKeyPath "pub")).isNone then
      (.error (.io ("TPM enabled but no TPM-sealed key found. " ++
        "Use tapauth-config GUI to regenerate keys.")), dir)
    else
      match loadSealedKeypair tools tpmKeyPath dir with
      | (.ok keypair, dir) => (.ok keypair, dir)
      | (.error e, dir) =>
        (.error (.io ("Failed to unseal key from TPM: " ++ e.display ++
          ". Use tapauth-config GUI to recover.")), dir)
  | none => (clientKeyFile.load host p (dir.file clientKeyName), dir)

/-- How the calls of a save go. -/
structure SaveKeypairCalls where
  /-- For the file. -/
  write : Interruption ConfigError
  /-- For the TPM: the failure of `ensure_secure_directory`, and the rest. -/
  init : Option ConfigError
  sealFault : Option SealFault
  inputRemoved : Bool

/-- The result is none if the process stops. -/
def saveKeypair (calls : SaveKeypairCalls) (dir : Directory) (keypair : Ed25519KeyPair) :
    Option (Except ConfigError Unit) × Directory :=
  match config.sealing with
  | some policy =>
    if ¬ host.isEuidPrivilegedForWrites p then (some (.error .insufficientPermissions), dir)
    else
      match calls.init with
      | some e => (some (.error e), dir)
      | none =>
        if ¬ tools.available then
          (some (.error (.io "TPM enabled in config but tpm2-tools not available")), dir)
        else
          match sealDataWithTpm tools p calls.sealFault calls.inputRemoved
              keypair.signingKeyBytes.bytes tpmKeyPath policy.pcrList dir with
          | (.ok (), dir) => (some (.ok ()), dir)
          | (.error e, dir) =>
            (some (.error (.io ("Failed to seal key with TPM: " ++ e.display))), dir)
  | none =>
    match clientKeyFile.save host p (dir.file clientKeyName) keypair calls.write with
    | (result, none) => (result, dir)
    | (result, some inode) => (result, dir.insert clientKeyName inode)

end

/-! ## The names -/

theorem withExtension_pub : withExtension tpmKeyPath "pub" = "client_key.pub" := by decide

theorem withExtension_priv : withExtension tpmKeyPath "priv" = "client_key.priv" := by decide

theorem withExtension_tmp_in : withExtension tpmKeyPath "tmp_in" = "client_key.tmp_in" := by
  decide

theorem tpmKeyPath_eq : tpmKeyPath = "client_key.tpm" := by decide

theorem Directory.file_write (dir : Directory) (p : Identity) (name : String) (content : Bytes)
    (name' : String) : (dir.write p name content).file name' =
      if name' = name then some { createdFile p (dir.file name) with content }
      else dir.file name' := by
  split
  next h => rw [h, file, write, AList.lookup_insert]
  next h => exact AList.lookup_insert_ne h

theorem Directory.file_remove_ne {dir : Directory} {name name' : String} (h : name' ≠ name)
    (removed : Bool) : (dir.remove name removed).file name' = dir.file name' := by
  cases removed with
  | false => rfl
  | true => exact AList.lookup_erase_ne h

/-! ## The key in a file -/

section

variable {host : Host} {tools : TpmTools} {config : TapAuthConfig} {p : Identity}

theorem run_protectCalls (content : Bytes) (mode : BitVec 9) {owner : UInt32}
    (hroot : p.isRootOr owner = true) :
    run (FileCall.step host p) (protectCalls host p) (some ⟨content, mode, owner⟩) =
      (.ok (), some ⟨content, 0o600, (host.newOwner p).getD owner⟩) := by
  cases howner : host.newOwner p <;>
    simp [protectCalls, run, FileCall.step, hroot, howner]

theorem run_protectCalls_of_not_root (content : Bytes) (mode : BitVec 9) {owner : UInt32}
    (hroot : p.isRootOr owner = false) :
    run (FileCall.step host p) (protectCalls host p) (some ⟨content, mode, owner⟩) =
      (.error (.io "Operation not permitted (os error 1)"), some ⟨content, mode, owner⟩) := by
  simp [protectCalls, run, FileCall.step, hroot]

variable {data : Bytes} {keypair : Ed25519KeyPair} {dir dir' : Directory}
  {calls : SaveKeypairCalls} {policy : TpmPcrPolicy}

/-- A write that succeeds was made by someone who may write, and who may set the mode of the
file. -/
theorem run_saveCalls_eq_ok {file t : Option Inode}
    (h : run (FileCall.step host p) (saveCalls host p data) file = (.ok (), t)) :
    host.isEuidPrivilegedForWrites p = true ∧ p.isRootOr (createdFile p file).owner = true ∧
      t = some ⟨data, 0o600, (host.newOwner p).getD (createdFile p file).owner⟩ := by
  cases hprivileged : host.isEuidPrivilegedForWrites p with
  | false =>
    rw [saveCalls,
      run_cons_of_error (ensureSecureDirectory_denied hprivileged file)] at h
    cases h
  | true =>
    rw [saveCalls_eq, run_append (run_opening hprivileged file),
      run_append (run_appends data _)] at h
    cases hroot : p.isRootOr (createdFile p file).owner with
    | false =>
      rw [run_protectCalls_of_not_root _ _ hroot] at h
      cases h
    | true =>
      rw [run_protectCalls _ _ hroot] at h
      have hempty : (createdFile p file).content = [] := by cases file <;> rfl
      cases h
      simp [hempty]

/-- The owner that the file has after the save is one that the load trusts. -/
theorem ownerReadable_after_iff {file : Option Inode}
    (hprivileged : host.isEuidPrivilegedForWrites p = true)
    (hroot : p.isRootOr (createdFile p file).owner = true) :
    OwnerReadable host p ((host.newOwner p).getD (createdFile p file).owner) ↔
      (host.newOwner p).isSome = true ∨ ∀ inode ∈ file, host.ownerOk p inode.owner = true := by
  cases hnew : host.newOwner p with
  | some uid => simp [ownerReadable_newOwner hnew]
  | none =>
    cases file with
    | none => simpa [createdFile] using ownerReadable_euid hprivileged
    | some inode => simpa [createdFile, OwnerReadable] using fun _ ↦ hroot

/-- A key that is saved to a file and loaded again. -/
theorem load_save_file_iff (hfile : config.sealing = none)
    (h : saveKeypair host tools config p calls dir keypair = (some (.ok ()), dir')) :
    (loadKeypair host tools config p dir').1 = .ok keypair ↔
      (host.newOwner p).isSome = true ∨
        ∀ inode ∈ dir.file clientKeyName, host.ownerOk p inode.owner = true := by
  rw [saveKeypair, hfile] at h
  rcases hsave : clientKeyFile.save host p (dir.file clientKeyName) keypair calls.write with
    ⟨result, t⟩
  have hresult : result = some (.ok ()) := by
    rw [hsave] at h
    cases t <;> cases h <;> rfl
  subst hresult
  obtain ⟨hprivileged, hroot, rfl⟩ :=
    run_saveCalls_eq_ok (run_eq_of_interrupted_ok hsave)
  rw [hsave] at h
  cases h
  rw [loadKeypair, hfile, ← ownerReadable_after_iff hprivileged hroot]
  simp only [Directory.file, AList.lookup_insert, SecureFile.load_some]
  constructor
  · rintro ⟨⟨howner, -⟩, -⟩
    exact howner
  · intro howner
    exact ⟨⟨howner, rfl⟩, clientKeyFile.decode_encode keypair⟩

/-! ## The sealed key -/

/-- What a seal leaves of the files that matter later. -/
theorem file_of_sealed {inputRemoved : Bool} {pcrs : String} {fault : Option SealFault}
    (h : sealDataWithTpm tools p fault inputRemoved data tpmKeyPath pcrs dir = (.ok (), dir')) :
    (dir'.file "client_key.pub").map Inode.content = some (tools.tpm2Create data pcrs).1 ∧
      (dir'.file "client_key.priv").map Inode.content = some (tools.tpm2Create data pcrs).2 ∧
      dir'.file "client_key.tpm" = dir.file "client_key.tpm" := by
  unfold sealDataWithTpm at h
  rw [withExtension_pub, withExtension_priv, withExtension_tmp_in] at h
  rcases fault with - | (text | ⟨n, text⟩ | text | text)
  · cases h
    rw [Directory.file_remove_ne (by decide), Directory.file_remove_ne (by decide),
      Directory.file_remove_ne (by decide)]
    simp [Directory.file_write]
  all_goals cases h

/-- The parts of a sealed key unseal to it. -/
theorem unseal_of_sealed {pcrs : String} {dir : Directory}
    (hpub : (dir.file "client_key.pub").map Inode.content =
      some (tools.tpm2Create data pcrs).1)
    (hpriv : (dir.file "client_key.priv").map Inode.content =
      some (tools.tpm2Create data pcrs).2) :
    (unsealDataWithTpm tools tpmKeyPath dir).1 = .ok data := by
  obtain ⟨context, hload, hunseal⟩ := tools.unseal_create data pcrs
  simp only [unsealDataWithTpm, withExtension_pub, withExtension_priv, hpub, hpriv, hload, hunseal]

/-- A save that succeeds in sealing mode has sealed the key. -/
theorem sealed_of_saveKeypair (hseals : config.sealing = some policy)
    (h : saveKeypair host tools config p calls dir keypair = (some (.ok ()), dir')) :
    tools.available = true ∧
      sealDataWithTpm tools p calls.sealFault calls.inputRemoved keypair.signingKeyBytes.bytes
        tpmKeyPath policy.pcrList dir = (.ok (), dir') := by
  rw [saveKeypair, hseals] at h
  simp only at h
  split at h
  · cases h
  · split at h
    · cases h
    · split at h
      · cases h
      · rename_i havailable
        split at h
        · rename_i dir₁ hsealed
          cases h
          exact ⟨not_not.mp havailable, hsealed⟩
        · cases h

/-- The load finds the sealed parts, and then asks for a file under the path itself. -/
theorem loadSealedKeypair_iff {dir : Directory} (havailable : tools.available = true)
    (hunseal : (unsealDataWithTpm tools tpmKeyPath dir).1 = .ok keypair.signingKeyBytes.bytes) :
    (loadSealedKeypair tools tpmKeyPath dir).1 = .ok keypair ↔
      (dir.file tpmKeyPath).isSome = true := by
  rw [loadSealedKeypair, if_neg (not_not.mpr havailable)]
  cases hfile : dir.file tpmKeyPath with
  | none => simp
  | some inode =>
    rcases hunsealed : unsealDataWithTpm tools tpmKeyPath dir with ⟨result, dir₁⟩
    rw [hunsealed] at hunseal
    obtain rfl : result = .ok keypair.signingKeyBytes.bytes := hunseal
    simp only [Option.isNone_some, Bool.false_eq_true, if_false, Option.isSome_some,
      FixedBytes.ofBytes_bytes]

theorem load_save_sealed_iff (hseals : config.sealing = some policy)
    (h : saveKeypair host tools config p calls dir keypair = (some (.ok ()), dir')) :
    (loadKeypair host tools config p dir').1 = .ok keypair ↔
      (dir.file tpmKeyPath).isSome = true := by
  obtain ⟨havailable, hsealed⟩ := sealed_of_saveKeypair hseals h
  obtain ⟨hpub, hpriv, htpm⟩ := file_of_sealed hsealed
  have hload := loadSealedKeypair_iff havailable (unseal_of_sealed hpub hpriv)
  have hpresent : ¬ (dir'.file (withExtension tpmKeyPath "pub")).isNone = true := by
    rw [withExtension_pub]
    cases hfile : dir'.file "client_key.pub" with
    | none => simp [hfile] at hpub
    | some inode => simp
  rw [← tpmKeyPath_eq] at htpm
  rw [htpm] at hload
  rw [loadKeypair, hseals, ← hload]
  simp only [if_neg hpresent]
  split
  · rename_i hloaded
    rw [hloaded]
    simp only [Except.ok.injEq]
  · rename_i hloaded
    rw [hloaded]
    exact ⟨nofun, nofun⟩

end

/-! ## The round trip -/

/-- What the directory must be like before a save for the key to be found again: for a sealed
key, there is some file under the path that no step of the sealing writes; for a key in a
file, root gives the file to `tapauthd`, or a file that is already there has an owner whom the
load trusts. -/
def KeepsKey (host : Host) (config : TapAuthConfig) (p : Identity) (dir : Directory) : Prop :=
  match config.sealing with
  | some _ => (dir.file tpmKeyPath).isSome = true
  | none => (host.newOwner p).isSome = true ∨
      ∀ inode ∈ dir.file clientKeyName, host.ownerOk p inode.owner = true

/-- **Saving and loading the key.**  For every build, setting, machine and user: after a save
that reports success, a load gives the same key exactly if the directory was as `KeepsKey`
says before. -/
theorem keypair_round_trip_iff {host : Host} {tools : TpmTools} {config : TapAuthConfig}
    {p : Identity} {calls : SaveKeypairCalls} {dir dir' : Directory} {keypair : Ed25519KeyPair}
    (h : saveKeypair host tools config p calls dir keypair = (some (.ok ()), dir')) :
    (loadKeypair host tools config p dir').1 = .ok keypair ↔ KeepsKey host config p dir := by
  unfold KeepsKey
  cases hseals : config.sealing with
  | some policy => exact load_save_sealed_iff hseals h
  | none => exact load_save_file_iff hseals h

open SecureFileSample

namespace KeyStorageSample

/-- Tools that seal nothing. -/
def tools : TpmTools where
  available := true
  tpm2Create secret _ := (secret, [])
  tpm2Load pub _ := pub.elim (.error "no such file") .ok
  tpm2Unseal context := .ok context
  unseal_create secret _ := ⟨secret, rfl, rfl⟩

def keypair : Ed25519KeyPair := ⟨FixedBytes.fill 32 3⟩

/-- No call fails. -/
def calls : SaveKeypairCalls := ⟨⟨100, none⟩, none, none, true⟩

/-- The configuration of a build with the feature. -/
def config (useTpm : Bool) : TapAuthConfig :=
  { TapAuthConfig.default true with tpm := some ⟨useTpm, .standard⟩ }

/-- The directory after a first save. -/
def saved (useTpm : Bool) : Directory :=
  (saveKeypair host tools (config useTpm) tapauthd calls ∅
    keypair).2

end KeyStorageSample

open KeyStorageSample

theorem keypair_round_trip_sample :
    (saveKeypair host tools (config false)
        tapauthd calls ∅ keypair).1 =
        some (.ok ()) ∧
      (loadKeypair host tools (config false)
        tapauthd (saved false)).1 =
        .ok keypair := by
  have hsave : (saveKeypair host tools
      (config false) tapauthd calls ∅
      keypair).1 = some (.ok ()) := by decide
  refine ⟨hsave, (keypair_round_trip_iff (Prod.ext hsave rfl)).mpr ?_⟩
  exact .inr (by simp [Directory.file])

/-- With a TPM, the first key that is ever saved cannot be loaded: the parts are sealed under
`client_key.pub` and `client_key.priv`, and the load asks for `client_key.tpm`. -/
theorem sealed_key_not_found :
    (saveKeypair host tools (config true)
        tapauthd calls ∅ keypair).1 =
        some (.ok ()) ∧
      (loadKeypair host tools (config true)
        tapauthd (saved true)).1 =
        .error (.io ("Failed to unseal key from TPM: Key not found. " ++
          "Use tapauth-config GUI to recover.")) := by
  constructor <;> decide +kernel

end TapAuth.Shared
