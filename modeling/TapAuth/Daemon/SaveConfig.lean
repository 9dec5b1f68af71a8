import TapAuth.Daemon.AdminReload
import TapAuth.Shared.TomlConfig

/-!
# Saving the configuration

`handle_save_config` reads the system-wide configuration, changes the port and the transports
that the request names, and writes the file anew.  What the file said before is in the new
file only as far as the record holds it.

`handleSaveConfig_keeps` says for which files nothing else changes, `keeps_iff` that no
others do among those that can be read as the record.
-/

namespace TapAuth.Daemon

open Shared TapAuthConfig

/-- The two places of the file: `/etc/tapauth/config.toml`, and `config.toml` in the state
directory that a build for development is given. -/
structure ConfigFiles where
  system : Option Bytes
  stateDir : Option Bytes

namespace ConfigFiles

/-- The file that `load` reads. -/
def loaded (files : ConfigFiles) (stateDirOverride : Bool) : Option Bytes :=
  if stateDirOverride ∧ files.stateDir.isSome then files.stateDir else files.system

/-- The file that `save` writes. -/
def saved (files : ConfigFiles) (stateDirOverride : Bool) : Option Bytes :=
  if stateDirOverride then files.stateDir else files.system

def write (files : ConfigFiles) (stateDirOverride : Bool) (contents : Bytes) : ConfigFiles :=
  if stateDirOverride then { files with stateDir := some contents }
  else { files with system := some contents }

theorem saved_write (files : ConfigFiles) (stateDirOverride : Bool) (contents : Bytes) :
    (files.write stateDirOverride contents).saved stateDirOverride = some contents := by
  cases stateDirOverride <;> rfl

theorem loaded_write (files : ConfigFiles) (stateDirOverride : Bool) (contents : Bytes) :
    (files.write stateDirOverride contents).loaded stateDirOverride = some contents := by
  cases stateDirOverride <;> rfl

/-- A file that is written over is the one that is read. -/
theorem loaded_of_saved {files : ConfigFiles} {stateDirOverride : Bool} {contents : Bytes}
    (h : files.saved stateDirOverride = some contents) :
    files.loaded stateDirOverride = some contents := by
  cases stateDirOverride with
  | false => exact h
  | true =>
    have hstate : files.stateDir = some contents := h
    simp [loaded, hstate]

end ConfigFiles

/-- `fs::read_to_string`, with how it fails on a file that is there. -/
def readToString (fault : Option String) : Option Bytes → Except String Bytes
  | none => .error "No such file or directory (os error 2)"
  | some contents =>
    match fault with
    | some text => .error text
    | none => .ok contents

/-- How `save_to_path` fails. -/
inductive TomlSaveFault where
  | createDirAll (text : String)
  | openFile (text : String)
  /-- With the number of bytes that are in the file by then. -/
  | writeAll (written : Nat) (text : String)
  | setPermissions (text : String)

def saveToPath (F : TomlFormat) (stateDirOverride : Bool) (files : ConfigFiles)
    (config : TapAuthConfig) (fault : Option TomlSaveFault) : Except String Unit × ConfigFiles :=
  match fault, config.toTable with
  | some (.createDirAll text), _ => (.error text, files)
  | _, .error text => (.error text, files)
  | some (.openFile text), .ok _ => (.error text, files)
  | some (.writeAll n text), .ok table =>
    (.error text, files.write stateDirOverride ((F.encode table).take n))
  | some (.setPermissions text), .ok table =>
    (.error text, files.write stateDirOverride (F.encode table))
  | none, .ok table => (.ok (), files.write stateDirOverride (F.encode table))

/-- What the surroundings answer while a configuration is saved. -/
structure SaveConfigIo where
  read : Option String
  saveToml : Option TomlSaveFault
  saveClientConfig : Except ConfigError Unit

/-- The record with what the request asks for. -/
def SaveConfigRequest.apply (request : SaveConfigRequest) (config : TapAuthConfig) :
    TapAuthConfig :=
  { config with
    udpPort := request.udpPort.toUInt16
    enableBle := request.enableBle.getD config.enableBle
    enableNetwork := request.enableNetwork.getD config.enableNetwork }

section

variable (F : TomlFormat) (tpmFeature stateDirOverride : Bool)

/-- `TapAuthConfig::load`. -/
def loadConfig (files : ConfigFiles) (fault : Option String) : TapAuthConfig :=
  .loadFromPath F tpmFeature (readToString fault (files.loaded stateDirOverride))

def handleSaveConfig (files : ConfigFiles) (request : SaveConfigRequest) (io : SaveConfigIo) :
    AdminResponse × ConfigFiles :=
  match request.check with
  | .error response => (response, files)
  | .ok () =>
    let config := request.apply (loadConfig F tpmFeature stateDirOverride files io.read)
    match saveToPath F stateDirOverride files config io.saveToml with
    | (.error text, files) => (saveTomlFailed text, files)
    | (.ok (), files) =>
      match io.saveClientConfig with
      | .error e => (saveClientConfigFailed e, files)
      | .ok () => (emptySuccess, files)

end

/-! ## What is in the file afterwards -/

/-- The keys that the request asks to change. -/
def SaveConfigRequest.Changes (request : SaveConfigRequest) (key : String) : Prop :=
  key = "udp_port" ∨ (key = "enable_ble" ∧ request.enableBle.isSome = true) ∨
    (key = "enable_network" ∧ request.enableNetwork.isSome = true)

open SaveConfigRequest

theorem setting_apply {request : SaveConfigRequest} {key : String} (h : ¬ request.Changes key)
    (config : TapAuthConfig) : (request.apply config).setting key = config.setting key := by
  obtain ⟨hport, hble, hnetwork⟩ : key ≠ "udp_port" ∧
      (key = "enable_ble" → request.enableBle = none) ∧
      (key = "enable_network" → request.enableNetwork = none) := by
    simpa [Changes] using h
  by_cases hkeyBle : key = "enable_ble"
  · simp [hkeyBle, setting, apply, hble hkeyBle]
  · by_cases hkeyNetwork : key = "enable_network"
    · simp [hkeyNetwork, setting, apply, hnetwork hkeyNetwork]
    · simp [setting, apply, hport, hkeyBle, hkeyNetwork]

theorem SaveConfigRequest.check_status {request : SaveConfigRequest} {response : AdminResponse}
    (h : request.check = .error response) : response.status ≠ .success := by
  unfold check at h
  split at h
  · cases h
    nofun
  · split at h
    · cases h
      nofun
    · cases h

section

variable {F : TomlFormat} {tpmFeature stateDirOverride : Bool} {files : ConfigFiles}
  {request : SaveConfigRequest} {io : SaveConfigIo}

variable {config : TapAuthConfig}

/-- A save that reports success has written the whole record. -/
theorem saveToPath_eq_ok {fault : Option TomlSaveFault} {files' : ConfigFiles}
    (h : saveToPath F stateDirOverride files config fault = (.ok (), files')) :
    ∃ table, config.toTable = .ok table ∧
      files' = files.write stateDirOverride (F.encode table) := by
  unfold saveToPath at h
  cases htable : config.toTable with
  | error text =>
    rw [htable] at h
    rcases fault with - | (text | text | ⟨n, text⟩ | text) <;> cases h
  | ok table =>
    rw [htable] at h
    rcases fault with - | (text | text | ⟨n, text⟩ | text) <;> cases h
    exact ⟨table, rfl, rfl⟩

theorem handleSaveConfig_of_success
    (h : (handleSaveConfig F tpmFeature stateDirOverride files request io).1.status = .success) :
    ∃ table, (request.apply (loadConfig F tpmFeature stateDirOverride files io.read)).toTable =
        .ok table ∧
      (handleSaveConfig F tpmFeature stateDirOverride files request io).2 =
        files.write stateDirOverride (F.encode table) := by
  unfold handleSaveConfig at h ⊢
  cases hcheck : request.check with
  | error response =>
    rw [hcheck] at h
    exact absurd h (check_status hcheck)
  | ok u =>
    rcases hsave : saveToPath F stateDirOverride files
        (request.apply (loadConfig F tpmFeature stateDirOverride files io.read)) io.saveToml
      with ⟨text | u, files'⟩
    · simp only [hcheck, hsave] at h
      cases h
    · obtain ⟨table, htable, rfl⟩ := saveToPath_eq_ok hsave
      refine ⟨table, htable, ?_⟩
      simp only [hsave]
      cases io.saveClientConfig <;> rfl

/-- What a request may not touch is as before: whatever the file said for another key, it
still says. -/
def Keeps (F : TomlFormat) (request : SaveConfigRequest) (before after : Option Bytes) : Prop :=
  ∀ contents table, before = some contents → F.decode contents = .ok table →
    ∃ contents' table', after = some contents' ∧ F.decode contents' = .ok table' ∧
      ∀ key value, table.get key = some value → ¬ request.Changes key →
        table'.get key = some value

/-- The tables that the record of a build holds without loss, up to what a request changes:
the record has all the keys, and a policy is spelled as a string. -/
def Holds (tpmFeature : Bool) (request : SaveConfigRequest) (table : TomlTable) : Prop :=
  ∀ key value, table.get key = some value → ¬ request.Changes key →
    key ∈ knownKeys tpmFeature ∧
      (key = "tpm_pcr_policy" → ∃ s, value = .string s)

/-- The record that is read from a file that can be read as one. -/
theorem loadConfig_of_fromStr {contents : Bytes}
    (hfile : files.loaded stateDirOverride = some contents)
    (h : fromStr F tpmFeature contents = .ok config) :
    loadConfig F tpmFeature stateDirOverride files none = config := by
  rw [loadConfig, hfile, readToString, loadFromPath, h]

/-- Of a file that can be read as the record, the rest is kept exactly if the record holds
it. -/
theorem keeps_iff {contents : Bytes} {table : TomlTable}
    (hsuccess : (handleSaveConfig F tpmFeature stateDirOverride files request io).1.status =
      .success) (hread : io.read = none) (hfile : files.saved stateDirOverride = some contents)
    (hdecode : F.decode contents = .ok table)
    (hconfig : fromTable F tpmFeature table = .ok config) :
    Keeps F request (files.saved stateDirOverride)
        ((handleSaveConfig F tpmFeature stateDirOverride files request io).2.saved
          stateDirOverride) ↔ Holds tpmFeature request table := by
  obtain ⟨table', htable', hfiles⟩ := handleSaveConfig_of_success hsuccess
  have hload : loadConfig F tpmFeature stateDirOverride files none = config :=
    loadConfig_of_fromStr (ConfigFiles.loaded_of_saved hfile)
      (Except.bind_eq_ok_iff.mpr ⟨table, hdecode, hconfig⟩)
  rw [hread, hload] at htable'
  have hkept : ∀ key value, table.get key = some value → ¬ request.Changes key →
      (table'.get key = some value ↔ key ∈ knownKeys tpmFeature ∧
        (key = "tpm_pcr_policy" → ∃ s, value = .string s)) := by
    intro key value hvalue hchanges
    have hport : key ≠ "udp_port" := fun hkey ↦ hchanges (.inl hkey)
    rw [get_toTable htable', setting_apply hchanges]
    exact (fromTable_eq_ok_iff.mp hconfig).setting_eq_iff hvalue hport
  rw [hfiles, ConfigFiles.saved_write, hfile]
  constructor
  · intro hkeeps key value hvalue hchanges
    obtain ⟨contents', table₁, ⟨⟩, hdecode', hkeeps⟩ := hkeeps contents table rfl hdecode
    obtain rfl : table' = table₁ := Except.ok.inj ((F.decode_encode table').symm.trans hdecode')
    exact (hkept key value hvalue hchanges).mp (hkeeps key value hvalue hchanges)
  · intro hholds contents₁ table₁ hcontents hdecode₁
    obtain rfl : contents = contents₁ := Option.some.inj hcontents
    obtain rfl : table = table₁ := Except.ok.inj (hdecode.symm.trans hdecode₁)
    exact ⟨_, table', rfl, F.decode_encode table', fun key value hvalue hchanges ↦
      (hkept key value hvalue hchanges).mpr (hholds key value hvalue hchanges)⟩

/-- The configuration that is loaded afterwards is the one that was saved. -/
theorem loadConfig_handleSaveConfig
    (hsuccess : (handleSaveConfig F tpmFeature stateDirOverride files request io).1.status =
      .success) :
    loadConfig F tpmFeature stateDirOverride
        (handleSaveConfig F tpmFeature stateDirOverride files request io).2 none =
      request.apply (loadConfig F tpmFeature stateDirOverride files io.read) := by
  obtain ⟨table, htable, hfiles⟩ := handleSaveConfig_of_success hsuccess
  have hfeature : (request.apply (loadConfig F tpmFeature stateDirOverride files
      io.read)).tpm.isSome = tpmFeature := isSome_tpm_loadFromPath _
  have hread := fromStr_encode (F := F) htable
  rw [hfeature] at hread
  rw [hfiles]
  exact loadConfig_of_fromStr (ConfigFiles.loaded_write files stateDirOverride _) hread

/-- **Saving the configuration.**  If the file that is written over does not exist, or can be
read as the record, which holds all that it says, then after a success every other key has
the value it had; and the configuration that is loaded afterwards is the one before with what
the request asks for. -/
theorem handleSaveConfig_keeps
    (hsuccess : (handleSaveConfig F tpmFeature stateDirOverride files request io).1.status =
      .success)
    (h : ∀ contents, files.saved stateDirOverride = some contents → io.read = none ∧
      ∃ table config, F.decode contents = .ok table ∧
        fromTable F tpmFeature table = .ok config ∧
        Holds tpmFeature request table) :
    Keeps F request (files.saved stateDirOverride)
        ((handleSaveConfig F tpmFeature stateDirOverride files request io).2.saved
          stateDirOverride) ∧
      loadConfig F tpmFeature stateDirOverride
          (handleSaveConfig F tpmFeature stateDirOverride files request io).2 none =
        request.apply (loadConfig F tpmFeature stateDirOverride files io.read) := by
  refine ⟨?_, loadConfig_handleSaveConfig hsuccess⟩
  cases hfile : files.saved stateDirOverride with
  | none => nofun
  | some contents =>
    obtain ⟨hread, table, config, hdecode, hconfig, hholds⟩ := h contents hfile
    rw [← hfile]
    exact (keeps_iff hsuccess hread hfile hdecode hconfig).mpr hholds

end

namespace SaveConfigSample

def value : Codec TomlValue :=
  (Codec.sum (.sum .uint64 .bool) (.sum .string .string)).map
    (fun
      | .inl (.inl n) => .integer n.toInt64
      | .inl (.inr b) => .boolean b
      | .inr (.inl s) => .string s
      | .inr (.inr text) => .other text)
    (fun
      | .integer n => .inl (.inl n.toUInt64)
      | .boolean b => .inl (.inr b)
      | .string s => .inr (.inl s)
      | .other text => .inr (.inr text))
    (fun v ↦ by cases v <;> simp)

/-- Tables in bytes. -/
def format : TomlFormat where
  toFormat := (Codec.alist .string value).format
  policyOfOther _ := .error "invalid type, expected a string"

/-- A file with one key. -/
def files (key : String) (value : TomlValue) : ConfigFiles :=
  ⟨some (format.encode (TomlTable.set ∅ key value)), none⟩

/-- A request for another port only. -/
def request : SaveConfigRequest := ⟨40000, "desktop", none, none⟩

def io : SaveConfigIo := ⟨none, none, .ok ()⟩

end SaveConfigSample

open SaveConfigSample

/-- A timeout that the file sets is still set. -/
theorem handleSaveConfig_keeps_timeout :
    (handleSaveConfig format false false
        (files "pam_gui_timeout_secs" (.integer 45)) request
        io).1.status = .success ∧
      Keeps format request
        (files "pam_gui_timeout_secs" (.integer 45)).system
        (handleSaveConfig format false false
          (files "pam_gui_timeout_secs" (.integer 45)) request
          io).2.system := by
  have hsuccess : (handleSaveConfig format false false
      (files "pam_gui_timeout_secs" (.integer 45)) request
      io).1.status = .success := by decide +kernel
  refine ⟨hsuccess, (handleSaveConfig_keeps hsuccess ?_).1⟩
  rintro _ ⟨⟩
  refine ⟨rfl, _, _, format.decode_encode _, rfl, ?_⟩
  intro key value hvalue _
  rw [TomlTable.get_set] at hvalue
  split at hvalue
  next hkey =>
    subst hkey
    exact ⟨by decide, nofun⟩
  · cases hvalue

/-- A key that the record does not have is lost. -/
theorem unknown_key_lost :
    (handleSaveConfig format false false
        (files "log_level" (.string "debug")) request
        io).1.status = .success ∧
      ¬ Keeps format request
        (files "log_level" (.string "debug")).system
        (handleSaveConfig format false false
          (files "log_level" (.string "debug")) request
          io).2.system := by
  have hsuccess : (handleSaveConfig format false false
      (files "log_level" (.string "debug")) request
      io).1.status = .success := by decide +kernel
  refine ⟨hsuccess, fun hkeeps ↦ ?_⟩
  have hholds :=
    (keeps_iff hsuccess rfl rfl (format.decode_encode _) rfl).mp hkeeps
  have hknown := (hholds "log_level" (.string "debug") (by simp [TomlTable.get_set])
    (by simp [Changes])).1
  exact absurd hknown (by decide)

end TapAuth.Daemon
