import Mathlib.Data.List.AList
import TapAuth.Lib.Codec
import TapAuth.Lib.Except

/-!
# The system-wide configuration

`TapAuthConfig` is read from a TOML file as a whole and written back as a whole.  What the
file says is a table of keys and values; the record has a field for each key it knows.  Keys
it does not know are skipped when the file is read, and what the file does not say, or the
whole file if one of its values does not fit, is replaced by defaults.

`setting` is the value that a written file has for a key, and `setting_of_fromTable` says
which values survive that a file is read and written again.
-/

namespace TapAuth.Shared

/-! ## Tables -/

/-- A value of the file.  Of the types that no field has, only the spelling matters. -/
inductive TomlValue where
  | integer (n : Int64)
  | boolean (b : Bool)
  | string (s : String)
  | other (text : String)
  deriving DecidableEq

/-- The keys and values of a file; a file with a key twice is not read. -/
abbrev TomlTable := AList fun _ : String ↦ TomlValue

namespace TomlTable

def get (table : TomlTable) (key : String) : Option TomlValue := table.lookup key

def set (table : TomlTable) (key : String) (value : TomlValue) : TomlTable :=
  table.insert key value

@[simp] theorem get_empty (key : String) : get ∅ key = none := AList.lookup_empty key

theorem get_set (table : TomlTable) (key : String) (value : TomlValue) (key' : String) :
    (table.set key value).get key' = if key' = key then some value else table.get key' := by
  split
  next h => rw [h, get, set, AList.lookup_insert]
  next h => exact AList.lookup_insert_ne h

end TomlTable

inductive TpmPcrPolicy where
  | standard
  | paranoid
  deriving DecidableEq, Repr

namespace TpmPcrPolicy

def pcrList : TpmPcrPolicy → String
  | .standard => "7,14"
  | .paranoid => "0,2,7,14"

/-- The name in the file. -/
def name : TpmPcrPolicy → String
  | .standard => "standard"
  | .paranoid => "paranoid"

end TpmPcrPolicy

/-- How tables are spelled, and what becomes of a policy that is not spelled as a string. -/
structure TomlFormat extends Format TomlTable where
  policyOfOther : TomlValue → Except String TpmPcrPolicy

/-! ## The record -/

/-- The fields that only a build with the TPM feature has. -/
structure TpmConfig where
  useTpm : Bool
  tpmPcrPolicy : TpmPcrPolicy
  deriving DecidableEq

structure TapAuthConfig where
  pamOperationTimeoutSecs : UInt64
  pamGuiTimeoutSecs : UInt64
  udpPort : UInt16
  enableNetwork : Bool
  enableBle : Bool
  tpm : Option TpmConfig
  deriving DecidableEq

def TpmConfig.default : TpmConfig := ⟨false, .standard⟩

/-- `Default`, of a build with or without the TPM feature. -/
def TapAuthConfig.default (tpmFeature : Bool) : TapAuthConfig where
  pamOperationTimeoutSecs := 120
  pamGuiTimeoutSecs := 30
  udpPort := 36692
  enableNetwork := true
  enableBle := true
  tpm := if tpmFeature then some .default else none

/-! ## Reading a table -/

def u64OfToml : TomlValue → Except String UInt64
  | .integer n =>
    if 0 ≤ n then .ok n.toUInt64 else .error "invalid value: negative integer, expected u64"
  | _ => .error "invalid type, expected u64"

def u16OfToml : TomlValue → Except String UInt16
  | .integer n =>
    if 0 ≤ n.toInt ∧ n.toInt ≤ 65535 then .ok (.ofNat n.toInt.toNat)
    else .error "invalid value: integer out of range, expected u16"
  | _ => .error "invalid type, expected u16"

def boolOfToml : TomlValue → Except String Bool
  | .boolean b => .ok b
  | _ => .error "invalid type, expected a boolean"

def policyOfToml (F : TomlFormat) : TomlValue → Except String TpmPcrPolicy
  | .string s =>
    if s = TpmPcrPolicy.standard.name then .ok .standard
    else if s = TpmPcrPolicy.paranoid.name then .ok .paranoid
    else .error ("unknown variant " ++ s ++ ", expected standard or paranoid")
  | value => F.policyOfOther value

/-- A field of the record: the default where the table does not have the key. -/
def field {α : Type} (table : TomlTable) (key : String) (decode : TomlValue → Except String α)
    (default : α) : Except String α :=
  match table.get key with
  | none => .ok default
  | some value => decode value

def TpmConfig.fromTable (F : TomlFormat) (table : TomlTable) : Except String TpmConfig := do
  let useTpm ← field table "use_tpm" boolOfToml default.useTpm
  let tpmPcrPolicy ← field table "tpm_pcr_policy" (policyOfToml F) default.tpmPcrPolicy
  return ⟨useTpm, tpmPcrPolicy⟩

/-- The fields of the feature, if the build has it. -/
def TpmConfig.ofFeature (F : TomlFormat) (tpmFeature : Bool) (table : TomlTable) :
    Except String (Option TpmConfig) :=
  if tpmFeature then (fromTable F table).map some else .ok none

namespace TapAuthConfig

def fromTable (F : TomlFormat) (tpmFeature : Bool) (table : TomlTable) :
    Except String TapAuthConfig := do
  let d := default tpmFeature
  let pamOperationTimeoutSecs ←
    field table "pam_operation_timeout_secs" u64OfToml d.pamOperationTimeoutSecs
  let pamGuiTimeoutSecs ← field table "pam_gui_timeout_secs" u64OfToml d.pamGuiTimeoutSecs
  let udpPort ← field table "udp_port" u16OfToml d.udpPort
  let enableNetwork ← field table "enable_network" boolOfToml d.enableNetwork
  let enableBle ← field table "enable_ble" boolOfToml d.enableBle
  let tpm ← TpmConfig.ofFeature F tpmFeature table
  return ⟨pamOperationTimeoutSecs, pamGuiTimeoutSecs, udpPort, enableNetwork, enableBle, tpm⟩

/-- `toml::from_str`. -/
def fromStr (F : TomlFormat) (tpmFeature : Bool) (contents : Bytes) :
    Except String TapAuthConfig := do
  let table ← F.decode contents
  fromTable F tpmFeature table

/-- `load_from_path`, with what `read_to_string` answers. -/
def loadFromPath (F : TomlFormat) (tpmFeature : Bool) (read : Except String Bytes) :
    TapAuthConfig :=
  match read with
  | .error _ => default tpmFeature
  | .ok contents =>
    match fromStr F tpmFeature contents with
    | .ok config => config
    | .error _ => default tpmFeature

/-! ## Writing a table -/

/-- TOML has no integers beyond those of 64 bits with a sign. -/
def u64ToToml (n : UInt64) : Except String TomlValue :=
  if 0 ≤ n.toInt64 then .ok (.integer n.toInt64) else .error "out-of-range value for u64 type"

def u16ToToml (n : UInt16) : TomlValue := .integer (.ofNat n.toNat)

def setTpm (table : TomlTable) : Option TpmConfig → TomlTable
  | none => table
  | some tpm =>
    (table.set "use_tpm" (.boolean tpm.useTpm)).set "tpm_pcr_policy"
      (.string tpm.tpmPcrPolicy.name)

def toTable (config : TapAuthConfig) : Except String TomlTable := do
  let pamOperationTimeoutSecs ← u64ToToml config.pamOperationTimeoutSecs
  let pamGuiTimeoutSecs ← u64ToToml config.pamGuiTimeoutSecs
  let table := TomlTable.set ∅ "pam_operation_timeout_secs" pamOperationTimeoutSecs
  let table := table.set "pam_gui_timeout_secs" pamGuiTimeoutSecs
  let table := table.set "udp_port" (u16ToToml config.udpPort)
  let table := table.set "enable_network" (.boolean config.enableNetwork)
  let table := table.set "enable_ble" (.boolean config.enableBle)
  return setTpm table config.tpm

/-! ## What a written file says -/

/-- The keys that the record of a build has fields for. -/
def knownKeys (tpmFeature : Bool) : List String :=
  ["pam_operation_timeout_secs", "pam_gui_timeout_secs", "udp_port", "enable_network",
    "enable_ble"] ++ if tpmFeature then ["use_tpm", "tpm_pcr_policy"] else []

theorem mem_knownKeys {tpmFeature : Bool} {key : String} : key ∈ knownKeys tpmFeature ↔
    key = "pam_operation_timeout_secs" ∨ key = "pam_gui_timeout_secs" ∨ key = "udp_port" ∨
      key = "enable_network" ∨ key = "enable_ble" ∨
      (tpmFeature = true ∧ (key = "use_tpm" ∨ key = "tpm_pcr_policy")) := by
  cases tpmFeature <;> simp [knownKeys]

/-- The value that the file of a record has for a key. -/
def setting (config : TapAuthConfig) (key : String) : Option TomlValue :=
  if key = "pam_operation_timeout_secs" then
    some (.integer config.pamOperationTimeoutSecs.toInt64)
  else if key = "pam_gui_timeout_secs" then some (.integer config.pamGuiTimeoutSecs.toInt64)
  else if key = "udp_port" then some (u16ToToml config.udpPort)
  else if key = "enable_network" then some (.boolean config.enableNetwork)
  else if key = "enable_ble" then some (.boolean config.enableBle)
  else if key = "use_tpm" then config.tpm.map fun tpm ↦ .boolean tpm.useTpm
  else if key = "tpm_pcr_policy" then config.tpm.map fun tpm ↦ .string tpm.tpmPcrPolicy.name
  else none

variable {value : TomlValue} {config : TapAuthConfig}

theorem u64ToToml_eq_ok {n : UInt64} (h : u64ToToml n = .ok value) :
    0 ≤ n.toInt64 ∧ value = .integer n.toInt64 := by
  unfold u64ToToml at h
  split at h
  next hn =>
    cases h
    exact ⟨hn, rfl⟩
  · cases h

theorem get_toTable {table : TomlTable} (h : config.toTable = .ok table) (key : String) :
    table.get key = config.setting key := by
  obtain ⟨pam, hpam, h⟩ := Except.bind_eq_ok_iff.mp h
  obtain ⟨gui, hgui, h⟩ := Except.bind_eq_ok_iff.mp h
  obtain ⟨-, rfl⟩ := u64ToToml_eq_ok hpam
  obtain ⟨-, rfl⟩ := u64ToToml_eq_ok hgui
  cases h
  by_cases hkey : key ∈ knownKeys true
  · rcases mem_knownKeys.mp hkey with rfl | rfl | rfl | rfl | rfl | ⟨-, rfl | rfl⟩ <;>
      cases htpm : config.tpm <;> simp [setTpm, TomlTable.get_set, setting, htpm]
  · simp only [mem_knownKeys, true_and, not_or] at hkey
    cases config.tpm <;> simp [setTpm, TomlTable.get_set, setting, hkey]

theorem setting_of_not_known {key : String} (h : key ∉ knownKeys config.tpm.isSome) :
    config.setting key = none := by
  unfold setting
  cases htpm : config.tpm with
  | none =>
    simp only [mem_knownKeys, htpm, not_or] at h
    simp [h]
  | some tpm =>
    simp only [mem_knownKeys, htpm, Option.isSome_some, true_and, not_or] at h
    simp [h]

/-! ## Reading what was written, and writing what was read -/

theorem u64OfToml_eq_ok {n : UInt64} (h : u64OfToml value = .ok n) :
    value = .integer n.toInt64 := by
  cases value with
  | integer m =>
    simp only [u64OfToml] at h
    split at h
    · cases h
      simp
    · cases h
  | _ => cases h

theorem boolOfToml_eq_ok {b : Bool} (h : boolOfToml value = .ok b) :
    value = .boolean b := by
  cases value with
  | boolean b =>
    cases h
    rfl
  | _ => cases h

theorem policyOfToml_eq_ok {F : TomlFormat} {s : String} {policy : TpmPcrPolicy}
    (h : policyOfToml F (.string s) = .ok policy) : s = policy.name := by
  simp only [policyOfToml] at h
  split at h
  next hs =>
    cases h
    exact hs
  · split at h
    next hs =>
      cases h
      exact hs
    · cases h

theorem field_eq_ok {α : Type} {table : TomlTable} {key : String}
    {decode : TomlValue → Except String α} {d a : α} (hvalue : table.get key = some value)
    (h : field table key decode d = .ok a) : decode value = .ok a := by
  rwa [field, hvalue] at h

/-- What a record that was read owes to the table, field by field. -/
structure ReadFrom (F : TomlFormat) (tpmFeature : Bool) (table : TomlTable)
    (config : TapAuthConfig) : Prop where
  pamOperationTimeoutSecs : field table "pam_operation_timeout_secs" u64OfToml
    (default tpmFeature).pamOperationTimeoutSecs = .ok config.pamOperationTimeoutSecs
  pamGuiTimeoutSecs : field table "pam_gui_timeout_secs" u64OfToml
    (default tpmFeature).pamGuiTimeoutSecs = .ok config.pamGuiTimeoutSecs
  udpPort : field table "udp_port" u16OfToml (default tpmFeature).udpPort = .ok config.udpPort
  enableNetwork : field table "enable_network" boolOfToml (default tpmFeature).enableNetwork =
    .ok config.enableNetwork
  enableBle : field table "enable_ble" boolOfToml (default tpmFeature).enableBle =
    .ok config.enableBle
  tpm : TpmConfig.ofFeature F tpmFeature table = .ok config.tpm

theorem fromTable_eq_ok_iff {F : TomlFormat} {tpmFeature : Bool} {table : TomlTable} :
    fromTable F tpmFeature table = .ok config ↔ ReadFrom F tpmFeature table config := by
  unfold fromTable
  simp only [Except.bind_eq_ok_iff]
  constructor
  · rintro ⟨pam, hpam, gui, hgui, port, hport, network, hnetwork, ble, hble, tpm, htpm, h⟩
    cases h
    exact ⟨hpam, hgui, hport, hnetwork, hble, htpm⟩
  · intro h
    exact ⟨_, h.pamOperationTimeoutSecs, _, h.pamGuiTimeoutSecs, _, h.udpPort, _, h.enableNetwork,
      _, h.enableBle, _, h.tpm, rfl⟩

end TapAuthConfig

/-- The fields of the feature, read from the table. -/
theorem TpmConfig.ofFeature_eq_ok {F : TomlFormat} {tpmFeature : Bool} {table : TomlTable}
    {tpm : Option TpmConfig} (h : ofFeature F tpmFeature table = .ok tpm) :
    tpm.isSome = tpmFeature ∧ ∀ t ∈ tpm,
      field table "use_tpm" boolOfToml default.useTpm = .ok t.useTpm ∧
        field table "tpm_pcr_policy" (policyOfToml F) default.tpmPcrPolicy =
          .ok t.tpmPcrPolicy := by
  cases tpmFeature with
  | false =>
    cases h
    exact ⟨rfl, nofun⟩
  | true =>
    rw [ofFeature, if_pos rfl] at h
    cases hread : fromTable F table with
    | error e =>
      rw [hread] at h
      cases h
    | ok t =>
      rw [hread] at h
      cases h
      obtain ⟨useTpm, huse, hread⟩ := Except.bind_eq_ok_iff.mp hread
      obtain ⟨policy, hpolicy, hread⟩ := Except.bind_eq_ok_iff.mp hread
      cases hread
      refine ⟨rfl, ?_⟩
      rintro _ ⟨⟩
      exact ⟨huse, hpolicy⟩

namespace TapAuthConfig

variable {F : TomlFormat} {tpmFeature : Bool} {table : TomlTable} {config : TapAuthConfig}

theorem ReadFrom.isSome_tpm (h : ReadFrom F tpmFeature table config) :
    config.tpm.isSome = tpmFeature :=
  (TpmConfig.ofFeature_eq_ok h.tpm).1

/-- A policy that is spelled as a string is spelled by its name. -/
theorem policy_kept_iff {value : TomlValue} {policy : TpmPcrPolicy}
    (h : policyOfToml F value = .ok policy) :
    some (.string policy.name) = some value ↔ ∃ s, value = .string s := by
  constructor
  · intro hvalue
    exact ⟨policy.name, (Option.some.inj hvalue).symm⟩
  · rintro ⟨s, rfl⟩
    rw [policyOfToml_eq_ok h]

/-- Which values of a file are still there when it has been read and is written again: those
of the keys that the record has, a policy only if it is spelled as a string. -/
theorem ReadFrom.setting_eq_iff (h : ReadFrom F tpmFeature table config) {key : String}
    {value : TomlValue} (hvalue : table.get key = some value) (hport : key ≠ "udp_port") :
    config.setting key = some value ↔
      key ∈ knownKeys tpmFeature ∧ (key = "tpm_pcr_policy" → ∃ s, value = .string s) := by
  by_cases hknown : key ∈ knownKeys tpmFeature
  · simp only [hknown, true_and]
    rcases mem_knownKeys.mp hknown with rfl | rfl | rfl | rfl | rfl | ⟨rfl, htpm⟩
    · simp [setting, u64OfToml_eq_ok (field_eq_ok hvalue h.pamOperationTimeoutSecs)]
    · simp [setting, u64OfToml_eq_ok (field_eq_ok hvalue h.pamGuiTimeoutSecs)]
    · exact absurd rfl hport
    · simp [setting, boolOfToml_eq_ok (field_eq_ok hvalue h.enableNetwork)]
    · simp [setting, boolOfToml_eq_ok (field_eq_ok hvalue h.enableBle)]
    · obtain ⟨t, ht⟩ := Option.isSome_iff_exists.mp h.isSome_tpm
      obtain ⟨huse, hpolicy⟩ := (TpmConfig.ofFeature_eq_ok h.tpm).2 t ht
      rcases htpm with rfl | rfl
      · simp [setting, ht, boolOfToml_eq_ok (field_eq_ok hvalue huse)]
      · simpa [setting, ht] using policy_kept_iff (field_eq_ok hvalue hpolicy)
  · have hnone : config.setting key = none :=
      setting_of_not_known (by rwa [h.isSome_tpm])
    simp [hnone, hknown]

theorem field_of_get {α : Type} {key : String} {decode : TomlValue → Except String α} {d a : α}
    {value : TomlValue} (hvalue : table.get key = some value) (h : decode value = .ok a) :
    field table key decode d = .ok a := by
  rw [field, hvalue]
  exact h

theorem u64OfToml_integer {n : UInt64} (h : 0 ≤ n.toInt64) :
    u64OfToml (.integer n.toInt64) = .ok n := by
  simp [u64OfToml, h]

theorem u16OfToml_u16ToToml (n : UInt16) : u16OfToml (u16ToToml n) = .ok n := by
  have hn : n.toNat < 65536 := n.toNat_lt
  have htoInt : (Int64.ofNat n.toNat).toInt = n.toNat := Int64.toInt_ofNat_of_lt (by omega)
  simp only [u16ToToml, u16OfToml, htoInt, Int.toNat_natCast, UInt16.ofNat_toNat]
  rw [if_pos (by omega)]

theorem policyOfToml_name (policy : TpmPcrPolicy) :
    policyOfToml F (.string policy.name) = .ok policy := by
  cases policy <;> rfl

/-- A file that was written is read as what was written. -/
theorem fromTable_toTable (h : config.toTable = .ok table) :
    fromTable F config.tpm.isSome table = .ok config := by
  have hget := get_toTable h
  obtain ⟨pam, hpam, h⟩ := Except.bind_eq_ok_iff.mp h
  obtain ⟨gui, hgui, h⟩ := Except.bind_eq_ok_iff.mp h
  rw [fromTable_eq_ok_iff]
  refine ⟨field_of_get (hget _) (u64OfToml_integer (u64ToToml_eq_ok hpam).1),
    field_of_get (hget _) (u64OfToml_integer (u64ToToml_eq_ok hgui).1),
    field_of_get (hget _) (u16OfToml_u16ToToml _), field_of_get (hget _) rfl,
    field_of_get (hget _) rfl, ?_⟩
  cases htpm : config.tpm with
  | none => rfl
  | some tpm =>
    have huse : table.get "use_tpm" = some (.boolean tpm.useTpm) := by
      simp [hget, setting, htpm]
    have hpolicy : table.get "tpm_pcr_policy" = some (.string tpm.tpmPcrPolicy.name) := by
      simp [hget, setting, htpm]
    have hread : TpmConfig.fromTable F table = .ok tpm :=
      Except.bind_eq_ok_iff.mpr ⟨_, field_of_get huse rfl,
        Except.bind_eq_ok_iff.mpr ⟨_, field_of_get hpolicy (policyOfToml_name _), rfl⟩⟩
    rw [TpmConfig.ofFeature, hread]
    rfl

theorem fromStr_encode (h : config.toTable = .ok table) :
    fromStr F config.tpm.isSome (F.encode table) = .ok config :=
  Except.bind_eq_ok_iff.mpr ⟨table, F.decode_encode table, fromTable_toTable h⟩

/-- The record of a build has the fields of the feature exactly if the build has it. -/
theorem isSome_tpm_loadFromPath (read : Except String Bytes) :
    (loadFromPath F tpmFeature read).tpm.isSome = tpmFeature := by
  have hdefault : (default tpmFeature).tpm.isSome = tpmFeature := by cases tpmFeature <;> rfl
  cases read with
  | error text => exact hdefault
  | ok contents =>
    rw [loadFromPath]
    cases hconfig : fromStr F tpmFeature contents with
    | error text => exact hdefault
    | ok config =>
      obtain ⟨table, -, hread⟩ := Except.bind_eq_ok_iff.mp hconfig
      exact (fromTable_eq_ok_iff.mp hread).isSome_tpm

end TapAuthConfig

end TapAuth.Shared
