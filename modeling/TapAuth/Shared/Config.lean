import Mathlib.Data.List.AList
import TapAuth.Shared.Crypto

/-!
# The desktop's configuration store

Two files of the daemon's state directory matter to the protocol: the client
symmetric key and the map of paired servers.  `Disk` holds what they contain;
the functions of `ClientConfigManager` read and write it.

Every operation on a file can fail.  A *fault* is an argument of the function
that models the operation: a read fault is an error of `read_secure_file` on a
file that exists, a write fault says whether the error came before or after the
data reached the file (`write_secure_file` writes first and sets the permissions
and the owner afterwards).
-/

namespace TapAuth.Shared

/-- Information about a paired server. -/
structure PairedServer where
  name : String
  /-- The server's Ed25519 public key in hexadecimal digits. -/
  publicKey : String
  /-- The users this server may authenticate. -/
  allowedUsers : List String
  pairedAt : Int
  deriving DecidableEq

def PairedServer.isUserAllowed (server : PairedServer) (username : String) : Bool :=
  server.allowedUsers.any fun u ↦ u = username

variable {server : PairedServer}

@[simp] theorem PairedServer.isUserAllowed_eq_true {username : String} :
    server.isUserAllowed username = true ↔ username ∈ server.allowedUsers := by
  simp [isUserAllowed]

/-- The map of paired servers by their identifier. -/
abbrev ServerMap := AList fun _ : String ↦ PairedServer

/-- The values of the map, in some order. -/
def ServerMap.values (servers : ServerMap) : List PairedServer := servers.entries.map (·.2)

theorem ServerMap.mem_values {servers : ServerMap} :
    server ∈ ServerMap.values servers ↔ ∃ id, servers.lookup id = some server := by
  simp only [values, List.mem_map]
  constructor
  · rintro ⟨⟨id, s⟩, hmem, rfl⟩
    exact ⟨id, AList.mem_lookup_iff.mpr hmem⟩
  · rintro ⟨id, h⟩
    exact ⟨⟨id, server⟩, AList.mem_lookup_iff.mp h, rfl⟩

/-- The stored 32-byte keys: those of the servers whose `public_key` spells one. -/
def PairedServer.key (server : PairedServer) : Option Bytes32 :=
  (hexDecode server.publicKey).bind (FixedBytes.ofBytes 32)

/-! ## Files -/

inductive ConfigError where
  | io (text : String)
  | serialization (text : String)
  | insufficientPermissions
  | invalidConfig
  | crypto (error : CryptoError)
  deriving DecidableEq, Repr

def ConfigError.display : ConfigError → String
  | .io text => "IO error: " ++ text
  | .serialization text => "Serialization error: " ++ text
  | .insufficientPermissions => "Insufficient permissions"
  | .invalidConfig => "Invalid configuration"
  | .crypto error => "Crypto error: " ++ error.display

/-- How the operating system can fail an operation on a file. -/
inductive IoFault where
  | io (text : String)
  | insufficientPermissions
  deriving DecidableEq, Repr

def IoFault.toConfigError : IoFault → ConfigError
  | .io text => .io text
  | .insufficientPermissions => .insufficientPermissions

/-- How a write can fail: before or after the data is in the file. -/
inductive WriteFault where
  | before (fault : IoFault)
  | after (fault : IoFault)
  deriving DecidableEq, Repr

/-- The contents of `paired_servers.json`: what the parser answers. -/
inductive ServersFile where
  | corrupt (text : String)
  | servers (map : ServerMap)
  deriving DecidableEq

/-- The state directory: `none` is a file that does not exist. -/
structure Disk where
  cskFile : Option Bytes
  serversFile : Option ServersFile
  deriving DecidableEq

namespace Disk

/-- The outcome of `write_secure_file` and whether the data reached the file. -/
def writeOutcome : Option WriteFault → Except ConfigError Unit × Bool
  | none => (.ok (), true)
  | some (.before fault) => (.error fault.toConfigError, false)
  | some (.after fault) => (.error fault.toConfigError, true)

def loadCsk (d : Disk) (fault : Option IoFault) : Except ConfigError ClientSymmetricKey :=
  match d.cskFile with
  | none => .error .invalidConfig
  | some data =>
    match fault with
    | some fault => .error fault.toConfigError
    | none =>
      match FixedBytes.ofBytes 32 data with
      | none => .error .invalidConfig
      | some csk => .ok csk

def hasCskFile (d : Disk) : Bool := d.cskFile.isSome

def saveCsk (d : Disk) (fault : Option WriteFault) (csk : ClientSymmetricKey) :
    Except ConfigError Unit × Disk :=
  let (result, written) := writeOutcome fault
  (result, if written then { d with cskFile := some csk.bytes } else d)

def loadPairedServers (d : Disk) (fault : Option IoFault) : Except ConfigError ServerMap :=
  match d.serversFile with
  | none => .ok ∅
  | some file =>
    match fault with
    | some fault => .error fault.toConfigError
    | none =>
      match file with
      | .corrupt text => .error (.serialization text)
      | .servers map => .ok map

def savePairedServers (d : Disk) (fault : Option WriteFault) (servers : ServerMap) :
    Except ConfigError Unit × Disk :=
  let (result, written) := writeOutcome fault
  (result, if written then { d with serversFile := some (.servers servers) } else d)

def addPairedServer (d : Disk) (readFault : Option IoFault) (writeFault : Option WriteFault)
    (id : String) (server : PairedServer) : Except ConfigError Unit × Disk :=
  match d.loadPairedServers readFault with
  | .error e => (.error e, d)
  | .ok servers => d.savePairedServers writeFault (servers.insert id server)

def removePairedServer (d : Disk) (readFault : Option IoFault) (writeFault : Option WriteFault)
    (id : String) : Except ConfigError Unit × Disk :=
  match d.loadPairedServers readFault with
  | .error e => (.error e, d)
  | .ok servers => d.savePairedServers writeFault (servers.erase id)

/-- The map without a user of one of its servers, and whether the server went with its last
user; `none` if the map has no such server. -/
def withoutUser (servers : ServerMap) (id username : String) : Option (ServerMap × Bool) :=
  (servers.lookup id).map fun server ↦
    let allowedUsers := server.allowedUsers.filter fun u ↦ u ≠ username
    if allowedUsers = [] then (servers.erase id, true)
    else (servers.insert id { server with allowedUsers }, false)

/-- Whether the whole pairing is gone.  A server that is not there counts as gone, and
nothing is written. -/
def removeUserFromPairing (d : Disk) (readFault : Option IoFault) (writeFault : Option WriteFault)
    (id username : String) : Except ConfigError Bool × Disk :=
  match d.loadPairedServers readFault with
  | .error e => (.error e, d)
  | .ok servers =>
    match withoutUser servers id username with
    | none => (.ok true, d)
    | some (servers, removed) =>
      let (result, d) := d.savePairedServers writeFault servers
      (result.map fun _ ↦ removed, d)

/-- `remove_file` on a file that exists can fail and then leaves it. -/
def clearPairedServers (d : Disk) (fault : Option IoFault) : Except ConfigError Unit × Disk :=
  match d.serversFile, fault with
  | some _, some fault => (.error fault.toConfigError, d)
  | _, _ => (.ok (), { d with serversFile := none })

/-- A fresh key from the generator, then saved. -/
def generateAndSaveCsk (d : Disk) (fresh : Option ClientSymmetricKey)
    (fault : Option WriteFault) : Except ConfigError ClientSymmetricKey × Disk :=
  match fresh with
  | none => (.error (.crypto .randomGenerationFailed), d)
  | some csk =>
    match d.saveCsk fault csk with
    | (.ok (), d) => (.ok csk, d)
    | (.error e, d) => (.error e, d)

/-- The result of clearing the paired servers is ignored. -/
def rotateCsk (d : Disk) (clearFault : Option IoFault) (fresh : Option ClientSymmetricKey)
    (fault : Option WriteFault) : Except ConfigError ClientSymmetricKey × Disk :=
  (d.clearPairedServers clearFault).2.generateAndSaveCsk fresh fault

/-- The stored CSK, if the file holds one. -/
def csk (d : Disk) : Option ClientSymmetricKey := d.cskFile.bind (FixedBytes.ofBytes 32)

/-- The stored servers, none if the file is absent or cannot be parsed. -/
def pairedServers (d : Disk) : ServerMap :=
  match d.serversFile with
  | some (.servers map) => map
  | _ => ∅

variable {k : ClientSymmetricKey} {fault : Option WriteFault} {d d' : Disk}

theorem loadCsk_eq_ok {d : Disk} {fault : Option IoFault} (h : d.loadCsk fault = .ok k) :
    d.csk = some k := by
  unfold loadCsk at h
  unfold csk
  cases hf : d.cskFile with
  | none => simp [hf] at h
  | some data =>
    cases fault with
    | some fault => simp [hf] at h
    | none => cases hk : FixedBytes.ofBytes 32 data <;> simp_all

theorem loadPairedServers_eq_ok {d : Disk} {fault : Option IoFault} {m : ServerMap}
    (h : d.loadPairedServers fault = .ok m) : m = d.pairedServers := by
  unfold loadPairedServers at h
  unfold pairedServers
  cases hf : d.serversFile with
  | none => simp_all
  | some file =>
    cases fault with
    | some fault => simp [hf] at h
    | none => cases file <;> simp_all

theorem writeOutcome_eq_ok {written : Bool} (h : writeOutcome fault = (.ok (), written)) :
    written = true := by
  rcases fault with - | (fault | fault)
  · cases h; rfl
  · cases h
  · cases h

theorem saveCsk_eq_ok (h : d.saveCsk fault k = (.ok (), d')) :
    d' = { d with cskFile := some k.bytes } := by
  simp only [saveCsk, Prod.mk.injEq] at h
  have hw := writeOutcome_eq_ok (Prod.ext h.1 rfl)
  rw [← h.2, if_pos hw]

@[simp] theorem csk_withCskFile (d : Disk) (k : ClientSymmetricKey) :
    ({ d with cskFile := some k.bytes } : Disk).csk = some k := by
  simp [csk]

/-- Whatever a save of the CSK answers, the file holds what it held or the key. -/
theorem saveCsk_snd (d : Disk) (fault : Option WriteFault) (k : ClientSymmetricKey) :
    (d.saveCsk fault k).2 = d ∨ (d.saveCsk fault k).2 = { d with cskFile := some k.bytes } := by
  rcases fault with - | (fault | fault)
  · exact .inr rfl
  · exact .inl rfl
  · exact .inr rfl

/-- A rotation's save writes the key the generator gave, if anything. -/
theorem generateAndSaveCsk_snd (d : Disk) (fresh : Option ClientSymmetricKey)
    (fault : Option WriteFault) :
    (d.generateAndSaveCsk fresh fault).2 = d ∨
      ∃ k, fresh = some k ∧
        (d.generateAndSaveCsk fresh fault).2 = { d with cskFile := some k.bytes } := by
  cases fresh with
  | none => exact .inl rfl
  | some k =>
    rcases fault with - | (fault | fault)
    · exact .inr ⟨k, rfl, rfl⟩
    · exact .inl rfl
    · exact .inr ⟨k, rfl, rfl⟩

theorem generateAndSaveCsk_eq_ok {fresh : Option ClientSymmetricKey}
    (h : d.generateAndSaveCsk fresh fault = (.ok k, d')) :
    fresh = some k ∧ d' = { d with cskFile := some k.bytes } := by
  cases fresh with
  | none => cases h
  | some k' =>
    rcases fault with - | (fault | fault)
    · cases h; exact ⟨rfl, rfl⟩
    · cases h
    · cases h

theorem savePairedServers_eq_ok {m : ServerMap} (h : d.savePairedServers fault m = (.ok (), d')) :
    d' = { d with serversFile := some (.servers m) } := by
  simp only [savePairedServers, Prod.mk.injEq] at h
  have hw := writeOutcome_eq_ok (Prod.ext h.1 rfl)
  rw [← h.2, if_pos hw]

theorem csk_clearPairedServers (d : Disk) (fault : Option IoFault) :
    (d.clearPairedServers fault).2.csk = d.csk := by
  rcases d with ⟨cskFile, _ | file⟩ <;> cases fault <;> rfl

/-- Clearing leaves the stored servers or none. -/
theorem pairedServers_clearPairedServers (d : Disk) (fault : Option IoFault) :
    (d.clearPairedServers fault).2.pairedServers = d.pairedServers ∨
      (d.clearPairedServers fault).2.pairedServers = ∅ := by
  rcases d with ⟨cskFile, _ | file⟩ <;> cases fault
  · exact .inr rfl
  · exact .inr rfl
  · exact .inr rfl
  · exact .inl rfl

theorem addPairedServer_eq_ok {readFault : Option IoFault} {writeFault : Option WriteFault}
    {id : String} {server : PairedServer}
    (h : d.addPairedServer readFault writeFault id server = (.ok (), d')) :
    d' = { d with serversFile := some (.servers (d.pairedServers.insert id server)) } := by
  unfold addPairedServer at h
  cases hload : d.loadPairedServers readFault with
  | error e => simp [hload] at h
  | ok m =>
    rw [hload] at h
    rw [← loadPairedServers_eq_ok hload]
    exact savePairedServers_eq_ok h

end Disk

end TapAuth.Shared
