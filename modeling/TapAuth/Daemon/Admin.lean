import TapAuth.Shared.Config
import TapAuth.Shared.Pairing
import TapAuth.Shared.Transparent

/-!
# Administrative requests

The admin handlers that write both files of the state directory: completing a
pairing and rotating the client symmetric key.  Here each handler runs alone, from
its first read to its last write.

What the handlers leave behind is a relation between phones and users, `Authorized`:
phone `k` may authenticate user `u`.  `authorized_completePairing_iff` says when
completing a pairing changes that relation by the new pair and nothing else.
-/

namespace TapAuth.Daemon

open Shared FixedBytes

inductive AdminStatus where
  | success
  | unauthorized
  | error
  deriving DecidableEq, Repr

/-- A stored phone as the list of phones shows it; `pairedAt` is not yet spelled out. -/
structure PairedServerInfo where
  name : String
  publicKey : String
  allowedUsers : List String
  pairedAt : Int
  deriving DecidableEq

/-- The payloads of the responses. -/
inductive AdminPayload where
  | getServers (servers : List PairedServerInfo)
  | startPairing (url : String) (port : UInt32)
  | waitForPairing (sasCode : String) (port : UInt32)
  | completePairing (serverHex : String)
  | getConfig (hostname : String) (udpPort : UInt32) (enableBle enableNetwork : Bool)
  | getDaemonStatus (tpmEnabled : Bool) (tpmError : String)
  deriving DecidableEq

structure AdminResponse where
  status : AdminStatus
  errorMessage : String
  payload : Option AdminPayload
  deriving DecidableEq

def errResp (status : AdminStatus) (message : String) : AdminResponse := ⟨status, message, none⟩

def emptySuccess : AdminResponse := ⟨.success, "", none⟩

def completePairingSuccess (serverHex : String) : AdminResponse :=
  ⟨.success, "", some (.completePairing serverHex)⟩

structure PendingPairing where
  session : ClientPairingSession
  url : String
  port : UInt16
  generation : UInt64
  deriving DecidableEq

structure ActivePairing where
  session : ClientPairingSession
  serverPublicKey : Bytes32
  serverDeviceName : String
  port : UInt16
  generation : UInt64
  deriving DecidableEq

inductive PairingState where
  | pending (pairing : PendingPairing)
  | active (pairing : ActivePairing)
  deriving DecidableEq

/-- What the surroundings answer while a pairing is completed. -/
structure CompletionIo where
  loadCsk : Option IoFault
  generated : Option ClientSymmetricKey
  nonce : Option (FixedBytes 12)
  /-- The phone's `PairingComplete`. -/
  complete : Frame
  saveCsk : Option WriteFault
  loadServers : Option IoFault
  saveServers : Option WriteFault
  /-- `Utc::now` when the entry is made. -/
  now : Int

/-- What a pairing does when the CSK cannot be loaded as a key: a file that is
there is corrupt, and without a file a fresh key is generated. -/
def cskWithoutKey (hasCskFile : Bool) (generated : Option ClientSymmetricKey) :
    Except String ClientSymmetricKey :=
  if hasCskFile then
    .error ("CSK file is corrupt.  Use `Rotate CSK` in settings to regenerate " ++
      "(this will invalidate all existing pairings).")
  else
    match generated with
    | some csk => .ok csk
    | none => .error ("CSK generation failed: " ++ CryptoError.randomGenerationFailed.display)

def loadCskFailed (e : ConfigError) : String := "Failed to load CSK: " ++ e.display

/-- The CSK a pairing hands out. -/
def pairingCsk (d : Disk) (fault : Option IoFault) (generated : Option ClientSymmetricKey) :
    Except String ClientSymmetricKey :=
  match d.loadCsk fault with
  | .ok csk => .ok csk
  | .error .invalidConfig => cskWithoutKey d.hasCskFile generated
  | .error e => .error (loadCskFailed e)

/-- The entry `handle_complete_pairing` stores for a phone. -/
def newPairedServer (active : ActivePairing) (username : String) (now : Int) : PairedServer where
  name := active.serverDeviceName
  publicKey := hexEncode active.serverPublicKey.bytes
  allowedUsers := [username]
  pairedAt := now

def finishPairingFailed (e : ProtocolError) : AdminResponse :=
  errResp .error ("Pairing completion failed: " ++ e.display)

def saveCskFailed (e : ConfigError) : AdminResponse :=
  errResp .error ("Paired on phone, but saving local key failed: " ++ e.display ++ ". " ++
    "Ensure tapauthd is installed and the 'tapauthd' user and group exist, " ++
    "then retry pairing.")

def saveServerFailed (e : ConfigError) : AdminResponse :=
  errResp .error ("Failed to save paired server: " ++ e.display)

def rotateCskFailed (e : ConfigError) : AdminResponse :=
  errResp .error ("Failed to rotate CSK: " ++ e.display)

section

variable (P : Primitives)

/-- `handle_complete_pairing` after it has taken the active pairing. -/
def completePairing (d : Disk) (active : ActivePairing) (username : String) (io : CompletionIo) :
    AdminResponse × Disk :=
  match pairingCsk d io.loadCsk io.generated with
  | .error message => (errResp .error message, d)
  | .ok csk =>
    match active.session.finishPairing P io.nonce csk username io.complete with
    | .error e => (finishPairingFailed e, d)
    | .ok () =>
      match d.saveCsk io.saveCsk csk with
      | (.error e, d) => (saveCskFailed e, d)
      | (.ok (), d) =>
        let serverHex := hexEncode active.serverPublicKey.bytes
        match d.addPairedServer io.loadServers io.saveServers serverHex
            (newPairedServer active username io.now) with
        | (.ok (), d) => (completePairingSuccess serverHex, d)
        | (.error e, d) => (saveServerFailed e, d)

/-- `handle_complete_pairing`, with the slot that holds the pairing. -/
def handleCompletePairing (d : Disk) (slot : Option PairingState) (username : String)
    (port : UInt32) (io : CompletionIo) : AdminResponse × Disk × Option PairingState :=
  match slot with
  | none => (errResp .error "No active pairing session", d, slot)
  | some (.pending _) =>
    (errResp .error "Pairing still pending, wait for connection first", d, slot)
  | some (.active active) =>
    if port ≠ 0 ∧ port ≠ active.port.toUInt32 then
      (errResp .error ("Port mismatch: expected " ++ toString active.port.toNat ++ ", got " ++
        toString port.toNat), d, slot)
    else
      let (response, d) := completePairing P d active username io
      (response, d, none)

end

def handleRotateCsk (d : Disk) (clearFault : Option IoFault)
    (fresh : Option ClientSymmetricKey) (fault : Option WriteFault) : AdminResponse × Disk :=
  match d.rotateCsk clearFault fresh fault with
  | (.ok _, d) => (emptySuccess, d)
  | (.error e, d) => (rotateCskFailed e, d)

/-! ## What a completed pairing leaves behind -/

section

variable {P : Primitives} {d : Disk} {active : ActivePairing} {username : String}
  {io : CompletionIo}

/-- The CSK a pairing hands out is what the file holds, or the generated key where
there is no file. -/
theorem pairingCsk_eq_ok {fault : Option IoFault} {generated : Option ClientSymmetricKey}
    {csk : ClientSymmetricKey} (h : pairingCsk d fault generated = .ok csk) :
    d.cskFile.or (generated.map bytes) = some csk.bytes := by
  unfold pairingCsk at h
  split at h
  · rename_i csk' hload
    cases h
    obtain ⟨data, hfile, hdata⟩ := Option.bind_eq_some_iff.mp (Disk.loadCsk_eq_ok hload)
    rw [hfile, Option.some_or, ofBytes_eq_some.mp hdata]
  · unfold cskWithoutKey at h
    cases hfile : d.cskFile with
    | some data => simp [Disk.hasCskFile, hfile] at h
    | none =>
      cases generated with
      | none => simp [Disk.hasCskFile, hfile] at h
      | some key =>
        have hkey : key = csk := by simpa [Disk.hasCskFile, hfile] using h
        simp [hkey]
  · cases h

/-- A successful completion has handed out a CSK, got the phone's confirmation and
written both files. -/
theorem completePairing_of_success
    (h : (completePairing P d active username io).1.status = .success) :
    ∃ csk, pairingCsk d io.loadCsk io.generated = .ok csk ∧
      active.session.finishPairing P io.nonce csk username io.complete = .ok () ∧
      (completePairing P d active username io).2 =
        { cskFile := some csk.bytes
          serversFile := some (.servers (d.pairedServers.insert
            (hexEncode active.serverPublicKey.bytes)
            (newPairedServer active username io.now))) } := by
  unfold completePairing at h ⊢
  cases hcsk : pairingCsk d io.loadCsk io.generated with
  | error message => simp [hcsk, errResp] at h
  | ok csk =>
    cases hfinish : active.session.finishPairing P io.nonce csk username io.complete with
    | error e => simp [hcsk, hfinish, finishPairingFailed, errResp] at h
    | ok u =>
      rcases hsave : d.saveCsk io.saveCsk csk with ⟨e | u, d₁⟩
      · simp [hcsk, hfinish, hsave, saveCskFailed, errResp] at h
      rcases hadd : d₁.addPairedServer io.loadServers io.saveServers
          (hexEncode active.serverPublicKey.bytes) (newPairedServer active username io.now)
        with ⟨e | u, d₂⟩
      · simp [hcsk, hfinish, hsave, hadd, saveServerFailed, errResp] at h
      refine ⟨csk, rfl, hfinish, ?_⟩
      simp only [hfinish, hsave, hadd]
      rw [Disk.addPairedServer_eq_ok hadd, Disk.saveCsk_eq_ok hsave]
      rfl

theorem pairedServers_completePairing
    (h : (completePairing P d active username io).1.status = .success) :
    (completePairing P d active username io).2.pairedServers =
      d.pairedServers.insert (hexEncode active.serverPublicKey.bytes)
        (newPairedServer active username io.now) := by
  obtain ⟨csk, -, -, hdisk⟩ := completePairing_of_success h
  rw [hdisk]
  rfl

/-- Phone `key` may authenticate `user`: the store files a phone under the digits
of its key. -/
def Authorized (servers : ServerMap) (key : Bytes32) (user : String) : Prop :=
  ∃ server, servers.lookup (hexEncode key.bytes) = some server ∧ user ∈ server.allowedUsers

/-- The relation grows by one pair, and the entries of all other phones stay as
they are. -/
structure AddsExactly (before after : ServerMap) (key : Bytes32) (user : String) : Prop where
  authorized : ∀ key' user', Authorized after key' user' ↔
    Authorized before key' user' ∨ (key' = key ∧ user' = user)
  others : ∀ id, id ≠ hexEncode key.bytes → after.lookup id = before.lookup id

theorem authorized_insert_self {servers : ServerMap} {key : Bytes32} {server : PairedServer}
    {user : String} : Authorized (servers.insert (hexEncode key.bytes) server) key user ↔
      user ∈ server.allowedUsers := by
  simp [Authorized]

theorem authorized_insert_of_ne {servers : ServerMap} {key key' : Bytes32} {server : PairedServer}
    {user : String} (h : key' ≠ key) :
    Authorized (servers.insert (hexEncode key.bytes) server) key' user ↔
      Authorized servers key' user := by
  have hid : hexEncode key'.bytes ≠ hexEncode key.bytes :=
    fun hhex ↦ h (bytes_injective (hexEncode_injective hhex))
  rw [Authorized, AList.lookup_insert_ne hid]
  rfl

/-- **What completing a pairing does to the authorizations.**  They grow by
exactly the new pair if and only if nobody but the pairing user was allowed on
the phone before: the handler stores a list with that one user in place of the
old entry. -/
theorem authorized_completePairing_iff
    (h : (completePairing P d active username io).1.status = .success) :
    AddsExactly d.pairedServers (completePairing P d active username io).2.pairedServers
        active.serverPublicKey username ↔
      ∀ user, Authorized d.pairedServers active.serverPublicKey user → user = username := by
  rw [pairedServers_completePairing h]
  constructor
  · intro hadds user huser
    have hin := (hadds.authorized active.serverPublicKey user).mpr (.inl huser)
    rw [authorized_insert_self] at hin
    simpa [newPairedServer] using hin
  · intro honly
    refine ⟨fun key user ↦ ?_, fun id hid ↦ AList.lookup_insert_ne hid⟩
    by_cases hkey : key = active.serverPublicKey
    · subst hkey
      rw [authorized_insert_self]
      constructor
      · intro huser
        exact .inr ⟨rfl, by simpa [newPairedServer] using huser⟩
      · rintro (huser | ⟨-, rfl⟩)
        · simp [newPairedServer, honly user huser]
        · simp [newPairedServer]
    · rw [authorized_insert_of_ne hkey]
      simp [hkey]

end

namespace PairingSample

def primitives : Primitives := Transparent.primitives

def csk : ClientSymmetricKey := fill 32 1

def psk : PairingSymmetricKey := fill 32 8

def phoneKey : Bytes32 := fill 32 5

def nonce : FixedBytes 12 := fill 12 4

/-- A pairing whose key agreement is done, with the phone of key `phoneKey`. -/
def active : ActivePairing where
  session := { ClientPairingSession.new ⟨fill 32 7⟩ ⟨fill 32 2⟩ with
    psk := some psk }
  serverPublicKey := phoneKey
  serverDeviceName := "phone"
  port := 4000
  generation := 1

/-- The phone confirms the CSK, and no operation fails. -/
def io : CompletionIo where
  loadCsk := none
  generated := none
  nonce := some nonce
  complete := .ok (primitives.completeFormat.encode ⟨true, hashAlgorithmSha256,
    ((encryptWithPsk primitives psk (some nonce) (primitives.sha256 csk.bytes).bytes).toOption).getD
      []⟩)
  saveCsk := none
  loadServers := none
  saveServers := none
  now := 100

/-- A state directory in which the phone is paired for `users`. -/
def disk (users : List String) : Disk where
  cskFile := some csk.bytes
  serversFile := some (.servers (AList.singleton (hexEncode phoneKey.bytes)
    ⟨"phone", hexEncode phoneKey.bytes, users, 0⟩))

theorem authorized_disk {users : List String} {user : String} :
    Authorized (disk users).pairedServers phoneKey user ↔ user ∈ users := by
  have hlookup : (disk users).pairedServers.lookup (hexEncode phoneKey.bytes) =
      some ⟨"phone", hexEncode phoneKey.bytes, users, 0⟩ := by
    rw [disk, Disk.pairedServers, ← AList.insert_empty]
    exact AList.lookup_insert _
  simp [Authorized, hlookup]

end PairingSample

open PairingSample

/-- A user who pairs the same phone anew keeps the authorizations. -/
theorem authorized_completePairing_sample :
    (completePairing primitives (disk ["alice"]) active
        "alice" io).1.status = .success ∧
      AddsExactly (disk ["alice"]).pairedServers
        (completePairing primitives (disk ["alice"])
          active "alice" io).2.pairedServers
        phoneKey "alice" := by
  have hsuccess : (completePairing primitives (disk ["alice"])
      active "alice" io).1.status = .success := by decide +kernel
  refine ⟨hsuccess, (authorized_completePairing_iff hsuccess).mpr fun user huser ↦ ?_⟩
  exact List.mem_singleton.mp (authorized_disk.mp huser)

/-- A second user who pairs a phone takes it away from the first. -/
theorem authorized_completePairing_second_user :
    (completePairing primitives (disk ["bob"]) active
        "alice" io).1.status = .success ∧
      ¬ AddsExactly (disk ["bob"]).pairedServers
        (completePairing primitives (disk ["bob"])
          active "alice" io).2.pairedServers
        phoneKey "alice" := by
  have hsuccess : (completePairing primitives (disk ["bob"])
      active "alice" io).1.status = .success := by decide +kernel
  refine ⟨hsuccess, fun hadds ↦ ?_⟩
  have hbob : Authorized (disk ["bob"]).pairedServers phoneKey "bob" :=
    authorized_disk.mpr (List.mem_singleton.mpr rfl)
  have hkept := (hadds.authorized phoneKey "bob").mpr (.inl hbob)
  rw [pairedServers_completePairing hsuccess] at hkept
  have hnew := authorized_insert_self.mp hkept
  simp [newPairedServer] at hnew

end TapAuth.Daemon
