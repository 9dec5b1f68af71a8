import TapAuth.Phone.Devices
import TapAuth.Shared.Pairing

/-!
# The phone's side of pairing

`PairingClient`: the phone sends a `PairingHello`, reads the desktop's
`PairingResponse`, derives the PSK and the SAS through the native library and shows
the SAS; once the user has confirmed it, the phone reads the `PairingCskMessage`,
confirms the CSK with its hash and makes the entry that `PairingScreen` saves.

A failure is an exception, caught at the end of the function; what is kept of it is
its message.
-/

namespace TapAuth.Phone

open Shared DeviceList

/-- What the phone holds while its user compares the SAS. -/
structure AwaitingSasVerification where
  psk : PairingSymmetricKey
  clientEd25519Key : Bytes
  clientDeviceName : String
  sas : String
  deriving DecidableEq

/-- What the surroundings answer on the phone. -/
structure ClientIo where
  nonce : Option (FixedBytes 12)
  /-- The random bytes of `generateDeviceId`. -/
  deviceIdBytes : FixedBytes 16
  /-- `System.currentTimeMillis`. -/
  now : Int

section

variable (P : Primitives)

/-- A byte array of the native interface that has to be 32 bytes long. -/
def jbytearrayToFixed (name : String) (bytes : Bytes) : Except String Bytes32 :=
  match FixedBytes.ofBytes 32 bytes with
  | some key => .ok key
  | none => .error (name ++ " must be 32 bytes")

def decodeMessage {α : Type} (format : Format α) (bytes : Bytes) : Except String α :=
  (format.decode bytes).mapError fun text ↦ "protobuf decode failed: " ++ text

/-- `createPairingHello` with the values the phone passes. -/
def pairingHello (x25519 : X25519KeyPair) (ed25519PublicKey : Bytes) (deviceName : String) :
    PairingHello where
  version := 1
  x25519PublicKey := (x25519.publicKeyBytes P).bytes
  ed25519PublicKey := ed25519PublicKey
  deviceName := deviceName
  supportedSymmetricAlgorithms := [1]
  supportedHashAlgorithms := [1]
  supportedSignatureAlgorithms := [1]

/-- `performKeyExchange`. -/
def keyExchange (x25519 : X25519KeyPair) (theirPublicKey : Bytes32) :
    Except String PairingSymmetricKey :=
  (derivePskFromX25519 P (x25519.diffieHellman P theirPublicKey)).mapError fun e ↦
    "PSK derivation failed: " ++ e.display

/-- `generateSAS`. -/
def generateSas (psk : PairingSymmetricKey) (clientPublic serverPublic : Bytes32) :
    Except String String := do
  let sas ← (deriveSas P psk clientPublic serverPublic).mapError CryptoError.display
  return formatSas sas

/-- `initiatePairing` from the desktop's answer on.  The version and the length of
the Ed25519 key are not looked at. -/
def initiatePairing (x25519 : X25519KeyPair) (frame : Frame) :
    Except String AwaitingSasVerification := do
  let response ← decodeMessage P.responseFormat (← frame)
  let clientX25519Key ← jbytearrayToFixed "public key" response.x25519PublicKey
  let psk ← keyExchange P x25519 clientX25519Key
  let sas ← generateSas P psk clientX25519Key (x25519.publicKeyBytes P)
  return ⟨psk, response.ed25519PublicKey, response.deviceName, sas⟩

/-- The entry for a desktop the phone does not know. -/
def newDevice (clientEd25519Key csk : Bytes) (clientDeviceName username : String) (io : ClientIo) :
    PairedDevice where
  deviceId := hexEncode io.deviceIdBytes.bytes
  publicKey := clientEd25519Key
  csk := csk
  displayName := clientDeviceName
  pairedAt := io.now
  allowedUsers := [username]

/-- The new entry for a desktop the phone knows: the user is added and everything
else, the CSK included, stays. -/
def updatedDevice (existing : PairedDevice) (username : String) (io : ClientIo) : PairedDevice :=
  { existing with
    allowedUsers :=
      if existing.allowedUsers.contains username then existing.allowedUsers
      else existing.allowedUsers ++ [username]
    pairedAt := io.now }

/-- The entry of a completed pairing. -/
def pairedDevice (devices : DeviceList) (clientEd25519Key csk : Bytes)
    (clientDeviceName username : String) (io : ClientIo) : PairedDevice :=
  match devices.findByPublicKey clientEd25519Key with
  | some existing => updatedDevice existing username io
  | none => newDevice clientEd25519Key csk clientDeviceName username io

/-- The `PairingComplete` that confirms a CSK. -/
def pairingComplete (psk : PairingSymmetricKey) (csk : Bytes) (nonce : Option (FixedBytes 12)) :
    Except String PairingComplete := do
  let encryptedCskHash ← (encryptWithPsk P psk nonce (P.sha256 csk).bytes).mapError fun e ↦
    "encryption failed: " ++ e.display
  return ⟨true, 1, encryptedCskHash⟩

/-- `completePairing`: the frame the phone sends and the entry it makes. -/
def completePairing (awaiting : AwaitingSasVerification) (sasConfirmed : Bool) (frame : Frame)
    (devices : DeviceList) (io : ClientIo) : Except String (Bytes × PairedDevice) := do
  if !sasConfirmed then throw "User rejected SAS verification"
  else
    let message ← decodeMessage P.cskFormat (← frame)
    let csk ← (decryptWithPsk P awaiting.psk message.encryptedCsk).mapError fun e ↦
      "decryption failed: " ++ e.display
    let complete ← pairingComplete P awaiting.psk csk io.nonce
    return (P.completeFormat.encode complete,
      pairedDevice devices awaiting.clientEd25519Key csk awaiting.clientDeviceName
        message.username io)

end

/-! ## What success says -/

section

variable {P : Primitives} {frame : Frame}

theorem decodeMessage_eq_ok {α : Type} {format : Format α} {bytes : Bytes} {message : α} :
    decodeMessage format bytes = .ok message ↔ format.decode bytes = .ok message :=
  Except.mapError_eq_ok_iff

theorem jbytearrayToFixed_eq_ok {name : String} {bytes : Bytes} {key : Bytes32} :
    jbytearrayToFixed name bytes = .ok key ↔ FixedBytes.ofBytes 32 bytes = some key := by
  unfold jbytearrayToFixed
  cases FixedBytes.ofBytes 32 bytes with
  | none => simp
  | some key' => simp

/-- What the phone knows when it shows a SAS. -/
structure AwaitingFrom (P : Primitives) (x25519 : X25519KeyPair) (frame : Frame)
    (awaiting : AwaitingSasVerification) (response : PairingResponse) (key : Bytes32) : Prop where
  received : ∃ bytes, frame = .ok bytes ∧ P.responseFormat.decode bytes = .ok response
  x25519Public : FixedBytes.ofBytes 32 response.x25519PublicKey = some key
  derived : derivePskFromX25519 P (x25519.diffieHellman P key) = .ok awaiting.psk
  clientEd25519Key : awaiting.clientEd25519Key = response.ed25519PublicKey

theorem initiatePairing_eq_ok {x25519 : X25519KeyPair} {awaiting : AwaitingSasVerification}
    (h : initiatePairing P x25519 frame = .ok awaiting) :
    ∃ response key, AwaitingFrom P x25519 frame awaiting response key := by
  simp only [initiatePairing, Except.bind_eq_ok_iff] at h
  obtain ⟨bytes, hframe, response, hresponse, key, hkey, psk, hpsk, sas, -, h⟩ := h
  cases h
  exact ⟨response, key, ⟨bytes, hframe, decodeMessage_eq_ok.mp hresponse⟩,
    jbytearrayToFixed_eq_ok.mp hkey, Except.mapError_eq_ok_iff.mp hpsk, rfl⟩

/-- What the phone has done when it has paired: the CSK it read under the PSK and
the entry it made. -/
theorem completePairing_eq_ok {awaiting : AwaitingSasVerification} {devices : DeviceList}
    {io : ClientIo} {complete : Bytes} {device : PairedDevice}
    (h : completePairing P awaiting true frame devices io = .ok (complete, device)) :
    ∃ bytes message csk, frame = .ok bytes ∧ P.cskFormat.decode bytes = .ok message ∧
      decryptWithPsk P awaiting.psk message.encryptedCsk = .ok csk ∧
      device = pairedDevice devices awaiting.clientEd25519Key csk awaiting.clientDeviceName
        message.username io := by
  simp only [completePairing, Bool.not_true, Bool.false_eq_true, if_false,
    Except.bind_eq_ok_iff] at h
  obtain ⟨bytes, hframe, message, hmessage, csk, hcsk, complete', -, h⟩ := h
  cases h
  exact ⟨bytes, message, csk, hframe, decodeMessage_eq_ok.mp hmessage,
    Except.mapError_eq_ok_iff.mp hcsk, rfl⟩

/-! ## The entry of a completed pairing -/

variable {devices : DeviceList} {key csk : Bytes} {name username : String} {io : ClientIo}

theorem mem_allowedUsers_updatedDevice {existing : PairedDevice} {user : String} :
    user ∈ (updatedDevice existing username io).allowedUsers ↔
      username = user ∨ user ∈ existing.allowedUsers := by
  unfold updatedDevice
  by_cases h : existing.allowedUsers.contains username
  · have hmem : username ∈ existing.allowedUsers := by simpa using h
    rw [if_pos h]
    constructor
    · exact .inr
    · rintro (rfl | huser)
      · exact hmem
      · exact huser
  · rw [if_neg h]
    simp only [List.mem_append, List.mem_singleton]
    rw [or_comm, eq_comm]

theorem publicKey_pairedDevice :
    (pairedDevice devices key csk name username io).publicKey = key := by
  unfold pairedDevice
  cases hfind : devices.findByPublicKey key with
  | none => rfl
  | some existing => exact (findByPublicKey_eq_some hfind).2

/-- The entry holds the CSK of the pairing unless the phone knew the desktop under
another one. -/
theorem csk_pairedDevice_iff : (pairedDevice devices key csk name username io).csk = csk ↔
    ∀ d, devices.findByPublicKey key = some d → d.csk = csk := by
  unfold pairedDevice
  cases hfind : devices.findByPublicKey key with
  | none => simp [newDevice]
  | some existing => simp [updatedDevice]

theorem mem_allowedUsers_pairedDevice {user : String} :
    user ∈ (pairedDevice devices key csk name username io).allowedUsers ↔
      username = user ∨ ∃ d, devices.findByPublicKey key = some d ∧ user ∈ d.allowedUsers := by
  unfold pairedDevice
  cases hfind : devices.findByPublicKey key with
  | none => simp [newDevice, eq_comm]
  | some existing => simpa using mem_allowedUsers_updatedDevice

/-- After the entry is saved the phone stores the pairing's CSK for the desktop if
and only if it stored no other one before. -/
theorem storesCsk_savePairedDevice_iff :
    (devices.savePairedDevice (pairedDevice devices key csk name username io)).StoresCsk key csk ↔
      ∀ d ∈ devices, d.publicKey = key → d.csk = csk := by
  have hsaved : pairedDevice devices key csk name username io ∈
      devices.savePairedDevice (pairedDevice devices key csk name username io) :=
    mem_savePairedDevice.mpr (.inr rfl)
  constructor
  · rintro ⟨-, hall⟩ d hd hkey
    by_cases hid : d.deviceId = (pairedDevice devices key csk name username io).deviceId
    · -- the entry that is replaced is the one the new entry copies its CSK from
      have hcsk := csk_pairedDevice_iff.mp (hall _ hsaved publicKey_pairedDevice)
      cases hfind : devices.findByPublicKey key with
      | none => exact absurd hkey (findByPublicKey_eq_none.mp hfind d hd)
      | some existing =>
        have hmem := (findByPublicKey_eq_some hfind).1
        have hid' : d.deviceId = existing.deviceId := by
          rw [hid, pairedDevice, hfind]
          rfl
        rw [eq_of_deviceId hd hmem hid']
        exact hcsk existing hfind
    · exact hall d (mem_savePairedDevice.mpr (.inl ⟨hd, hid⟩)) hkey
  · intro hall
    refine ⟨⟨_, hsaved, publicKey_pairedDevice⟩, fun d hd hkey ↦ ?_⟩
    rcases mem_savePairedDevice.mp hd with ⟨hmem, -⟩ | rfl
    · exact hall d hmem hkey
    · refine csk_pairedDevice_iff.mpr fun existing hfind ↦ ?_
      obtain ⟨hmem, hkey'⟩ := findByPublicKey_eq_some hfind
      exact hall existing hmem hkey'

end

end TapAuth.Phone
