import TapAuth.Phone.RequestHandlers

/-!
# From a packet to a message

How the two services find the paired desktop a packet is from and open it.  Both go by the
temporal identifier that the packet carries in the clear: the UDP service looks it up in a
cache of the identifiers of this minute and the last, the BLE service computes them for one
paired desktop after the other.  Both then decrypt with the CSK of the desktop they found,
which every phone that is paired with it has.

An exception of the native library is `none` here: both services treat it as a packet that
is none.  Reading the stored devices does not fail.
-/

namespace TapAuth.Phone

open Shared

section

variable (P : Primitives)

/-! ## Temporal identifiers -/

/-- `generateTemporalId` throws when the CSK does not have 32 bytes. -/
def generateTemporalId (csk : Bytes) (timestampSeconds : Int64) : Option Bytes :=
  (FixedBytes.ofBytes 32 csk).bind fun csk ↦
    match generateTemporalIdentifier P csk (timestampSeconds.toUInt64 / timeWindowSeconds) with
    | .ok identifier => some identifier.bytes
    | .error _ => none

/-- `TIME_WINDOW_MS`. -/
def timeWindowMs : Int64 := 60000

structure CachedDevice where
  deviceId : String
  csk : Bytes
  deriving DecidableEq

def PairedDevice.cached (device : PairedDevice) : CachedDevice := ⟨device.deviceId, device.csk⟩

/-- The identifiers of one device, for the window and the one before.  What is entered before
an exception stays. -/
def putValidIds (currentWindow : Int64) (ids : HexMap String) (device : CachedDevice) :
    HexMap String :=
  match generateTemporalId P device.csk (currentWindow * timeWindowMs / 1000) with
  | none => ids
  | some current =>
    let ids := Function.update ids (hexEncode current) (some device.deviceId)
    match generateTemporalId P device.csk ((currentWindow - 1) * timeWindowMs / 1000) with
    | none => ids
    | some previous => Function.update ids (hexEncode previous) (some device.deviceId)

def computeValidIds (devices : List CachedDevice) (currentWindow : Int64) : HexMap String :=
  devices.foldl (putValidIds P currentWindow) fun _ ↦ none

structure TemporalIdCache where
  /-- The device an identifier belongs to. -/
  validIds : HexMap String
  cachedDevices : List CachedDevice
  lastComputedWindow : Int64
  devicesLoaded : Bool

namespace TemporalIdCache

def stopped : TemporalIdCache := ⟨fun _ ↦ none, [], -1, false⟩

def recomputeCache (cache : TemporalIdCache) (stored : DeviceList) (currentWindow : Int64) :
    TemporalIdCache :=
  let devices :=
    if cache.devicesLoaded then cache.cachedDevices
    else stored.devices.map PairedDevice.cached
  ⟨computeValidIds P devices currentWindow, devices, currentWindow, true⟩

def ensureCacheIsCurrent (cache : TemporalIdCache) (stored : DeviceList) (now : Int64) :
    TemporalIdCache :=
  let currentWindow := now / timeWindowMs
  if currentWindow ≠ cache.lastComputedWindow ∨ cache.devicesLoaded = false then
    cache.recomputeCache P stored currentWindow
  else cache

/-- The device of a valid identifier, once the cache is current. -/
def isValidTemporalId (cache : TemporalIdCache) (temporalId : Bytes) : Option String :=
  if temporalId.length = 16 then cache.validIds (hexEncode temporalId) else none

end TemporalIdCache

/-! ## Opening a packet -/

/-- A message and the paired desktop it was matched to. -/
structure Opened where
  device : PairedDevice
  wrapperMessage : Bytes
  deriving DecidableEq

def decryptEncryptedPacket (csk encryptedPacketBytes : Bytes) : Option Bytes :=
  match FixedBytes.ofBytes 32 csk, P.packetFormat.decode encryptedPacketBytes with
  | some csk, .ok packet =>
    match decryptWithCskAndPrependedNonce P csk packet.ciphertext with
    | .ok wrapperMessage => some wrapperMessage
    | .error _ => none
  | _, _ => none

def PairedDevice.open? (device : PairedDevice) (data : Bytes) : Option Opened :=
  (decryptEncryptedPacket P device.csk data).map fun wrapperMessage ↦ ⟨device, wrapperMessage⟩

def extractTemporalIdentifier (data : Bytes) : Option Bytes :=
  match P.packetFormat.decode data with
  | .ok packet =>
    if packet.temporalIdentifier.length = 16 then some packet.temporalIdentifier else none
  | .error _ => none

def DeviceList.getPairedDevice (stored : DeviceList) (deviceId : String) : Option PairedDevice :=
  stored.devices.find? fun device ↦ device.deviceId = deviceId

/-- `handleIncomingPacket` up to the type of the message, with a cache that is current. -/
def openUdpPacket (stored : DeviceList) (cache : TemporalIdCache) (data : Bytes) :
    Option Opened := do
  guard (16 ≤ data.length)
  let temporalId ← extractTemporalIdentifier P data
  let deviceId ← cache.isValidTemporalId temporalId
  let device ← stored.getPairedDevice deviceId
  device.open? P data

/-- The first device whose identifier of this or the last minute is that of the packet.  An
exception ends the search. -/
def matchDevice (currentTimestamp : Int64) (temporalId : Bytes) :
    List PairedDevice → Option PairedDevice
  | [] => none
  | device :: devices =>
    match generateTemporalId P device.csk currentTimestamp,
        generateTemporalId P device.csk (currentTimestamp - 60) with
    | some currentId, some previousId =>
      if hexEncode temporalId = hexEncode currentId ∨
          hexEncode temporalId = hexEncode previousId then some device
      else matchDevice currentTimestamp temporalId devices
    | _, _ => none

/-- `handleIncomingBleMessage` up to the type of the message. -/
def openBleMessage (stored : DeviceList) (currentTimestamp : Int64) (data : Bytes) :
    Option Opened :=
  match P.packetFormat.decode data with
  | .error _ => none
  | .ok packet =>
    (matchDevice P currentTimestamp packet.temporalIdentifier stored.devices).bind fun device ↦
      device.open? P data

variable {P}

theorem mem_of_matchDevice {currentTimestamp : Int64} {temporalId : Bytes}
    {devices : List PairedDevice} {device : PairedDevice}
    (h : matchDevice P currentTimestamp temporalId devices = some device) : device ∈ devices := by
  induction devices with
  | nil => cases h
  | cons first devices ih =>
    unfold matchDevice at h
    split at h
    · split_ifs at h
      · cases h
        exact List.mem_cons_self
      · exact List.mem_cons_of_mem first (ih h)
    · cases h

/-! ## Which identifiers are known -/

/-- The phone computes the identifier that the desktop made in the same minute. -/
theorem generateTemporalId_of_window {csk : Bytes32} {created n : Nat}
    {identifier : FixedBytes 16} (hcreated : created < 2 ^ 63) (hn : n < 2 ^ 63)
    (hwindow : n / 60 = created / 60)
    (h : generateCurrentTemporalIdentifier P (some (UInt64.ofNat created)) csk = .ok identifier) :
    generateTemporalId P csk.bytes (Int64.ofNat n) = some identifier.bytes := by
  have hsame : (Int64.ofNat n).toUInt64 / timeWindowSeconds =
      UInt64.ofNat created / timeWindowSeconds := by
    rw [Int64.toUInt64_ofNat']
    change UInt64.ofNat n / UInt64.ofNat 60 = UInt64.ofNat created / UInt64.ofNat 60
    rw [← UInt64.ofNat_div (by omega) (by decide), ← UInt64.ofNat_div (by omega) (by decide),
      hwindow]
  have hmade : generateTemporalIdentifier P csk (UInt64.ofNat created / timeWindowSeconds) =
      .ok identifier := h
  simp only [generateTemporalId, FixedBytes.ofBytes_bytes, Option.bind_some, hsame, hmade]

/-- What was computed for a window is what the cache holds for it. -/
def TemporalIdCache.Consistent (P : Primitives) (cache : TemporalIdCache) (stored : DeviceList) :
    Prop :=
  cache.devicesLoaded →
    cache.cachedDevices = stored.devices.map PairedDevice.cached ∧
      cache.validIds = computeValidIds P cache.cachedDevices cache.lastComputedWindow

theorem TemporalIdCache.Consistent.validIds_eq {cache : TemporalIdCache} {stored : DeviceList}
    (h : cache.Consistent P stored) (now : Int64) :
    (cache.ensureCacheIsCurrent P stored now).validIds =
      computeValidIds P (stored.devices.map PairedDevice.cached) (now / timeWindowMs) := by
  simp only [ensureCacheIsCurrent, recomputeCache]
  cases hloaded : cache.devicesLoaded with
  | false => simp
  | true =>
    obtain ⟨hdevices, hids⟩ := h hloaded
    by_cases hwindow : now / timeWindowMs = cache.lastComputedWindow
    · simp [hwindow, hids, hdevices]
    · simp [hwindow, hdevices]

end

end TapAuth.Phone
