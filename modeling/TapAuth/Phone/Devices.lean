import Mathlib.Data.List.Nodup
import TapAuth.Shared.Crypto

/-!
# The phone's device repository

`DeviceRepository` keeps the paired desktops as one list.  Its operations replace
and remove entries by `deviceId`, and no operation stores two entries of one
identifier, which `DeviceList` carries as a field.  Nothing keeps two entries from
holding the same *public key*: the key is what pairing looks an entry up by.
-/

namespace TapAuth.Phone

open Shared

/-- A paired desktop. -/
structure PairedDevice where
  deviceId : String
  /-- The desktop's Ed25519 public key. -/
  publicKey : Bytes
  csk : Bytes
  displayName : String
  /-- Milliseconds since the epoch. -/
  pairedAt : Int
  allowedUsers : List String
  deriving DecidableEq

def PairedDevice.isUserAllowed (device : PairedDevice) (username : String) : Bool :=
  device.allowedUsers.contains username

/-- The stored list: identifiers are unique. -/
structure DeviceList where
  devices : List PairedDevice
  nodup : (devices.map PairedDevice.deviceId).Nodup
  deriving DecidableEq

namespace DeviceList

def empty : DeviceList := ⟨[], List.nodup_nil⟩

instance : Membership PairedDevice DeviceList := ⟨fun list device ↦ device ∈ list.devices⟩

/-- The first entry that holds a public key. -/
def findByPublicKey (list : DeviceList) (publicKey : Bytes) : Option PairedDevice :=
  list.devices.find? fun device ↦ device.publicKey = publicKey

theorem nodup_filter {devices : List PairedDevice} (p : PairedDevice → Bool)
    (h : (devices.map PairedDevice.deviceId).Nodup) :
    ((devices.filter p).map PairedDevice.deviceId).Nodup :=
  h.sublist (List.filter_sublist.map _)

/-- Entries with the identifier of the new one are removed, the new one is
appended. -/
def savePairedDevice (list : DeviceList) (device : PairedDevice) : DeviceList where
  devices := list.devices.filter (fun d ↦ d.deviceId ≠ device.deviceId) ++ [device]
  nodup := by
    rw [List.map_append, List.map_singleton, List.nodup_append]
    refine ⟨nodup_filter _ list.nodup, List.nodup_singleton _, ?_⟩
    rintro id hid _ hid' rfl
    obtain ⟨d, hd, rfl⟩ := List.mem_map.mp hid
    have hne : d.deviceId ≠ device.deviceId := by simpa using (List.mem_filter.mp hd).2
    exact hne (List.mem_singleton.mp hid')

def removePairedDevice (list : DeviceList) (deviceId : String) : DeviceList where
  devices := list.devices.filter fun d ↦ d.deviceId ≠ deviceId
  nodup := nodup_filter _ list.nodup

/-- The entries without a user of the first one with the identifier, and whether it went with
its last user. -/
def withoutUser (devices : List PairedDevice) (deviceId username : String) :
    Option (List PairedDevice × Bool) :=
  match devices.findIdx? fun d ↦ d.deviceId = deviceId with
  | none => none
  | some deviceIndex =>
    match devices[deviceIndex]? with
    | none => none
    | some device =>
      let updatedUsers := device.allowedUsers.filter (· ≠ username)
      if updatedUsers = [] then some (devices.eraseIdx deviceIndex, true)
      else some (devices.set deviceIndex { device with allowedUsers := updatedUsers }, false)

/-- Everything but the users stays as it is, in the entries that stay. -/
theorem sublist_of_withoutUser {α : Type} {f : PairedDevice → α}
    (hf : ∀ device users, f { device with allowedUsers := users } = f device)
    {devices left : List PairedDevice} {deviceId username : String} {removed : Bool}
    (h : withoutUser devices deviceId username = some (left, removed)) :
    List.Sublist (left.map f) (devices.map f) := by
  simp only [withoutUser] at h
  split at h
  · cases h
  next deviceIndex _ =>
    split at h
    · cases h
    · next device hdevice =>
      split at h
      · cases h
        exact (List.eraseIdx_sublist devices deviceIndex).map f
      · cases h
        obtain ⟨hlt, hget⟩ := List.getElem?_eq_some_iff.mp hdevice
        have hlt' : deviceIndex < (devices.map f).length := by rwa [List.length_map]
        have hsame : f device = (devices.map f)[deviceIndex] := by rw [List.getElem_map, hget]
        rw [List.map_set, hf, hsame, List.set_getElem_self]

/-- `removeUserFromDevice`: the list it writes and what it returns, if there is an entry. -/
def removeUserFromDevice (list : DeviceList) (deviceId username : String) :
    Option (DeviceList × Bool) :=
  match h : withoutUser list.devices deviceId username with
  | none => none
  | some (left, removed) =>
    some (⟨left, list.nodup.sublist (sublist_of_withoutUser (fun _ _ ↦ rfl) h)⟩, removed)

variable {list : DeviceList}

theorem mem_savePairedDevice {device d : PairedDevice} :
    d ∈ list.savePairedDevice device ↔ (d ∈ list ∧ d.deviceId ≠ device.deviceId) ∨ d = device := by
  change d ∈ list.devices.filter _ ++ [device] ↔ (d ∈ list.devices ∧ _) ∨ _
  simp

/-- Entries are determined by their identifiers. -/
theorem eq_of_deviceId {d d' : PairedDevice} (h : d ∈ list) (h' : d' ∈ list)
    (hid : d.deviceId = d'.deviceId) : d = d' :=
  List.inj_on_of_nodup_map list.nodup h h' hid

theorem findByPublicKey_eq_some {publicKey : Bytes} {d : PairedDevice}
    (h : list.findByPublicKey publicKey = some d) : d ∈ list ∧ d.publicKey = publicKey :=
  ⟨List.mem_of_find?_eq_some h, by simpa using List.find?_some h⟩

theorem findByPublicKey_eq_none {publicKey : Bytes} :
    list.findByPublicKey publicKey = none ↔ ∀ d ∈ list, d.publicKey ≠ publicKey := by
  change list.devices.find? _ = none ↔ ∀ d ∈ list.devices, _
  simp

/-- The list has an entry for a public key, and every entry for it holds `csk`. -/
def StoresCsk (list : DeviceList) (publicKey csk : Bytes) : Prop :=
  (∃ d ∈ list, d.publicKey = publicKey) ∧ ∀ d ∈ list, d.publicKey = publicKey → d.csk = csk

end DeviceList

end TapAuth.Phone
