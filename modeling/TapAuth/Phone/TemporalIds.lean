import Mathlib.Algebra.Group.Int.Defs
import TapAuth.Lib.Entries
import TapAuth.Phone.Packets

/-!
# Which identifiers the phone accepts

A desktop has one identifier a minute (`temporalIdOf_congr`), and the phone looks for those of
two instants (`idPair`).  `computeValidIds` enters the identifiers of a window and of the one
before, device by device.  It accepts the identifiers of these devices for these windows and
no others (`isSome_computeValidIds_iff`), and names the device if no other has the same
identifier (`computeValidIds_eq_some_iff`).  The BLE service computes them anew for every
message (`isSome_matchDevice_iff`).
-/

namespace TapAuth.Phone

open Shared

/-! ## Identifiers and minutes -/

/-- The minute the identifier of a second is for. -/
def minuteOf (second : Int64) : UInt64 := second.toUInt64 / timeWindowSeconds

/-- An identifier of `n` bytes, of the minute of a second. -/
def temporalIdOf (P : Primitives) (n : Nat) (csk : Bytes) (second : Int64) : Option Bytes :=
  (FixedBytes.ofBytes 32 csk).bind fun csk ↦
    match temporalIdentifierOf P n csk (minuteOf second) with
    | .ok identifier => some identifier.bytes
    | .error _ => none

/-- The identifiers of two instants. -/
def idPair (P : Primitives) (n : Nat) (csk : Bytes) (current previous : Int64) : List Bytes :=
  match temporalIdOf P n csk current, temporalIdOf P n csk previous with
  | some currentId, some previousId => [currentId, previousId]
  | _, _ => []

section

variable {P : Primitives} {n : Nat} {csk id : Bytes}

theorem generateTemporalId_eq (second : Int64) :
    generateTemporalId P csk second = temporalIdOf P 16 csk second := by
  unfold generateTemporalId temporalIdOf generateTemporalIdentifier minuteOf
  cases FixedBytes.ofBytes 32 csk with
  | none => rfl
  | some key =>
    simp only [Option.bind_some]
    cases temporalIdentifierOf P 16 key (second.toUInt64 / timeWindowSeconds) <;> rfl

theorem temporalIdOf_congr {second other : Int64} (h : minuteOf second = minuteOf other) :
    temporalIdOf P n csk second = temporalIdOf P n csk other := by
  rw [temporalIdOf, h]
  rfl

theorem temporalIdOf_eq_none (h : csk.length ≠ 32) (second : Int64) :
    temporalIdOf P n csk second = none := by
  have hnone : FixedBytes.ofBytes 32 csk = none := dif_neg h
  rw [temporalIdOf, hnone, Option.bind_none]

theorem exists_temporalIdOf (hn : n ≤ 32) (h : csk.length = 32) (second : Int64) :
    ∃ id, temporalIdOf P n csk second = some id := by
  obtain ⟨key, rfl⟩ : ∃ key : Bytes32, csk = key.bytes := ⟨⟨csk, h⟩, rfl⟩
  have hok := temporalIdentifierOf_isOk P hn key (minuteOf second)
  simp only [temporalIdOf, FixedBytes.ofBytes_bytes, Option.bind_some]
  cases hidentifier : temporalIdentifierOf P n key (minuteOf second) with
  | ok identifier => exact ⟨_, rfl⟩
  | error e =>
    rw [hidentifier] at hok
    cases hok

theorem length_of_temporalIdOf {second : Int64} (h : temporalIdOf P n csk second = some id) :
    id.length = n := by
  obtain ⟨key, -, hid⟩ := Option.bind_eq_some_iff.mp h
  split at hid
  · cases hid
    exact FixedBytes.length_bytes _
  · cases hid

theorem mem_idPair (hn : n ≤ 32) {current previous : Int64} :
    id ∈ idPair P n csk current previous ↔
      temporalIdOf P n csk current = some id ∨ temporalIdOf P n csk previous = some id := by
  by_cases hcsk : csk.length = 32
  · obtain ⟨currentId, hcurrent⟩ := exists_temporalIdOf hn hcsk current (P := P)
    obtain ⟨previousId, hprevious⟩ := exists_temporalIdOf hn hcsk previous (P := P)
    simp [idPair, hcurrent, hprevious, eq_comm]
  · simp [idPair, temporalIdOf_eq_none hcsk]

theorem toNat_minuteOf (z : Int) : (minuteOf (Int64.ofInt z)).toNat = (z % 2 ^ 64).toNat / 60 := by
  have hlane : (Int64.ofInt z).toUInt64.toNat = (z % 2 ^ 64).toNat := by
    change (Int64.ofInt z).toBitVec.toNat = _
    rw [Int64.toBitVec_ofInt, BitVec.toNat_ofInt]
    rfl
  rw [minuteOf, UInt64.toNat_div, hlane]
  rfl

/-- The second at which a minute of the phone's begins. -/
theorem windowStart_ofInt {w : Int} (hlow : -1 ≤ w) (hhigh : w * 60000 < 2 ^ 63) :
    Int64.ofInt w * timeWindowMs / 1000 = Int64.ofInt (w * 60) := by
  have hmin : Int64.minValue.toInt = -2 ^ 63 := by decide
  have hmax : Int64.maxValue.toInt = 2 ^ 63 - 1 := by decide
  have hexact : (w * 60000).tdiv 1000 = w * 60 := by
    rw [show w * 60000 = w * 60 * 1000 by omega, Int.mul_tdiv_cancel _ (by decide)]
  rw [← hexact, Int64.ofInt_tdiv (by omega) (by omega) (by omega) (by omega), Int64.ofInt_mul]
  rfl

end

/-! ## The cache of the identifiers -/

/-- The identifier is one of the window, which begins at a full minute, or of the one before. -/
def HasId (P : Primitives) (csk : Bytes) (window : Int64) (id : Bytes) : Prop :=
  generateTemporalId P csk (window * timeWindowMs / 1000) = some id ∨
    generateTemporalId P csk ((window - 1) * timeWindowMs / 1000) = some id

instance (P : Primitives) (csk : Bytes) (window : Int64) (id : Bytes) :
    Decidable (HasId P csk window id) := inferInstanceAs (Decidable (_ ∨ _))

/-- No two of the devices have an identifier in common in the window and the one before. -/
def NoCollision (P : Primitives) (devices : List CachedDevice) (window : Int64) : Prop :=
  ∀ d ∈ devices, ∀ d' ∈ devices, ∀ id, HasId P d.csk window id → HasId P d'.csk window id →
    d.deviceId = d'.deviceId

section

variable {P : Primitives} {devices : List CachedDevice} {window : Int64} {id : Bytes}

theorem hasId_iff {csk : Bytes} :
    HasId P csk window id ↔ id ∈ idPair P 16 csk (window * timeWindowMs / 1000)
      ((window - 1) * timeWindowMs / 1000) := by
  rw [mem_idPair (by decide), HasId, generateTemporalId_eq, generateTemporalId_eq]

theorem HasId.length {csk : Bytes} (h : HasId P csk window id) : id.length = 16 := by
  obtain h | h := h
  · rw [generateTemporalId_eq] at h
    exact length_of_temporalIdOf h
  · rw [generateTemporalId_eq] at h
    exact length_of_temporalIdOf h

/-- What a device has entered: the key decides whether there is an identifier, and does so for
both windows. -/
theorem putValidIds_eq (window : Int64) (ids : HexMap String) (device : CachedDevice) :
    putValidIds P window ids device = Entries.enter ids
      ((idPair P 16 device.csk (window * timeWindowMs / 1000)
        ((window - 1) * timeWindowMs / 1000)).map fun id ↦ (hexEncode id, device.deviceId)) := by
  unfold putValidIds idPair
  simp only [generateTemporalId_eq]
  by_cases hcsk : device.csk.length = 32
  · obtain ⟨current, hcurrent⟩ := exists_temporalIdOf (n := 16) (by decide) hcsk
      (window * timeWindowMs / 1000) (P := P)
    obtain ⟨previous, hprevious⟩ := exists_temporalIdOf (n := 16) (by decide) hcsk
      ((window - 1) * timeWindowMs / 1000) (P := P)
    rw [hcurrent, hprevious]
    rfl
  · rw [temporalIdOf_eq_none hcsk]
    rfl

theorem computeValidIds_eq (devices : List CachedDevice) (window : Int64) :
    computeValidIds P devices window = Entries.enter (fun _ ↦ none)
      (devices.flatMap fun device ↦ (idPair P 16 device.csk (window * timeWindowMs / 1000)
        ((window - 1) * timeWindowMs / 1000)).map fun id ↦ (hexEncode id, device.deviceId)) := by
  rw [← Entries.foldl_enter, computeValidIds]
  congr 1
  funext ids device
  exact putValidIds_eq window ids device

/-- The pairs that are entered. -/
theorem mem_entries {deviceId : String} :
    (hexEncode id, deviceId) ∈ devices.flatMap (fun device ↦
        (idPair P 16 device.csk (window * timeWindowMs / 1000)
          ((window - 1) * timeWindowMs / 1000)).map fun id ↦ (hexEncode id, device.deviceId)) ↔
      ∃ device ∈ devices, device.deviceId = deviceId ∧ HasId P device.csk window id := by
  simp only [List.mem_flatMap, List.mem_map, Prod.mk.injEq, hexEncode_injective.eq_iff]
  refine exists_congr fun device ↦ and_congr_right fun _ ↦ ?_
  constructor
  · rintro ⟨_, hid, rfl, rfl⟩
    exact ⟨rfl, hasId_iff.mpr hid⟩
  · rintro ⟨rfl, hid⟩
    exact ⟨id, hasId_iff.mp hid, rfl, rfl⟩

theorem isSome_computeValidIds_iff :
    (computeValidIds P devices window (hexEncode id)).isSome ↔
      ∃ device ∈ devices, HasId P device.csk window id := by
  rw [computeValidIds_eq, Entries.isSome_enter_iff]
  simp only [mem_entries]
  constructor
  · rintro ⟨-, device, hmem, -, hid⟩
    exact ⟨device, hmem, hid⟩
  · rintro ⟨device, hmem, hid⟩
    exact ⟨_, device, hmem, rfl, hid⟩

theorem computeValidIds_eq_some_iff {deviceId : String} (h : NoCollision P devices window) :
    computeValidIds P devices window (hexEncode id) = some deviceId ↔
      ∃ device ∈ devices, device.deviceId = deviceId ∧ HasId P device.csk window id := by
  rw [computeValidIds_eq, Entries.enter_eq_some_iff, mem_entries]
  simp only [mem_entries]
  rintro _ _ ⟨d, hd, rfl, hid⟩ ⟨d', hd', rfl, hid'⟩
  exact h d hd d' hd' id hid hid'

/-- The BLE service finds a desktop by its identifier of this minute or the last. -/
theorem isSome_matchDevice_iff {devices : List PairedDevice}
    (hcsks : ∀ device ∈ devices, device.csk.length = 32) {currentTimestamp : Int64} :
    (matchDevice P currentTimestamp id devices).isSome ↔
      ∃ device ∈ devices, generateTemporalId P device.csk currentTimestamp = some id ∨
        generateTemporalId P device.csk (currentTimestamp - 60) = some id := by
  induction devices with
  | nil => simp [matchDevice]
  | cons first devices ih =>
    obtain ⟨current, hcurrent⟩ := exists_temporalIdOf (n := 16) (by decide)
      (hcsks first List.mem_cons_self) currentTimestamp (P := P)
    obtain ⟨previous, hprevious⟩ := exists_temporalIdOf (n := 16) (by decide)
      (hcsks first List.mem_cons_self) (currentTimestamp - 60) (P := P)
    have hrest := ih fun other hother ↦ hcsks other (List.mem_cons_of_mem first hother)
    simp only [matchDevice, generateTemporalId_eq, hcurrent, hprevious,
      hexEncode_injective.eq_iff, List.exists_mem_cons_iff, Option.some.injEq] at hrest ⊢
    split_ifs with hfirst
    · exact iff_of_true rfl (.inl (hfirst.imp Eq.symm Eq.symm))
    · rw [hrest]
      refine (or_iff_right fun h ↦ hfirst ?_).symm
      exact h.imp Eq.symm Eq.symm

end

namespace IdSample

def desktop : PairedDevice where
  deviceId := "d"
  publicKey := List.replicate 32 5
  csk := List.replicate 32 7
  displayName := "desktop"
  pairedAt := 0
  allowedUsers := ["alice"]

def paired : DeviceList := ⟨[desktop], List.nodup_singleton _⟩

end IdSample

end TapAuth.Phone
