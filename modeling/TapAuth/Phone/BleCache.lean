import TapAuth.Phone.TemporalIds
import TapAuth.Shared.Transparent

/-!
# The identifiers of BLE advertisements

`BleGattService` keeps the identifiers of the paired desktops for one minute and the one
before.  A start of the service fills the map; `matchTemporalIdOnDemand` fills it anew when the
minute is not the one it was filled for, and looks the identifier up.  A change of the device
list does not touch it.

So within a minute the answers are those for the devices that were paired when the map was
filled.  They are right if the list has not changed since (`matched_iff_of_unchanged`); a
desktop that is paired later in the minute is not found (`paired_desktop_unmatched`).  A start
reads the clock twice, for the identifiers and for the minute they are said to be of, and is
asked to do so within one minute.
-/

namespace TapAuth.Phone

open Shared

def generateTemporalIdBle (P : Primitives) (csk : Bytes) (timestampSeconds : Int64) :
    Option Bytes := temporalIdOf P 10 csk timestampSeconds

/-- Both loops over the devices: the two identifiers of a device, with its key. -/
def fillIds (P : Primitives) (devices : DeviceList) (current previous : Int64) : HexMap String :=
  devices.devices.foldl (fun ids device ↦ Entries.enter ids
    ((idPair P 10 device.csk current previous).map fun id ↦ (hexEncode id, hexEncode device.csk)))
    fun _ ↦ none

/-- The identifiers of a window and of the one before. -/
def windowIds (P : Primitives) (devices : DeviceList) (window : Int64) : HexMap String :=
  let currentTimestampSeconds := window * timeWindowMs / 1000
  fillIds P devices currentTimestampSeconds (currentTimestampSeconds - 60)

structure BleCache where
  /-- The key an identifier belongs to. -/
  temporalIdCache : HexMap String
  bleLastComputedWindow : Int64

namespace BleCache

def unfilled : BleCache := ⟨fun _ ↦ none, -1⟩

/-- `updateTemporalIdCache`: it reads the clock for the identifiers, and when it is done. -/
def updateTemporalIdCache (P : Primitives) (stored : DeviceList) (filled finished : Int64) :
    BleCache :=
  let currentTimestampSeconds := filled / 1000
  ⟨fillIds P stored currentTimestampSeconds (currentTimestampSeconds - 60), finished / timeWindowMs⟩

/-- The map that `matchTemporalIdOnDemand` looks into. -/
def onDemand (P : Primitives) (cache : BleCache) (stored : DeviceList) (now : Int64) : BleCache :=
  let currentWindow := now / timeWindowMs
  if currentWindow ≠ cache.bleLastComputedWindow then
    ⟨windowIds P stored currentWindow, currentWindow⟩
  else cache

def matchTemporalIdOnDemand (P : Primitives) (cache : BleCache) (stored : DeviceList)
    (now : Int64) (temporalIdHex : String) : Option String × BleCache :=
  let cache := cache.onDemand P stored now
  (cache.temporalIdCache temporalIdHex, cache)

end BleCache

/-! ## Histories -/

inductive IdCacheEvent where
  /-- A pairing or an unpairing leaves this list. -/
  | write (devices : DeviceList)
  | start (filled finished : Int64)
  | lookup (now : Int64) (temporalIdHex : String)

structure IdCacheState where
  stored : DeviceList
  cache : BleCache
  /-- The list that the map was filled from. -/
  filledFrom : Option DeviceList

namespace IdCacheState

def initial (stored : DeviceList) : IdCacheState := ⟨stored, .unfilled, none⟩

def step (P : Primitives) (s : IdCacheState) : IdCacheEvent → IdCacheState
  | .write devices => { s with stored := devices }
  | .start filled finished =>
    ⟨s.stored, .updateTemporalIdCache P s.stored filled finished, some s.stored⟩
  | .lookup now temporalIdHex =>
    { s with
      cache := (s.cache.matchTemporalIdOnDemand P s.stored now temporalIdHex).2
      filledFrom :=
        if now / timeWindowMs ≠ s.cache.bleLastComputedWindow then some s.stored
        else s.filledFrom }

def run (P : Primitives) (s : IdCacheState) (events : List IdCacheEvent) : IdCacheState :=
  events.foldl (step P) s

end IdCacheState

/-- The identifier is one of the window or of the one before. -/
def HasIdBle (P : Primitives) (csk : Bytes) (window : Int64) (id : Bytes) : Prop :=
  generateTemporalIdBle P csk (window * timeWindowMs / 1000) = some id ∨
    generateTemporalIdBle P csk (window * timeWindowMs / 1000 - 60) = some id

instance (P : Primitives) (csk : Bytes) (window : Int64) (id : Bytes) :
    Decidable (HasIdBle P csk window id) := inferInstanceAs (Decidable (_ ∨ _))

/-- A start that reads the clock twice in one minute, and not in the first there is. -/
def IdCacheEvent.Timely : IdCacheEvent → Prop
  | .start filled finished =>
    60000 ≤ filled.toInt ∧ filled / timeWindowMs = finished / timeWindowMs
  | _ => True

section

variable {P : Primitives}

theorem isSome_fillIds_iff {devices : DeviceList} {current previous : Int64} {id : Bytes} :
    (fillIds P devices current previous (hexEncode id)).isSome ↔
      ∃ device ∈ devices, generateTemporalIdBle P device.csk current = some id ∨
        generateTemporalIdBle P device.csk previous = some id := by
  rw [fillIds, Entries.foldl_enter, Entries.isSome_enter_iff]
  simp only [List.mem_flatMap, List.mem_map, Prod.mk.injEq, hexEncode_injective.eq_iff]
  constructor
  · rintro ⟨-, device, hmem, _, hid, rfl, -⟩
    exact ⟨device, hmem, (mem_idPair (by decide)).mp hid⟩
  · rintro ⟨device, hmem, hid⟩
    exact ⟨_, device, hmem, id, (mem_idPair (by decide)).mpr hid, rfl, rfl⟩

/-- Division of a clock reading, as a number. -/
theorem div_eq_ofInt {now d : Int64} (hnow : 0 ≤ now.toInt) :
    now / d = Int64.ofInt (now.toInt / d.toInt) := by
  have hmin := Int64.minValue_le_toInt
  have hmax := Int64.toInt_le
  conv_lhs => rw [← Int64.ofInt_toInt now, ← Int64.ofInt_toInt d]
  rw [← Int.tdiv_eq_ediv_of_nonneg hnow]
  exact (Int64.ofInt_tdiv (hmin now) (hmax now) (hmin d) (hmax d)).symm

/-- The identifiers of a start that is timely are those of its minute. -/
theorem minuteOf_of_timely {filled : Int64} (h : 60000 ≤ filled.toInt) :
    minuteOf (filled / 1000) = minuteOf (filled / timeWindowMs * timeWindowMs / 1000) ∧
      minuteOf (filled / 1000 - 60) =
        minuteOf (filled / timeWindowMs * timeWindowMs / 1000 - 60) := by
  have hmax := filled.toInt_lt
  have hsecond : filled / 1000 = Int64.ofInt (filled.toInt / 1000) :=
    div_eq_ofInt (by omega)
  have hwindow : filled / timeWindowMs * timeWindowMs / 1000 =
      Int64.ofInt (filled.toInt / 60000 * 60) := by
    rw [← windowStart_ofInt (by omega) (by omega)]
    rw [show filled / timeWindowMs = Int64.ofInt (filled.toInt / 60000) from
      div_eq_ofInt (by omega)]
  have hbefore : ∀ z : Int, Int64.ofInt z - 60 = Int64.ofInt (z - 60) :=
    fun z ↦ (Int64.ofInt_sub z 60).symm
  rw [hsecond, hwindow, hbefore, hbefore]
  refine ⟨UInt64.toNat_inj.mp ?_, UInt64.toNat_inj.mp ?_⟩
  · rw [toNat_minuteOf, toNat_minuteOf, Int.emod_eq_of_lt (by omega) (by omega),
      Int.emod_eq_of_lt (by omega) (by omega)]
    omega
  · rw [toNat_minuteOf, toNat_minuteOf, Int.emod_eq_of_lt (by omega) (by omega),
      Int.emod_eq_of_lt (by omega) (by omega)]
    omega

/-- A timely start fills the map as a lookup of its minute would. -/
theorem updateTemporalIdCache_of_timely {filled finished : Int64}
    (h : (IdCacheEvent.start filled finished).Timely) (stored : DeviceList) :
    BleCache.updateTemporalIdCache P stored filled finished =
      ⟨windowIds P stored (finished / timeWindowMs), finished / timeWindowMs⟩ := by
  obtain ⟨hcurrent, hprevious⟩ := minuteOf_of_timely h.1
  have hpair : ∀ csk, idPair P 10 csk (filled / 1000) (filled / 1000 - 60) =
      idPair P 10 csk (finished / timeWindowMs * timeWindowMs / 1000)
        (finished / timeWindowMs * timeWindowMs / 1000 - 60) := by
    intro csk
    rw [← h.2, idPair, temporalIdOf_congr hcurrent, temporalIdOf_congr hprevious]
    rfl
  simp only [BleCache.updateTemporalIdCache, windowIds, fillIds, hpair]

namespace IdCacheState

/-- The map is that of the window and the list it was filled for. -/
def Filled (P : Primitives) (s : IdCacheState) : Prop :=
  s.cache.temporalIdCache =
    s.filledFrom.elim (fun _ ↦ none) fun list ↦ windowIds P list s.cache.bleLastComputedWindow

theorem Filled.step {s : IdCacheState} (h : s.Filled P) {event : IdCacheEvent}
    (htimely : event.Timely) : (s.step P event).Filled P := by
  cases event with
  | write devices => exact h
  | start filled finished =>
    simp only [Filled, IdCacheState.step, updateTemporalIdCache_of_timely htimely]
    rfl
  | lookup now temporalIdHex =>
    simp only [Filled, IdCacheState.step, BleCache.matchTemporalIdOnDemand, BleCache.onDemand]
    split_ifs
    · rfl
    · exact h

theorem Filled.run {s : IdCacheState} (h : s.Filled P) {events : List IdCacheEvent}
    (htimely : ∀ event ∈ events, event.Timely) : (s.run P events).Filled P := by
  induction events generalizing s with
  | nil => exact h
  | cons event events ih =>
    exact ih (h.step (htimely event List.mem_cons_self))
      fun other hother ↦ htimely other (List.mem_cons_of_mem event hother)

/-- **The cached lookup and the recomputation.**  After any history with timely starts the two
agree, if the list has not changed since the map was filled for the minute of the lookup. -/
theorem matched_iff_of_unchanged (stored : DeviceList) (events : List IdCacheEvent)
    (htimely : ∀ event ∈ events, event.Timely) (now : Int64)
    (hunchanged : ((initial stored).run P events).cache.bleLastComputedWindow =
        now / timeWindowMs →
      ((initial stored).run P events).filledFrom =
        some ((initial stored).run P events).stored) (id : Bytes) :
    (((initial stored).run P events).cache.matchTemporalIdOnDemand P
        ((initial stored).run P events).stored now (hexEncode id)).1 =
      windowIds P ((initial stored).run P events).stored (now / timeWindowMs) (hexEncode id) ∧
    ((((initial stored).run P events).cache.matchTemporalIdOnDemand P
        ((initial stored).run P events).stored now (hexEncode id)).1.isSome ↔
      ∃ device ∈ ((initial stored).run P events).stored,
        HasIdBle P device.csk (now / timeWindowMs) id) := by
  have hfilled : ((initial stored).run P events).Filled P :=
    Filled.run (s := initial stored) rfl htimely
  generalize (initial stored).run P events = s at hfilled hunchanged
  have hsame : (s.cache.matchTemporalIdOnDemand P s.stored now (hexEncode id)).1 =
      windowIds P s.stored (now / timeWindowMs) (hexEncode id) := by
    simp only [BleCache.matchTemporalIdOnDemand, BleCache.onDemand]
    split_ifs with hwindow
    · rfl
    · rw [ne_eq, not_not] at hwindow
      rw [hfilled, hunchanged hwindow.symm, hwindow]
      rfl
  refine ⟨hsame, ?_⟩
  rw [hsame]
  exact isSome_fillIds_iff

open Transparent

/-- The desktop's identifier of the third minute. -/
def desktopId : Bytes :=
  (generateTemporalIdBle primitives IdSample.desktop.csk 120).getD []

/-- An advertisement is looked up, and then a desktop is paired. -/
def pairedLater : List IdCacheEvent := [.lookup 120000 "", .write IdSample.paired]

/-- The desktop's identifier of the minute is not found in this minute. -/
theorem paired_desktop_unmatched :
    ((initial .empty).run primitives pairedLater).stored = IdSample.paired ∧
      HasIdBle primitives IdSample.desktop.csk (130000 / timeWindowMs) desktopId ∧
      (((initial .empty).run primitives pairedLater).cache.matchTemporalIdOnDemand
        primitives IdSample.paired 130000 (hexEncode desktopId)).1 = none :=
  ⟨rfl, by decide +kernel, by decide +kernel⟩

/-- The desktop was paired before the service started. -/
def pairedBefore : List IdCacheEvent := [.write IdSample.paired, .start 120000 120100]

theorem matched_iff_of_unchanged_pairedBefore :
    (((initial .empty).run primitives pairedBefore).cache.matchTemporalIdOnDemand
        primitives ((initial .empty).run primitives pairedBefore).stored
        130000 (hexEncode desktopId)).1.isSome ∧
      ∃ device ∈ ((initial .empty).run primitives pairedBefore).stored,
        HasIdBle primitives device.csk (130000 / timeWindowMs) desktopId := by
  have hmatched := (matched_iff_of_unchanged .empty pairedBefore
    (by simp [pairedBefore, IdCacheEvent.Timely]; decide) 130000 (fun _ ↦ rfl) desktopId
    (P := primitives)).2
  have hsome : (((initial .empty).run primitives
      pairedBefore).cache.matchTemporalIdOnDemand primitives
      ((initial .empty).run primitives pairedBefore).stored
      130000 (hexEncode desktopId)).1.isSome := by decide +kernel
  exact ⟨hsome, hmatched.mp hsome⟩

end IdCacheState

end

end TapAuth.Phone
