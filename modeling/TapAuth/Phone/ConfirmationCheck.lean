import TapAuth.Phone.ControlMessages

/-!
# The confirmation that ends a retransmission over BLE

`retransmitWithConfirmationCheck` sends an answer again every half second, for ten seconds at
most, and before each transmission looks for a confirmation.  It looks in three places: at
what a callback has left in a map under the address of the connection, at the same map while
it waits for the read it has just asked for, and at the value the characteristic itself still
holds.  It stops for any value that is not empty; it does not decrypt it.

So an undisturbed retransmission that stops early was stopped by some non-empty value it read
(`CheckHistory`), and by a confirmation if every non-empty value is one
(`confirmed_of_ended_early`).  A single byte stops it too (`stopped_by_any_byte`).
-/

namespace TapAuth.Phone.ConfirmationCheck

open Shared

/-! ## The loop -/

def maxDuration : Int64 := 10000

/-- How the loop was left. -/
inductive CheckEnd where
  /-- The time is up. -/
  | limit
  /-- The coroutine is cancelled. -/
  | inactive
  | permissionMissing
  /-- A value that is not empty was read. -/
  | confirmed (value : Bytes)
  | writeFailed
  /-- An exception inside the `try` block. -/
  | interrupted
  deriving DecidableEq

/-- Where the loop is. -/
inductive Place where
  /-- At the condition of the loop. -/
  | top
  /-- In `delay(500)`. -/
  | delaying (due : Int64)
  /-- Before the check of the permission. -/
  | permission
  /-- At the early check. -/
  | early
  /-- Before the read is asked for. -/
  | reading
  /-- At the condition of the inner loop. -/
  | polling (pollStart : Int64)
  /-- In `delay(20)`. -/
  | pollDelay (pollStart due : Int64)
  | writing
  | ended (how : CheckEnd) (time : Int64)
  deriving DecidableEq

/-- What the calls of a step answer. -/
structure Calls where
  hasPermission : Bool := true
  readStarted : Bool := true
  retransmitSuccess : Bool := true
  throws : Bool := false

/-- The coroutine, with the map and the characteristic it reads. -/
structure Check where
  place : Place
  attempt : Nat
  startTime : Int64
  elapsedRealtime : Int64
  isActive : Bool
  confirmationValues : String → Option Bytes
  /-- `confirmationChar.value` -/
  charValue : Option Bytes

namespace Check

/-- The first steps of the function. -/
def start (elapsedRealtime : Int64) (confirmationValues : String → Option Bytes)
    (charValue : Option Bytes) : Check where
  place := .top
  attempt := 0
  startTime := elapsedRealtime
  elapsedRealtime := elapsedRealtime
  isActive := true
  confirmationValues := confirmationValues
  charValue := charValue

def goto (s : Check) (place : Place) : Check := { s with place := place }

def removeValue (s : Check) (address : String) : Check :=
  { s with confirmationValues := Function.update s.confirmationValues address none }

theorem removeValue_self (s : Check) (address : String) :
    (s.removeValue address).confirmationValues address = none :=
  Function.update_self ..

/-- The loop is left and the statements behind it run. -/
def leave (s : Check) (address : String) (how : CheckEnd) : Check :=
  (s.removeValue address).goto (.ended how s.elapsedRealtime)

/-- What is done with the value that was read. -/
def judge (s : Check) (address : String) : Option Bytes → Check
  | some (byte :: rest) => s.leave address (.confirmed (byte :: rest))
  | _ => s.goto .writing

/-- One step of the coroutine. -/
def step (s : Check) (address : String) (calls : Calls) : Option Check :=
  match s.place with
  | .top =>
    if s.elapsedRealtime - s.startTime < maxDuration then
      some (if s.isActive then s.goto (.delaying (s.elapsedRealtime + 500))
        else s.leave address .inactive)
    else some (s.leave address .limit)
  | .delaying due =>
    -- A cancelled `delay` throws outside the `try` block, past the statements behind the loop.
    if s.isActive then
      if due ≤ s.elapsedRealtime then
        some ({ s with attempt := s.attempt + 1 }.goto .permission)
      else none
    else some (s.goto (.ended .inactive s.elapsedRealtime))
  | .permission =>
    some (if calls.hasPermission then
      if calls.throws then s.leave address .interrupted
      else if s.attempt = 1 then (s.removeValue address).goto .early
      else s.goto .early
    else s.leave address .permissionMissing)
  | .early =>
    some (match s.confirmationValues address with
      | some (byte :: rest) => s.leave address (.confirmed (byte :: rest))
      | _ => s.goto .reading)
  | .reading =>
    some (if calls.throws then s.leave address .interrupted
      else if calls.readStarted then
        (s.removeValue address).goto (.polling s.elapsedRealtime)
      else (s.removeValue address).goto .writing)
  | .polling pollStart =>
    some (if s.elapsedRealtime - pollStart < 300 then
      match s.confirmationValues address with
      | some value => s.judge address (some value)
      | none => s.goto (.pollDelay pollStart (s.elapsedRealtime + 20))
    else s.judge address s.charValue)
  | .pollDelay pollStart due =>
    if s.isActive then
      if due ≤ s.elapsedRealtime then some (s.goto (.polling pollStart)) else none
    else some (s.leave address .interrupted)
  | .writing =>
    some (if calls.throws then s.leave address .interrupted
      else if calls.retransmitSuccess then s.goto .top
      else s.leave address .writeFailed)
  | .ended .. => none

end Check

inductive CheckEvent where
  /-- A step of the coroutine. -/
  | step (calls : Calls)
  /-- Time passes. -/
  | clock (elapsedRealtime : Int64)
  /-- `onCharacteristicRead` for the confirmation characteristic of a connection. -/
  | characteristicRead (address : String) (value : Bytes)
  /-- The Bluetooth stack sets the value of the characteristic. -/
  | charValue (value : Option Bytes)
  /-- Another connection, or this one, is lost: its entry is removed. -/
  | disconnected (address : String)
  | cancel

/-- The events around one call for the connection of `address`. -/
def checkNext (address : String) (s : Check) : CheckEvent → Option Check
  | .step calls => s.step address calls
  | .clock elapsedRealtime =>
    if s.elapsedRealtime ≤ elapsedRealtime then
      some { s with elapsedRealtime := elapsedRealtime }
    else none
  | .characteristicRead other value =>
    some { s with confirmationValues := Function.update s.confirmationValues other (some value) }
  | .charValue value => some { s with charValue := value }
  | .disconnected other => some (s.removeValue other)
  | .cancel => some { s with isActive := false }

def retransmitWithConfirmationCheck (address : String) : Machine Check CheckEvent :=
  ⟨checkNext address⟩

/-! ## What is read, and what disturbs -/

/-- The value an event brings for the connection. -/
def CheckEvent.value? (address : String) : CheckEvent → Option Bytes
  | .characteristicRead other value => if other = address then some value else none
  | .charValue value => value
  | _ => none

/-- The values read during the call, with the one the characteristic holds at its start. -/
def valuesRead (address : String) (charValue : Option Bytes) (events : List CheckEvent) :
    List Bytes :=
  charValue.toList ++ events.filterMap (CheckEvent.value? address)

/-- The permission stays, writes succeed, no call throws and nobody cancels. -/
def CheckEvent.undisturbed : CheckEvent → Bool
  | .step calls => calls.hasPermission && calls.retransmitSuccess && !calls.throws
  | .cancel => false
  | _ => true

/-- The value decrypts to a confirmation for the challenge. -/
def confirmsGrant (P : Primitives) (csk challenge value : Bytes) : Bool :=
  match decryptEncryptedPacket P csk value with
  | none => false
  | some message =>
    match P.wrapperFormat.decode message with
    | .error _ => false
    | .ok wrapper => wrapper.payload = some (.grantConfirmation ⟨challenge⟩)

section

variable {address : String} {reads : List Bytes} {startTime : Int64} {s t : Check}

/-- The attempt has been counted. -/
def Place.InAttempt : Place → Prop
  | .permission | .early | .reading | .polling _ | .pollDelay .. | .writing => True
  | _ => False

/-- An undisturbed loop was left for a value read, or because the time was up. -/
def LeftFor (reads : List Bytes) (startTime : Int64) (how : CheckEnd) (time : Int64) : Prop :=
  (how = .limit ∧ ¬ time - startTime < maxDuration) ∨
    ∃ value ∈ reads, value ≠ [] ∧ how = .confirmed value

/-- What an undisturbed loop knows of the values read so far. -/
structure CheckHistory (address : String) (reads : List Bytes) (startTime : Int64) (s : Check) :
    Prop where
  active : s.isActive = true
  startTime_eq : s.startTime = startTime
  charValue : ∀ value, s.charValue = some value → value ∈ reads
  /-- What is in the map before the removal of the first attempt is from an earlier call. -/
  values : s.attempt ≠ 0 → (s.attempt = 1 → s.place ≠ .permission) →
    ∀ value, s.confirmationValues address = some value → value ∈ reads
  attempt : s.place.InAttempt → s.attempt ≠ 0
  ended : ∀ how time, s.place = .ended how time → LeftFor reads startTime how time

namespace CheckHistory

theorem of_start (elapsedRealtime : Int64) (confirmationValues : String → Option Bytes)
    (charValue : Option Bytes) :
    CheckHistory address charValue.toList elapsedRealtime
      (.start elapsedRealtime confirmationValues charValue) where
  active := rfl
  startTime_eq := rfl
  charValue _ hvalue := Option.mem_toList.mpr hvalue
  values hattempt := absurd rfl hattempt
  attempt hin := hin.elim
  ended _ _ hplace := nomatch hplace

theorem mono (h : CheckHistory address reads startTime s) {more : List Bytes}
    (hmore : reads ⊆ more) : CheckHistory address more startTime s where
  active := h.active
  startTime_eq := h.startTime_eq
  charValue value hvalue := hmore (h.charValue value hvalue)
  values hattempt hplace value hvalue := hmore (h.values hattempt hplace value hvalue)
  attempt := h.attempt
  ended how time hplace := by
    rcases h.ended how time hplace with hlimit | ⟨value, hmem, hvalue⟩
    · exact .inl hlimit
    · exact .inr ⟨value, hmore hmem, hvalue⟩

/-- Whatever is put into the map for the connection is among the values read. -/
theorem setValues (h : CheckHistory address reads startTime s) {values : String → Option Bytes}
    (hvalues : ∀ value, values address = some value →
      value ∈ reads ∨ s.confirmationValues address = some value) :
    CheckHistory address reads startTime { s with confirmationValues := values } where
  active := h.active
  startTime_eq := h.startTime_eq
  charValue := h.charValue
  values hattempt hplace value hvalue :=
    (hvalues value hvalue).elim id (h.values hattempt hplace value)
  attempt := h.attempt
  ended := h.ended

theorem removeEntry (h : CheckHistory address reads startTime s) (other : String) :
    CheckHistory address reads startTime (s.removeValue other) := by
  refine h.setValues fun value hvalue ↦ .inr ?_
  by_cases heq : address = other
  · rw [heq, Function.update_self] at hvalue
    cases hvalue
  · rwa [Function.update_of_ne heq] at hvalue

/-- On to another place of the loop. -/
theorem goto (h : CheckHistory address reads startTime s) {place : Place}
    (hin : place.InAttempt → s.attempt ≠ 0)
    (hvalues : s.place = .permission → s.attempt = 1 → s.confirmationValues address = none)
    (hend : ∀ how time, place = .ended how time → LeftFor reads startTime how time) :
    CheckHistory address reads startTime (s.goto place) where
  active := h.active
  startTime_eq := h.startTime_eq
  charValue := h.charValue
  values hattempt _ value hvalue := by
    by_cases hplace : s.place = .permission ∧ s.attempt = 1
    · rw [Check.goto, hvalues hplace.1 hplace.2] at hvalue
      cases hvalue
    · exact h.values hattempt (fun hone hperm ↦ hplace ⟨hperm, hone⟩) value hvalue
  attempt := hin
  ended := hend

/-- On from any place but the check of the permission the map is as it was. -/
theorem on (h : CheckHistory address reads startTime s) {current place : Place}
    (hplace : s.place = current) (hne : current ≠ .permission)
    (hin : place.InAttempt → s.attempt ≠ 0) (hend : ∀ how time, place ≠ .ended how time) :
    CheckHistory address reads startTime (s.goto place) :=
  h.goto hin (fun hpermission ↦ absurd (hplace.symm.trans hpermission) hne)
    (fun how time heq ↦ absurd heq (hend how time))

/-- And on from anywhere once the entry of the connection is removed. -/
theorem removed (h : CheckHistory address reads startTime s) (hattempt : s.attempt ≠ 0)
    {place : Place} (hend : ∀ how time, place ≠ .ended how time) :
    CheckHistory address reads startTime ((s.removeValue address).goto place) :=
  (h.removeEntry address).goto (fun _ ↦ hattempt) (fun _ _ ↦ s.removeValue_self address)
    (fun how time heq ↦ absurd heq (hend how time))

/-- The delay is over and the attempt is counted. -/
theorem counted (h : CheckHistory address reads startTime s) {due : Int64}
    (hplace : s.place = .delaying due) :
    CheckHistory address reads startTime
      ({ s with attempt := s.attempt + 1 }.goto .permission) where
  active := h.active
  startTime_eq := h.startTime_eq
  charValue := h.charValue
  values _ hone value hvalue := by
    -- It was not the first attempt, so an earlier one has removed what was there.
    have hattempt : s.attempt ≠ 0 := fun hzero ↦ hone (congrArg (· + 1) hzero) rfl
    refine h.values hattempt (fun _ hpermission ↦ ?_) value hvalue
    rw [hplace] at hpermission
    cases hpermission
  attempt _ := Nat.succ_ne_zero _
  ended := nofun

theorem leave (h : CheckHistory address reads startTime s) {how : CheckEnd}
    (hleft : LeftFor reads startTime how s.elapsedRealtime) :
    CheckHistory address reads startTime (s.leave address how) := by
  refine (h.removeEntry address).goto (fun hin ↦ hin.elim) (fun _ _ ↦ s.removeValue_self address) ?_
  intro how' time hplace
  cases hplace
  exact hleft

theorem judge (h : CheckHistory address reads startTime s) {current : Place}
    {value : Option Bytes} (hplace : s.place = current) (hne : current ≠ .permission)
    (hattempt : s.attempt ≠ 0)
    (hvalue : ∀ bytes, value = some bytes → bytes ∈ reads) :
    CheckHistory address reads startTime (s.judge address value) := by
  match value with
  | none => exact h.on hplace hne (fun _ ↦ hattempt) nofun
  | some [] => exact h.on hplace hne (fun _ ↦ hattempt) nofun
  | some (byte :: rest) =>
    exact h.leave (.inr ⟨byte :: rest, hvalue _ rfl, List.cons_ne_nil byte rest, rfl⟩)

/-- A step of the coroutine, one case for each place. -/
theorem step {calls : Calls} (h : CheckHistory address reads startTime s)
    (hcalls : (CheckEvent.step calls).undisturbed = true)
    (hstep : s.step address calls = some t) : CheckHistory address reads startTime t := by
  obtain ⟨⟨hpermission, hwritten⟩, hthrows⟩ :
      (calls.hasPermission = true ∧ calls.retransmitSuccess = true) ∧ calls.throws = false := by
    simpa [CheckEvent.undisturbed] using hcalls
  simp only [Check.step, h.active, hpermission, hwritten, hthrows, if_true, Bool.false_eq_true,
    if_false] at hstep
  have hattempt := h.attempt
  have hvalues := h.values
  cases hplace : s.place with
  | top =>
    simp only [hplace] at hstep
    split at hstep
    · cases hstep
      exact h.on hplace nofun (fun hin ↦ hin.elim) nofun
    next hlimit =>
      cases hstep
      rw [h.startTime_eq] at hlimit
      exact h.leave (.inl ⟨rfl, hlimit⟩)
  | delaying due =>
    simp only [hplace] at hstep
    obtain ⟨-, hstep⟩ := Option.ite_none_right_eq_some.mp hstep
    cases hstep
    have hcounted := h.counted hplace
    rwa [hplace, h.active] at hcounted
  | permission =>
    simp only [hplace] at hstep hattempt
    split at hstep
    · cases hstep
      exact h.removed (hattempt trivial) nofun
    next hone =>
      cases hstep
      exact h.goto (fun _ ↦ hattempt trivial) (fun _ heq ↦ absurd heq hone) nofun
  | early =>
    simp only [hplace] at hstep hattempt hvalues
    split at hstep
    next byte rest hvalue =>
      cases hstep
      have hmem := hvalues (hattempt trivial) nofun _ hvalue
      exact h.leave (.inr ⟨_, hmem, List.cons_ne_nil byte rest, rfl⟩)
    · cases hstep
      exact h.on hplace nofun (fun _ ↦ hattempt trivial) nofun
  | reading =>
    simp only [hplace] at hstep hattempt
    split at hstep <;> cases hstep <;> exact h.removed (hattempt trivial) nofun
  | polling pollStart =>
    simp only [hplace] at hstep hattempt hvalues
    split at hstep
    · split at hstep
      next value hvalue =>
        cases hstep
        refine h.judge hplace nofun (hattempt trivial) fun bytes heq ↦ ?_
        cases heq
        exact hvalues (hattempt trivial) nofun value hvalue
      · cases hstep
        exact h.on hplace nofun (fun _ ↦ hattempt trivial) nofun
    · cases hstep
      exact h.judge hplace nofun (hattempt trivial) h.charValue
  | pollDelay pollStart due =>
    simp only [hplace] at hstep hattempt
    obtain ⟨-, hstep⟩ := Option.ite_none_right_eq_some.mp hstep
    cases hstep
    exact h.on hplace nofun (fun _ ↦ hattempt trivial) nofun
  | writing =>
    simp only [hplace] at hstep
    cases hstep
    exact h.on hplace nofun (fun hin ↦ hin.elim) nofun
  | ended how time =>
    simp only [hplace] at hstep
    cases hstep

/-- Any event of an undisturbed call, with the value it brings. -/
theorem next {event : CheckEvent} (h : CheckHistory address reads startTime s)
    (hevent : event.undisturbed = true) (hnext : checkNext address s event = some t) :
    CheckHistory address (reads ++ (event.value? address).toList) startTime t := by
  have hmore := h.mono (List.subset_append_left reads (event.value? address).toList)
  cases event with
  | step calls => exact hmore.step hevent hnext
  | clock elapsedRealtime =>
    obtain ⟨-, hnext⟩ := Option.ite_none_right_eq_some.mp hnext
    cases hnext
    exact { hmore with }
  | characteristicRead other value =>
    cases hnext
    refine hmore.setValues fun bytes hbytes ↦ ?_
    by_cases heq : address = other
    · subst heq
      rw [Function.update_self] at hbytes
      cases hbytes
      exact .inl (List.mem_append_right _ (by simp [CheckEvent.value?]))
    · rw [Function.update_of_ne heq] at hbytes
      exact .inr hbytes
  | charValue value =>
    cases hnext
    refine { hmore with charValue := fun bytes hbytes ↦ ?_ }
    cases hbytes
    exact List.mem_append_right _ (List.mem_singleton_self bytes)
  | disconnected other =>
    cases hnext
    exact hmore.removeEntry other
  | cancel => cases hevent

end CheckHistory

theorem valuesRead_append (address : String) (charValue : Option Bytes) (events : List CheckEvent)
    (event : CheckEvent) :
    valuesRead address charValue (events ++ [event]) =
      valuesRead address charValue events ++ (event.value? address).toList := by
  rw [valuesRead, valuesRead, List.filterMap_append, List.append_assoc]
  cases hvalue : event.value? address with
  | none => rw [List.filterMap_cons_none hvalue]; rfl
  | some value => rw [List.filterMap_cons_some hvalue]; rfl

end

/-! ## What ends a retransmission early -/

section

variable {address : String} {elapsedRealtime : Int64} {confirmationValues : String → Option Bytes}
  {charValue : Option Bytes} {events : List CheckEvent} {s : Check}

/-- The history holds at the end of every undisturbed call. -/
theorem checkHistory_of_exec
    (hrun : (retransmitWithConfirmationCheck address).exec
      (.start elapsedRealtime confirmationValues charValue) events = some s)
    (hundisturbed : ∀ event ∈ events, event.undisturbed = true) :
    CheckHistory address (valuesRead address charValue events) elapsedRealtime s := by
  refine Machine.history_along _ (G := fun _ event ↦ event.undisturbed = true)
    (H := fun events s ↦
      CheckHistory address (valuesRead address charValue events) elapsedRealtime s)
    ?_ ?_ hrun (Machine.along_of_mem _ (fun event hmem _ ↦ hundisturbed event hmem) _)
  · rw [valuesRead, List.filterMap_nil, List.append_nil]
    exact .of_start elapsedRealtime confirmationValues charValue
  · intro before u event v _ hhistory hevent hnext
    rw [valuesRead_append]
    exact hhistory.next hevent hnext

/-- If every non-empty value read is a confirmation for the challenge, an undisturbed
retransmission that ends before its limit was ended by one. -/
theorem confirmed_of_ended_early {P : Primitives} {csk challenge : Bytes} {how : CheckEnd}
    {time : Int64}
    (hrun : (retransmitWithConfirmationCheck address).exec
      (.start elapsedRealtime confirmationValues charValue) events = some s)
    (hundisturbed : ∀ event ∈ events, event.undisturbed = true)
    (hended : s.place = .ended how time) (hearly : time - elapsedRealtime < maxDuration)
    (hgenuine : ∀ value ∈ valuesRead address charValue events, value ≠ [] →
      confirmsGrant P csk challenge value = true) :
    ∃ value ∈ valuesRead address charValue events,
      how = .confirmed value ∧ confirmsGrant P csk challenge value = true := by
  rcases (checkHistory_of_exec hrun hundisturbed).ended how time hended with
    ⟨-, hlate⟩ | ⟨value, hmem, hne, hhow⟩
  · exact absurd hearly hlate
  · exact ⟨value, hmem, hhow, hgenuine value hmem hne⟩

end

namespace CheckSample

def address : String := "AA:BB"

def start : Check := .start 0 (fun _ ↦ none) none

/-- A step whose calls all succeed. -/
def go : CheckEvent := .step {}

/-- The first attempt, in which the read answers with a value. -/
def events (value : Bytes) : List CheckEvent :=
  [go, .clock 500, go, go, go, go, .characteristicRead address value, go]

/-- What the desktop answers once it has the grant. -/
def confirmation : Bytes :=
  ControlSample.sealed (FixedBytes.fill 32 3) (wrapGrantConfirmation ⟨RequestSample.challenge⟩)

def confirmed : Check :=
  ((retransmitWithConfirmationCheck address).exec start (events confirmation)).get
    (by decide +kernel)

end CheckSample

open CheckSample

/-- One byte that is no confirmation for any challenge, under any key, ends the retransmission
after half a second. -/
theorem stopped_by_any_byte :
    (((retransmitWithConfirmationCheck address).exec start
        (events [1])).map Check.place = some (.ended (.confirmed [1]) 500)) ∧
      (∀ event ∈ events [1], event.undisturbed = true) ∧
      valuesRead address none (events [1]) = [[1]] ∧
      ∀ csk challenge, confirmsGrant Transparent.primitives csk challenge [1] = false := by
  refine ⟨by decide +kernel, by decide +kernel, by decide +kernel, fun csk challenge ↦ ?_⟩
  have hdecode : (Transparent.primitives.packetFormat.decode [1]).toOption = none := by
    decide +kernel
  have hnone : decryptEncryptedPacket Transparent.primitives csk [1] = none := by
    unfold decryptEncryptedPacket
    split
    next packet _ hpacket =>
      rw [hpacket] at hdecode
      cases hdecode
    · rfl
  rw [confirmsGrant, hnone]

theorem confirmed_of_ended_early_sealed :
    ∃ value ∈ valuesRead address none (events confirmation),
      CheckEnd.confirmed confirmation = .confirmed value ∧
      confirmsGrant Transparent.primitives RequestSample.device.csk RequestSample.challenge value =
        true := by
  have hended : confirmed.place = .ended (.confirmed confirmation) 500 := by
    decide +kernel
  exact confirmed_of_ended_early (Option.some_get _).symm (by decide +kernel) hended
    (by decide +kernel) (by decide +kernel)

end TapAuth.Phone.ConfirmationCheck
