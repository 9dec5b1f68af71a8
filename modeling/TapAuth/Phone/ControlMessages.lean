import TapAuth.Phone.Packets
import TapAuth.Phone.RequestTimeout

/-!
# Confirmations and cancels

A desktop tells the phone that it has a grant (`GrantConfirmation`) and that nobody waits for
an answer any more (`AuthenticationCancel`).  The services act on such a message by its
challenge: they stop the retransmission of the answer, forget the backoff of the desktop,
dismiss the prompt, release the transport lock and drop the connection.  A cancel is also
remembered, and a request that comes with its challenge later is dropped.

They check neither the signature of the wrapper nor whether the request with that challenge
came from the desktop the message was matched to.  `along_genuineOnly_iff` says exactly when
this is without consequence: a message that is not genuine finds nothing to change.

`PhoneState` is what the handlers of both services share.  A step is the arrival of a packet,
handled to its end, or anything else the phone does: the clock, an answer of the user, a
timeout, a retransmission that starts or ends, a connection that comes or goes.  The latter
may leave any state, except that it submits no request.  Callbacks of cancelled requests run
with the step that cancels them.

With the confirmation characteristic of a BLE connection, the loop that retransmits an answer
over it reads the confirmation by itself and takes any value that is not empty.
`BLUETOOTH_CONNECT` is granted: without it nothing is read over BLE.  For the retransmissions
and the backoffs only their presence is kept; what the rate limiter answers is an input.
-/

namespace TapAuth.Phone

open Shared AuthRequestManager Function

/-! ## The shared state -/

/-- What the callback of a request holds on to. -/
structure Callback where
  device : PairedDevice
  challenge : Bytes
  /-- The address of the connection, over BLE. -/
  connection : Option String
  deriving DecidableEq

structure PhoneState where
  devices : DeviceList
  temporalIdCache : TemporalIdCache
  memory : PhoneMemory
  manager : AuthRequestManager
  /-- The callbacks of the submitted requests. -/
  callbacks : String → Option Callback
  /-- The challenges, in hexadecimal, whose answer is retransmitted over UDP. -/
  activeRetransmissions : String → Bool
  /-- The public keys, in hexadecimal, for which the rate limiter has a backoff. -/
  clientBackoffs : String → Bool
  activeConnectionsByChallenge : HexMap String
  connected : String → Bool
  /-- The answer that is retransmitted over a BLE connection. -/
  bleRetransmissions : String → Option Callback

namespace PhoneState

def stopRetransmission (s : PhoneState) (challenge : Bytes) : PhoneState :=
  { s with
    activeRetransmissions := update s.activeRetransmissions (hexEncode challenge) false }

def resetClient (s : PhoneState) (device : PairedDevice) : PhoneState :=
  { s with
    clientBackoffs := update s.clientBackoffs (hexEncode device.publicKey) false }

def releaseLock (s : PhoneState) (challenge : Bytes) : PhoneState :=
  { s with memory := s.memory.setLock (hexEncode challenge) none }

def disconnect (s : PhoneState) (address : String) : PhoneState :=
  { s with connected := update s.connected address false }

def setConnection (s : PhoneState) (challenge : Bytes) (address : Option String) : PhoneState :=
  { s with
    activeConnectionsByChallenge :=
      update s.activeConnectionsByChallenge (hexEncode challenge) address }

section

variable (s : PhoneState) (device : PairedDevice) (challenge : Bytes) (address : String)

@[simp] theorem manager_stopRetransmission :
    (s.stopRetransmission challenge).manager = s.manager := rfl

@[simp] theorem manager_resetClient : (s.resetClient device).manager = s.manager := rfl

@[simp] theorem manager_releaseLock : (s.releaseLock challenge).manager = s.manager := rfl

@[simp] theorem manager_disconnect : (s.disconnect address).manager = s.manager := rfl

@[simp] theorem manager_setConnection (address : Option String) :
    (s.setConnection challenge address).manager = s.manager := rfl

end

/-- A callback that is told neither an approval nor an explicit denial. -/
def runCancelled (s : PhoneState) (callback : Callback) : PhoneState :=
  match callback.connection with
  | none => (s.resetClient callback.device).releaseLock callback.challenge
  | some address => (s.disconnect address).releaseLock callback.challenge

/-- The callbacks of the requests that are cancelled. -/
def runCallbacks (s : PhoneState) (ids : List String) : PhoneState :=
  ids.foldl (fun s requestId ↦ (s.callbacks requestId).elim s s.runCancelled) s

/-- The pending requests that a cancel of the challenge removes. -/
def dismissed (s : PhoneState) (challenge : Bytes) : List String :=
  (s.manager.idsToCancel challenge).filter fun requestId ↦
    (s.manager.pendingRequests.lookup requestId).isSome

def cancelRequestsByChallenge (s : PhoneState) (challenge : Bytes) : PhoneState :=
  { s with manager := (s.manager.cancelRequestsByChallenge challenge).2 }.runCallbacks
    (s.dismissed challenge)

/-! ## The handlers -/

def handleGrantConfirmation (s : PhoneState) (device : PairedDevice) (challenge : Bytes) :
    PhoneState :=
  (s.stopRetransmission challenge).resetClient device

/-- The BLE service gets the broadcast of a cancel. -/
def handleCancelConnection (s : PhoneState) (challenge : Bytes) : PhoneState :=
  match s.activeConnectionsByChallenge (hexEncode challenge) with
  | none => s
  | some address => (s.setConnection challenge none).disconnect address

/-- A cancel over UDP. -/
def handleAuthCancel (s : PhoneState) (device : PairedDevice) (challenge : Bytes) : PhoneState :=
  (((s.stopRetransmission challenge).resetClient device).cancelRequestsByChallenge
    challenge).handleCancelConnection challenge

/-- A cancel over BLE.  It drops the connection it came on. -/
def handleAuthCancelBle (s : PhoneState) (address : String) (challenge : Bytes) : PhoneState :=
  ((((s.setConnection challenge none).cancelRequestsByChallenge
    challenge).stopRetransmission challenge).releaseLock challenge).disconnect address

end PhoneState

/-- What a request asks of its surroundings. -/
structure RequestInput where
  /-- What the rate limiter answers. -/
  accepted : Bool
  /-- Whether it counts the request, or knows it already. -/
  counted : Bool
  /-- The identifier that `UUID.randomUUID` draws. -/
  requestId : String
  sessionTimeoutSeconds : Int64
  posted : Bool

section

variable (P : Primitives)

namespace PhoneState

/-- A request that passed the checks goes to the manager.  If its challenge has been cancelled,
its callback is started at once. -/
def submit (s : PhoneState) (job : Job) (address : String) (input : RequestInput) : PhoneState :=
  let callback : Callback :=
    { device := job.incoming.device
      challenge := job.request.challenge
      connection :=
        match job.incoming.transport with
        | .udp => none
        | .ble => some address }
  let cancelled := (s.manager.isChallengeCancelled job.request.challenge).1
  let s :=
    { s with
      manager := s.manager.submitRequest (job.submission input.requestId address
        input.sessionTimeoutSeconds s.memory.currentTimeMillis input.posted)
      callbacks := update s.callbacks input.requestId (some callback) }
  if cancelled then s.runCancelled callback else s

/-- A request over UDP, with the rate limiter before it. -/
def handleUdpRequest (s : PhoneState) (opened : Opened) (input : RequestInput) : PhoneState :=
  let s :=
    if input.counted then
      { s with
        clientBackoffs :=
          update s.clientBackoffs (hexEncode opened.device.publicKey) true }
    else s
  let incoming : Incoming := ⟨.udp, opened.device, opened.wrapperMessage⟩
  let handled := handleAuthRequest P s.memory incoming input.accepted
  let s := { s with memory := handled.1 }
  match handled.2, incoming.job? P with
  | .submitted, some job => s.submit job "" input
  | _, _ => s

/-- A request over BLE.  Once the challenge is claimed the connection is remembered with it; a
request that is not submitted drops the connection. -/
def handleBleRequest (s : PhoneState) (address : String) (opened : Opened)
    (input : RequestInput) : PhoneState :=
  let incoming : Incoming := ⟨.ble, opened.device, opened.wrapperMessage⟩
  let handled := handleAuthRequest P s.memory incoming input.accepted
  let s := { s with memory := handled.1 }
  match handled.2, incoming.job? P with
  | .submitted, some job =>
    (s.setConnection job.request.challenge (some address)).submit job address input
  | .replay, some job | .invalidSignature, some job =>
    (s.setConnection job.request.challenge (some address)).disconnect address
  | _, _ => s.disconnect address

/-- The rest of `handleIncomingPacket`: by the type of the message. -/
def routeUdp (s : PhoneState) (opened : Opened) (input : RequestInput) : PhoneState :=
  match P.wrapperFormat.decode opened.wrapperMessage with
  | .error _ => s
  | .ok wrapper =>
    match wrapper.payload with
    | some (.authRequest _) => s.handleUdpRequest P opened input
    | some (.grantConfirmation m) => s.handleGrantConfirmation opened.device m.challenge
    | some (.authCancel m) => s.handleAuthCancel opened.device m.challenge
    | _ => s

/-- The rest of `handleIncomingBleMessage`.  A confirmation is of no known type here. -/
def routeBle (s : PhoneState) (address : String) (opened : Opened) (input : RequestInput) :
    PhoneState :=
  match P.wrapperFormat.decode opened.wrapperMessage with
  | .error _ => s.disconnect address
  | .ok wrapper =>
    match wrapper.payload with
    | some (.authRequest _) => s.handleBleRequest P address opened input
    | some (.authCancel m) => s.handleAuthCancelBle address m.challenge
    | _ => s.disconnect address

/-- The identifiers are brought up to date for a packet that has one. -/
def refreshIds (s : PhoneState) (data : Bytes) : PhoneState :=
  if 16 ≤ data.length ∧ (extractTemporalIdentifier P data).isSome then
    { s with
      temporalIdCache :=
        s.temporalIdCache.ensureCacheIsCurrent P s.devices s.memory.currentTimeMillis }
  else s

def openUdp (s : PhoneState) (data : Bytes) : Option Opened :=
  openUdpPacket P s.devices (s.refreshIds P data).temporalIdCache data

def openBle (s : PhoneState) (data : Bytes) : Option Opened :=
  openBleMessage P s.devices s.memory.nowSeconds data

end PhoneState

/-! ## Packets arriving -/

inductive PacketEvent where
  | udp (data : Bytes) (input : RequestInput)
  /-- The value of the command characteristic is read over a connection. -/
  | ble (address : String) (data : Bytes) (input : RequestInput)
  /-- The value of the confirmation characteristic is read by the loop that retransmits an
  answer over the connection. -/
  | confirmation (address : String) (value : Bytes)
  /-- Anything else. -/
  | other (after : PhoneState)

def phoneNext (s : PhoneState) : PacketEvent → Option PhoneState
  | .udp data input =>
    some ((s.openUdp P data).elim (s.refreshIds P data) fun opened ↦
      (s.refreshIds P data).routeUdp P opened input)
  | .ble address data input =>
    some ((s.openBle P data).elim (s.disconnect address) fun opened ↦
      s.routeBle P address opened input)
  | .confirmation address value =>
    match s.bleRetransmissions address with
    | none => none
    | some _ =>
      if value = [] then some s
      else some ({ s with
        bleRetransmissions := update s.bleRetransmissions address none }.disconnect
          address)
  | .other after =>
    if after.memory.submitted = s.memory.submitted then some after else none

def phone : Machine PhoneState PacketEvent := ⟨phoneNext P⟩

/-! ## Genuine messages -/

/-- A confirmation or a cancel, with the desktop it was matched to. -/
structure Control where
  device : PairedDevice
  wrapper : WrapperMessage
  challenge : Bytes

def controlChallenge? (wrapper : WrapperMessage) : Option Bytes :=
  match wrapper.payload with
  | some (.grantConfirmation m) => some m.challenge
  | some (.authCancel m) => some m.challenge
  | _ => none

def Opened.control? (opened : Opened) : Option Control :=
  match P.wrapperFormat.decode opened.wrapperMessage with
  | .error _ => none
  | .ok wrapper =>
    (controlChallenge? wrapper).map fun challenge ↦ ⟨opened.device, wrapper, challenge⟩

/-- The confirmation or cancel that arrives with an event.  What is read from the confirmation
characteristic is taken to be from the desktop whose request is answered there. -/
def control? (s : PhoneState) : PacketEvent → Option Control
  | .udp data _ => (s.openUdp P data).bind (Opened.control? P)
  | .ble _ data _ => (s.openBle P data).bind (Opened.control? P)
  | .confirmation address value =>
    (s.bleRetransmissions address).bind fun callback ↦
      (callback.device.open? P value).bind (Opened.control? P)
  | .other _ => none

def Control.verifies (c : Control) : Bool :=
  match FixedBytes.ofBytes 32 c.device.publicKey with
  | some key => (verifyWrapperSignature P c.wrapper key).isOk
  | none => false

/-- A request with the challenge was accepted from the desktop. -/
def PhoneState.Requested (s : PhoneState) (c : Control) : Prop :=
  ∃ entry ∈ s.memory.submitted, entry.1.incoming.device.publicKey = c.device.publicKey ∧
    entry.1.request.challenge = c.challenge

/-- The wrapper is signed by the desktop, and the challenge is that of a request of it. -/
def Genuine (s : PhoneState) (c : Control) : Prop := c.verifies P = true ∧ s.Requested c

/-- From `s` to `t` a retransmission is stopped, a backoff forgotten, a prompt dismissed, a
lock released, a connection dropped or a challenge marked as cancelled. -/
def Changes (s t : PhoneState) : Prop :=
  (∃ key, s.activeRetransmissions key = true ∧ t.activeRetransmissions key = false) ∨
  (∃ address, (s.bleRetransmissions address).isSome ∧ t.bleRetransmissions address = none) ∨
  (∃ client, s.clientBackoffs client = true ∧ t.clientBackoffs client = false) ∨
  (∃ requestId, (s.manager.pendingRequests.lookup requestId).isSome ∧
    t.manager.pendingRequests.lookup requestId = none) ∨
  (∃ key, (s.memory.challengeLocks key).isSome ∧ t.memory.challengeLocks key = none) ∨
  (∃ address, s.connected address = true ∧ t.connected address = false) ∨
  ∃ challenge, (t.manager.cancelledChallenges challenge).isSome ∧
    t.manager.cancelledChallenges challenge ≠ s.manager.cancelledChallenges challenge

/-- What arrives is taken for a confirmation or a cancel.  The loop that retransmits an answer
takes any value of the confirmation characteristic for one, unless it is empty. -/
def Taken (s : PhoneState) : PacketEvent → Prop
  | .confirmation address value => (s.bleRetransmissions address).isSome ∧ value ≠ []
  | e => (control? P s e).isSome

/-- What arrives is a genuine confirmation or cancel. -/
def IsGenuine (s : PhoneState) (e : PacketEvent) : Prop :=
  ∃ c, control? P s e = some c ∧ Genuine P s c

/-- A step in which what is taken for a confirmation or a cancel changes something only if it
is genuine. -/
def GenuineOnly (s : PhoneState) (e : PacketEvent) : Prop :=
  Taken P s e → ∀ t, (phone P).next s e = some t → Changes s t → IsGenuine P s e

/-! ## What there is to change -/

namespace PhoneState

/-- An answer to the challenge is retransmitted. -/
def Retransmits (s : PhoneState) (challenge : Bytes) : Prop :=
  s.activeRetransmissions (hexEncode challenge) = true

def BacksOff (s : PhoneState) (device : PairedDevice) : Prop :=
  s.clientBackoffs (hexEncode device.publicKey) = true

/-- A cancel of the challenge is remembered from this very instant. -/
def Marked (s : PhoneState) (challenge : Bytes) : Prop :=
  s.manager.cancelledChallenges challenge = some s.manager.elapsedRealtime

/-- A cancel of the challenge finds a prompt. -/
def Prompts (s : PhoneState) (challenge : Bytes) : Prop :=
  ∃ requestId ∈ s.manager.idsToCancel challenge,
    (s.manager.pendingRequests.lookup requestId).isSome

def Locks (s : PhoneState) (challenge : Bytes) : Prop :=
  (s.memory.challengeLocks (hexEncode challenge)).isSome

/-- A connection that is up is remembered with the challenge. -/
def Connects (s : PhoneState) (challenge : Bytes) : Prop :=
  ∃ address ∈ s.activeConnectionsByChallenge (hexEncode challenge), s.connected address = true

end PhoneState

/-- There is something for what arrives to change, in the state it meets. -/
def Touches (s : PhoneState) (e : PacketEvent) : Prop :=
  match e, control? P s e with
  | .udp _ _, some c =>
    match c.wrapper.payload with
    | some (.authCancel _) =>
      ¬ s.Marked c.challenge ∨ s.Retransmits c.challenge ∨ s.BacksOff c.device ∨
        s.Prompts c.challenge ∨ s.Connects c.challenge
    | _ => s.Retransmits c.challenge ∨ s.BacksOff c.device
  | .ble address _ _, some c =>
    match c.wrapper.payload with
    | some (.authCancel _) =>
      ¬ s.Marked c.challenge ∨ s.Retransmits c.challenge ∨ s.Prompts c.challenge ∨
        s.Locks c.challenge ∨ s.connected address = true
    | _ => s.connected address = true
  | .confirmation address value, _ => (s.bleRetransmissions address).isSome ∧ value ≠ []
  | _, _ => False

/-- Where there is something to change, a genuine message arrives. -/
def Harmless (s : PhoneState) (e : PacketEvent) : Prop := Touches P s e → IsGenuine P s e

end

/-! ## What the handlers change -/

section

variable {s : PhoneState} {device : PairedDevice} {challenge : Bytes} {address : String}

/-- Clearing one entry of a table of flags loses it if it was set, and nothing else. -/
theorem lost_update {f : String → Bool} {k : String} :
    (∃ key, f key = true ∧ update f k false key = false) ↔ f k = true := by
  constructor
  · rintro ⟨key, hset, hlost⟩
    rcases eq_or_ne key k with rfl | hne
    · exact hset
    · rw [update_of_ne hne, hset] at hlost
      cases hlost
  · intro h
    exact ⟨k, h, update_self ..⟩

theorem lost_update_none {α : Type} {f : String → Option α} {k : String} :
    (∃ key, (f key).isSome ∧ update f k none key = none) ↔ (f k).isSome := by
  constructor
  · rintro ⟨key, hset, hlost⟩
    rcases eq_or_ne key k with rfl | hne
    · exact hset
    · rw [update_of_ne hne] at hlost
      simp [hlost] at hset
  · intro h
    exact ⟨k, h, update_self ..⟩

theorem not_lost {f : String → Bool} : ¬ ∃ key, f key = true ∧ f key = false := by
  rintro ⟨key, hset, hlost⟩
  rw [hset] at hlost
  cases hlost

theorem not_lost_none {α : Type} {f : String → Option α} :
    ¬ ∃ key, (f key).isSome ∧ f key = none := by
  rintro ⟨key, hset, hlost⟩
  simp [hlost] at hset

/-- What stays as it is gets no mark. -/
theorem not_marked {f : Bytes → Option Nat} :
    ¬ ∃ challenge, (f challenge).isSome ∧ f challenge ≠ f challenge := by
  rintro ⟨challenge, -, hne⟩
  exact hne rfl

theorem changes_handleGrantConfirmation :
    Changes s (s.handleGrantConfirmation device challenge) ↔
      s.Retransmits challenge ∨ s.BacksOff device := by
  simp only [Changes, PhoneState.handleGrantConfirmation, PhoneState.resetClient,
    PhoneState.stopRetransmission, lost_update, not_lost, not_lost_none, not_marked, false_or,
    or_false, PhoneState.Retransmits, PhoneState.BacksOff]

theorem changes_disconnect : Changes s (s.disconnect address) ↔ s.connected address = true := by
  simp only [Changes, PhoneState.disconnect, lost_update, not_lost, not_lost_none, not_marked,
    false_or, or_false]

/-! ### Cancelling by challenge -/

@[simp] theorem manager_runCancelled (callback : Callback) :
    (s.runCancelled callback).manager = s.manager := by
  unfold PhoneState.runCancelled
  split <;> simp

@[simp] theorem manager_runCallbacks (ids : List String) :
    (s.runCallbacks ids).manager = s.manager := by
  unfold PhoneState.runCallbacks
  induction ids generalizing s with
  | nil => rfl
  | cons requestId ids ih =>
    rw [List.foldl_cons, ih]
    cases s.callbacks requestId with
    | none => rfl
    | some callback => exact manager_runCancelled callback

@[simp] theorem manager_cancelRequestsByChallenge :
    (s.cancelRequestsByChallenge challenge).manager =
      (s.manager.cancelRequestsByChallenge challenge).2 :=
  manager_runCallbacks _

@[simp] theorem manager_handleCancelConnection :
    (s.handleCancelConnection challenge).manager = s.manager := by
  unfold PhoneState.handleCancelConnection
  split <;> simp

/-- Whether there is a prompt is up to the manager. -/
theorem prompts_congr {t : PhoneState} (h : t.manager = s.manager) :
    t.Prompts challenge ↔ s.Prompts challenge := by
  simp only [PhoneState.Prompts, h]

/-- What a cancel leaves pending. -/
theorem lookup_cancelRequestsByChallenge (m : AuthRequestManager) (challenge : Bytes)
    (requestId : String) :
    (m.cancelRequestsByChallenge challenge).2.pendingRequests.lookup requestId =
      if requestId ∈ m.idsToCancel challenge then none
      else m.pendingRequests.lookup requestId :=
  lookup_cancelEach onlyIndexes_unindexBle _ requestId

theorem lost_cancelRequestsByChallenge :
    (∃ requestId, (s.manager.pendingRequests.lookup requestId).isSome ∧
      (s.manager.cancelRequestsByChallenge challenge).2.pendingRequests.lookup requestId = none) ↔
        s.Prompts challenge := by
  constructor
  · rintro ⟨requestId, hpending, hlost⟩
    rw [lookup_cancelRequestsByChallenge] at hlost
    split_ifs at hlost with hmem
    · exact ⟨requestId, hmem, hpending⟩
    · simp [hlost] at hpending
  · rintro ⟨requestId, hmem, hpending⟩
    exact ⟨requestId, hpending, by rw [lookup_cancelRequestsByChallenge, if_pos hmem]⟩

/-- Without a prompt there is no callback to run. -/
theorem cancelRequestsByChallenge_of_not_prompts (h : ¬ s.Prompts challenge) :
    s.cancelRequestsByChallenge challenge =
      { s with manager := (s.manager.cancelRequestsByChallenge challenge).2 } := by
  have hnone : s.dismissed challenge = [] := by
    rw [PhoneState.dismissed, List.filter_eq_nil_iff]
    intro requestId hmem hpending
    exact h ⟨requestId, hmem, hpending⟩
  rw [PhoneState.cancelRequestsByChallenge, hnone]
  rfl

/-- The challenge is marked with the present time; other marks stay or are forgotten. -/
theorem cancelledChallenges_cancelRequestsByChallenge (m : AuthRequestManager)
    (challenge key : Bytes) :
    (m.cancelRequestsByChallenge challenge).2.cancelledChallenges key =
      if key = challenge then some m.elapsedRealtime
      else (m.cancelledChallenges key).filter fun ts ↦ !forgotten m.elapsedRealtime ts := by
  have hkept := @cancelEach_rule { m with challengeIndex := m.challengeIndex.drop challenge }
    unindexBle (fun n ↦ n.cancelledChallenges = m.cancelledChallenges ∧
      n.elapsedRealtime = m.elapsedRealtime) (fun n requestId pending hn hpending ↦ by
        obtain ⟨_, _, hsettle⟩ := settle_of_pending onlyIndexes_unindexBle
          (show n.pendingRequests.lookup (cancelledResponse requestId).requestId = _ from hpending)
        rwa [hsettle]) ⟨rfl, rfl⟩ (m.idsToCancel challenge)
  simp only [AuthRequestManager.cancelRequestsByChallenge, markCancelledChallenge,
    pruneCancelledChallenges, hkept.1, hkept.2]
  split_ifs with hkey
  · simp [hkey, forgotten]
  · rw [update_of_ne hkey]

/-- A cancel makes a mark, unless it is there. -/
theorem marked_cancelRequestsByChallenge :
    (∃ key, ((s.manager.cancelRequestsByChallenge challenge).2.cancelledChallenges key).isSome ∧
      (s.manager.cancelRequestsByChallenge challenge).2.cancelledChallenges key ≠
        s.manager.cancelledChallenges key) ↔ ¬ s.Marked challenge := by
  simp only [cancelledChallenges_cancelRequestsByChallenge, PhoneState.Marked]
  constructor
  · rintro ⟨key, hsome, hne⟩ hmarked
    split_ifs at hsome hne with hkey
    · exact hne (hkey ▸ hmarked.symm)
    · obtain ⟨ts, hts⟩ := Option.isSome_iff_exists.mp hsome
      exact hne (hts.trans (Option.filter_eq_some_iff.mp hts).1.symm)
  · intro hne
    exact ⟨challenge, by simp, by simpa using Ne.symm hne⟩

/-- A mark that is made and a prompt that is dismissed are changes, whatever else happens. -/
theorem changes_of_cancel {t : PhoneState} (h : ¬ s.Marked challenge ∨ s.Prompts challenge)
    (hmanager : t.manager = (s.manager.cancelRequestsByChallenge challenge).2) : Changes s t := by
  have hmark := @marked_cancelRequestsByChallenge s challenge
  have hlost := @lost_cancelRequestsByChallenge s challenge
  rw [← hmanager] at hmark hlost
  rcases h with hnew | hprompts
  · exact .inr (.inr (.inr (.inr (.inr (.inr (hmark.mpr hnew))))))
  · exact .inr (.inr (.inr (.inl (hlost.mpr hprompts))))

theorem changes_handleAuthCancel :
    Changes s (s.handleAuthCancel device challenge) ↔
      ¬ s.Marked challenge ∨ s.Retransmits challenge ∨ s.BacksOff device ∨ s.Prompts challenge ∨
        s.Connects challenge := by
  by_cases hmanager : ¬ s.Marked challenge ∨ s.Prompts challenge
  · have hchanges : Changes s (s.handleAuthCancel device challenge) := by
      apply changes_of_cancel hmanager
      simp [PhoneState.handleAuthCancel]
    exact iff_of_true hchanges (by tauto)
  · obtain ⟨hmarked, hprompts⟩ := not_or.mp hmanager
    have hmark := mt marked_cancelRequestsByChallenge.mp hmarked
    have hlost := mt lost_cancelRequestsByChallenge.mp hprompts
    have hsame : ¬ ((s.stopRetransmission challenge).resetClient device).Prompts challenge :=
      mt (prompts_congr (by simp)).mp hprompts
    rw [PhoneState.handleAuthCancel, cancelRequestsByChallenge_of_not_prompts hsame]
    unfold PhoneState.handleCancelConnection
    cases hactive : s.activeConnectionsByChallenge (hexEncode challenge) with
    | none =>
      simp only [PhoneState.stopRetransmission, PhoneState.resetClient, hactive, Changes,
        lost_update, not_lost, not_lost_none, hlost, hmark, hmarked, false_or, or_false, hprompts,
        PhoneState.Retransmits, PhoneState.BacksOff, PhoneState.Connects]
      simp
    | some address =>
      simp only [PhoneState.stopRetransmission, PhoneState.resetClient, hactive, Changes,
        PhoneState.setConnection, PhoneState.disconnect, lost_update, not_lost_none, hlost, hmark,
        hmarked, false_or, or_false, hprompts, PhoneState.Retransmits, PhoneState.BacksOff,
        PhoneState.Connects]
      simp

theorem changes_handleAuthCancelBle :
    Changes s (s.handleAuthCancelBle address challenge) ↔
      ¬ s.Marked challenge ∨ s.Retransmits challenge ∨ s.Prompts challenge ∨ s.Locks challenge ∨
        s.connected address = true := by
  by_cases hmanager : ¬ s.Marked challenge ∨ s.Prompts challenge
  · have hchanges : Changes s (s.handleAuthCancelBle address challenge) := by
      apply changes_of_cancel hmanager
      simp [PhoneState.handleAuthCancelBle]
    exact iff_of_true hchanges (by tauto)
  · obtain ⟨hmarked, hprompts⟩ := not_or.mp hmanager
    have hmark := mt marked_cancelRequestsByChallenge.mp hmarked
    have hlost := mt lost_cancelRequestsByChallenge.mp hprompts
    have hsame : ¬ (s.setConnection challenge none).Prompts challenge :=
      mt (prompts_congr (by simp)).mp hprompts
    rw [PhoneState.handleAuthCancelBle, cancelRequestsByChallenge_of_not_prompts hsame]
    simp only [PhoneState.setConnection, PhoneState.stopRetransmission, PhoneState.releaseLock,
      PhoneState.disconnect, PhoneMemory.setLock, Changes, lost_update, lost_update_none, not_lost,
      not_lost_none, hlost, hmark, hmarked, false_or, or_false, hprompts, PhoneState.Retransmits,
      PhoneState.Locks]

/-! ## Exactly the harmless steps -/

variable {P : Primitives} {c : Control} {e : PacketEvent}

/-- An opened packet with a confirmation or a cancel. -/
theorem Opened.control?_eq_some {opened : Opened} (h : opened.control? P = some c) :
    P.wrapperFormat.decode opened.wrapperMessage = .ok c.wrapper ∧ c.device = opened.device ∧
      (c.wrapper.payload = some (.grantConfirmation ⟨c.challenge⟩) ∨
        c.wrapper.payload = some (.authCancel ⟨c.challenge⟩)) := by
  unfold Opened.control? at h
  split at h
  · cases h
  next wrapper hdecode =>
    obtain ⟨challenge, hchallenge, rfl⟩ := Option.map_eq_some_iff.mp h
    refine ⟨hdecode, rfl, ?_⟩
    unfold controlChallenge? at hchallenge
    split at hchallenge
    · next hpayload => cases hchallenge; exact .inl hpayload
    · next hpayload => cases hchallenge; exact .inr hpayload
    · cases hchallenge

/-- Bringing the identifiers up to date changes nothing else. -/
theorem refreshIds_eq (s : PhoneState) (data : Bytes) :
    ∃ cache, s.refreshIds P data = { s with temporalIdCache := cache } := by
  unfold PhoneState.refreshIds
  split_ifs
  · exact ⟨_, rfl⟩
  · exact ⟨s.temporalIdCache, rfl⟩

/-- Only what is taken for a message has something to change. -/
theorem taken_of_touches (h : Touches P s e) : Taken P s e := by
  cases e with
  | confirmation address value => exact h
  | other after => exact h.elim
  | udp | ble =>
    unfold Touches at h
    unfold Taken
    split at h <;> simp_all

/-- What is taken for a message is handled. -/
theorem exists_next_of_taken (h : Taken P s e) : ∃ t, (phone P).next s e = some t := by
  cases e with
  | udp data input => exact ⟨_, rfl⟩
  | ble address data input => exact ⟨_, rfl⟩
  | confirmation address value =>
    obtain ⟨callback, hcallback⟩ := Option.isSome_iff_exists.mp h.1
    exact ⟨_, by simp [phone, phoneNext, hcallback, h.2]; rfl⟩
  | other after => cases h

theorem changes_routeUdp {opened : Opened} {data : Bytes} (input : RequestInput)
    (hopen : s.openUdp P data = some opened) (hc : opened.control? P = some c)
    {cache : TemporalIdCache} :
    Changes s ({ s with temporalIdCache := cache }.routeUdp P opened input) ↔
      Touches P s (.udp data input) := by
  obtain ⟨hdecode, hdevice, hpayload⟩ := Opened.control?_eq_some hc
  have hcontrol : control? P s (.udp data input) = some c := by simp [control?, hopen, hc]
  rcases hpayload with hpayload | hpayload
  · simp only [PhoneState.routeUdp, hdecode, Touches, hcontrol, hpayload, hdevice]
    exact changes_handleGrantConfirmation (s := { s with temporalIdCache := cache })
  · simp only [PhoneState.routeUdp, hdecode, Touches, hcontrol, hpayload, hdevice]
    exact changes_handleAuthCancel (s := { s with temporalIdCache := cache })

theorem changes_routeBle {opened : Opened} {data : Bytes} (input : RequestInput)
    (hopen : s.openBle P data = some opened) (hc : opened.control? P = some c) :
    Changes s (s.routeBle P address opened input) ↔ Touches P s (.ble address data input) := by
  obtain ⟨hdecode, -, hpayload⟩ := Opened.control?_eq_some hc
  have hcontrol : control? P s (.ble address data input) = some c := by simp [control?, hopen, hc]
  rcases hpayload with hpayload | hpayload
  · simp only [PhoneState.routeBle, hdecode, Touches, hcontrol, hpayload]
    exact changes_disconnect
  · simp only [PhoneState.routeBle, hdecode, Touches, hcontrol, hpayload]
    exact changes_handleAuthCancelBle

/-- What is taken for a message changes something iff there is something for it to change. -/
theorem changes_iff_touches {t : PhoneState} (htaken : Taken P s e)
    (hnext : (phone P).next s e = some t) : Changes s t ↔ Touches P s e := by
  cases e with
  | udp data input =>
    obtain ⟨c, hc⟩ := Option.isSome_iff_exists.mp htaken
    obtain ⟨opened, hopen, hcontrol⟩ := Option.bind_eq_some_iff.mp hc
    obtain ⟨cache, hcache⟩ := refreshIds_eq (P := P) s data
    simp only [phone, phoneNext, hopen, Option.elim_some, hcache, Option.some.injEq] at hnext
    subst hnext
    exact changes_routeUdp input hopen hcontrol
  | ble address data input =>
    obtain ⟨c, hc⟩ := Option.isSome_iff_exists.mp htaken
    obtain ⟨opened, hopen, hcontrol⟩ := Option.bind_eq_some_iff.mp hc
    simp only [phone, phoneNext, hopen, Option.elim_some, Option.some.injEq] at hnext
    subst hnext
    exact changes_routeBle input hopen hcontrol
  | confirmation address value =>
    obtain ⟨callback, hcallback⟩ := Option.isSome_iff_exists.mp htaken.1
    simp only [phone, phoneNext, hcallback, if_neg htaken.2, Option.some.injEq] at hnext
    subst hnext
    exact iff_of_true (.inr (.inl ⟨address, htaken.1, update_self ..⟩)) htaken
  | other after => cases htaken

theorem genuineOnly_iff_harmless : GenuineOnly P s e ↔ Harmless P s e := by
  constructor
  · intro h htouches
    have htaken := taken_of_touches htouches
    obtain ⟨t, hnext⟩ := exists_next_of_taken htaken
    exact h htaken t hnext ((changes_iff_touches htaken hnext).mpr htouches)
  · intro h htaken t hnext hchanges
    exact h ((changes_iff_touches htaken hnext).mp hchanges)

variable (P) in
/-- **Confirmations and cancels.**  In a sequence of packets, from any state, whatever is taken
for a confirmation or a cancel and changes something is genuine iff what is not genuine finds
nothing to change. -/
theorem along_genuineOnly_iff (s : PhoneState) (events : List PacketEvent) :
    (phone P).Along (GenuineOnly P) s events ↔ (phone P).Along (Harmless P) s events :=
  (phone P).along_congr (fun _ _ ↦ genuineOnly_iff_harmless) s events

end

/-! ## A cancel from somebody else -/

namespace ControlSample

open RequestSample (primitives desktop device challenge memory)

def env : Ambient := ⟨some 1000, some (FixedBytes.fill 12 1)⟩

/-- The packet that a holder of the CSK makes of a wrapper. -/
def sealed (csk : ClientSymmetricKey) (wrapper : WrapperMessage) : Bytes :=
  match createEncryptedPacketWithCskNonce primitives env csk wrapper with
  | .ok packet => primitives.packetFormat.encode packet
  | .error _ => []

def otherDesktop : Ed25519KeyPair := ⟨FixedBytes.fill 32 8⟩

def otherCsk : ClientSymmetricKey := ⟨List.replicate 31 3 ++ [100], by decide⟩

/-- A second paired desktop, with a key and a CSK of its own. -/
def otherDevice : PairedDevice where
  deviceId := "e"
  publicKey := (otherDesktop.verifyingKeyBytes primitives).bytes
  csk := otherCsk.bytes
  displayName := "laptop"
  pairedAt := 0
  allowedUsers := ["bob"]

def input : RequestInput := ⟨true, true, "r", 120, true⟩

/-- The signed request of the first desktop. -/
def request : PacketEvent :=
  .udp (sealed (FixedBytes.fill 32 3) (signWrapperMessage primitives
    (wrapAuthRequest ⟨challenge, "alice", "desktop", 1000⟩) desktop)) input

/-- A cancel without a signature, from another phone that has the CSK. -/
def forged : PacketEvent := .udp (sealed (FixedBytes.fill 32 3) (wrapAuthCancel ⟨challenge⟩)) input

/-- A cancel of that request from the second desktop, which signs it. -/
def crossed : PacketEvent :=
  .udp (sealed otherCsk
    (signWrapperMessage primitives (wrapAuthCancel ⟨challenge⟩) otherDesktop)) input

def start : PhoneState where
  devices := ⟨[device, otherDevice], by decide⟩
  temporalIdCache := .stopped
  memory := memory
  manager := .created
  callbacks _ := none
  activeRetransmissions _ := false
  clientBackoffs _ := false
  activeConnectionsByChallenge _ := none
  connected _ := false
  bleRetransmissions _ := none

/-- The event is a cancel that finds a prompt, and does not verify or is for a challenge that
its desktop has not sent. -/
def intrudes (s : PhoneState) (e : PacketEvent) : Bool :=
  match control? primitives s e with
  | some c =>
    decide (c.wrapper.payload = some (.authCancel ⟨c.challenge⟩)) &&
    (s.manager.idsToCancel c.challenge).any (fun requestId ↦
      (s.manager.pendingRequests.lookup requestId).isSome) &&
    !(c.verifies primitives && s.memory.submitted.any fun entry ↦
      entry.1.incoming.device.publicKey = c.device.publicKey ∧
        entry.1.request.challenge = c.challenge)
  | none => false

theorem not_genuineOnly_of_intrudes {s : PhoneState} {data : Bytes} {input : RequestInput}
    (h : intrudes s (.udp data input) = true) :
    ¬ GenuineOnly primitives s (.udp data input) := by
  rw [genuineOnly_iff_harmless]
  intro hharmless
  unfold intrudes at h
  split at h
  next c hc =>
    simp only [Bool.and_eq_true, decide_eq_true_eq, Bool.not_eq_true', List.any_eq_true] at h
    obtain ⟨⟨hpayload, hprompts⟩, hgenuine⟩ := h
    have htouches : Touches primitives s (.udp data input) := by
      simp only [Touches, hc, hpayload]
      exact .inr (.inr (.inr (.inl hprompts)))
    obtain ⟨c', hc', hverifies, entry, hmem, hentry⟩ := hharmless htouches
    obtain rfl : c = c' := Option.some.inj (hc.symm.trans hc')
    have hany : (s.memory.submitted.any fun entry ↦
        entry.1.incoming.device.publicKey = c.device.publicKey ∧
          entry.1.request.challenge = c.challenge) = true :=
      List.any_eq_true.mpr ⟨entry, hmem, decide_eq_true hentry⟩
    rw [hverifies, hany] at hgenuine
    cases hgenuine
  · cases h

/-- The request comes first. -/
theorem not_along_of_intrudes {data : Bytes} {input : RequestInput}
    (h : ((phone primitives).exec start [request]).map (fun s ↦ intrudes s (.udp data input)) =
      some true) :
    ¬ (phone primitives).Along (GenuineOnly primitives) start [request, .udp data input] := by
  rintro ⟨-, hafter⟩
  obtain ⟨s, hrun, hintrudes⟩ := Option.map_eq_some_iff.mp h
  obtain ⟨t, hnext, hdone⟩ := (phone primitives).exec_cons_eq_some.mp hrun
  cases hdone
  exact not_genuineOnly_of_intrudes hintrudes (hafter s hnext).1

end ControlSample

open ControlSample

/-- A cancel that nobody signed, and one that another paired desktop signed, dismiss the
prompt of a request. -/
theorem cancel_accepted_unverified :
    ¬ (phone RequestSample.primitives).Along (GenuineOnly RequestSample.primitives)
      start [request, forged] ∧
    ¬ (phone RequestSample.primitives).Along (GenuineOnly RequestSample.primitives)
      start [request, crossed] :=
  ⟨not_along_of_intrudes (by decide +kernel),
    not_along_of_intrudes (by decide +kernel)⟩

end TapAuth.Phone
