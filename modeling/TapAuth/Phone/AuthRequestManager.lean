import Mathlib.Data.List.AList
import Mathlib.Data.List.Count
import TapAuth.Lib.KeyIndex
import TapAuth.Lib.Machine
import TapAuth.Phone.MainActivity

/-!
# The pending requests

`AuthRequestManager` keeps the requests that wait for the user, each with the callback
that its submitter left, and two indexes over them: by challenge, for the cancel message
of a desktop, and by Bluetooth address, for a connection that stays down.  A request
leaves by an answer, by a cancel of any kind or by the clean-up that its submission
scheduled, and its callback is started then.

Here every operation is one step.  `manager` is the machine of all sequences of them;
`callback_once_and_indexes_exact` says that the callback of a request is started once,
when the request leaves, and that the indexes agree with the pending requests.

Challenges are keys of the index in Base64 there and as they are here.  The time since
boot is a natural number: no phone runs long enough for a `Long` of milliseconds to wrap.
Notifications, broadcasts and the log are not modelled, except that the clean-up is
scheduled in the block that posts the notification.
-/

namespace TapAuth.Phone

open Shared Function

structure PendingAuthRequest where
  authRequest : AuthRequest
  bleDeviceAddress : Option String
  deriving DecidableEq

structure AuthRequestManager where
  pendingRequests : AList fun _ : String ↦ PendingAuthRequest
  challengeIndex : KeyIndex Bytes String
  bleDeviceRequests : KeyIndex String String
  /-- When a challenge was cancelled. -/
  cancelledChallenges : Bytes → Option Nat
  /-- Milliseconds since boot. -/
  elapsedRealtime : Nat
  /-- The coroutines that wait to cancel a request, and when their delay is over. -/
  cleanups : List (String × Nat)
  /-- The identifiers that were returned, the last first. -/
  submitted : List String
  /-- The callbacks that were started: whose, and with what. -/
  callbacks : List AuthResponse

namespace AuthRequestManager

def created : AuthRequestManager := ⟨∅, fun _ ↦ none, fun _ ↦ none, fun _ ↦ none, 0, [], [], []⟩

/-! ## Cancelled challenges -/

def cancelTtlMs : Nat := 10000

/-- Whether the memory of a cancellation at `ts` is over. -/
def forgotten (now ts : Nat) : Bool := now - ts > cancelTtlMs

def pruneCancelledChallenges (m : AuthRequestManager) : AuthRequestManager :=
  { m with
    cancelledChallenges := fun key ↦
      (m.cancelledChallenges key).filter fun ts ↦ !forgotten m.elapsedRealtime ts }

def markCancelledChallenge (m : AuthRequestManager) (challenge : Bytes) : AuthRequestManager :=
  pruneCancelledChallenges
    { m with
      cancelledChallenges :=
        update m.cancelledChallenges challenge (some m.elapsedRealtime) }

def isChallengeCancelled (m : AuthRequestManager) (challenge : Bytes) :
    Bool × AuthRequestManager :=
  let m := m.pruneCancelledChallenges
  match m.cancelledChallenges challenge with
  | none => (false, m)
  | some ts =>
    if forgotten m.elapsedRealtime ts then
      (false,
        { m with cancelledChallenges := update m.cancelledChallenges challenge none })
    else (true, m)

/-! ## Removing requests -/

/-- A request that ends unanswered: no approval, and no explicit denial either. -/
def cancelledResponse (requestId : String) : AuthResponse := ⟨requestId, false, none, false⟩

def unindexChallenge (m : AuthRequestManager) (requestId : String)
    (pending : PendingAuthRequest) : AuthRequestManager :=
  { m with challengeIndex := m.challengeIndex.remove pending.authRequest.challenge requestId }

def unindexBle (m : AuthRequestManager) (requestId : String) (pending : PendingAuthRequest) :
    AuthRequestManager :=
  match pending.bleDeviceAddress with
  | none => m
  | some address =>
    { m with bleDeviceRequests := m.bleDeviceRequests.remove address requestId }

/-- Remove a request from the map and, if it was there, from the indexes, and start its
callback.  The operations differ in the indexes they still have to look at. -/
def settle (m : AuthRequestManager)
    (unindex : AuthRequestManager → String → PendingAuthRequest → AuthRequestManager)
    (response : AuthResponse) : AuthRequestManager :=
  match m.pendingRequests.lookup response.requestId with
  | none => m
  | some pending =>
    unindex
      { m with
        pendingRequests := m.pendingRequests.erase response.requestId
        callbacks := response :: m.callbacks }
      response.requestId pending

def handleResponse (m : AuthRequestManager) (response : AuthResponse) : AuthRequestManager :=
  m.settle (fun m requestId pending ↦
    (m.unindexChallenge requestId pending).unindexBle requestId pending) response

def cancelRequest (m : AuthRequestManager) (requestId : String) : AuthRequestManager :=
  m.settle (fun m requestId pending ↦
    (m.unindexChallenge requestId pending).unindexBle requestId pending)
    (cancelledResponse requestId)

/-- Cancel the requests of a list, one after the other. -/
def cancelEach (unindex : AuthRequestManager → String → PendingAuthRequest → AuthRequestManager) :
    AuthRequestManager → List String → AuthRequestManager
  | m, [] => m
  | m, requestId :: ids => cancelEach unindex (m.settle unindex (cancelledResponse requestId)) ids

/-- The requests with a challenge, by a scan of the map. -/
def withChallenge (m : AuthRequestManager) (challenge : Bytes) : List String :=
  (m.pendingRequests.entries.filter fun entry ↦
    entry.2.authRequest.challenge = challenge).map Sigma.fst

/-- The requests that a cancel of the challenge removes: those of the index, or, if it
has none, those that the scan finds. -/
def idsToCancel (m : AuthRequestManager) (challenge : Bytes) : List String :=
  let requestIds := (m.challengeIndex challenge).getD []
  if requestIds ≠ [] then requestIds else m.withChallenge challenge

/-- The index entry goes first, so the index need not be looked at again. -/
def cancelRequestsByChallenge (m : AuthRequestManager) (challenge : Bytes) :
    Bool × AuthRequestManager :=
  let ids := m.idsToCancel challenge
  let cancelledAny := ids.any fun requestId ↦ (m.pendingRequests.lookup requestId).isSome
  let m := { m with challengeIndex := m.challengeIndex.drop challenge }
  (cancelledAny, (cancelEach unindexBle m ids).markCancelledChallenge challenge)

def cancelRequestsByBleDisconnection (m : AuthRequestManager) (bleDeviceAddress : String) :
    Bool × AuthRequestManager :=
  match m.bleDeviceRequests bleDeviceAddress with
  | none => (false, m)
  | some requestIds =>
    let m := { m with bleDeviceRequests := m.bleDeviceRequests.drop bleDeviceAddress }
    if requestIds = [] then (false, m) else (true, cancelEach unindexChallenge m requestIds)

/-! ## Submitting -/

/-- A call of `submitRequest`, with what it asks of its surroundings. -/
structure Submission where
  /-- The request, under the identifier that `UUID.randomUUID` draws for it. -/
  authRequest : AuthRequest
  bleDeviceAddress : Option String
  sessionTimeoutSeconds : Int64
  currentTimeMillis : Int64
  /-- Whether the block that posts the notification gets as far as the clean-up. -/
  posted : Bool
  deriving DecidableEq

/-- What is left of the session, in `Long` arithmetic. -/
def remainingTimeout (sessionTimeoutSeconds currentTime timestamp : Int64) : Int64 :=
  let sessionTimeoutMs := sessionTimeoutSeconds * 1000
  let timeElapsed := currentTime - timestamp
  let remaining := sessionTimeoutMs - timeElapsed
  if remaining < 0 then 0 else remaining

/-- How long `delay` waits: a negative time not at all. -/
def delayMs (timeMillis : Int64) : Nat := timeMillis.toInt.toNat

def scheduleCleanup (m : AuthRequestManager) (S : Submission) : AuthRequestManager :=
  let remaining :=
    remainingTimeout S.sessionTimeoutSeconds S.currentTimeMillis S.authRequest.timestamp
  if S.posted ∧ 0 < remaining then
    { m with
      cleanups :=
        (S.authRequest.requestId, m.elapsedRealtime + delayMs (remaining + 250)) :: m.cleanups }
  else m

def indexBle (m : AuthRequestManager) (requestId : String) :
    Option String → AuthRequestManager
  | none => m
  | some address => { m with bleDeviceRequests := m.bleDeviceRequests.add address requestId }

/-- Keep a request and index it. -/
def store (m : AuthRequestManager) (authRequest : AuthRequest) (bleDeviceAddress : Option String) :
    AuthRequestManager :=
  indexBle
    { m with
      pendingRequests :=
        m.pendingRequests.insert authRequest.requestId ⟨authRequest, bleDeviceAddress⟩
      challengeIndex := m.challengeIndex.add authRequest.challenge authRequest.requestId }
    authRequest.requestId bleDeviceAddress

/-- The identifier of the submission is returned in both cases. -/
def submitRequest (m : AuthRequestManager) (S : Submission) : AuthRequestManager :=
  let requestId := S.authRequest.requestId
  let m := { m with submitted := requestId :: m.submitted }
  match m.isChallengeCancelled S.authRequest.challenge with
  | (true, m) => { m with callbacks := cancelledResponse requestId :: m.callbacks }
  | (false, m) => (m.store S.authRequest S.bleDeviceAddress).scheduleCleanup S

/-- What a scheduled coroutine does when its delay is over. -/
def timeoutCleanup (m : AuthRequestManager) (requestId : String) : AuthRequestManager :=
  if (m.pendingRequests.lookup requestId).isSome then m.cancelRequest requestId else m

end AuthRequestManager

open AuthRequestManager

inductive ManagerEvent where
  /-- Time passes. -/
  | tick (ms : Nat)
  | submitRequest (S : Submission)
  | handleResponse (response : AuthResponse)
  | cancelRequest (requestId : String)
  | cancelRequestsByChallenge (challenge : Bytes)
  | cancelRequestsByBleDisconnection (bleDeviceAddress : String)
  /-- A coroutine whose delay is over goes on. -/
  | cleanup (requestId : String) (due : Nat)
  deriving DecidableEq

/-- Every sequence of operations. -/
def manager : Machine AuthRequestManager ManagerEvent where
  next m
  | .tick ms => some { m with elapsedRealtime := m.elapsedRealtime + ms }
  | .submitRequest S => some (m.submitRequest S)
  | .handleResponse response => some (m.handleResponse response)
  | .cancelRequest requestId => some (m.cancelRequest requestId)
  | .cancelRequestsByChallenge challenge => some (m.cancelRequestsByChallenge challenge).2
  | .cancelRequestsByBleDisconnection address =>
    some (m.cancelRequestsByBleDisconnection address).2
  | .cleanup requestId due =>
    if (requestId, due) ∈ m.cleanups ∧ due ≤ m.elapsedRealtime then
      some ({ m with cleanups := m.cleanups.erase (requestId, due) }.timeoutCleanup requestId)
    else none

namespace AuthRequestManager

/-- `UUID.randomUUID` does not draw an identifier twice. -/
def FreshId (m : AuthRequestManager) : ManagerEvent → Prop
  | .submitRequest S => S.authRequest.requestId ∉ m.submitted
  | _ => True

instance (m : AuthRequestManager) : ∀ event, Decidable (FreshId m event)
  | .submitRequest S => inferInstanceAs (Decidable (S.authRequest.requestId ∉ m.submitted))
  | .tick _ | .handleResponse _ | .cancelRequest _ | .cancelRequestsByChallenge _
  | .cancelRequestsByBleDisconnection _ | .cleanup _ _ => instDecidableTrue

/-- How often the callback of a request was started. -/
def started (m : AuthRequestManager) (requestId : String) : Nat :=
  (m.callbacks.map AuthResponse.requestId).count requestId

/-- The challenge of a pending request. -/
def challengeOf (m : AuthRequestManager) (requestId : String) : Option Bytes :=
  (m.pendingRequests.lookup requestId).map fun pending ↦ pending.authRequest.challenge

/-- The Bluetooth address of a pending request, if it came that way. -/
def addressOf (m : AuthRequestManager) (requestId : String) : Option String :=
  (m.pendingRequests.lookup requestId).bind PendingAuthRequest.bleDeviceAddress

/-! ## What the operations do to the requests and their callbacks -/

/-- A way to take a request out of the indexes touches nothing else. -/
def OnlyIndexes
    (unindex : AuthRequestManager → String → PendingAuthRequest → AuthRequestManager) : Prop :=
  ∀ m requestId pending, ∃ byChallenge byAddress,
    unindex m requestId pending =
      { m with challengeIndex := byChallenge, bleDeviceRequests := byAddress }

theorem onlyIndexes_unindexChallenge : OnlyIndexes unindexChallenge :=
  fun _ _ _ ↦ ⟨_, _, rfl⟩

theorem onlyIndexes_unindexBle : OnlyIndexes unindexBle := by
  intro m requestId pending
  unfold unindexBle
  cases pending.bleDeviceAddress with
  | none => exact ⟨_, _, rfl⟩
  | some address => exact ⟨_, _, rfl⟩

theorem onlyIndexes_both : OnlyIndexes fun m requestId pending ↦
    (m.unindexChallenge requestId pending).unindexBle requestId pending := by
  intro m requestId pending
  obtain ⟨_, _, h⟩ :=
    onlyIndexes_unindexBle (m.unindexChallenge requestId pending) requestId pending
  exact ⟨_, _, h⟩

variable {m : AuthRequestManager}
  {unindex : AuthRequestManager → String → PendingAuthRequest → AuthRequestManager}

theorem settle_of_not_pending {response : AuthResponse}
    (h : m.pendingRequests.lookup response.requestId = none) : m.settle unindex response = m := by
  rw [settle, h]

variable {pending : PendingAuthRequest} {m' : AuthRequestManager} {requestId : String}

theorem settle_of_pending (hun : OnlyIndexes unindex) {response : AuthResponse}
    (h : m.pendingRequests.lookup response.requestId = some pending) :
    ∃ byChallenge byAddress,
      m.settle unindex response =
        { m with
          pendingRequests := m.pendingRequests.erase response.requestId
          callbacks := response :: m.callbacks
          challengeIndex := byChallenge
          bleDeviceRequests := byAddress } := by
  rw [settle, h]
  exact hun _ _ _

theorem lookup_settle (hun : OnlyIndexes unindex) (response : AuthResponse) (requestId : String) :
    (m.settle unindex response).pendingRequests.lookup requestId =
      if requestId = response.requestId then none else m.pendingRequests.lookup requestId := by
  cases h : m.pendingRequests.lookup response.requestId with
  | none =>
    rw [settle_of_not_pending h]
    split
    case isTrue hid => rw [hid, h]
    case isFalse => rfl
  | some pending =>
    obtain ⟨_, _, hsettle⟩ := settle_of_pending hun h
    rw [hsettle]
    split
    case isTrue hid => rw [hid, AList.lookup_erase]
    case isFalse hid => rw [AList.lookup_erase_ne hid]

theorem lookup_cancelEach (hun : OnlyIndexes unindex) (ids : List String) (requestId : String) :
    (cancelEach unindex m ids).pendingRequests.lookup requestId =
      if requestId ∈ ids then none else m.pendingRequests.lookup requestId := by
  induction ids generalizing m with
  | nil => rfl
  | cons first ids ih =>
    rw [cancelEach, ih, lookup_settle hun]
    by_cases hmem : requestId ∈ ids
    · simp [hmem]
    · by_cases hfirst : requestId = first <;> simp [hmem, hfirst, cancelledResponse]

/-- The callbacks that were started and the requests that are pending, together, are
the requests that were submitted. -/
structure Counted (m : AuthRequestManager) : Prop where
  pending : ∀ requestId, (m.pendingRequests.lookup requestId).isSome → requestId ∈ m.submitted
  started_eq : ∀ requestId ∈ m.submitted,
    m.started requestId = if (m.pendingRequests.lookup requestId).isSome then 0 else 1
  unsubmitted : ∀ requestId ∉ m.submitted, m.started requestId = 0

theorem Counted.settle (h : Counted m) (hun : OnlyIndexes unindex) (response : AuthResponse) :
    Counted (m.settle unindex response) := by
  cases hlookup : m.pendingRequests.lookup response.requestId with
  | none => rwa [settle_of_not_pending hlookup]
  | some pending =>
    have hgone := lookup_settle (m := m) hun response
    obtain ⟨_, _, hsettle⟩ := settle_of_pending hun hlookup
    rw [hsettle] at hgone ⊢
    have hsubmitted : response.requestId ∈ m.submitted := h.pending _ (by simp [hlookup])
    have hstarted : m.started response.requestId = 0 := by
      simpa [hlookup] using h.started_eq _ hsubmitted
    constructor
    · intro requestId hpending
      rw [hgone] at hpending
      split at hpending
      case isTrue => cases hpending
      case isFalse => exact h.pending _ hpending
    · intro requestId hid
      rw [hgone]
      by_cases hsame : requestId = response.requestId
      · subst hsame
        simpa [started] using hstarted
      · simpa [started, hsame, Ne.symm hsame] using h.started_eq requestId hid
    · intro requestId hid
      have hother : response.requestId ≠ requestId := fun heq ↦ hid (heq ▸ hsubmitted)
      simpa [started, hother] using h.unsubmitted requestId hid

/-- What the settlement of one pending request keeps, the cancel of many keeps. -/
theorem cancelEach_rule {Q : AuthRequestManager → Prop}
    (hsettle : ∀ m requestId pending, Q m → m.pendingRequests.lookup requestId = some pending →
      Q (m.settle unindex (cancelledResponse requestId)))
    (h : Q m) (ids : List String) : Q (cancelEach unindex m ids) := by
  induction ids generalizing m with
  | nil => exact h
  | cons first ids ih =>
    rw [cancelEach]
    cases hlookup : m.pendingRequests.lookup first with
    | none =>
      rw [settle_of_not_pending (show _ = none from hlookup)]
      exact ih h
    | some pending => exact ih (hsettle m first pending h hlookup)

theorem Counted.cancelEach (h : Counted m) (hun : OnlyIndexes unindex) (ids : List String) :
    Counted (cancelEach unindex m ids) :=
  cancelEach_rule (fun _ _ _ h _ ↦ h.settle hun _) h ids

/-- Only these three fields count. -/
theorem Counted.congr (h : Counted m) (hpending : m'.pendingRequests = m.pendingRequests)
    (hsubmitted : m'.submitted = m.submitted) (hcallbacks : m'.callbacks = m.callbacks) :
    Counted m' := by
  obtain ⟨h₁, h₂, h₃⟩ := h
  simp only [started] at h₂ h₃
  constructor <;> simpa only [started, hpending, hsubmitted, hcallbacks]

/-! ## What the operations do to the indexes -/

theorem challengeOf_settle (hun : OnlyIndexes unindex) (response : AuthResponse) :
    (m.settle unindex response).challengeOf =
      update m.challengeOf response.requestId none := by
  funext requestId
  rw [challengeOf, lookup_settle hun, update_apply]
  split <;> rfl

theorem addressOf_settle (hun : OnlyIndexes unindex) (response : AuthResponse) :
    (m.settle unindex response).addressOf =
      update m.addressOf response.requestId none := by
  funext requestId
  rw [addressOf, lookup_settle hun, update_apply]
  split <;> rfl

/-- The index by challenge after a removal that looks at it. -/
theorem indexes_unindexChallenge {key : String → Option Bytes} (h : m.challengeIndex.Indexes key)
    (hkey : key requestId = some pending.authRequest.challenge) :
    (m.unindexChallenge requestId pending).challengeIndex.Indexes
      (update key requestId none) := h.remove hkey

/-- The index by address after a removal that looks at it. -/
theorem indexes_unindexBle {key : String → Option String} (h : m.bleDeviceRequests.Indexes key)
    (hkey : key requestId = pending.bleDeviceAddress) :
    (m.unindexBle requestId pending).bleDeviceRequests.Indexes
      (update key requestId none) := by
  unfold unindexBle
  cases haddress : pending.bleDeviceAddress with
  | none => rwa [update_eq_self_iff.mpr (hkey.trans haddress).symm]
  | some address => exact h.remove (hkey.trans haddress)

@[simp] theorem unindexBle_challengeIndex (requestId : String) (pending : PendingAuthRequest) :
    (m.unindexBle requestId pending).challengeIndex = m.challengeIndex := by
  unfold unindexBle
  split <;> rfl

@[simp] theorem unindexChallenge_bleDeviceRequests (requestId : String)
    (pending : PendingAuthRequest) :
    (m.unindexChallenge requestId pending).bleDeviceRequests = m.bleDeviceRequests := rfl

theorem challengeOf_of_lookup (h : m.pendingRequests.lookup requestId = some pending) :
    m.challengeOf requestId = some pending.authRequest.challenge := by
  rw [challengeOf, h, Option.map_some]

theorem addressOf_of_lookup (h : m.pendingRequests.lookup requestId = some pending) :
    m.addressOf requestId = pending.bleDeviceAddress := by
  rw [addressOf, h, Option.bind_some]

/-- The removals of a cancelled challenge keep the index by address. -/
theorem indexes_cancelEach_unindexBle (h : m.bleDeviceRequests.Indexes m.addressOf)
    (ids : List String) :
    (cancelEach unindexBle m ids).bleDeviceRequests.Indexes
        (cancelEach unindexBle m ids).addressOf ∧
      (cancelEach unindexBle m ids).challengeIndex = m.challengeIndex := by
  refine cancelEach_rule (Q := fun n ↦ n.bleDeviceRequests.Indexes n.addressOf ∧
    n.challengeIndex = m.challengeIndex) ?_ ⟨h, rfl⟩ ids
  rintro n requestId pending ⟨hindexes, hsame⟩ hlookup
  rw [addressOf_settle onlyIndexes_unindexBle, settle, cancelledResponse, hlookup]
  exact ⟨indexes_unindexBle hindexes (addressOf_of_lookup hlookup),
    (unindexBle_challengeIndex requestId pending).trans hsame⟩

/-- The removals of a lost connection keep the index by challenge. -/
theorem indexes_cancelEach_unindexChallenge (h : m.challengeIndex.Indexes m.challengeOf)
    (ids : List String) :
    (cancelEach unindexChallenge m ids).challengeIndex.Indexes
        (cancelEach unindexChallenge m ids).challengeOf ∧
      (cancelEach unindexChallenge m ids).bleDeviceRequests = m.bleDeviceRequests := by
  refine cancelEach_rule (Q := fun n ↦ n.challengeIndex.Indexes n.challengeOf ∧
    n.bleDeviceRequests = m.bleDeviceRequests) ?_ ⟨h, rfl⟩ ids
  rintro n requestId pending ⟨hindexes, hsame⟩ hlookup
  rw [challengeOf_settle onlyIndexes_unindexChallenge, settle, cancelledResponse, hlookup]
  exact ⟨indexes_unindexChallenge hindexes (challengeOf_of_lookup hlookup),
    (unindexChallenge_bleDeviceRequests requestId pending).trans hsame⟩

theorem mem_withChallenge {challenge : Bytes} :
    requestId ∈ m.withChallenge challenge ↔ m.challengeOf requestId = some challenge := by
  simp only [withChallenge, List.mem_map, List.mem_filter, decide_eq_true_eq, challengeOf,
    Option.map_eq_some_iff]
  constructor
  · rintro ⟨⟨_, pending⟩, ⟨hmem, hchallenge⟩, rfl⟩
    exact ⟨pending, AList.mem_lookup_iff.mpr hmem, hchallenge⟩
  · rintro ⟨pending, hlookup, hchallenge⟩
    exact ⟨⟨requestId, pending⟩, ⟨AList.mem_lookup_iff.mp hlookup, hchallenge⟩, rfl⟩

theorem mem_idsToCancel (h : m.challengeIndex.Indexes m.challengeOf) {challenge : Bytes} :
    requestId ∈ m.idsToCancel challenge ↔ m.challengeOf requestId = some challenge := by
  simp only [idsToCancel]
  split
  case isTrue => exact h.mem_getD_iff challenge requestId
  case isFalse => exact mem_withChallenge

/-! ## The invariant -/

/-- The indexes agree with the pending requests, and the callbacks with the requests
that left. -/
structure Consistent (m : AuthRequestManager) : Prop where
  challenges : m.challengeIndex.Indexes m.challengeOf
  addresses : m.bleDeviceRequests.Indexes m.addressOf
  counted : Counted m

theorem consistent_created : Consistent created where
  challenges := KeyIndex.Indexes.empty
  addresses := KeyIndex.Indexes.empty
  counted := ⟨nofun, nofun, fun _ _ ↦ rfl⟩

/-- Only these five fields count. -/
theorem Consistent.congr (h : Consistent m) (hpending : m'.pendingRequests = m.pendingRequests)
    (hsubmitted : m'.submitted = m.submitted) (hcallbacks : m'.callbacks = m.callbacks)
    (hchallenge : m'.challengeIndex = m.challengeIndex)
    (hble : m'.bleDeviceRequests = m.bleDeviceRequests) : Consistent m' where
  challenges := by
    have hkey : m'.challengeOf = m.challengeOf := by
      funext requestId
      rw [challengeOf, hpending, challengeOf]
    rw [hkey, hchallenge]
    exact h.challenges
  addresses := by
    have hkey : m'.addressOf = m.addressOf := by
      funext requestId
      rw [addressOf, hpending, addressOf]
    rw [hkey, hble]
    exact h.addresses
  counted := h.counted.congr hpending hsubmitted hcallbacks

/-- An answer, a cancel by identifier and the clean-up look at both indexes. -/
theorem Consistent.settle (h : Consistent m) (response : AuthResponse) :
    Consistent (m.settle (fun m requestId pending ↦
      (m.unindexChallenge requestId pending).unindexBle requestId pending) response) := by
  refine ⟨?_, ?_, h.counted.settle onlyIndexes_both response⟩
  · rw [challengeOf_settle onlyIndexes_both]
    cases hlookup : m.pendingRequests.lookup response.requestId with
    | none =>
      have hnone : m.challengeOf response.requestId = none := by
        rw [challengeOf, hlookup, Option.map_none]
      rw [settle_of_not_pending hlookup, update_eq_self_iff.mpr hnone.symm]
      exact h.challenges
    | some pending =>
      rw [AuthRequestManager.settle, hlookup]
      simp only [unindexBle_challengeIndex]
      exact indexes_unindexChallenge h.challenges (challengeOf_of_lookup hlookup)
  · rw [addressOf_settle onlyIndexes_both]
    cases hlookup : m.pendingRequests.lookup response.requestId with
    | none =>
      have hnone : m.addressOf response.requestId = none := by
        rw [addressOf, hlookup, Option.bind_none]
      rw [settle_of_not_pending hlookup, update_eq_self_iff.mpr hnone.symm]
      exact h.addresses
    | some pending =>
      rw [AuthRequestManager.settle, hlookup]
      exact indexes_unindexBle h.addresses (addressOf_of_lookup hlookup)

/-- The entry of the challenge goes from the index at once, and with it the requests that
the entry listed. -/
theorem Consistent.cancelRequestsByChallenge (h : Consistent m) (challenge : Bytes) :
    Consistent (m.cancelRequestsByChallenge challenge).2 := by
  set dropped : AuthRequestManager :=
    { m with challengeIndex := m.challengeIndex.drop challenge } with hdropped
  set ids := m.idsToCancel challenge with hids
  have hstep : Consistent (cancelEach unindexBle dropped ids) := by
    obtain ⟨haddresses, hindex⟩ := indexes_cancelEach_unindexBle (m := dropped) h.addresses ids
    refine ⟨?_, haddresses, ?_⟩
    · have hkey : (cancelEach unindexBle dropped ids).challengeOf =
          fun requestId ↦ if m.challengeOf requestId = some challenge then none
            else m.challengeOf requestId := by
        funext requestId
        rw [challengeOf, lookup_cancelEach onlyIndexes_unindexBle]
        by_cases hmem : requestId ∈ ids
        · rw [if_pos hmem, if_pos ((mem_idsToCancel h.challenges).mp hmem), Option.map_none]
        · rw [if_neg hmem, if_neg fun hof ↦ hmem ((mem_idsToCancel h.challenges).mpr hof)]
          rfl
      rw [hindex, hkey]
      exact h.challenges.drop challenge
    · have hcounted : Counted dropped := h.counted.congr rfl rfl rfl
      exact hcounted.cancelEach onlyIndexes_unindexBle ids
  exact hstep.congr rfl rfl rfl rfl rfl

theorem Consistent.cancelRequestsByBleDisconnection (h : Consistent m) (address : String) :
    Consistent (m.cancelRequestsByBleDisconnection address).2 := by
  unfold AuthRequestManager.cancelRequestsByBleDisconnection
  cases hids : m.bleDeviceRequests address with
  | none => exact h
  | some ids =>
    have hne : ids ≠ [] := (h.addresses.present hids).1
    simp only [hne, if_false]
    set dropped : AuthRequestManager :=
      { m with bleDeviceRequests := m.bleDeviceRequests.drop address } with hdropped
    obtain ⟨hchallenges, hindex⟩ :=
      indexes_cancelEach_unindexChallenge (m := dropped) h.challenges ids
    refine ⟨hchallenges, ?_, ?_⟩
    · have hkey : (cancelEach unindexChallenge dropped ids).addressOf =
          fun requestId ↦ if m.addressOf requestId = some address then none
            else m.addressOf requestId := by
        funext requestId
        rw [addressOf, lookup_cancelEach onlyIndexes_unindexChallenge]
        by_cases hmem : requestId ∈ ids
        · rw [if_pos hmem, if_pos ((h.addresses.mem_iff hids _).mp hmem), Option.bind_none]
        · rw [if_neg hmem, if_neg fun hof ↦ hmem ((h.addresses.mem_iff hids _).mpr hof)]
          rfl
      rw [hindex, hkey]
      exact h.addresses.drop address
    · have hcounted : Counted dropped := h.counted.congr rfl rfl rfl
      exact hcounted.cancelEach onlyIndexes_unindexChallenge ids

theorem lookup_store (authRequest : AuthRequest) (address : Option String) (requestId : String) :
    (m.store authRequest address).pendingRequests.lookup requestId =
      if requestId = authRequest.requestId then some ⟨authRequest, address⟩
      else m.pendingRequests.lookup requestId := by
  have hfield : (m.store authRequest address).pendingRequests =
      m.pendingRequests.insert authRequest.requestId ⟨authRequest, address⟩ := by
    cases address <;> rfl
  rw [hfield]
  split
  case isTrue hid => rw [hid, AList.lookup_insert]
  case isFalse hid => rw [AList.lookup_insert_ne hid]

/-- A request that was not there before is stored with its two index entries. -/
theorem indexes_store (hchallenges : m.challengeIndex.Indexes m.challengeOf)
    (haddresses : m.bleDeviceRequests.Indexes m.addressOf) (authRequest : AuthRequest)
    (address : Option String)
    (hnew : m.pendingRequests.lookup authRequest.requestId = none) :
    (m.store authRequest address).challengeIndex.Indexes (m.store authRequest address).challengeOf ∧
      (m.store authRequest address).bleDeviceRequests.Indexes
        (m.store authRequest address).addressOf := by
  have hchallengeOf : (m.store authRequest address).challengeOf =
      update m.challengeOf authRequest.requestId (some authRequest.challenge) := by
    funext requestId
    rw [challengeOf, lookup_store, update_apply]
    split <;> rfl
  have haddressOf : (m.store authRequest address).addressOf =
      update m.addressOf authRequest.requestId address := by
    funext requestId
    rw [addressOf, lookup_store, update_apply]
    split <;> rfl
  have hno : m.addressOf authRequest.requestId = none := by rw [addressOf, hnew, Option.bind_none]
  rw [hchallengeOf, haddressOf]
  cases address with
  | none =>
    refine ⟨hchallenges.add (by rw [challengeOf, hnew, Option.map_none]) _, ?_⟩
    rw [update_eq_self_iff.mpr hno.symm]
    exact haddresses
  | some address =>
    exact ⟨hchallenges.add (by rw [challengeOf, hnew, Option.map_none]) _,
      haddresses.add hno address⟩

theorem store_submitted (authRequest : AuthRequest) (address : Option String) :
    (m.store authRequest address).submitted = m.submitted := by
  cases address <;> rfl

theorem store_callbacks (authRequest : AuthRequest) (address : Option String) :
    (m.store authRequest address).callbacks = m.callbacks := by
  cases address <;> rfl

theorem isChallengeCancelled_snd (challenge : Bytes) :
    ∃ cancelled, (m.isChallengeCancelled challenge).2 =
      { m with cancelledChallenges := cancelled } := by
  unfold isChallengeCancelled
  dsimp only
  split
  case h_1 => exact ⟨_, rfl⟩
  case h_2 => split <;> exact ⟨_, rfl⟩

/-- A challenge counts as cancelled while its cancellation is remembered. -/
theorem isChallengeCancelled_fst (challenge : Bytes) :
    (m.isChallengeCancelled challenge).1 =
      (m.cancelledChallenges challenge).any fun ts ↦ !forgotten m.elapsedRealtime ts := by
  simp only [isChallengeCancelled, pruneCancelledChallenges]
  cases hts : m.cancelledChallenges challenge with
  | none => rfl
  | some ts => cases hold : forgotten m.elapsedRealtime ts <;> simp [Option.filter_some, hold]

theorem scheduleCleanup_eq (S : Submission) :
    ∃ cleanups, m.scheduleCleanup S = { m with cleanups := cleanups } := by
  unfold scheduleCleanup
  dsimp only
  split <;> exact ⟨_, rfl⟩

/-- The request of a cancelled challenge is dropped, and its callback started at once; any other
is stored, and its clean-up scheduled. -/
theorem submitRequest_eq (m : AuthRequestManager) (S : Submission) :
    ∃ cancelled, m.submitRequest S =
      if (m.isChallengeCancelled S.authRequest.challenge).1 then
        { m with
          submitted := S.authRequest.requestId :: m.submitted
          callbacks := cancelledResponse S.authRequest.requestId :: m.callbacks
          cancelledChallenges := cancelled }
      else
        ({ m with
          submitted := S.authRequest.requestId :: m.submitted
          cancelledChallenges := cancelled }.store S.authRequest
            S.bleDeviceAddress).scheduleCleanup S := by
  set issued : AuthRequestManager :=
    { m with submitted := S.authRequest.requestId :: m.submitted } with hissued
  obtain ⟨cancelled, hsnd⟩ := isChallengeCancelled_snd (m := issued) S.authRequest.challenge
  have hfst : (issued.isChallengeCancelled S.authRequest.challenge).1 =
      (m.isChallengeCancelled S.authRequest.challenge).1 := by
    rw [isChallengeCancelled_fst, isChallengeCancelled_fst]
  refine ⟨cancelled, ?_⟩
  rw [← hfst]
  simp only [submitRequest]
  rw [← hissued]
  generalize issued.isChallengeCancelled S.authRequest.challenge = answer at hsnd ⊢
  obtain ⟨dropped, m'⟩ := answer
  cases hsnd
  cases dropped <;> rfl

theorem Consistent.lookup_eq_none (h : Consistent m) (hfresh : requestId ∉ m.submitted) :
    m.pendingRequests.lookup requestId = none :=
  Option.not_isSome_iff_eq_none.mp fun hsome ↦ hfresh (h.counted.pending _ hsome)

/-- A new request that is dropped. -/
theorem Consistent.drop (h : Consistent m) (hfresh : requestId ∉ m.submitted)
    (cancelled : Bytes → Option Nat) :
    Consistent { m with
      submitted := requestId :: m.submitted
      callbacks := cancelledResponse requestId :: m.callbacks
      cancelledChallenges := cancelled } := by
  have hnew := h.lookup_eq_none hfresh
  refine ⟨h.challenges, h.addresses, ?_, ?_, ?_⟩
  · intro other hpending
    exact List.mem_cons_of_mem _ (h.counted.pending _ hpending)
  · intro other hid
    by_cases hsame : other = requestId
    · subst hsame
      simpa [started, cancelledResponse, hnew] using h.counted.unsubmitted _ hfresh
    · have hid : other ∈ m.submitted := (List.mem_cons.mp hid).resolve_left hsame
      simpa [started, cancelledResponse, Ne.symm hsame] using h.counted.started_eq _ hid
  · intro other hid
    obtain ⟨hother, hid⟩ := not_or.mp (List.mem_cons.not.mp hid)
    simpa [started, cancelledResponse, Ne.symm hother] using h.counted.unsubmitted _ hid

/-- A new request that is stored. -/
theorem Consistent.store (h : Consistent m) {authRequest : AuthRequest}
    (hfresh : authRequest.requestId ∉ m.submitted) (cancelled : Bytes → Option Nat)
    (address : Option String) :
    Consistent ({ m with
      submitted := authRequest.requestId :: m.submitted
      cancelledChallenges := cancelled }.store authRequest address) := by
  obtain ⟨hchallenges, haddresses⟩ := indexes_store (m := { m with
    submitted := authRequest.requestId :: m.submitted
    cancelledChallenges := cancelled }) h.challenges h.addresses authRequest address
    (h.lookup_eq_none hfresh)
  refine ⟨hchallenges, haddresses, ?_, ?_, ?_⟩
  · intro requestId hpending
    rw [lookup_store] at hpending
    rw [store_submitted]
    by_cases hsame : requestId = authRequest.requestId
    · exact hsame ▸ List.mem_cons_self
    · rw [if_neg hsame] at hpending
      exact List.mem_cons_of_mem _ (h.counted.pending _ hpending)
  · intro requestId hid
    rw [store_submitted] at hid
    rw [started, store_callbacks, lookup_store]
    by_cases hsame : requestId = authRequest.requestId
    · subst hsame
      simpa [started] using h.counted.unsubmitted _ hfresh
    · rw [if_neg hsame]
      exact h.counted.started_eq _ ((List.mem_cons.mp hid).resolve_left hsame)
  · intro requestId hid
    rw [store_submitted] at hid
    rw [started, store_callbacks]
    exact h.counted.unsubmitted _ (not_or.mp (List.mem_cons.not.mp hid)).2

theorem Consistent.submitRequest (h : Consistent m) {S : Submission}
    (hfresh : S.authRequest.requestId ∉ m.submitted) : Consistent (m.submitRequest S) := by
  obtain ⟨cancelled, hsubmit⟩ := submitRequest_eq m S
  rw [hsubmit]
  split
  · exact h.drop hfresh cancelled
  · have hstored := h.store hfresh cancelled S.bleDeviceAddress
    obtain ⟨cleanups, hcleanups⟩ := scheduleCleanup_eq (m := { m with
      submitted := S.authRequest.requestId :: m.submitted
      cancelledChallenges := cancelled }.store S.authRequest S.bleDeviceAddress) S
    rw [hcleanups]
    exact hstored.congr rfl rfl rfl rfl rfl

theorem Consistent.step (h : Consistent m) {event : ManagerEvent} (hfresh : FreshId m event)
    (hnext : manager.next m event = some m') : Consistent m' := by
  cases event with
  | tick ms =>
    cases hnext
    exact h.congr rfl rfl rfl rfl rfl
  | submitRequest S =>
    cases hnext
    exact h.submitRequest hfresh
  | handleResponse response =>
    cases hnext
    exact h.settle response
  | cancelRequest requestId =>
    cases hnext
    exact h.settle (cancelledResponse requestId)
  | cancelRequestsByChallenge challenge =>
    cases hnext
    exact h.cancelRequestsByChallenge challenge
  | cancelRequestsByBleDisconnection address =>
    cases hnext
    exact h.cancelRequestsByBleDisconnection address
  | cleanup requestId due =>
    simp only [manager] at hnext
    split at hnext
    case isFalse => cases hnext
    case isTrue =>
      cases hnext
      have herased : Consistent { m with cleanups := m.cleanups.erase (requestId, due) } :=
        h.congr rfl rfl rfl rfl rfl
      unfold timeoutCleanup
      split
      case isTrue => exact herased.settle (cancelledResponse requestId)
      case isFalse => exact herased

/-- In every sequence of operations, the callback of a submitted request is started at most
once, and once exactly when the request is no longer pending; and each index lists exactly
the pending requests with its key, with no entry that is empty or names another request. -/
theorem callback_once_and_indexes_exact {events : List ManagerEvent} {m : AuthRequestManager}
    (hrun : manager.exec created events = some m) (hfresh : manager.Along FreshId created events) :
    (∀ requestId ∈ m.submitted, m.started requestId ≤ 1 ∧
      ((m.pendingRequests.lookup requestId = none) ↔ m.started requestId = 1)) ∧
      m.challengeIndex.Indexes m.challengeOf ∧ m.bleDeviceRequests.Indexes m.addressOf := by
  have h : Consistent m :=
    manager.invariant_along (fun _ _ _ h hfresh hnext ↦ h.step hfresh hnext) consistent_created
      hrun hfresh
  refine ⟨fun requestId hid ↦ ?_, h.challenges, h.addresses⟩
  rw [h.counted.started_eq requestId hid]
  cases m.pendingRequests.lookup requestId <;> simp

end AuthRequestManager

namespace ManagerSample

/-- A request over Bluetooth, submitted at the second 1000 of the wall clock. -/
def submission (requestId : String) (challenge : Bytes) (address : Option String) : Submission where
  authRequest := ⟨requestId, "desk", "Desk", "alice", "host", challenge, 1000000, .ble⟩
  bleDeviceAddress := address
  sessionTimeoutSeconds := 120
  currentTimeMillis := 1000000
  posted := true

/-- Three requests of two challenges; one challenge is cancelled before its last request
comes, the other request runs out of time. -/
def events : List ManagerEvent :=
  [.submitRequest (submission "a" [1] (some "AA")), .submitRequest (submission "b" [2] (some "AA")),
    .cancelRequestsByChallenge [1], .submitRequest (submission "c" [1] none), .tick 120250,
    .cleanup "b" 120250, .handleResponse ⟨"b", true, none, false⟩]

end ManagerSample

theorem callback_once_and_indexes_exact_cancel_first :
    ∃ m, manager.exec created ManagerSample.events = some m ∧ m.submitted = ["c", "b", "a"] ∧
      (∀ requestId ∈ m.submitted, m.started requestId ≤ 1 ∧
        ((m.pendingRequests.lookup requestId = none) ↔ m.started requestId = 1)) ∧
      m.challengeIndex.Indexes m.challengeOf ∧ m.bleDeviceRequests.Indexes m.addressOf := by
  have hsubmitted :
      (manager.exec created ManagerSample.events).map submitted = some ["c", "b", "a"] := by
    decide +kernel
  obtain ⟨m, hrun, hsubmitted⟩ := Option.map_eq_some_iff.mp hsubmitted
  exact ⟨m, hrun, hsubmitted, callback_once_and_indexes_exact hrun (by decide +kernel)⟩

end TapAuth.Phone
