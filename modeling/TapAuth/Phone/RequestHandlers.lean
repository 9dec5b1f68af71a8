import Mathlib.Logic.Function.Basic
import TapAuth.Lib.Pool
import TapAuth.Phone.Devices
import TapAuth.Shared.Protocol

/-!
# The phone's request handlers

`handleAuthRequest` of the UDP service and of the BLE service: parse the request,
look whether its user is allowed, claim the challenge for the transport, look for a
replay, verify the signature, submit the request to the user.

`handleAuthRequest` here is the handler as it runs alone.  The services start one
coroutine for every packet, so `handlerStep` cuts it at each operation on the two
concurrent maps it shares with the others, the transport locks and the challenges
seen; `feed_handleAuthRequest` says that the pieces, run without interruption, are
the handler.

Both services do the same with a request but for the rate limiter, which only UDP
asks.  What it answers is an input.  What a handler does with the connection, the log
and the answer of the user is not modelled.
-/

namespace TapAuth.Phone

open Shared

inductive TransportType where
  | udp
  | ble
  deriving DecidableEq, Repr

/-- A `ConcurrentHashMap` whose keys are challenges in hexadecimal. -/
abbrev HexMap (α : Type) := String → Option α

/-! ## The transport lock -/

structure TransportLock where
  transport : TransportType
  /-- Milliseconds since boot. -/
  timestamp : Int64
  deriving DecidableEq

def lockExpiryMs : Int64 := 120000

def TransportLock.expired (lock : TransportLock) (now : Int64) : Bool :=
  now - lock.timestamp > lockExpiryMs

def cleanupExpiredLocks (now : Int64) (locks : HexMap TransportLock) : HexMap TransportLock :=
  fun key ↦ (locks key).filter fun lock ↦ !lock.expired now

def tryClaimTransport (now : Int64) (transport : TransportType) (key : String)
    (locks : HexMap TransportLock) : Bool × HexMap TransportLock :=
  let locks := cleanupExpiredLocks now locks
  let claimed := Function.update locks key (some ⟨transport, now⟩)
  match locks key with
  | none => (true, claimed)
  | some existing =>
    if existing.expired now then (true, claimed)
    -- a retransmission on the same transport is allowed
    else (existing.transport = transport, locks)

/-! ## The replay cache -/

def timestampValiditySeconds : Int64 := 60

def cacheExpirySeconds : Int64 := 120

/-- Outside the validity window.  The difference wraps, and `abs` leaves the least
`Long` as it is. -/
def stale (nowSeconds timestamp : Int64) : Bool :=
  (nowSeconds - timestamp).abs > timestampValiditySeconds

def cleanExpired (nowSeconds : Int64) (cache : HexMap Int64) : HexMap Int64 :=
  fun key ↦ (cache key).filter fun expiryTime ↦ !(expiryTime < nowSeconds)

/-- The clock is read again for the cleaning; alone, it has not moved. -/
def isReplay (nowSeconds : Int64) (key : String) (timestamp : Int64) (cache : HexMap Int64) :
    Bool × HexMap Int64 :=
  if stale nowSeconds timestamp then (true, cache)
  else if (cache key).isSome then (true, cache)
  else
    (false, Function.update (cleanExpired nowSeconds cache) key
      (some (nowSeconds + cacheExpirySeconds)))

/-! ## Requests -/

/-- An `AuthenticationRequest` as the phone parses it from its wrapper. -/
structure ParsedRequest where
  challenge : Bytes
  username : String
  hostname : String
  timestampUnixSeconds : Int64
  signatureAlgorithm : Int32
  signature : Bytes
  deriving DecidableEq

/-- A decrypted packet and the device it is from. -/
structure Incoming where
  transport : TransportType
  device : PairedDevice
  wrapperMessage : Bytes
  deriving DecidableEq

/-- A packet and the request in it. -/
structure Job where
  incoming : Incoming
  request : ParsedRequest
  deriving DecidableEq

/-- The key of the maps. -/
def Job.key (job : Job) : String := hexEncode job.request.challenge

section

variable (P : Primitives)

def parseAuthRequest (requestBytes : Bytes) : Option ParsedRequest :=
  match P.wrapperFormat.decode requestBytes with
  | .ok ⟨_, signatureAlgorithm, signature, some (.authRequest request)⟩ =>
    some {
      challenge := request.challenge
      username := request.username
      hostname := request.hostname
      timestampUnixSeconds := request.timestampUnixSeconds.toInt64
      signatureAlgorithm, signature }
  | _ => none

def serializeAuthRequestForVerification (request : ParsedRequest) : Bytes :=
  P.wrapperFormat.encode {
    version := 1
    signatureAlgorithm := request.signatureAlgorithm
    signature := []
    payload := some (.authRequest ⟨request.challenge, request.username, request.hostname,
      request.timestampUnixSeconds.toUInt64⟩) }

/-- A key that is none is an exception, which both services treat as a failure. -/
def verifySignature (publicKey message signature : Bytes) : Bool :=
  match FixedBytes.ofBytes 32 publicKey with
  | some key => (verifyEd25519 P key message signature).isOk
  | none => false

def Job.verifies (job : Job) : Bool :=
  verifySignature P job.incoming.device.publicKey
    (serializeAuthRequestForVerification P job.request) job.request.signature

/-- The packet with its request. -/
def Incoming.job? (incoming : Incoming) : Option Job :=
  (parseAuthRequest P incoming.wrapperMessage).map fun request ↦ ⟨incoming, request⟩

end

/-! ## A handler that runs alone -/

/-- How a handler ends. -/
inductive HandlerEnd where
  | rateLimited
  | unparsable
  | notAllowed
  | claimedByOther
  | replay
  | invalidSignature
  | submitted
  deriving DecidableEq, Repr

/-- What the handlers share, and the requests that have been submitted with the
time. -/
structure PhoneMemory where
  /-- `System.currentTimeMillis`. -/
  currentTimeMillis : Int64
  /-- `SystemClock.elapsedRealtime`. -/
  elapsedRealtime : Int64
  challengeLocks : HexMap TransportLock
  challengeCache : HexMap Int64
  submitted : List (Job × Int64)

def PhoneMemory.nowSeconds (s : PhoneMemory) : Int64 := s.currentTimeMillis / 1000

def PhoneMemory.setLock (s : PhoneMemory) (key : String) (lock : Option TransportLock) :
    PhoneMemory :=
  { s with challengeLocks := Function.update s.challengeLocks key lock }

def PhoneMemory.putChallenge (s : PhoneMemory) (key : String) (expiryTime : Int64) : PhoneMemory :=
  { s with challengeCache := Function.update s.challengeCache key (some expiryTime) }

def PhoneMemory.submitRequest (s : PhoneMemory) (job : Job) : PhoneMemory :=
  { s with submitted := (job, s.nowSeconds) :: s.submitted }

section

variable (P : Primitives)

/-- Before the shared maps: the rate limiter's answer, the request, its user. -/
def precheck (incoming : Incoming) (accepted : Bool) : Except HandlerEnd Job :=
  if incoming.transport = .udp ∧ !accepted then .error .rateLimited
  else
    match incoming.job? P with
    | none => .error .unparsable
    | some job =>
      if job.incoming.device.isUserAllowed job.request.username then .ok job
      else .error .notAllowed

/-- The claim of the challenge; `check` is what follows it. -/
def claimThen {ε : Type} (ended : HandlerEnd → ε) (check : PhoneMemory → Job → PhoneMemory × ε)
    (s : PhoneMemory) (incoming : Incoming) (accepted : Bool) : PhoneMemory × ε :=
  match precheck P incoming accepted with
  | .error e => (s, ended e)
  | .ok job =>
    let claim := tryClaimTransport s.elapsedRealtime incoming.transport job.key s.challengeLocks
    let s := { s with challengeLocks := claim.2 }
    if claim.1 then check s job else (s, ended .claimedByOther)

/-- The replay cache; `verify` is what follows it. -/
def replayThen {ε : Type} (ended : HandlerEnd → ε) (verify : PhoneMemory → PhoneMemory × ε)
    (s : PhoneMemory) (job : Job) : PhoneMemory × ε :=
  let replay := isReplay s.nowSeconds job.key job.request.timestampUnixSeconds s.challengeCache
  let s := { s with challengeCache := replay.2 }
  if replay.1 then (s, ended .replay) else verify s

/-- The signature and the submission. -/
def verifyAndSubmit (job : Job) (s : PhoneMemory) : PhoneMemory × HandlerEnd :=
  if job.verifies P then (s.submitRequest job, .submitted) else (s, .invalidSignature)

/-- Once the challenge is claimed. -/
def checkAndSubmit (s : PhoneMemory) (job : Job) : PhoneMemory × HandlerEnd :=
  replayThen id (verifyAndSubmit P job) s job

def handleAuthRequest (s : PhoneMemory) (incoming : Incoming) (accepted : Bool) :
    PhoneMemory × HandlerEnd :=
  claimThen P id (checkAndSubmit P) s incoming accepted

end

/-! ## The handler in pieces -/

/-- Where a handler stands, with what it has read.  One more task stands for the
surroundings. -/
inductive Handler where
  | surroundings
  | arrived (incoming : Incoming)
  | claiming (job : Job)
  | sweeping (job : Job) (now : Int64)
  /-- The iterator is at an entry it has found expired. -/
  | removing (job : Job) (now : Int64) (key : String)
  | swept (job : Job) (now : Int64)
  | replacing (job : Job) (now : Int64) (existing : TransportLock)
  | claimed (job : Job)
  | checking (job : Job) (nowSeconds : Int64)
  | missed (job : Job) (nowSeconds : Int64)
  | cleaning (job : Job) (nowSeconds cleanNow : Int64)
  | cleaned (job : Job) (nowSeconds : Int64)
  | accepted (job : Job)
  | verified (job : Job)
  | finished (result : HandlerEnd)
  deriving DecidableEq

/-- The steps.  `go` is the next operation of a handler; the iterator over the locks
yields its entries in any order. -/
inductive PhoneEvent where
  | clocks (currentTimeMillis elapsedRealtime : Int64)
  /-- The end of a session releases its lock. -/
  | releaseLock (key : String)
  | precheck (accepted : Bool)
  | visit (key : String)
  | go

section

variable (P : Primitives)

/-- An existing lock that is not replaced: only its own transport may go on. -/
def afterExisting (job : Job) (existing : TransportLock) : Handler :=
  if existing.transport = job.incoming.transport then .claimed job else .finished .claimedByOther

def putIfAbsent (s : PhoneMemory) (job : Job) (now : Int64) : PhoneMemory × Handler :=
  match s.challengeLocks job.key with
  | none => (s.setLock job.key (some ⟨job.incoming.transport, now⟩), .claimed job)
  | some existing =>
    if existing.expired now then (s, .replacing job now existing)
    else (s, afterExisting job existing)

/-- `replace` only if the lock is still the one that was read. -/
def replaceLock (s : PhoneMemory) (job : Job) (now : Int64) (existing : TransportLock) :
    PhoneMemory × Handler :=
  if s.challengeLocks job.key = some existing then
    (s.setLock job.key (some ⟨job.incoming.transport, now⟩), .claimed job)
  else (s, afterExisting job existing)

/-- One step of a handler. -/
def handlerStep (s : PhoneMemory) : Handler → PhoneEvent → Option (PhoneMemory × Handler)
  | .surroundings, .clocks currentTimeMillis elapsedRealtime =>
    some ({ s with currentTimeMillis, elapsedRealtime }, .surroundings)
  | .surroundings, .releaseLock key => some (s.setLock key none, .surroundings)
  | .arrived incoming, .precheck accepted =>
    match precheck P incoming accepted with
    | .ok job => some (s, .claiming job)
    | .error e => some (s, .finished e)
  | .claiming job, .go => some (s, .sweeping job s.elapsedRealtime)
  | .sweeping job now, .visit key =>
    match s.challengeLocks key with
    | some lock => if lock.expired now then some (s, .removing job now key) else none
    | none => none
  -- the iterator removes by key
  | .removing job now key, .go => some (s.setLock key none, .sweeping job now)
  | .sweeping job now, .go => some (s, .swept job now)
  | .swept job now, .go => some (putIfAbsent s job now)
  | .replacing job now existing, .go => some (replaceLock s job now existing)
  | .claimed job, .go =>
    if stale s.nowSeconds job.request.timestampUnixSeconds then some (s, .finished .replay)
    else some (s, .checking job s.nowSeconds)
  | .checking job nowSeconds, .go =>
    if (s.challengeCache job.key).isSome then some (s, .finished .replay)
    else some (s, .missed job nowSeconds)
  | .missed job nowSeconds, .go => some (s, .cleaning job nowSeconds s.nowSeconds)
  | .cleaning job nowSeconds cleanNow, .go =>
    some ({ s with challengeCache := cleanExpired cleanNow s.challengeCache },
      .cleaned job nowSeconds)
  | .cleaned job nowSeconds, .go =>
    some (s.putChallenge job.key (nowSeconds + cacheExpirySeconds), .accepted job)
  | .accepted job, .go =>
    if job.verifies P then some (s, .verified job) else some (s, .finished .invalidSignature)
  | .verified job, .go => some (s.submitRequest job, .finished .submitted)
  | _, _ => none

def requestHandlers : Threads PhoneMemory Handler PhoneEvent where
  step := handlerStep P

end

/-! ## A handler nobody interrupts -/

/-- The labels of one handler: the iterator yields the expired locks. -/
def handlerEvents (accepted : Bool) (expiredKeys : List String) : List PhoneEvent :=
  [.precheck accepted, .go] ++ expiredKeys.flatMap (fun key ↦ [.visit key, .go]) ++
    [.go, .go, .go, .go, .go, .go, .go, .go, .go]

section

variable {P : Primitives}

@[simp] theorem requestHandlers_next (s : PhoneMemory) (l : Handler) (e : PhoneEvent) :
    (requestHandlers P).solo.next (s, l) e = handlerStep P s l e := rfl

/-- A finished handler takes no step. -/
@[simp] theorem feed_request_finished (s : PhoneMemory) (result : HandlerEnd)
    (events : List PhoneEvent) :
    (requestHandlers P).solo.feed (s, .finished result) events = (s, .finished result) :=
  Machine.feed_of_stuck _ (fun _ ↦ rfl) events

theorem incoming_of_job? {incoming : Incoming} {job : Job} (h : incoming.job? P = some job) :
    job.incoming = incoming := by
  obtain ⟨request, -, rfl⟩ := Option.map_eq_some_iff.mp h
  rfl

theorem job?_of_precheck {incoming : Incoming} {accepted : Bool} {job : Job}
    (h : precheck P incoming accepted = .ok job) : incoming.job? P = some job := by
  unfold precheck at h
  split_ifs at h
  split at h
  · cases h
  · rename_i hjob
    split_ifs at h
    cases h
    exact hjob

variable {keys : List String}

/-- The iterator removes what it yields. -/
theorem feed_sweeping (s : PhoneMemory) (job : Job) (now : Int64) (hnodup : keys.Nodup)
    (hkeys : ∀ key ∈ keys, ∃ lock, s.challengeLocks key = some lock ∧ lock.expired now) :
    (requestHandlers P).solo.feed (s, .sweeping job now)
        (keys.flatMap fun key ↦ [.visit key, .go]) =
      ({ s with challengeLocks := fun key ↦ if key ∈ keys then none else s.challengeLocks key },
        .sweeping job now) := by
  induction keys generalizing s with
  | nil => simp
  | cons key keys ih =>
    obtain ⟨hkey, hnodup⟩ := List.nodup_cons.mp hnodup
    obtain ⟨lock, hlock, hexpired⟩ := hkeys key List.mem_cons_self
    rw [List.flatMap_cons, Machine.feed_append]
    have hremoved : (requestHandlers P).solo.feed (s, .sweeping job now) [.visit key, .go] =
        (s.setLock key none, .sweeping job now) := by
      simp [handlerStep, hlock, hexpired]
    rw [hremoved, ih _ hnodup]
    · congr 2
      funext k
      by_cases hk : k = key
      · simp [PhoneMemory.setLock, hk]
      · simp [PhoneMemory.setLock, hk]
    · intro k hk
      have hne : k ≠ key := fun h ↦ hkey (h ▸ hk)
      simpa [PhoneMemory.setLock, hne] using hkeys k (List.mem_cons_of_mem key hk)

/-- If the iterator yields the expired locks, the sweep is `cleanupExpiredLocks`. -/
theorem cleanupExpiredLocks_eq {locks : HexMap TransportLock} {now : Int64}
    (hkeys : ∀ key, key ∈ keys ↔ ∃ lock, locks key = some lock ∧ lock.expired now) :
    (fun key ↦ if key ∈ keys then none else locks key) = cleanupExpiredLocks now locks := by
  funext key
  unfold cleanupExpiredLocks
  cases hlock : locks key with
  | none => simp
  | some lock =>
    by_cases hexpired : lock.expired now
    · have hmem := (hkeys key).mpr ⟨lock, hlock, hexpired⟩
      simp [hmem, hexpired, Option.filter]
    · have hmem : key ∉ keys := by
        intro hmem
        obtain ⟨lock', hlock', hexpired'⟩ := (hkeys key).mp hmem
        rw [hlock] at hlock'
        cases hlock'
        exact hexpired hexpired'
      simp [hmem, hexpired, Option.filter]

theorem feed_claimed (s : PhoneMemory) (job : Job) :
    (requestHandlers P).solo.feed (s, .claimed job) [.go, .go, .go, .go, .go, .go, .go] =
      ((checkAndSubmit P s job).1, .finished (checkAndSubmit P s job).2) := by
  unfold checkAndSubmit replayThen verifyAndSubmit
  by_cases hstale : stale s.nowSeconds job.request.timestampUnixSeconds
  · simp [handlerStep, isReplay, hstale]
  by_cases hseen : (s.challengeCache job.key).isSome
  · simp [handlerStep, isReplay, hstale, hseen]
  by_cases hverifies : job.verifies P
  · simp [handlerStep, isReplay, hstale, hseen, hverifies, PhoneMemory.putChallenge]
  · simp [handlerStep, isReplay, hstale, hseen, hverifies, PhoneMemory.putChallenge]

/-- The claim on swept locks, and what follows it. -/
theorem feed_swept (s : PhoneMemory) (job : Job) (now : Int64)
    (hvalid : ∀ lock, s.challengeLocks job.key = some lock → lock.expired now = false) :
    (requestHandlers P).solo.feed (s, .swept job now) [.go, .go, .go, .go, .go, .go, .go, .go] =
      match s.challengeLocks job.key with
      | none =>
        let s := s.setLock job.key (some ⟨job.incoming.transport, now⟩)
        ((checkAndSubmit P s job).1, .finished (checkAndSubmit P s job).2)
      | some existing =>
        if existing.transport = job.incoming.transport then
          ((checkAndSubmit P s job).1, .finished (checkAndSubmit P s job).2)
        else (s, .finished .claimedByOther) := by
  rw [Machine.feed_cons, requestHandlers_next]
  simp only [handlerStep, putIfAbsent, Option.getD_some]
  split
  · exact feed_claimed _ _
  · rename_i existing hlock
    rw [hvalid existing hlock, if_neg Bool.false_ne_true]
    unfold afterExisting
    split_ifs
    · exact feed_claimed _ _
    · exact feed_request_finished _ _ _

/-- **A handler that nobody interrupts is `handleAuthRequest`.** -/
theorem feed_handleAuthRequest (s : PhoneMemory) (incoming : Incoming) (accepted : Bool)
    (hnodup : keys.Nodup)
    (hkeys : ∀ key, key ∈ keys ↔
      ∃ lock, s.challengeLocks key = some lock ∧ lock.expired s.elapsedRealtime) :
    (requestHandlers P).solo.feed (s, .arrived incoming) (handlerEvents accepted keys) =
      ((handleAuthRequest P s incoming accepted).1,
        .finished (handleAuthRequest P s incoming accepted).2) := by
  have hclean := cleanupExpiredLocks_eq hkeys
  unfold handlerEvents
  rw [Machine.feed_append, Machine.feed_append]
  unfold handleAuthRequest claimThen
  cases hprecheck : precheck P incoming accepted with
  | error e => simp [handlerStep, hprecheck]
  | ok job =>
    have hincoming := incoming_of_job? (job?_of_precheck hprecheck)
    have hstart : (requestHandlers P).solo.feed (s, .arrived incoming) [.precheck accepted, .go] =
        (s, .sweeping job s.elapsedRealtime) := by
      simp [handlerStep, hprecheck]
    rw [hstart, feed_sweeping s job _ hnodup fun key hkey ↦ (hkeys key).mp hkey, hclean]
    have hvalid : ∀ lock, cleanupExpiredLocks s.elapsedRealtime s.challengeLocks job.key =
        some lock → lock.expired s.elapsedRealtime = false := by
      intro lock hlock
      simpa using (Option.filter_eq_some_iff.mp hlock).2
    rw [Machine.feed_cons, requestHandlers_next]
    simp only [handlerStep, Option.getD_some, tryClaimTransport, ← hincoming]
    rw [feed_swept _ _ _ hvalid]
    cases hlock : cleanupExpiredLocks s.elapsedRealtime s.challengeLocks job.key with
    | none => simp [PhoneMemory.setLock, hlock]
    | some existing =>
      by_cases htransport : existing.transport = job.incoming.transport
      · simp [hlock, hvalid existing hlock, htransport]
      · simp [hlock, hvalid existing hlock, htransport]

end

end TapAuth.Phone
