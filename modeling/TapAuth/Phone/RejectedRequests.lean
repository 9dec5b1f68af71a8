import TapAuth.Phone.RequestGate

/-!
# What a rejected request leaves behind

The limiter, the transport lock, the BLE connection of the challenge and the replay cache
are all written before the signature is checked.  `untouched_iff` says exactly when a
request that is rejected has left nothing in them: the limiter knows it already, and the
challenge is one that another request holds and has entered.

Locks that have expired are removed by whoever claims a challenge next; `Untouched`
compares the locks that count from now on.  States that agree in this answer every later
request alike (`Untouched.feed`).
-/

namespace TapAuth.Phone

open Shared Function

/-! ## Locks -/

variable {lock : TransportLock} {locks : HexMap TransportLock} {key : String} {now : Int64}

theorem TransportLock.expired_mono {now later : Int64} (hnonneg : 0 ≤ lock.timestamp)
    (hpast : lock.timestamp ≤ now) (hle : now ≤ later) (h : lock.expired now) :
    lock.expired later := by
  simp only [expired, decide_eq_true_eq, gt_iff_lt, Int64.lt_iff_toInt_lt] at h ⊢
  rw [Int64.toInt_sub_of_le _ _ hnonneg hpast] at h
  rw [Int64.toInt_sub_of_le _ _ hnonneg (Int64.le_trans hpast hle)]
  rw [Int64.le_iff_toInt_le] at hle
  omega

theorem cleanupExpiredLocks_cleanupExpiredLocks {now later : Int64}
    (hpast : ∀ key lock, locks key = some lock → 0 ≤ lock.timestamp ∧ lock.timestamp ≤ now)
    (hle : now ≤ later) :
    cleanupExpiredLocks later (cleanupExpiredLocks now locks) =
      cleanupExpiredLocks later locks := by
  funext key
  unfold cleanupExpiredLocks
  cases hlock : locks key with
  | none => rfl
  | some lock =>
    obtain ⟨hnonneg, hbefore⟩ := hpast key lock hlock
    have hmono := TransportLock.expired_mono hnonneg hbefore hle
    by_cases hexpired : lock.expired now
    · simp [Option.filter_some, hexpired, hmono hexpired]
    · simp [Option.filter_some, hexpired]

theorem cleanupExpiredLocks_release (now : Int64) (key : String) (locks : HexMap TransportLock) :
    cleanupExpiredLocks now (update locks key none) =
      update (cleanupExpiredLocks now locks) key none := by
  funext other
  by_cases h : other = key
  · subst h
    simp [cleanupExpiredLocks]
  · simp [cleanupExpiredLocks, update_of_ne h]

theorem cleanupExpiredLocks_eq_some_iff :
    cleanupExpiredLocks now locks key = some lock ↔
      locks key = some lock ∧ lock.expired now = false := by
  simp [cleanupExpiredLocks, Option.filter_eq_some_iff]

theorem tryClaimTransport_of_none (transport : TransportType)
    (h : cleanupExpiredLocks now locks key = none) :
    tryClaimTransport now transport key locks =
      (true, update (cleanupExpiredLocks now locks) key (some ⟨transport, now⟩)) := by
  simp only [tryClaimTransport, h]

theorem tryClaimTransport_of_some (transport : TransportType)
    (h : cleanupExpiredLocks now locks key = some lock) :
    tryClaimTransport now transport key locks =
      (decide (lock.transport = transport), cleanupExpiredLocks now locks) := by
  have hlive := (cleanupExpiredLocks_eq_some_iff.mp h).2
  simp [tryClaimTransport, h, hlive]

/-- A lock that has just been taken has not expired. -/
theorem expired_self (transport : TransportType) (now : Int64) :
    TransportLock.expired ⟨transport, now⟩ now = false := by
  simp only [TransportLock.expired, Int64.sub_self]
  rfl

/-- No lock is from the future. -/
def RequestGate.LocksInPast (s : RequestGate) : Prop :=
  0 ≤ s.now ∧ ∀ key lock, s.memory.challengeLocks key = some lock →
    0 ≤ lock.timestamp ∧ lock.timestamp ≤ s.now

section

variable {P : Primitives}

/-- What a claim leaves: the locks that have not expired, and its own. -/
theorem tryClaimTransport_eq_some {now : Int64} {transport : TransportType} {key other : String}
    {locks : HexMap TransportLock} {lock : TransportLock}
    (h : (tryClaimTransport now transport key locks).2 other = some lock) :
    lock = ⟨transport, now⟩ ∨ locks other = some lock := by
  cases hlive : cleanupExpiredLocks now locks key with
  | none =>
    simp only [tryClaimTransport_of_none transport hlive] at h
    by_cases hkey : other = key
    · rw [hkey, update_self] at h
      exact .inl (Option.some.inj h).symm
    · rw [update_of_ne hkey] at h
      exact .inr (cleanupExpiredLocks_eq_some_iff.mp h).1
  | some existing =>
    simp only [tryClaimTransport_of_some transport hlive] at h
    exact .inr (cleanupExpiredLocks_eq_some_iff.mp h).1

theorem challengeLocks_checkSerializeAndSubmit (s : PhoneMemory) (job : Job) (serialized : Bool) :
    (checkSerializeAndSubmit P serialized s job).1.challengeLocks = s.challengeLocks := by
  obtain ⟨cache, -, h | h⟩ := checkSerializeAndSubmit_cases s job serialized (P := P)
  · rw [h]
  · rw [h]
    rfl

variable {incoming : Incoming} {accepted : Bool} {job : Job} {s : RequestGate}

theorem challengeLocks_handleRequest {s : PhoneMemory} (serialized : Bool)
    (h : precheck P incoming accepted = .ok job) :
    (handleRequest P s incoming accepted serialized).1.challengeLocks =
      (tryClaimTransport s.elapsedRealtime incoming.transport job.key s.challengeLocks).2 := by
  simp only [handleRequest, claimThen, h]
  split
  · exact challengeLocks_checkSerializeAndSubmit _ job serialized
  · rfl

theorem handleRequest_of_error {s : PhoneMemory} (serialized : Bool) {e : HandlerEnd}
    (h : precheck P incoming accepted = .error e) :
    handleRequest P s incoming accepted serialized = (s, .ended e) := by
  simp only [handleRequest, claimThen, h]

theorem RequestGate.LocksInPast.next {s t : RequestGate} {event : GateEvent}
    (hs : s.LocksInPast) (h : (gate P).next s event = some t) : t.LocksInPast := by
  obtain ⟨hnow, hpast⟩ := hs
  cases event with
  | receive incoming gatt serialized =>
    cases h
    refine ⟨by rw [now_receive]; exact hnow, fun key lock hlock ↦ ?_⟩
    rw [now_receive]
    cases hprecheck : precheck P incoming (s.limit P incoming).1 with
    | error e =>
      rw [RequestGate.receive, handleRequest_of_error serialized hprecheck] at hlock
      exact hpast key lock hlock
    | ok job =>
      rw [RequestGate.receive, challengeLocks_handleRequest serialized hprecheck] at hlock
      obtain rfl | hbefore := tryClaimTransport_eq_some hlock
      · exact ⟨hnow, Int64.le_refl _⟩
      · exact hpast key lock hbefore
  | clocks currentTimeMillis elapsedRealtime =>
    obtain ⟨hle, ht⟩ := Option.ite_none_right_eq_some.mp h
    cases ht
    refine ⟨Int64.le_trans hnow hle, fun key lock hlock ↦ ?_⟩
    obtain ⟨hnonneg, hbefore⟩ := hpast key lock hlock
    exact ⟨hnonneg, Int64.le_trans hbefore hle⟩
  | cleanup =>
    cases h
    exact ⟨hnow, hpast⟩
  | resetClient clientPublicKey =>
    cases h
    exact ⟨hnow, hpast⟩
  | releaseLock released =>
    cases h
    refine ⟨hnow, fun key lock hlock ↦ hpast key lock ?_⟩
    by_cases hkey : key = released
    · simp [PhoneMemory.setLock, hkey] at hlock
    · simpa [PhoneMemory.setLock, update_of_ne hkey] using hlock
  | disconnected gatt =>
    cases h
    exact ⟨hnow, hpast⟩

/-! ## States that answer alike -/

/-- What later requests can meet is the same. -/
structure RequestGate.Untouched (s t : RequestGate) : Prop where
  seconds : t.memory.nowSeconds = s.memory.nowSeconds
  now : t.now = s.now
  locks : ∀ later, s.now ≤ later →
    cleanupExpiredLocks later t.memory.challengeLocks =
      cleanupExpiredLocks later s.memory.challengeLocks
  cache : t.memory.challengeCache = s.memory.challengeCache
  limiter : t.limiter = s.limiter
  connections : t.connections = s.connections

/-- The check of a claimed challenge reads the clock and the cache. -/
theorem checkSerializeAndSubmit_congr {s t : PhoneMemory}
    (hseconds : t.nowSeconds = s.nowSeconds) (hcache : t.challengeCache = s.challengeCache)
    (job : Job) (serialized : Bool) :
    (checkSerializeAndSubmit P serialized t job).2 =
        (checkSerializeAndSubmit P serialized s job).2 ∧
      (checkSerializeAndSubmit P serialized t job).1.challengeCache =
        (checkSerializeAndSubmit P serialized s job).1.challengeCache := by
  simp only [checkSerializeAndSubmit, replayThen, verifyAndSubmit, hseconds, hcache]
  split
  · exact ⟨rfl, rfl⟩
  · split
    · exact ⟨rfl, rfl⟩
    · split <;> exact ⟨rfl, rfl⟩

namespace RequestGate.Untouched

variable {s t : RequestGate}

theorem limit (h : s.Untouched t) (incoming : Incoming) :
    t.limit P incoming = s.limit P incoming := by
  simp only [RequestGate.limit, h.limiter, h.now]

theorem tryClaimTransport (h : s.Untouched t) (transport : TransportType) (key : String) :
    Phone.tryClaimTransport t.now transport key t.memory.challengeLocks =
      Phone.tryClaimTransport s.now transport key s.memory.challengeLocks := by
  simp only [Phone.tryClaimTransport, h.now, h.locks s.now (Int64.le_refl _)]

theorem handleRequest (h : s.Untouched t) (incoming : Incoming) (accepted serialized : Bool) :
    (Phone.handleRequest P t.memory incoming accepted serialized).2 =
        (Phone.handleRequest P s.memory incoming accepted serialized).2 ∧
      (Phone.handleRequest P t.memory incoming accepted serialized).1.challengeCache =
        (Phone.handleRequest P s.memory incoming accepted serialized).1.challengeCache ∧
      ∀ later, s.now ≤ later →
        cleanupExpiredLocks later
            (Phone.handleRequest P t.memory incoming accepted serialized).1.challengeLocks =
          cleanupExpiredLocks later
            (Phone.handleRequest P s.memory incoming accepted serialized).1.challengeLocks := by
  cases hprecheck : precheck P incoming accepted with
  | error e =>
    simp only [handleRequest_of_error serialized hprecheck]
    exact ⟨trivial, h.cache, h.locks⟩
  | ok job =>
    have hclaim := h.tryClaimTransport incoming.transport job.key
    have hlocks := congrArg Prod.snd hclaim
    simp only [RequestGate.now] at hclaim hlocks
    rw [challengeLocks_handleRequest serialized hprecheck,
      challengeLocks_handleRequest serialized hprecheck, hlocks]
    simp only [Phone.handleRequest, claimThen, hprecheck, hclaim]
    split
    · obtain ⟨hend, hcache⟩ := checkSerializeAndSubmit_congr (P := P)
        (s := { s.memory with challengeLocks := (Phone.tryClaimTransport
          s.memory.elapsedRealtime incoming.transport job.key s.memory.challengeLocks).2 })
        (t := { t.memory with challengeLocks := (Phone.tryClaimTransport
          s.memory.elapsedRealtime incoming.transport job.key s.memory.challengeLocks).2 })
        h.seconds h.cache job serialized
      exact ⟨hend, hcache, fun _ _ ↦ trivial⟩
    · exact ⟨rfl, h.cache, fun _ _ ↦ trivial⟩

theorem receive (h : s.Untouched t) (incoming : Incoming) (gatt : Nat) (serialized : Bool) :
    (t.receive P incoming gatt serialized).2 = (s.receive P incoming gatt serialized).2 ∧
      (s.receive P incoming gatt serialized).1.Untouched
        (t.receive P incoming gatt serialized).1 := by
  obtain ⟨hend, hcache, hlocks⟩ :=
    h.handleRequest incoming (s.limit P incoming).1 serialized (P := P)
  have hs := clocks_handleRequest s.memory incoming (s.limit P incoming).1 serialized (P := P)
  have ht := clocks_handleRequest t.memory incoming (s.limit P incoming).1 serialized (P := P)
  unfold RequestGate.receive
  simp only [h.limit, h.connections, hend]
  refine ⟨trivial, ?_, ?_, ?_, hcache, rfl, rfl⟩
  · exact ht.2.trans (h.seconds.trans hs.2.symm)
  · exact ht.1.trans (h.now.trans hs.1.symm)
  · intro later hlater
    refine hlocks later ?_
    rw [RequestGate.now, ← hs.1]
    exact hlater

theorem next (h : s.Untouched t) (event : GateEvent) :
    Option.Rel RequestGate.Untouched ((gate P).next s event) ((gate P).next t event) := by
  cases event with
  | receive incoming gatt serialized => exact .some (h.receive incoming gatt serialized).2
  | clocks currentTimeMillis elapsedRealtime =>
    simp only [gate, gateNext, h.now]
    split
    next hle =>
      refine .some ⟨rfl, rfl, fun later hlater ↦ ?_, h.cache, h.limiter, h.connections⟩
      exact h.locks later (Int64.le_trans hle hlater)
    · exact .none
  | cleanup =>
    refine .some ⟨h.seconds, h.now, h.locks, h.cache, ?_, h.connections⟩
    simp only [h.limiter, h.now]
  | resetClient clientPublicKey =>
    refine .some ⟨h.seconds, h.now, h.locks, h.cache, ?_, h.connections⟩
    simp only [h.limiter]
  | releaseLock key =>
    refine .some ⟨h.seconds, h.now, fun later hlater ↦ ?_, h.cache, h.limiter, h.connections⟩
    simp only [PhoneMemory.setLock, cleanupExpiredLocks_release, h.locks later hlater]
  | disconnected gatt =>
    refine .some ⟨h.seconds, h.now, h.locks, h.cache, h.limiter, ?_⟩
    simp only [h.connections]

/-- Whatever happens later, a request is answered alike. -/
theorem feed (h : s.Untouched t) (events : List GateEvent) :
    ((gate P).feed s events).Untouched ((gate P).feed t events) :=
  (gate P).feed_rel (gate P) (fun _ _ event h (_ : True) ↦ h.next event) h fun _ _ ↦ trivial

end RequestGate.Untouched

/-! ## When a rejected request leaves nothing -/

/-- What the limiter knows a packet by. -/
def Incoming.dedupKey (P : Primitives) (incoming : Incoming) : DedupKey :=
  (incoming.client, incoming.requestId P)

/-- A request holds the challenge's lock already.  It does so on the other transport; or the
connection of the challenge is this one, and the replay check has nothing to enter. -/
def RequestGate.Barred (s : RequestGate) (job : Job) (gatt : Nat) : Prop :=
  ∃ lock, s.memory.challengeLocks job.key = some lock ∧ lock.expired s.now = false ∧
    (lock.transport ≠ job.incoming.transport ∨
      (job.incoming.transport = .ble → s.connections job.key = some gatt) ∧
        (stale s.memory.nowSeconds job.request.timestampUnixSeconds ∨
          (s.memory.challengeCache job.key).isSome))

/-- Nothing of the request would be new. -/
structure RequestGate.Forgettable (P : Primitives) (s : RequestGate) (incoming : Incoming)
    (gatt : Nat) : Prop where
  /-- Over UDP, the limiter remembers it. -/
  recalled : incoming.transport = .udp → s.limiter.Recalls s.now (incoming.dedupKey P)
  /-- If it passes the limiter, and its user is allowed, its challenge is taken. -/
  barred : ∀ job, incoming.job? P = some job →
    job.incoming.device.isUserAllowed job.request.username →
    (incoming.transport = .udp → ∀ entry,
      s.limiter.recentRequests (incoming.dedupKey P) = some entry → entry.accepted) →
    s.Barred job gatt

theorem precheck_eq_ok_iff :
    precheck P incoming accepted = .ok job ↔
      (incoming.transport = .udp → accepted) ∧ incoming.job? P = some job ∧
        job.incoming.device.isUserAllowed job.request.username := by
  unfold precheck
  split
  next hlimited =>
    have hno : accepted = false := by simpa using hlimited.2
    simp [hlimited.1, hno]
  next hpassed =>
    have hudp : incoming.transport = .udp → accepted = true := by
      intro h
      by_contra hno
      exact hpassed ⟨h, by simpa using hno⟩
    cases hjob : incoming.job? P with
    | none => simp
    | some other =>
      simp only [Option.some.injEq]
      split
      · next hallowed =>
          refine ⟨fun h ↦ ?_, fun h ↦ congrArg _ h.2.1⟩
          cases h
          exact ⟨hudp, rfl, hallowed⟩
      · next hdenied =>
          refine ⟨fun h ↦ (nomatch h), fun h ↦ ?_⟩
          rw [← h.2.1] at h
          exact absurd h.2.2 hdenied

theorem limit_eq_iff :
    (s.limit P incoming).2 = s.limiter ↔
      (incoming.transport = .udp → s.limiter.Recalls s.now (incoming.dedupKey P)) := by
  cases htransport : incoming.transport with
  | ble => simp [RequestGate.limit, htransport]
  | udp =>
    simp only [RequestGate.limit, htransport, forall_const]
    exact s.limiter.shouldAcceptRequest_eq_self_iff s.now incoming.client _

/-- The replay check enters a challenge, or says that it cannot. -/
theorem isReplay_cases (nowSeconds : Int64) (key : String) (timestamp : Int64)
    (cache : HexMap Int64) :
    ((stale nowSeconds timestamp ∨ (cache key).isSome) ∧
      isReplay nowSeconds key timestamp cache = (true, cache)) ∨
    (stale nowSeconds timestamp = false ∧ cache key = none ∧
      (isReplay nowSeconds key timestamp cache).1 = false ∧
      ((isReplay nowSeconds key timestamp cache).2 key).isSome) := by
  unfold isReplay
  split
  next hstale => exact .inl ⟨.inl hstale, rfl⟩
  next hfresh =>
    split
    · next hseen => exact .inl ⟨.inr hseen, rfl⟩
    · next hunseen => exact .inr ⟨by simpa using hfresh, by simpa using hunseen, rfl, by simp⟩

theorem trackConnection_of_precheck {e : HandlerEnd} (h : precheck P incoming accepted = .error e)
    (connections : HexMap Nat) (gatt : Nat) :
    trackConnection P connections incoming gatt (.ended e) = connections := by
  unfold precheck at h
  split at h
  · cases h
    rfl
  · split at h
    · cases h
      rfl
    · split at h
      · cases h
      · cases h
        rfl

theorem enterConnection_of_udp (h : incoming.transport = .udp) (connections : HexMap Nat)
    (gatt : Nat) :
    enterConnection P connections incoming gatt = connections := by
  simp only [enterConnection, h]

theorem enterConnection_of_ble (h : incoming.transport = .ble) (hjob : incoming.job? P = some job)
    (connections : HexMap Nat) (gatt : Nat) :
    enterConnection P connections incoming gatt =
      update connections job.key (some gatt) := by
  simp only [enterConnection, h, hjob]

/-- A challenge that is claimed has its connection entered, however the request ends. -/
theorem trackConnection_check (s : PhoneMemory) (job : Job) (serialized : Bool)
    (connections : HexMap Nat) (incoming : Incoming) (gatt : Nat) :
    trackConnection P connections incoming gatt (checkSerializeAndSubmit P serialized s job).2 =
      enterConnection P connections incoming gatt := by
  simp only [checkSerializeAndSubmit, replayThen, verifyAndSubmit]
  split
  · rfl
  · split
    · rfl
    · split <;> rfl

theorem enterConnection_eq_iff (hjob : incoming.job? P = some job) (connections : HexMap Nat)
    (gatt : Nat) :
    enterConnection P connections incoming gatt = connections ↔
      (incoming.transport = .ble → connections job.key = some gatt) := by
  cases htransport : incoming.transport with
  | udp => simp [enterConnection_of_udp htransport]
  | ble =>
    rw [enterConnection_of_ble htransport hjob]
    constructor
    · intro hsame _
      rw [← hsame, update_self]
    · intro hgatt
      rw [← hgatt rfl, update_eq_self]

/-- The cache is as before only if the check had nothing to enter. -/
theorem challengeCache_check_iff (s : PhoneMemory) (job : Job) (serialized : Bool) :
    (checkSerializeAndSubmit P serialized s job).1.challengeCache = s.challengeCache ↔
      (stale s.nowSeconds job.request.timestampUnixSeconds ∨
        (s.challengeCache job.key).isSome) := by
  have hcache : (checkSerializeAndSubmit P serialized s job).1.challengeCache =
      (isReplay s.nowSeconds job.key job.request.timestampUnixSeconds s.challengeCache).2 := by
    obtain ⟨cache, hcache, h | h⟩ := checkSerializeAndSubmit_cases s job serialized (P := P)
    · rw [h, hcache]
    · rw [h, ← hcache]
      rfl
  rw [hcache]
  obtain ⟨hreplay, heq⟩ | ⟨hfresh, hnone, -, hentered⟩ :=
    isReplay_cases s.nowSeconds job.key job.request.timestampUnixSeconds s.challengeCache
  · simp only [heq, hreplay]
  · simp only [hnone, hfresh, Option.isSome_none, Bool.false_eq_true, or_self, iff_false]
    intro hsame
    rw [hsame, hnone] at hentered
    cases hentered

/-- A new lock is seen, now at least. -/
theorem cleanupExpiredLocks_update_ne {now : Int64} {key : String} {locks : HexMap TransportLock}
    (hlive : cleanupExpiredLocks now locks key = none) (transport : TransportType)
    (others : HexMap TransportLock) :
    cleanupExpiredLocks now (update others key (some ⟨transport, now⟩)) ≠
      cleanupExpiredLocks now locks := by
  intro hsame
  have hkey := congrFun hsame key
  rw [hlive] at hkey
  simp [cleanupExpiredLocks, expired_self] at hkey

theorem RequestGate.barred_iff {gatt : Nat} :
    s.Barred job gatt ↔ ∃ lock,
      cleanupExpiredLocks s.now s.memory.challengeLocks job.key = some lock ∧
      (lock.transport ≠ job.incoming.transport ∨
        (job.incoming.transport = .ble → s.connections job.key = some gatt) ∧
          (stale s.memory.nowSeconds job.request.timestampUnixSeconds ∨
            (s.memory.challengeCache job.key).isSome)) := by
  simp only [RequestGate.Barred, cleanupExpiredLocks_eq_some_iff, and_assoc]

/-- What a claimed or refused challenge leaves in the memory and in the connections. -/
theorem untouched_handleRequest_iff (hs : s.LocksInPast)
    (hprecheck : precheck P incoming accepted = .ok job) (gatt : Nat) (serialized : Bool) :
    ((∀ later, s.now ≤ later →
        cleanupExpiredLocks later
            (handleRequest P s.memory incoming accepted serialized).1.challengeLocks =
          cleanupExpiredLocks later s.memory.challengeLocks) ∧
      (handleRequest P s.memory incoming accepted serialized).1.challengeCache =
        s.memory.challengeCache ∧
      trackConnection P s.connections incoming gatt
        (handleRequest P s.memory incoming accepted serialized).2 = s.connections) ↔
      s.Barred job gatt := by
  have hjob := job?_of_precheck hprecheck
  have hincoming := incoming_of_job? hjob
  rw [challengeLocks_handleRequest serialized hprecheck, RequestGate.barred_iff, hincoming]
  simp only [handleRequest, claimThen, hprecheck]
  cases hlive : cleanupExpiredLocks s.now s.memory.challengeLocks job.key with
  | none =>
    -- the challenge is claimed: its lock is new
    have hclaim : tryClaimTransport s.memory.elapsedRealtime incoming.transport job.key
        s.memory.challengeLocks = _ := tryClaimTransport_of_none incoming.transport hlive
    rw [hclaim]
    refine iff_of_false (fun ⟨hlocks, _⟩ ↦ ?_) nofun
    exact cleanupExpiredLocks_update_ne hlive _ _ (hlocks s.now (Int64.le_refl _))
  | some lock =>
    have hlocks : ∀ later, s.now ≤ later →
        cleanupExpiredLocks later (cleanupExpiredLocks s.now s.memory.challengeLocks) =
          cleanupExpiredLocks later s.memory.challengeLocks :=
      fun later hlater ↦ cleanupExpiredLocks_cleanupExpiredLocks hs.2 hlater
    have hclaim : tryClaimTransport s.memory.elapsedRealtime incoming.transport job.key
        s.memory.challengeLocks = _ := tryClaimTransport_of_some incoming.transport hlive
    rw [hclaim]
    simp only [Option.some.injEq, exists_eq_left']
    by_cases htransport : lock.transport = incoming.transport
    · have hcache := challengeCache_check_iff
        { s.memory with challengeLocks := cleanupExpiredLocks s.now s.memory.challengeLocks }
        job serialized (P := P)
      simp only [htransport, decide_true, if_true, trackConnection_check,
        enterConnection_eq_iff hjob, ne_eq, not_true, false_or]
      refine ⟨fun ⟨_, hsame, hgatt⟩ ↦ ⟨hgatt, hcache.mp hsame⟩, fun ⟨hgatt, hreplay⟩ ↦ ?_⟩
      exact ⟨hlocks, hcache.mpr hreplay, hgatt⟩
    · simp only [htransport, decide_false, Bool.false_eq_true, if_false, ne_eq,
        not_false_eq_true, true_or, iff_true]
      exact ⟨hlocks, trivial, rfl⟩

theorem limit_of_recent {entry : DeduplicationEntry} (hudp : incoming.transport = .udp)
    (hrecent : s.limiter.recentRequests (incoming.dedupKey P) = some entry)
    (hlive : s.now - entry.timestamp < dedupWindowMs) :
    s.limit P incoming = (entry.accepted, s.limiter) := by
  simp only [RequestGate.limit, hudp]
  exact RequestRateLimiter.shouldAcceptRequest_of_recent hrecent hlive

theorem forgettable_iff {gatt : Nat} :
    s.Forgettable P incoming gatt ↔ (s.limit P incoming).2 = s.limiter ∧
      ∀ job, precheck P incoming (s.limit P incoming).1 = .ok job → s.Barred job gatt := by
  simp only [limit_eq_iff, precheck_eq_ok_iff]
  constructor
  · rintro ⟨hrecalled, hbarred⟩
    refine ⟨hrecalled, fun job ⟨haccepted, hjob, hallowed⟩ ↦ hbarred job hjob hallowed ?_⟩
    intro hudp entry hentry
    obtain ⟨other, hother, hlive⟩ := hrecalled hudp
    cases hentry.symm.trans hother
    have hpassed := haccepted hudp
    rwa [limit_of_recent hudp hother hlive] at hpassed
  · rintro ⟨hrecalled, hbarred⟩
    refine ⟨hrecalled, fun job hjob hallowed haccepted ↦ ?_⟩
    refine hbarred job ⟨fun hudp ↦ ?_, hjob, hallowed⟩
    obtain ⟨entry, hentry, hlive⟩ := hrecalled hudp
    rw [limit_of_recent hudp hentry hlive]
    exact haccepted hudp entry hentry

theorem untouched_iff (hs : s.LocksInPast) (incoming : Incoming) (gatt : Nat) (serialized : Bool) :
    s.Untouched (s.receive P incoming gatt serialized).1 ↔ s.Forgettable P incoming gatt := by
  obtain ⟨hnow, hseconds⟩ :=
    clocks_handleRequest s.memory incoming (s.limit P incoming).1 serialized (P := P)
  rw [forgettable_iff]
  cases hprecheck : precheck P incoming (s.limit P incoming).1 with
  | error e =>
    have hhandled := handleRequest_of_error (s := s.memory) serialized hprecheck
    constructor
    · exact fun h ↦ ⟨h.limiter, fun _ hok ↦ (nomatch hok)⟩
    · rintro ⟨hlimiter, -⟩
      refine ⟨hseconds, hnow, ?_, ?_, hlimiter, ?_⟩
      · simp only [RequestGate.receive, hhandled, implies_true]
      · simp only [RequestGate.receive, hhandled]
      · simp only [RequestGate.receive, hhandled, trackConnection_of_precheck hprecheck]
  | ok job =>
    have hbarred := untouched_handleRequest_iff hs hprecheck gatt serialized
    constructor
    · intro h
      refine ⟨h.limiter, fun other hother ↦ ?_⟩
      cases hother
      exact hbarred.mp ⟨h.locks, h.cache, h.connections⟩
    · rintro ⟨hlimiter, hall⟩
      obtain ⟨hlocks, hcache, hconnections⟩ := hbarred.mpr (hall job rfl)
      exact ⟨hseconds, hnow, hlocks, hcache, hlimiter, hconnections⟩

/-- In every run from a start without locks: a request leaves nothing behind iff nothing of it
was new, and then whatever comes later is treated as if it had not come. -/
theorem untouched_iff_forgettable {start s : RequestGate} {events : List GateEvent}
    (hstart : ∀ key, start.memory.challengeLocks key = none) (hboot : 0 ≤ start.now)
    (hrun : (gate P).exec start events = some s) (incoming : Incoming) (gatt : Nat)
    (serialized : Bool) :
    (s.Untouched (s.receive P incoming gatt serialized).1 ↔ s.Forgettable P incoming gatt) ∧
      (s.Forgettable P incoming gatt → ∀ later other otherGatt otherSerialized,
        (((gate P).feed (s.receive P incoming gatt serialized).1 later).receive P other otherGatt
            otherSerialized).2 =
          (((gate P).feed s later).receive P other otherGatt otherSerialized).2) := by
  have hpast : s.LocksInPast := by
    refine (gate P).invariant (fun _ _ _ hs hnext ↦ hs.next hnext) ⟨hboot, fun key lock h ↦ ?_⟩ hrun
    rw [hstart key] at h
    cases h
  have hiff := untouched_iff hpast incoming gatt serialized (P := P)
  refine ⟨hiff, fun hforgettable later other otherGatt otherSerialized ↦ ?_⟩
  exact (((hiff.mpr hforgettable).feed later).receive other otherGatt otherSerialized).1

end

instance RequestGate.Barred.decidable (s : RequestGate) (job : Job) (gatt : Nat) :
    Decidable (s.Barred job gatt) :=
  decidable_of_iff (∃ lock ∈ s.memory.challengeLocks job.key, lock.expired s.now = false ∧
    (lock.transport ≠ job.incoming.transport ∨
      (job.incoming.transport = .ble → s.connections job.key = some gatt) ∧
        (stale s.memory.nowSeconds job.request.timestampUnixSeconds ∨
          (s.memory.challengeCache job.key).isSome))) Iff.rfl

namespace GateSample

open RequestSample (primitives device)

/-- The request, signed by somebody else who has the key of the pairing. -/
def forged : Incoming where
  transport := .udp
  device
  wrapperMessage := primitives.wrapperFormat.encode
    (signWrapperMessage primitives
      (wrapAuthRequest ⟨List.replicate 32 1, "alice", "desktop", 1000⟩) ⟨FixedBytes.fill 32 8⟩)

def afterForged : RequestGate := (start.receive primitives forged 0 true).1

def afterGenuine : RequestGate := (start.receive primitives (packet .udp 1) 0 true).1

end GateSample

open GateSample

open RequestSample

/-- A request with a bad signature takes the lock and enters the challenge: the genuine one is
then a replay over UDP, and not taken over BLE. -/
theorem genuine_refused_after_forged :
    (start.receive primitives forged 0 true).2 =
        .ended .invalidSignature ∧
      (start.receive primitives (packet .udp 1) 0 true).2 =
        .ended .submitted ∧
      (afterForged.receive primitives (packet .udp 1) 0
        true).2 = .ended .replay ∧
      (afterForged.receive primitives (packet .ble 1) 0
        true).2 = .ended .claimedByOther ∧
      ¬ start.Untouched afterForged := by
  have hbefore : (start.receive primitives (packet .udp 1) 0
      true).2 = .ended .submitted := by
    decide +kernel
  have hafter : (afterForged.receive primitives
      (packet .udp 1) 0 true).2 = .ended .replay := by
    decide +kernel
  refine ⟨by decide +kernel, hbefore, hafter, by decide +kernel, fun h ↦ ?_⟩
  have hsame := (h.receive (packet .udp 1) 0 true (P := primitives)).1
  rw [hbefore, hafter] at hsame
  cases hsame

/-- A second copy over UDP is a replay that leaves nothing behind. -/
theorem untouched_iff_forgettable_sample :
    (afterGenuine.receive primitives (packet .udp 1) 0
        true).2 = .ended .replay ∧
      afterGenuine.Untouched
        (afterGenuine.receive primitives (packet .udp 1) 0
          true).1 := by
  have hrun : (gate primitives).exec start
      [.receive (packet .udp 1) 0 true] = some afterGenuine := rfl
  have hforgettable : afterGenuine.Forgettable primitives
      (packet .udp 1) 0 := by
    refine ⟨fun _ ↦ ⟨⟨5000, true⟩, by decide +kernel, by decide +kernel⟩, ?_⟩
    have hbarred : ∀ job ∈ (packet .udp 1).job? primitives,
        afterGenuine.Barred job 0 := by
      decide +kernel
    exact fun job hjob _ _ ↦ hbarred job hjob
  have hend : (afterGenuine.receive primitives
      (packet .udp 1) 0 true).2 = .ended .replay := by
    decide +kernel
  exact ⟨hend, (untouched_iff_forgettable (fun _ ↦ rfl) (by decide) hrun _ 0 true).1.mpr
    hforgettable⟩

end TapAuth.Phone
