import Mathlib.Logic.Function.Basic
import TapAuth.Lib.Long

/-!
# The rate limiter

`RequestRateLimiter` and the `RequestDeduplicator` it asks first.  For every client the
limiter keeps when the last request came, how long the client has to wait, and how many
requests its present window has seen: a window begins with a request that is accepted,
and two more are accepted in its first two seconds.

How many requests can be accepted in a stretch of time is an amortised matter.
`allowance` is what is left of the present window and of those that can still begin
before the end of the stretch; a request that is accepted is paid from it
(`assess_allowance`), and time and the periodic clean-up do not add to it.
-/

namespace TapAuth.Phone

open Function

/-! ## Back-off -/

def burstMax : Nat := 3

def burstWindowMs : Int64 := 2000

def initialBackoffSeconds : Nat := 1

def maxBackoffSeconds : Nat := 5

def cleanupAgeMs : Int64 := 300000

structure BackoffState where
  lastRequestTime : Int64
  backoffSeconds : Nat
  requestCount : Nat
  burstWindowStart : Int64
  deriving DecidableEq

/-- A client whose window begins now. -/
def BackoffState.fresh (now : Int64) : BackoffState := ⟨now, initialBackoffSeconds, 1, now⟩

def BackoffState.backoffMs (s : BackoffState) : Int64 := Int64.ofNat (s.backoffSeconds * 1000)

/-- The body of `compute`: whether the request is accepted, and the client's new state. -/
def assess (now : Int64) : Option BackoffState → Bool × BackoffState
  | none => (true, .fresh now)
  | some existing =>
    if now - existing.burstWindowStart < burstWindowMs ∧ existing.requestCount < burstMax then
      (true, { existing with
        lastRequestTime := now, requestCount := existing.requestCount + 1 })
    else if now - existing.lastRequestTime < existing.backoffMs then
      (false, { existing with
        lastRequestTime := now
        backoffSeconds := min (existing.backoffSeconds * 2) maxBackoffSeconds
        requestCount := burstMax })
    else (true, .fresh now)

/-! ## The limiter -/

def dedupWindowMs : Int64 := 2000

structure DeduplicationEntry where
  timestamp : Int64
  accepted : Bool
  deriving DecidableEq

/-- The two maps of `RequestRateLimiter` and `RequestDeduplicator`, for any type of keys of
requests. -/
structure Limiter (κ : Type) where
  clientBackoffs : String → Option BackoffState
  recentRequests : κ → Option DeduplicationEntry

/-- What a request reads from the clock. -/
structure CallTimes where
  /-- In `checkDuplicate`. -/
  start : Int64
  /-- For the back-off. -/
  judge : Int64
  /-- In `record`. -/
  finish : Int64
  deriving DecidableEq

namespace Limiter

variable {κ : Type}

def empty : Limiter κ := ⟨fun _ ↦ none, fun _ ↦ none⟩

/-- The cached answer; an entry that is too old is removed. -/
def checkDuplicate [DecidableEq κ] (r : Limiter κ) (now : Int64) (requestIdentifier : κ) :
    Option Bool × Limiter κ :=
  match r.recentRequests requestIdentifier with
  | none => (none, r)
  | some existing =>
    if now - existing.timestamp < dedupWindowMs then (some existing.accepted, r)
    else (none, { r with
      recentRequests := update r.recentRequests requestIdentifier none })

/-- An accepted request stays accepted. -/
def record [DecidableEq κ] (r : Limiter κ) (now : Int64) (requestIdentifier : κ)
    (accepted : Bool) : Limiter κ :=
  let entry :=
    match r.recentRequests requestIdentifier with
    | some existing => if existing.accepted ∧ !accepted then existing else ⟨now, accepted⟩
    | none => ⟨now, accepted⟩
  { r with recentRequests := update r.recentRequests requestIdentifier (some entry) }

/-- `compute` on the client's back-off. -/
def evaluate (r : Limiter κ) (now : Int64) (clientPublicKey : String) : Bool × Limiter κ :=
  let (accepted, state) := assess now (r.clientBackoffs clientPublicKey)
  (accepted, { r with
    clientBackoffs := update r.clientBackoffs clientPublicKey (some state) })

/-- `shouldAcceptRequest` with the key the request has in the deduplicator, if it has one. -/
def shouldAccept [DecidableEq κ] (r : Limiter κ) (times : CallTimes) (clientPublicKey : String) :
    Option κ → Bool × Limiter κ
  | none => r.evaluate times.judge clientPublicKey
  | some key =>
    match r.checkDuplicate times.start key with
    | (some cached, r) => (cached, r)
    | (none, r) =>
      let (accepted, r) := r.evaluate times.judge clientPublicKey
      (accepted, r.record times.finish key accepted)

def resetClient (r : Limiter κ) (clientPublicKey : String) : Limiter κ :=
  { r with clientBackoffs := update r.clientBackoffs clientPublicKey none }

/-- The back-offs and the deduplicator's entries, each with its own reading of the clock. -/
def cleanup (r : Limiter κ) (now dedupNow : Int64) : Limiter κ where
  clientBackoffs key := (r.clientBackoffs key).filter fun state ↦
    !(now - state.lastRequestTime > cleanupAgeMs)
  recentRequests key := (r.recentRequests key).filter fun entry ↦
    !(dedupNow - entry.timestamp > dedupWindowMs)

section

variable [DecidableEq κ] {r : Limiter κ} {times : CallTimes} {client : String} {key : κ}

/-- A request that is remembered changes nothing. -/
theorem shouldAccept_of_recent {entry : DeduplicationEntry} (h : r.recentRequests key = some entry)
    (hlive : times.start - entry.timestamp < dedupWindowMs) :
    r.shouldAccept times client (some key) = (entry.accepted, r) := by
  simp [shouldAccept, checkDuplicate, h, hlive]

/-- Any other is judged by the client's state, and remembered. -/
theorem shouldAccept_of_not_recent
    (h : ∀ entry, r.recentRequests key = some entry →
      ¬ times.start - entry.timestamp < dedupWindowMs) :
    r.shouldAccept times client (some key) =
      ((assess times.judge (r.clientBackoffs client)).1,
        { clientBackoffs := update r.clientBackoffs client
            (some (assess times.judge (r.clientBackoffs client)).2)
          recentRequests := update r.recentRequests key
            (some ⟨times.finish, (assess times.judge (r.clientBackoffs client)).1⟩) }) := by
  cases hrecent : r.recentRequests key with
  | none => simp [shouldAccept, checkDuplicate, hrecent, evaluate, record]
  | some entry =>
    simp [shouldAccept, checkDuplicate, hrecent, h entry hrecent, evaluate, record]

end

end Limiter

/-- The key of a request: the client's key and the identifier of the request.  The source joins
them with a colon, which is no digit of a key. -/
abbrev DedupKey := String × String

abbrev RequestRateLimiter := Limiter DedupKey

/-- A request whose readings of the clock are one. -/
def RequestRateLimiter.shouldAcceptRequest (r : RequestRateLimiter) (now : Int64)
    (clientPublicKey : String) (requestIdentifier : Option String) : Bool × RequestRateLimiter :=
  r.shouldAccept ⟨now, now, now⟩ clientPublicKey (requestIdentifier.map (Prod.mk clientPublicKey))

/-! ## What a client can still be granted -/

/-- What holds of a client's state at an instant. -/
structure BackoffState.Valid (s : BackoffState) (now : Int64) : Prop where
  nonneg : 0 ≤ s.lastRequestTime
  le_now : s.lastRequestTime ≤ now
  count : s.requestCount ≤ burstMax
  backoff : 1 ≤ s.backoffSeconds ∧ s.backoffSeconds ≤ maxBackoffSeconds

variable {s : BackoffState} {now : Int64}

theorem BackoffState.Valid.mono {now later : Int64} (h : s.Valid now) (hle : now ≤ later) :
    s.Valid later :=
  ⟨h.nonneg, Int64.le_trans h.le_now hle, h.count, h.backoff⟩

open BackoffState

theorem BackoffState.valid_fresh (h : 0 ≤ now) :
    (fresh now).Valid now :=
  ⟨h, Int64.le_refl now, show 1 ≤ 3 by decide, show 1 ≤ 1 ∧ 1 ≤ 5 by decide⟩

theorem BackoffState.Valid.toInt_backoffMs (h : s.Valid now) :
    1000 ≤ s.backoffMs.toInt := by
  obtain ⟨hlow, hhigh⟩ := h.backoff
  have hle : s.backoffSeconds ≤ 5 := hhigh
  rw [backoffMs, Int64.toInt_ofNat_of_lt (by omega)]
  omega

/-- The requests that can still be accepted before the instant `b`: the rest of the client's
window, and three for each second in which another can begin. -/
def BackoffState.allowance (s : BackoffState) (b : Int) : Int :=
  (burstMax - s.requestCount : Int) + 3 * ((b - s.lastRequestTime.toInt) / 1000)

/-- A client about whom nothing is known may have a window in every second from now on. -/
def freshAllowance (now : Int64) (b : Int) : Int := 3 * ((b - now.toInt) / 1000 + 1)

theorem freshAllowance_anti {now later : Int64} (h : now ≤ later) (b : Int) :
    freshAllowance later b ≤ freshAllowance now b := by
  rw [Int64.le_iff_toInt_le] at h
  unfold freshAllowance
  omega

theorem assess_valid (hnow : 0 ≤ now) {state : Option BackoffState} (h : ∀ s ∈ state, s.Valid now) :
    (assess now state).2.Valid now := by
  cases state with
  | none => exact valid_fresh hnow
  | some s =>
    have hs := h s rfl
    simp only [assess]
    split
    next hburst => exact ⟨hnow, Int64.le_refl now, hburst.2, hs.backoff⟩
    · split
      · refine ⟨hnow, Int64.le_refl now, le_rfl, ?_, min_le_right _ _⟩
        have hlow := hs.backoff.1
        simp only [maxBackoffSeconds]
        omega
      · exact valid_fresh hnow

/-- What a request adds to the number of accepted ones. -/
def accepts (accepted : Bool) : Int := if accepted then 1 else 0

@[simp] theorem accepts_true : accepts true = 1 := rfl

@[simp] theorem accepts_false : accepts false = 0 := rfl

/-- A request is paid from what can begin from now on. -/
theorem assess_freshAllowance {state : Option BackoffState} (b : Int)
    (h : ∀ s ∈ state, s.Valid now) :
    accepts (assess now state).1 + (assess now state).2.allowance b ≤ freshAllowance now b := by
  cases state with
  | none =>
    simp only [assess, accepts_true, allowance, fresh, freshAllowance,
      burstMax]
    omega
  | some s =>
    simp only [assess]
    split
    · simp only [accepts_true, allowance, freshAllowance, burstMax]
      omega
    · split
      · simp only [accepts_false, allowance, freshAllowance, burstMax]
        omega
      · simp only [accepts_true, allowance, fresh, freshAllowance,
          burstMax]
        omega

/-- A request is paid from the client's allowance: a second window begins a second after the
last request of the first. -/
theorem assess_allowance (b : Int) (h : s.Valid now) :
    accepts (assess now (some s)).1 + (assess now (some s)).2.allowance b ≤ s.allowance b := by
  have hle := Int64.le_iff_toInt_le.mp h.le_now
  have hcount : s.requestCount ≤ 3 := h.count
  simp only [assess]
  split
  · simp only [accepts_true, allowance, burstMax]
    omega
  · split
    · simp only [accepts_false, allowance, burstMax]
      omega
    next hwaited =>
      rw [Int64.lt_iff_toInt_lt, Int64.toInt_sub_of_le _ _ h.nonneg h.le_now] at hwaited
      have hbackoff := h.toInt_backoffMs
      simp only [accepts_true, allowance, fresh, burstMax]
      omega

/-- A client who is forgotten has been silent for long. -/
theorem freshAllowance_le_allowance (b : Int) (h : s.Valid now)
    (hold : now - s.lastRequestTime > cleanupAgeMs) : freshAllowance now b ≤ s.allowance b := by
  have hcount : s.requestCount ≤ 3 := h.count
  rw [gt_iff_lt, Int64.lt_iff_toInt_lt, Int64.toInt_sub_of_le _ _ h.nonneg h.le_now] at hold
  have hage : cleanupAgeMs.toInt = 300000 := rfl
  simp only [freshAllowance, allowance, burstMax]
  omega

namespace Limiter

variable {κ : Type}

/-- What a client can be granted before the instant `b`. -/
def potential (r : Limiter κ) (now : Int64) (clientPublicKey : String) (b : Int) : Int :=
  match r.clientBackoffs clientPublicKey with
  | none => freshAllowance now b
  | some state => min (freshAllowance now b) (state.allowance b)

theorem potential_le_freshAllowance (r : Limiter κ) (now : Int64) (client : String)
    (b : Int) : r.potential now client b ≤ freshAllowance now b := by
  unfold potential
  split
  · exact le_rfl
  · exact min_le_left _ _

variable {client : String}

theorem potential_anti {r r' : Limiter κ} {now later : Int64}
    (hentry : r'.clientBackoffs client = r.clientBackoffs client) (h : now ≤ later) (b : Int) :
    r'.potential later client b ≤ r.potential now client b := by
  have hfresh := freshAllowance_anti h b
  unfold potential
  rw [hentry]
  split
  · exact hfresh
  · exact min_le_min hfresh le_rfl

theorem potential_assess {r r' : Limiter κ} {now : Int64} (b : Int)
    (hvalid : ∀ s ∈ r.clientBackoffs client, s.Valid now)
    (hentry : r'.clientBackoffs client = some (assess now (r.clientBackoffs client)).2) :
    accepts (assess now (r.clientBackoffs client)).1 + r'.potential now client b ≤
      r.potential now client b := by
  have hfresh := assess_freshAllowance b hvalid
  have hle : r'.potential now client b ≤
      (assess now (r.clientBackoffs client)).2.allowance b := by
    simp only [potential, hentry]
    exact min_le_right _ _
  cases hold : r.clientBackoffs client with
  | none =>
    rw [hold] at hfresh hle
    simp only [potential, hold] at hfresh hle ⊢
    omega
  | some s =>
    have hpaid := assess_allowance b (hvalid s hold)
    rw [hold] at hfresh hle
    have hmin : r.potential now client b = min (freshAllowance now b) (s.allowance b) := by
      simp only [potential, hold]
    rw [hmin, le_min_iff]
    constructor <;> omega

theorem potential_forgotten {r r' : Limiter κ} {now : Int64} {s : BackoffState} (b : Int)
    (hold : r.clientBackoffs client = some s) (hvalid : s.Valid now)
    (hage : now - s.lastRequestTime > cleanupAgeMs) (hentry : r'.clientBackoffs client = none) :
    r'.potential now client b ≤ r.potential now client b := by
  simp only [potential, hold, hentry]
  exact le_min le_rfl (freshAllowance_le_allowance b hvalid hage)

/-- Before its end, an interval has something left or nothing to pay. -/
theorem potential_nonneg {r : Limiter κ} {now : Int64} {b : Int}
    (hvalid : ∀ s ∈ r.clientBackoffs client, s.Valid now) (hb : now.toInt ≤ b) :
    0 ≤ r.potential now client b := by
  have hfresh : 0 ≤ freshAllowance now b := by
    unfold freshAllowance
    omega
  unfold potential
  split
  · exact hfresh
  next s hs =>
    have hcount : s.requestCount ≤ 3 := (hvalid s hs).count
    have hle := Int64.le_iff_toInt_le.mp (hvalid s hs).le_now
    refine le_min hfresh ?_
    simp only [allowance, burstMax]
    omega

end Limiter

/-! ## What a request does to the limiter -/

namespace RequestRateLimiter

/-- The limiter remembers the request. -/
def Recalls (r : RequestRateLimiter) (now : Int64) (key : DedupKey) : Prop :=
  ∃ entry, r.recentRequests key = some entry ∧ now - entry.timestamp < dedupWindowMs

/-- A request that is remembered changes nothing. -/
theorem shouldAcceptRequest_of_recent {r : RequestRateLimiter} {now : Int64} {client id : String}
    {entry : DeduplicationEntry} (h : r.recentRequests (client, id) = some entry)
    (hlive : now - entry.timestamp < dedupWindowMs) :
    r.shouldAcceptRequest now client (some id) = (entry.accepted, r) :=
  r.shouldAccept_of_recent h hlive

/-- Any other is judged by the client's state, and remembered. -/
theorem shouldAcceptRequest_of_not_recalls {r : RequestRateLimiter} {now : Int64}
    {client id : String} (h : ¬ r.Recalls now (client, id)) :
    r.shouldAcceptRequest now client (some id) =
      ((assess now (r.clientBackoffs client)).1,
        { clientBackoffs := update r.clientBackoffs client
            (some (assess now (r.clientBackoffs client)).2)
          recentRequests := update r.recentRequests (client, id)
            (some ⟨now, (assess now (r.clientBackoffs client)).1⟩) }) :=
  r.shouldAccept_of_not_recent fun entry hrecent hlive ↦ h ⟨entry, hrecent, hlive⟩

/-- A request is known, or it is judged by the client's state. -/
theorem shouldAcceptRequest_cases (r : RequestRateLimiter) (now : Int64) (client id : String) :
    ((r.recentRequests (client, id)).isSome ∧
      (r.shouldAcceptRequest now client (some id)).2.clientBackoffs = r.clientBackoffs) ∨
    ((r.shouldAcceptRequest now client (some id)).1 =
        (assess now (r.clientBackoffs client)).1 ∧
      (r.shouldAcceptRequest now client (some id)).2.clientBackoffs =
        update r.clientBackoffs client
          (some (assess now (r.clientBackoffs client)).2)) := by
  by_cases h : r.Recalls now (client, id)
  · obtain ⟨entry, hrecent, hlive⟩ := h
    rw [shouldAcceptRequest_of_recent hrecent hlive, hrecent]
    exact .inl ⟨rfl, rfl⟩
  · rw [shouldAcceptRequest_of_not_recalls h]
    exact .inr ⟨rfl, rfl⟩

/-- Only the request itself becomes known. -/
theorem recentRequests_shouldAcceptRequest (r : RequestRateLimiter) (now : Int64)
    {client id : String} {key : DedupKey} (hkey : key ≠ (client, id)) :
    (r.shouldAcceptRequest now client (some id)).2.recentRequests key = r.recentRequests key := by
  by_cases h : r.Recalls now (client, id)
  · obtain ⟨entry, hrecent, hlive⟩ := h
    rw [shouldAcceptRequest_of_recent hrecent hlive]
  · rw [shouldAcceptRequest_of_not_recalls h]
    exact update_of_ne hkey _ _

/-- The limiter is as before only if it remembers the request. -/
theorem shouldAcceptRequest_eq_self_iff (r : RequestRateLimiter) (now : Int64)
    (client id : String) :
    (r.shouldAcceptRequest now client (some id)).2 = r ↔ r.Recalls now (client, id) := by
  constructor
  · intro hsame
    by_contra h
    rw [shouldAcceptRequest_of_not_recalls h] at hsame
    have hnew := congrFun (congrArg Limiter.recentRequests hsame) (client, id)
    simp only [update_self] at hnew
    refine h ⟨_, hnew.symm, ?_⟩
    rw [Int64.sub_self]
    decide
  · rintro ⟨entry, hrecent, hlive⟩
    rw [shouldAcceptRequest_of_recent hrecent hlive]

end RequestRateLimiter

end TapAuth.Phone
