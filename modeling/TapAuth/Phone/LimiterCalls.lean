import TapAuth.Phone.RateLimiter

/-!
# Runs of the rate limiter

The two maps of `RequestRateLimiter` and `RequestDeduplicator` as the source keys them: by
the client's key, and by the client's key and the identifier of the request joined with a
colon.  Client keys are hexadecimal (`ClientKey`), so that the joined keys of two requests
are equal only if the requests are (`dedupKey_inj`); `LimiterMaps.Refines` relates the maps to
the limiter whose keys are pairs.

A request reads the clock three times: in `checkDuplicate`, for the back-off, and in
`record`.  `cleanup` reads it twice.  A run is a list of calls whose readings are in order
(`ClockFrom`).  What a call can do to a client's entries is said once for each map
(`clientBackoffs_step`, `recentRequests_step`).
-/

namespace TapAuth.Phone

open Function

/-! ## Keys -/

/-- A client's public key in hexadecimal. -/
structure ClientKey where
  text : String
  hex : ∀ c ∈ text.toList, c.isDigit ∨ ('a' ≤ c ∧ c ≤ 'f') ∨ ('A' ≤ c ∧ c ≤ 'F')
  deriving DecidableEq

theorem ClientKey.colon_notMem (client : ClientKey) : ':' ∉ client.text.toList := by
  intro h
  exact absurd (client.hex ':' h) (by decide)

theorem ClientKey.text_inj {c d : ClientKey} : c.text = d.text ↔ c = d := by
  constructor
  · intro h
    cases c
    cases d
    cases h
    rfl
  · exact congrArg _

def dedupKey (clientPublicKey requestIdentifier : String) : String :=
  clientPublicKey ++ ":" ++ requestIdentifier

/-- What stands before the first `x` and what stands after it. -/
theorem append_cons_inj_of_notMem_left {α : Type*} {x : α} {l₁ l₂ m₁ m₂ : List α} (h₁ : x ∉ l₁)
    (h₂ : x ∉ l₂) (h : l₁ ++ x :: m₁ = l₂ ++ x :: m₂) : l₁ = l₂ ∧ m₁ = m₂ := by
  induction l₁ generalizing l₂ with
  | nil =>
    cases l₂ with
    | nil => exact ⟨rfl, (List.cons.inj h).2⟩
    | cons y l₂ =>
      obtain ⟨rfl, -⟩ := List.cons.inj h
      exact absurd List.mem_cons_self h₂
  | cons z l₁ ih =>
    cases l₂ with
    | nil =>
      obtain ⟨rfl, -⟩ := List.cons.inj h
      exact absurd List.mem_cons_self h₁
    | cons y l₂ =>
      obtain ⟨rfl, hrest⟩ := List.cons.inj h
      obtain ⟨rfl, rfl⟩ := ih (List.not_mem_of_not_mem_cons h₁)
        (List.not_mem_of_not_mem_cons h₂) hrest
      exact ⟨rfl, rfl⟩

/-- The identifier may have colons; the key of a client has none. -/
theorem dedupKey_inj {c d : ClientKey} {i j : String}
    (h : dedupKey c.text i = dedupKey d.text j) : c = d ∧ i = j := by
  have hlist := congrArg String.toList h
  simp only [dedupKey, String.toList_append, List.append_assoc] at hlist
  obtain ⟨htext, hid⟩ := append_cons_inj_of_notMem_left c.colon_notMem d.colon_notMem hlist
  exact ⟨ClientKey.text_inj.mp (String.toList_inj.mp htext), String.toList_inj.mp hid⟩

/-! ## The two maps -/

abbrev LimiterMaps := Limiter String

namespace LimiterMaps

def empty : LimiterMaps := Limiter.empty

def shouldAcceptRequest (m : LimiterMaps) (times : CallTimes) (clientPublicKey : String)
    (requestIdentifier : Option String) : Bool × LimiterMaps :=
  m.shouldAccept times clientPublicKey (requestIdentifier.map (dedupKey clientPublicKey))

/-- The answer the duplicate cache has for a request. -/
def cached? (m : LimiterMaps) (now : Int64) (clientPublicKey : String)
    (requestIdentifier : Option String) : Option Bool :=
  requestIdentifier.bind fun identifier ↦
    (m.checkDuplicate now (dedupKey clientPublicKey identifier)).1

/-- The duplicate cache after a request that was judged. -/
def remember (m : LimiterMaps) (finish : Int64) (clientPublicKey : String) (accepted : Bool) :
    Option String → String → Option DeduplicationEntry
  | none => m.recentRequests
  | some identifier =>
    update m.recentRequests (dedupKey clientPublicKey identifier)
      (some ⟨finish, accepted⟩)

variable {m : LimiterMaps} {times : CallTimes} {client : String} {identifier : Option String}

theorem cached?_some {id : String} {now : Int64} :
    m.cached? now client (some id) =
      (m.recentRequests (dedupKey client id)).bind fun entry ↦
        if now - entry.timestamp < dedupWindowMs then some entry.accepted else none := by
  simp only [cached?, Limiter.checkDuplicate, Option.bind_some]
  cases m.recentRequests (dedupKey client id) with
  | none => rfl
  | some entry =>
    simp only [Option.bind_some]
    split_ifs <;> rfl

/-- A request the cache has an answer for changes nothing. -/
theorem shouldAcceptRequest_of_cached {answer : Bool}
    (h : m.cached? times.start client identifier = some answer) :
    m.shouldAcceptRequest times client identifier = (answer, m) := by
  cases identifier with
  | none => cases h
  | some id =>
    rw [cached?_some] at h
    obtain ⟨entry, hentry, hlive⟩ := Option.bind_eq_some_iff.mp h
    split_ifs at hlive with hrecent
    cases hlive
    exact m.shouldAccept_of_recent hentry hrecent

/-- Any other is judged by the client's state, and remembered if it has an identifier. -/
theorem shouldAcceptRequest_of_not_cached (h : m.cached? times.start client identifier = none) :
    m.shouldAcceptRequest times client identifier =
      ((assess times.judge (m.clientBackoffs client)).1,
        { clientBackoffs := update m.clientBackoffs client
            (some (assess times.judge (m.clientBackoffs client)).2)
          recentRequests := m.remember times.finish client
            (assess times.judge (m.clientBackoffs client)).1 identifier }) := by
  cases identifier with
  | none => rfl
  | some id =>
    rw [cached?_some] at h
    refine m.shouldAccept_of_not_recent fun entry hrecent hlive ↦ ?_
    simp [hrecent, hlive] at h

end LimiterMaps

/-! ## The limiter whose keys are pairs -/

namespace LimiterMaps

/-- The same back-offs, and the same entry under the joined key as under the pair. -/
structure Refines (m : LimiterMaps) (r : RequestRateLimiter) : Prop where
  backoffs : m.clientBackoffs = r.clientBackoffs
  recent : ∀ (client : ClientKey) (id : String),
    m.recentRequests (dedupKey client.text id) = r.recentRequests (client.text, id)

variable {m : LimiterMaps} {r : RequestRateLimiter}

theorem refines_empty : empty.Refines .empty := ⟨rfl, fun _ _ ↦ rfl⟩

/-- A request that reads one instant from the clock is answered as by the limiter whose keys
are pairs. -/
theorem Refines.shouldAcceptRequest (h : m.Refines r) (now : Int64) (client : ClientKey)
    (identifier : Option String) :
    (m.shouldAcceptRequest ⟨now, now, now⟩ client.text identifier).1 =
        (r.shouldAcceptRequest now client.text identifier).1 ∧
      (m.shouldAcceptRequest ⟨now, now, now⟩ client.text identifier).2.Refines
        (r.shouldAcceptRequest now client.text identifier).2 := by
  cases identifier with
  | none =>
    refine ⟨?_, ?_, h.recent⟩ <;>
      simp [LimiterMaps.shouldAcceptRequest, RequestRateLimiter.shouldAcceptRequest,
        Limiter.shouldAccept, Limiter.evaluate, h.backoffs]
  | some id =>
    by_cases hrecalls : r.Recalls now (client.text, id)
    · obtain ⟨entry, hentry, hlive⟩ := hrecalls
      have haccept : m.shouldAcceptRequest ⟨now, now, now⟩ client.text (some id) =
          (entry.accepted, m) :=
        m.shouldAccept_of_recent ((h.recent client id).trans hentry) hlive
      rw [haccept, RequestRateLimiter.shouldAcceptRequest_of_recent hentry hlive]
      exact ⟨rfl, h⟩
    · have hnot (entry) (hentry : m.recentRequests (dedupKey client.text id) = some entry) :
          ¬ (CallTimes.mk now now now).start - entry.timestamp < dedupWindowMs :=
        fun hlive ↦ hrecalls ⟨entry, (h.recent client id).symm.trans hentry, hlive⟩
      rw [LimiterMaps.shouldAcceptRequest, Option.map_some, m.shouldAccept_of_not_recent hnot,
        RequestRateLimiter.shouldAcceptRequest_of_not_recalls hrecalls, h.backoffs]
      refine ⟨rfl, rfl, fun other otherId ↦ ?_⟩
      dsimp only
      by_cases hsame : (other.text, otherId) = (client.text, id)
      · obtain ⟨htext, rfl⟩ := Prod.mk.inj hsame
        rw [htext, update_self, update_self]
      · have hkey : dedupKey other.text otherId ≠ dedupKey client.text id := by
          intro hjoined
          obtain ⟨rfl, rfl⟩ := dedupKey_inj hjoined
          exact hsame rfl
        rw [update_of_ne hkey, update_of_ne hsame, h.recent]

theorem Refines.resetClient (h : m.Refines r) (client : String) :
    Refines (m.resetClient client) (r.resetClient client) :=
  ⟨by simp [Limiter.resetClient, h.backoffs], h.recent⟩

theorem Refines.cleanup (h : m.Refines r) (now : Int64) :
    Refines (m.cleanup now now) (r.cleanup now now) := by
  refine ⟨?_, fun client id ↦ ?_⟩
  · simp only [Limiter.cleanup, h.backoffs]
  · simp only [Limiter.cleanup, h.recent]

end LimiterMaps

/-- No client waits for more than five seconds. -/
theorem BackoffState.Valid.waited {s : BackoffState} {now : Int64} (h : s.Valid now)
    (hsilent : s.lastRequestTime.toInt + 5000 ≤ now.toInt) :
    ¬ now - s.lastRequestTime < s.backoffMs := by
  have hhigh : s.backoffSeconds ≤ 5 := h.backoff.2
  rw [Int64.lt_iff_toInt_lt, Int64.toInt_sub_of_le _ _ h.nonneg h.le_now, backoffMs,
    Int64.toInt_ofNat_of_lt (by omega)]
  omega

/-- An entry of the duplicate cache is used for two seconds. -/
theorem DeduplicationEntry.expired {entry : DeduplicationEntry} {now : Int64}
    (hnonneg : 0 ≤ entry.timestamp) (hold : entry.timestamp.toInt + 2000 ≤ now.toInt) :
    ¬ now - entry.timestamp < dedupWindowMs := by
  have hle : entry.timestamp ≤ now := by
    rw [Int64.le_iff_toInt_le]
    omega
  rw [Int64.lt_iff_toInt_lt, Int64.toInt_sub_of_le _ _ hnonneg hle,
    show dedupWindowMs.toInt = 2000 from rfl]
  omega

/-! ## Calls and runs -/

inductive LimiterCall where
  | request (client : ClientKey) (requestIdentifier : Option String) (times : CallTimes)
  | reset (client : ClientKey)
  | cleanup (now dedupNow : Int64)
  deriving DecidableEq

namespace LimiterCall

def isReset : LimiterCall → Bool
  | .reset _ => true
  | _ => false

/-- The readings of a call are in order and none is before `now`. -/
def InOrder (now : Int64) : LimiterCall → Prop
  | .request _ _ times =>
    now ≤ times.start ∧ times.start ≤ times.judge ∧ times.judge ≤ times.finish
  | .reset _ => True
  | .cleanup cleanNow dedupNow => now ≤ cleanNow ∧ cleanNow ≤ dedupNow

instance InOrder.decidable (now : Int64) : ∀ call : LimiterCall, Decidable (call.InOrder now)
  | .request _ _ times =>
    inferInstanceAs (Decidable (now ≤ times.start ∧ times.start ≤ times.judge ∧
      times.judge ≤ times.finish))
  | .reset _ => instDecidableTrue
  | .cleanup cleanNow dedupNow => inferInstanceAs (Decidable (now ≤ cleanNow ∧ cleanNow ≤ dedupNow))

/-- The last reading so far. -/
def after (now : Int64) : LimiterCall → Int64
  | .request _ _ times => times.finish
  | .reset _ => now
  | .cleanup _ dedupNow => dedupNow

theorem InOrder.le_after {now : Int64} {call : LimiterCall} (h : call.InOrder now) :
    now ≤ call.after now := by
  cases call with
  | request => exact Int64.le_trans h.1 (Int64.le_trans h.2.1 h.2.2)
  | reset => exact Int64.le_refl now
  | cleanup => exact Int64.le_trans h.1 h.2

end LimiterCall

/-- From `now` on the clock does not go back. -/
def ClockFrom : Int64 → List LimiterCall → Prop
  | _, [] => True
  | now, call :: calls => call.InOrder now ∧ ClockFrom (call.after now) calls

instance ClockFrom.decidable : ∀ now calls, Decidable (ClockFrom now calls)
  | _, [] => instDecidableTrue
  | now, call :: calls =>
    have := ClockFrom.decidable (call.after now) calls
    inferInstanceAs (Decidable (call.InOrder now ∧ ClockFrom (call.after now) calls))

/-- A request that was judged and not answered from the duplicate cache. -/
structure Evaluation where
  client : ClientKey
  time : Int64
  accepted : Bool
  deriving DecidableEq

namespace LimiterMaps

def step (m : LimiterMaps) : LimiterCall → LimiterMaps
  | .request client identifier times => (m.shouldAcceptRequest times client.text identifier).2
  | .reset client => m.resetClient client.text
  | .cleanup now dedupNow => m.cleanup now dedupNow

def run (m : LimiterMaps) (calls : List LimiterCall) : LimiterMaps := calls.foldl step m

/-- The evaluation a call makes. -/
def evaluation? (m : LimiterMaps) : LimiterCall → Option Evaluation
  | .request client identifier times =>
    match m.cached? times.start client.text identifier with
    | some _ => none
    | none =>
      some ⟨client, times.judge, (m.shouldAcceptRequest times client.text identifier).1⟩
  | _ => none

def evaluations : LimiterMaps → List LimiterCall → List Evaluation
  | _, [] => []
  | m, call :: calls => (m.evaluation? call).toList ++ evaluations (m.step call) calls

end LimiterMaps

/-! ## What holds of every run -/

namespace LimiterMaps

/-- What holds of the stored back-offs at an instant. -/
def Valid (m : LimiterMaps) (now : Int64) : Prop :=
  ∀ client state, m.clientBackoffs client = some state → state.Valid now

variable {m : LimiterMaps} {now : Int64} {call : LimiterCall}

theorem valid_empty (now : Int64) : empty.Valid now := by
  intro client state h
  cases h

theorem Valid.mono {later : Int64} (h : m.Valid now) (hle : now ≤ later) : m.Valid later :=
  fun client state hstate ↦ (h client state hstate).mono hle

/-- What a call leaves of a client's back-off. -/
theorem clientBackoffs_step (m : LimiterMaps) (call : LimiterCall) (client : String) :
    (m.step call).clientBackoffs client = m.clientBackoffs client ∨
    (∃ e, m.evaluation? call = some e ∧ e.client.text = client ∧
      e.accepted = (assess e.time (m.clientBackoffs client)).1 ∧
      (m.step call).clientBackoffs client =
        some (assess e.time (m.clientBackoffs client)).2) ∨
    (∃ asker, call = .reset asker ∧ asker.text = client ∧
      (m.step call).clientBackoffs client = none) ∨
    (∃ cleanNow dedupNow state, call = .cleanup cleanNow dedupNow ∧
      m.clientBackoffs client = some state ∧ cleanNow - state.lastRequestTime > cleanupAgeMs ∧
      (m.step call).clientBackoffs client = none) := by
  cases call with
  | request asker identifier times =>
    cases hcached : m.cached? times.start asker.text identifier with
    | some answer =>
      left
      simp only [step, shouldAcceptRequest_of_cached hcached]
    | none =>
      simp only [step, evaluation?, hcached, shouldAcceptRequest_of_not_cached hcached]
      by_cases hclient : asker.text = client
      · subst hclient
        exact .inr (.inl ⟨_, rfl, rfl, rfl, update_self ..⟩)
      · exact .inl (update_of_ne (Ne.symm hclient) ..)
  | reset asker =>
    by_cases hclient : asker.text = client
    · subst hclient
      exact .inr (.inr (.inl ⟨asker, rfl, rfl, update_self ..⟩))
    · exact .inl (update_of_ne (Ne.symm hclient) ..)
  | cleanup cleanNow dedupNow =>
    cases hstate : m.clientBackoffs client with
    | none =>
      left
      simp [step, Limiter.cleanup, hstate]
    | some state =>
      by_cases hold : cleanNow - state.lastRequestTime > cleanupAgeMs
      · refine .inr (.inr (.inr ⟨_, _, state, rfl, rfl, hold, ?_⟩))
        simp [step, Limiter.cleanup, hstate, hold]
      · left
        simp [step, Limiter.cleanup, hstate, hold]

/-- A back-off after a call was there before it, or is that of the request which it judges. -/
theorem clientBackoffs_of_step {client : String} {state : BackoffState}
    (h : (m.step call).clientBackoffs client = some state) :
    m.clientBackoffs client = some state ∨
      ∃ e, m.evaluation? call = some e ∧ e.client.text = client ∧
        state = (assess e.time (m.clientBackoffs client)).2 := by
  obtain hsame | ⟨e, he, hclient, -, hjudged⟩ | ⟨-, -, -, hnone⟩ | ⟨-, -, -, -, -, -, hnone⟩ :=
    m.clientBackoffs_step call client
  · exact .inl (hsame ▸ h)
  · exact .inr ⟨e, he, hclient, Option.some.inj (h.symm.trans hjudged)⟩
  · cases hnone.symm.trans h
  · cases hnone.symm.trans h

/-- When a call judges a request, with respect to its place in the run. -/
theorem time_of_evaluation? {e : Evaluation} (h : m.evaluation? call = some e)
    (horder : call.InOrder now) : now ≤ e.time ∧ e.time ≤ call.after now := by
  cases call with
  | request asker identifier times =>
    cases hcached : m.cached? times.start asker.text identifier with
    | some answer => simp [evaluation?, hcached] at h
    | none =>
      simp only [evaluation?, hcached, Option.some.injEq] at h
      subst h
      exact ⟨Int64.le_trans horder.1 horder.2.1, horder.2.2⟩
  | reset | cleanup => cases h

theorem Valid.step (h : m.Valid now) (hnow : 0 ≤ now) (horder : call.InOrder now) :
    (m.step call).Valid (call.after now) := by
  intro client state hstate
  obtain hold | ⟨e, he, -, rfl⟩ := clientBackoffs_of_step hstate
  · exact (h client state hold).mono horder.le_after
  · obtain ⟨hle, hafter⟩ := time_of_evaluation? he horder
    refine (assess_valid (Int64.le_trans hnow hle) ?_).mono hafter
    intro s hs
    exact (h client s hs).mono hle

/-- What a request that is judged does. -/
theorem judged_of_evaluation? {e : Evaluation} (he : m.evaluation? call = some e) :
    e.accepted = (assess e.time (m.clientBackoffs e.client.text)).1 ∧
      (m.step call).clientBackoffs e.client.text =
        some (assess e.time (m.clientBackoffs e.client.text)).2 := by
  cases call with
  | request asker identifier times =>
    cases hcached : m.cached? times.start asker.text identifier with
    | some answer => simp [evaluation?, hcached] at he
    | none =>
      simp only [evaluation?, hcached, shouldAcceptRequest_of_not_cached hcached,
        Option.some.injEq] at he
      subst he
      simp only [step, shouldAcceptRequest_of_not_cached hcached]
      exact ⟨trivial, update_self ..⟩
  | reset | cleanup => cases he

/-- What a call leaves in the duplicate cache of a client's request. -/
theorem recentRequests_step (m : LimiterMaps) (call : LimiterCall) (client : ClientKey)
    (id : String) :
    (m.step call).recentRequests (dedupKey client.text id) =
      m.recentRequests (dedupKey client.text id) ∨
    (∃ times, call = .request client (some id) times ∧
      m.cached? times.start client.text (some id) = none ∧
      (m.step call).recentRequests (dedupKey client.text id) =
        some ⟨times.finish, (assess times.judge (m.clientBackoffs client.text)).1⟩) ∨
    (∃ cleanNow dedupNow entry, call = .cleanup cleanNow dedupNow ∧
      m.recentRequests (dedupKey client.text id) = some entry ∧
      dedupNow - entry.timestamp > dedupWindowMs ∧
      (m.step call).recentRequests (dedupKey client.text id) = none) := by
  cases call with
  | request asker identifier times =>
    cases hcached : m.cached? times.start asker.text identifier with
    | some answer =>
      left
      simp only [step, shouldAcceptRequest_of_cached hcached]
    | none =>
      simp only [step, shouldAcceptRequest_of_not_cached hcached]
      cases identifier with
      | none => exact .inl rfl
      | some other =>
        simp only [remember]
        by_cases hkey : dedupKey client.text id = dedupKey asker.text other
        · obtain ⟨rfl, rfl⟩ := dedupKey_inj hkey
          exact .inr (.inl ⟨times, rfl, hcached, update_self ..⟩)
        · exact .inl (update_of_ne hkey ..)
  | reset asker => exact .inl rfl
  | cleanup cleanNow dedupNow =>
    cases hentry : m.recentRequests (dedupKey client.text id) with
    | none =>
      left
      simp [step, Limiter.cleanup, hentry]
    | some entry =>
      by_cases hold : dedupNow - entry.timestamp > dedupWindowMs
      · refine .inr (.inr ⟨_, _, entry, rfl, rfl, hold, ?_⟩)
        simp [step, Limiter.cleanup, hentry, hold]
      · left
        simp [step, Limiter.cleanup, hentry, hold]

/-- An entry after a call was there before it, or is that of the request which it judges. -/
theorem recentRequests_of_step {client : ClientKey} {id : String} {entry : DeduplicationEntry}
    (h : (m.step call).recentRequests (dedupKey client.text id) = some entry) :
    m.recentRequests (dedupKey client.text id) = some entry ∨
      ∃ times, call = .request client (some id) times ∧
        m.cached? times.start client.text (some id) = none ∧
        entry = ⟨times.finish, (assess times.judge (m.clientBackoffs client.text)).1⟩ := by
  obtain hsame | ⟨times, hcall, hcached, hmade⟩ | ⟨-, -, -, -, -, -, hnone⟩ :=
    m.recentRequests_step call client id
  · exact .inl (hsame ▸ h)
  · exact .inr ⟨times, hcall, hcached, Option.some.inj (h.symm.trans hmade)⟩
  · cases hnone.symm.trans h

theorem lastRequestTime_assess (now : Int64) (state : Option BackoffState) :
    (assess now state).2.lastRequestTime = now := by
  cases state with
  | none => rfl
  | some s =>
    simp only [assess]
    split_ifs <;> rfl

end LimiterMaps

/-- The last reading of a run that begins at `now`. -/
def lastReading (now : Int64) (calls : List LimiterCall) : Int64 :=
  calls.foldl (fun now call ↦ call.after now) now

theorem clockFrom_append {now : Int64} {earlier later : List LimiterCall} :
    ClockFrom now (earlier ++ later) ↔
      ClockFrom now earlier ∧ ClockFrom (lastReading now earlier) later := by
  induction earlier generalizing now with
  | nil => exact (and_iff_right trivial).symm
  | cons call earlier ih =>
    rw [List.cons_append, ClockFrom, ClockFrom, ih, and_assoc]
    rfl

theorem LimiterMaps.Valid.run {m : LimiterMaps} {now : Int64} {calls : List LimiterCall}
    (h : m.Valid now) (hnow : 0 ≤ now) (hclock : ClockFrom now calls) :
    (m.run calls).Valid (lastReading now calls) := by
  induction calls generalizing m now with
  | nil => exact h
  | cons call calls ih =>
    obtain ⟨horder, hrest⟩ := hclock
    exact ih (h.step hnow horder) (Int64.le_trans hnow horder.le_after) hrest

end TapAuth.Phone
