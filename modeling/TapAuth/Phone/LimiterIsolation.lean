import TapAuth.Phone.LimiterCalls

/-!
# Clients of the rate limiter do not see each other

What the limiter answers a client is determined by the client's own calls and their times.
A run is compared with the run of the client's calls alone, step by step (`Agrees`): the
two have the same entries of the client, but for entries that a clean-up has removed in
the one and that are in the other too old to matter.  A back-off of more than five
minutes ago is as good as none (`assess_of_silent`), and an entry of the duplicate cache
that is removed had expired.

The keys of the duplicate cache are joined, so this rests on the clients' keys being hexadecimal.
-/

namespace TapAuth.Phone

/-! ## The client's own calls -/

namespace LimiterCall

def isOf (client : ClientKey) : LimiterCall → Bool
  | .request asker _ _ => asker = client
  | .reset asker => asker = client
  | .cleanup _ _ => false

end LimiterCall

namespace LimiterMaps

def answerTo? (m : LimiterMaps) (client : ClientKey) : LimiterCall → Option Bool
  | .request asker identifier times =>
    if asker = client then some (m.shouldAcceptRequest times asker.text identifier).1 else none
  | .reset _ => none
  | .cleanup _ _ => none

/-- The answers a client gets in a run, in order. -/
def answersTo (client : ClientKey) : LimiterMaps → List LimiterCall → List Bool
  | _, [] => []
  | m, call :: calls => (m.answerTo? client call).toList ++ answersTo client (m.step call) calls

theorem answerTo?_of_not_isOf {m : LimiterMaps} {client : ClientKey} {call : LimiterCall}
    (h : call.isOf client = false) : m.answerTo? client call = none := by
  cases call with
  | request asker => exact if_neg (of_decide_eq_false h)
  | reset | cleanup => rfl

theorem isOf_of_evaluation? {m : LimiterMaps} {call : LimiterCall} {e : Evaluation}
    (h : m.evaluation? call = some e) : call.isOf e.client = true := by
  cases call with
  | request asker identifier times =>
    cases hcached : m.cached? times.start asker.text identifier with
    | some answer => simp [evaluation?, hcached] at h
    | none =>
      simp only [evaluation?, hcached, Option.some.injEq] at h
      rw [← h]
      exact decide_eq_true rfl
  | reset | cleanup => cases h

end LimiterMaps

/-! ## Back-offs that do not matter -/

/-- What holds of a client's state, its window included. -/
structure BackoffState.Settled (s : BackoffState) (now : Int64) : Prop where
  valid : s.Valid now
  windowNonneg : 0 ≤ s.burstWindowStart
  window_le : s.burstWindowStart ≤ s.lastRequestTime

theorem BackoffState.Settled.mono {s : BackoffState} {now later : Int64} (h : s.Settled now)
    (hle : now ≤ later) : s.Settled later :=
  ⟨h.valid.mono hle, h.windowNonneg, h.window_le⟩

theorem assess_settled {now : Int64} (hnow : 0 ≤ now) {state : Option BackoffState}
    (h : ∀ s ∈ state, s.Settled now) : (assess now state).2.Settled now := by
  refine ⟨assess_valid hnow fun s hs ↦ (h s hs).valid, ?_, ?_⟩
  · cases state with
    | none => exact hnow
    | some s =>
      simp only [assess]
      split_ifs
      · exact (h s rfl).windowNonneg
      · exact (h s rfl).windowNonneg
      · exact hnow
  · cases state with
    | none => exact Int64.le_refl now
    | some s =>
      have hwindow := Int64.le_trans (h s rfl).window_le (h s rfl).valid.le_now
      simp only [assess]
      split_ifs
      · exact hwindow
      · exact hwindow
      · exact Int64.le_refl now

/-- A client who has been silent for five seconds is as one who is not known. -/
theorem assess_of_silent {now : Int64} {s : BackoffState} (h : s.Settled now)
    (hsilent : s.lastRequestTime.toInt + 5000 ≤ now.toInt) :
    assess now (some s) = assess now none := by
  have hwindow := Int64.le_iff_toInt_le.mp h.window_le
  have hburst : ¬ now - s.burstWindowStart < burstWindowMs := by
    rw [Int64.lt_iff_toInt_lt, Int64.toInt_sub_of_le _ _ h.windowNonneg
      (Int64.le_trans h.window_le h.valid.le_now), show burstWindowMs.toInt = 2000 from rfl]
    omega
  simp only [assess, hburst, h.valid.waited hsilent, false_and, if_false]

/-! ## Two runs -/

namespace LimiterMaps

/-- What holds of the entries of a client. -/
structure Timely (m : LimiterMaps) (client : ClientKey) (now : Int64) : Prop where
  backoff : ∀ state, m.clientBackoffs client.text = some state → state.Settled now
  recent : ∀ id entry, m.recentRequests (dedupKey client.text id) = some entry →
    0 ≤ entry.timestamp ∧ entry.timestamp ≤ now

/-- The entries of a client are those of `n`, but for some that are too old to matter. -/
structure Agrees (m n : LimiterMaps) (client : ClientKey) (now : Int64) : Prop where
  backoff : m.clientBackoffs client.text = n.clientBackoffs client.text ∨
    m.clientBackoffs client.text = none ∧ ∃ state, n.clientBackoffs client.text = some state ∧
      state.lastRequestTime.toInt + 5000 ≤ now.toInt
  recent : ∀ id, m.recentRequests (dedupKey client.text id) =
      n.recentRequests (dedupKey client.text id) ∨
    m.recentRequests (dedupKey client.text id) = none ∧
      ∃ entry, n.recentRequests (dedupKey client.text id) = some entry ∧
        entry.timestamp.toInt + 2000 ≤ now.toInt

variable {m n : LimiterMaps} {client : ClientKey} {now later : Int64} {call : LimiterCall}

theorem Timely.mono (h : m.Timely client now) (hle : now ≤ later) : m.Timely client later :=
  ⟨fun state hstate ↦ (h.backoff state hstate).mono hle,
    fun id entry hentry ↦ ⟨(h.recent id entry hentry).1,
      Int64.le_trans (h.recent id entry hentry).2 hle⟩⟩

theorem Agrees.mono (h : m.Agrees n client now) (hle : now ≤ later) : m.Agrees n client later := by
  rw [Int64.le_iff_toInt_le] at hle
  constructor
  · exact h.backoff.imp_right fun ⟨hnone, state, hstate, hold⟩ ↦
      ⟨hnone, state, hstate, hold.trans hle⟩
  · intro id
    exact (h.recent id).imp_right fun ⟨hnone, entry, hentry, hold⟩ ↦
      ⟨hnone, entry, hentry, hold.trans hle⟩

theorem Timely.step (h : m.Timely client now) (hnow : 0 ≤ now) (horder : call.InOrder now) :
    (m.step call).Timely client (call.after now) := by
  have hlater := h.mono horder.le_after
  constructor
  · intro state hstate
    obtain hold | ⟨e, he, -, rfl⟩ := clientBackoffs_of_step hstate
    · exact hlater.backoff state hold
    · obtain ⟨hle, hafter⟩ := time_of_evaluation? he horder
      exact (assess_settled (Int64.le_trans hnow hle)
        fun s hs ↦ (h.backoff s hs).mono hle).mono hafter
  · intro id entry hentry
    obtain hold | ⟨times, rfl, -, rfl⟩ := recentRequests_of_step hentry
    · exact hlater.recent id entry hold
    · exact ⟨Int64.le_trans hnow horder.le_after, Int64.le_refl _⟩

/-- A clean-up and a call of another client change nothing that matters. -/
theorem Agrees.step_other (h : m.Agrees n client now) (hn : n.Timely client now)
    (horder : call.InOrder now) (hother : call.isOf client = false) :
    (m.step call).Agrees n client (call.after now) := by
  have hlater := h.mono horder.le_after
  constructor
  · obtain hsame | ⟨e, he, hclient, -⟩ | ⟨asker, rfl, hclient, -⟩ |
        ⟨cleanNow, dedupNow, s, rfl, hs, hold, hnone⟩ := m.clientBackoffs_step call client.text
    · rw [hsame]
      exact hlater.backoff
    · exact absurd (isOf_of_evaluation? he) (by rw [ClientKey.text_inj.mp hclient, hother]; decide)
    · exact absurd hother (by simp [LimiterCall.isOf, ClientKey.text_inj.mp hclient])
    · obtain heq | ⟨hforgotten, -⟩ := h.backoff
      · rw [heq] at hs
        have hsettled := (hn.backoff s hs).valid.mono horder.1
        rw [gt_iff_lt, Int64.lt_iff_toInt_lt,
          Int64.toInt_sub_of_le _ _ hsettled.nonneg hsettled.le_now,
          show cleanupAgeMs.toInt = 300000 from rfl] at hold
        have hclean : cleanNow.toInt ≤ dedupNow.toInt := Int64.le_iff_toInt_le.mp horder.2
        exact .inr ⟨hnone, s, hs, show _ ≤ dedupNow.toInt by omega⟩
      · rw [hforgotten] at hs
        cases hs
  · intro id
    obtain hsame | ⟨times, rfl, -⟩ | ⟨cleanNow, dedupNow, entry, rfl, hentry, hold, hnone⟩ :=
      m.recentRequests_step call client id
    · rw [hsame]
      exact hlater.recent id
    · exact absurd hother (by simp [LimiterCall.isOf])
    · obtain heq | ⟨hforgotten, -⟩ := h.recent id
      · rw [heq] at hentry
        obtain ⟨hnonneg, hle⟩ := hn.recent id entry hentry
        have hle : entry.timestamp ≤ dedupNow := Int64.le_trans hle horder.le_after
        rw [gt_iff_lt, Int64.lt_iff_toInt_lt, Int64.toInt_sub_of_le _ _ hnonneg hle,
          show dedupWindowMs.toInt = 2000 from rfl] at hold
        exact .inr ⟨hnone, entry, hentry, show _ ≤ dedupNow.toInt by omega⟩
      · rw [hforgotten] at hentry
        cases hentry

/-- The duplicate cache has the same answer in both. -/
theorem Agrees.cached? (h : m.Agrees n client now) (hn : n.Timely client now)
    (identifier : Option String) :
    m.cached? now client.text identifier = n.cached? now client.text identifier := by
  cases identifier with
  | none => rfl
  | some id =>
    rw [cached?_some, cached?_some]
    obtain heq | ⟨hnone, entry, hentry, hold⟩ := h.recent id
    · rw [heq]
    · have hexpired := DeduplicationEntry.expired (hn.recent id entry hentry).1 hold
      simp [hnone, hentry, hexpired]

/-- The back-off says the same in both. -/
theorem Agrees.assess (h : m.Agrees n client now) (hn : n.Timely client now) :
    assess now (m.clientBackoffs client.text) = assess now (n.clientBackoffs client.text) := by
  obtain heq | ⟨hnone, s, hs, hold⟩ := h.backoff
  · rw [heq]
  · rw [hnone, hs, assess_of_silent (hn.backoff s hs) hold]

/-- The client's own calls are answered the same in both. -/
theorem Agrees.step_own (h : m.Agrees n client now) (hn : n.Timely client now)
    (horder : call.InOrder now) (hown : call.isOf client = true) :
    m.answerTo? client call = n.answerTo? client call ∧
      (m.step call).Agrees (n.step call) client (call.after now) := by
  have hlater := h.mono horder.le_after
  cases call with
  | request asker identifier times =>
    obtain rfl : asker = client := of_decide_eq_true hown
    have hcache := (h.mono horder.1).cached? (hn.mono horder.1) identifier
    have hassess := (h.mono (Int64.le_trans horder.1 horder.2.1)).assess
      (hn.mono (Int64.le_trans horder.1 horder.2.1))
    cases hcached : n.cached? times.start asker.text identifier with
    | some answer =>
      rw [hcached] at hcache
      simp only [answerTo?, step, shouldAcceptRequest_of_cached hcache,
        shouldAcceptRequest_of_cached hcached]
      exact ⟨trivial, hlater⟩
    | none =>
      rw [hcached] at hcache
      simp only [answerTo?, step, shouldAcceptRequest_of_not_cached hcache,
        shouldAcceptRequest_of_not_cached hcached, hassess]
      refine ⟨trivial, .inl ?_, fun id ↦ ?_⟩
      · simp only [Function.update_self]
      · cases identifier with
        | none => exact hlater.recent id
        | some other =>
          by_cases hid : id = other
          · subst hid
            left
            simp only [remember, Function.update_self]
          · have hkey : dedupKey asker.text id ≠ dedupKey asker.text other :=
              fun hjoined ↦ hid (dedupKey_inj hjoined).2
            simp only [remember, Function.update_of_ne hkey]
            exact hlater.recent id
  | reset asker =>
    obtain rfl : asker = client := of_decide_eq_true hown
    refine ⟨rfl, .inl ?_, hlater.recent⟩
    simp only [step, Limiter.resetClient, Function.update_self]
  | cleanup => cases hown

/-- A run answers a client as the run of the client's calls alone. -/
theorem Agrees.answersTo {calls : List LimiterCall} (h : m.Agrees n client now)
    (hn : n.Timely client now) (hnow : 0 ≤ now) (hclock : ClockFrom now calls) :
    answersTo client m calls = answersTo client n (calls.filter (·.isOf client)) := by
  induction calls generalizing m n now with
  | nil => rfl
  | cons call calls ih =>
    obtain ⟨horder, hrest⟩ := hclock
    have hnow' := Int64.le_trans hnow horder.le_after
    cases hown : call.isOf client with
    | true =>
      obtain ⟨hanswer, hagrees⟩ := h.step_own hn horder hown
      rw [List.filter_cons_of_pos hown, LimiterMaps.answersTo, LimiterMaps.answersTo, hanswer,
        ih hagrees (hn.step hnow horder) hnow' hrest]
    | false =>
      rw [List.filter_cons_of_neg (by simp [hown]), LimiterMaps.answersTo,
        answerTo?_of_not_isOf hown, Option.toList_none, List.nil_append,
        ih (h.step_other hn horder hown) (hn.mono horder.le_after) hnow' hrest]

theorem answersTo_empty {calls : List LimiterCall} (hclock : ClockFrom 0 calls) :
    answersTo client empty calls = answersTo client empty (calls.filter (·.isOf client)) := by
  have hagrees : empty.Agrees empty client 0 := ⟨.inl rfl, fun _ ↦ .inl rfl⟩
  have htimely : empty.Timely client 0 := ⟨fun _ h ↦ (nomatch h), fun _ _ h ↦ (nomatch h)⟩
  exact hagrees.answersTo htimely (by decide) hclock

/-- The answers to a client are determined by the client's own calls and their times. -/
theorem answersTo_eq_of_own_calls (client : ClientKey) (calls calls' : List LimiterCall)
    (hclock : ClockFrom 0 calls) (hclock' : ClockFrom 0 calls')
    (hown : calls.filter (·.isOf client) = calls'.filter (·.isOf client)) :
    answersTo client empty calls = answersTo client empty calls' := by
  rw [answersTo_empty hclock, answersTo_empty hclock', hown]

/-- The calls of one client among those of another and two clean-ups; the second removes the
client's back-off. -/
def sharedCalls (client other : ClientKey) : List LimiterCall :=
  [.request client (some "1") ⟨0, 0, 0⟩, .request other (some "1") ⟨10, 10, 10⟩,
    .request client none ⟨20, 20, 20⟩, .request client none ⟨30, 30, 30⟩, .cleanup 35 35,
    .request client (some "2") ⟨40, 40, 40⟩, .reset other, .cleanup 300041 300041,
    .request client (some "2") ⟨300050, 300050, 300050⟩]

def firstClient : ClientKey := ⟨"0a", by simp⟩

def secondClient : ClientKey := ⟨"0b", by simp⟩

theorem answersTo_eq_of_own_calls_shared :
    answersTo firstClient empty (sharedCalls firstClient secondClient) =
        [true, true, true, false, true] ∧
      answersTo firstClient empty (sharedCalls firstClient secondClient) =
        answersTo firstClient empty
          ((sharedCalls firstClient secondClient).filter (·.isOf firstClient)) :=
  ⟨by decide +kernel, answersTo_eq_of_own_calls _ _ _ (by decide +kernel) (by decide +kernel)
    (by decide +kernel)⟩

end LimiterMaps

end TapAuth.Phone
