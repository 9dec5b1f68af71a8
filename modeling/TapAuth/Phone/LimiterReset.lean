import Mathlib.Data.List.Induction
import TapAuth.Phone.LimiterCalls

/-!
# Requests after a reset

`resetClient` forgets the back-off of a client and leaves the duplicate cache alone.  The
first request after a reset is accepted unless the cache has a rejection for it, and such a
rejection is how the same request was judged within the last two seconds
(`accepted_after_reset_iff`).
-/

namespace TapAuth.Phone

def LimiterCall.asks (client : ClientKey) : LimiterCall → Bool
  | .request asker _ _ => asker = client
  | .reset _ => false
  | .cleanup _ _ => false

namespace LimiterMaps

/-- A request of the client with the identifier was judged in the run, with this result, and
recorded at `finish`. -/
def JudgedAt (calls : List LimiterCall) (client : ClientKey) (id : String) (accepted : Bool)
    (finish : Int64) : Prop :=
  ∃ earlier times later, calls = earlier ++ .request client (some id) times :: later ∧
    (empty.run earlier).evaluation? (.request client (some id) times) =
      some ⟨client, times.judge, accepted⟩ ∧
    times.finish = finish

variable {calls : List LimiterCall} {entry : DeduplicationEntry}

theorem JudgedAt.append {client : ClientKey} {id : String} {accepted : Bool} {finish : Int64}
    (h : JudgedAt calls client id accepted finish) (more : List LimiterCall) :
    JudgedAt (calls ++ more) client id accepted finish := by
  obtain ⟨earlier, times, later, rfl, hjudged, hfinish⟩ := h
  exact ⟨earlier, times, later ++ more, by simp, hjudged, hfinish⟩

/-- Calls among which the client asks nothing add no request of the client. -/
theorem JudgedAt.before {calls between : List LimiterCall} {client : ClientKey} {id : String}
    {accepted : Bool} {finish : Int64}
    (h : JudgedAt (calls ++ .reset client :: between) client id accepted finish)
    (hasks : ∀ call ∈ between, call.asks client = false) :
    JudgedAt calls client id accepted finish := by
  obtain ⟨earlier, times, later, hsplit, hjudged, hfinish⟩ := h
  obtain ⟨middle, hcalls, hrest⟩ | ⟨middle, hearlier, hrest⟩ :=
    List.append_eq_append_iff.mp hsplit
  · -- the request would stand after the reset
    cases middle with
    | nil => cases hrest
    | cons call middle =>
      obtain ⟨-, rfl⟩ := List.cons.inj hrest
      have hmem : LimiterCall.request client (some id) times ∈
          middle ++ .request client (some id) times :: later := by simp
      exact absurd (hasks _ hmem) (by simp [LimiterCall.asks])
  · cases middle with
    | nil => cases hrest
    | cons call middle =>
      obtain ⟨rfl, -⟩ := List.cons.inj hrest
      exact ⟨earlier, times, middle, hearlier, hjudged, hfinish⟩

theorem run_append (m : LimiterMaps) (earlier later : List LimiterCall) :
    m.run (earlier ++ later) = (m.run earlier).run later := List.foldl_append

theorem run_cons (m : LimiterMaps) (call : LimiterCall) (calls : List LimiterCall) :
    m.run (call :: calls) = (m.step call).run calls := rfl

theorem run_concat (m : LimiterMaps) (calls : List LimiterCall) (call : LimiterCall) :
    m.run (calls ++ [call]) = (m.run calls).step call := by
  rw [run_append]
  rfl

theorem le_lastReading {now : Int64} (h : ClockFrom now calls) :
    now ≤ lastReading now calls := by
  induction calls generalizing now with
  | nil => exact Int64.le_refl now
  | cons call calls ih => exact Int64.le_trans h.1.le_after (ih h.2)

/-! ## The back-off after a reset -/

variable {m : LimiterMaps} {call : LimiterCall} {client : ClientKey} {id : String}

/-- Without a request of the client there is no back-off where there was none. -/
theorem clientBackoffs_step_of_none (hnone : m.clientBackoffs client.text = none)
    (hasks : call.asks client = false) : (m.step call).clientBackoffs client.text = none := by
  obtain hsame | ⟨e, he, hclient, -⟩ | ⟨-, -, -, h⟩ | ⟨-, -, -, -, -, -, h⟩ :=
    m.clientBackoffs_step call client.text
  · rw [hsame, hnone]
  · cases call with
    | request asker identifier times =>
      cases hcached : m.cached? times.start asker.text identifier with
      | some answer => simp [evaluation?, hcached] at he
      | none =>
        simp only [evaluation?, hcached, Option.some.injEq] at he
        subst he
        exact absurd (ClientKey.text_inj.mp hclient) (of_decide_eq_false hasks)
    | reset | cleanup => cases he
  · exact h
  · exact h

theorem clientBackoffs_run_of_none (hnone : m.clientBackoffs client.text = none)
    (hasks : ∀ call ∈ calls, call.asks client = false) :
    (m.run calls).clientBackoffs client.text = none := by
  induction calls generalizing m with
  | nil => exact hnone
  | cons call calls ih =>
    exact ih (clientBackoffs_step_of_none hnone (hasks call List.mem_cons_self))
      fun c hc ↦ hasks c (List.mem_cons_of_mem call hc)

theorem clientBackoffs_after_reset (before : List LimiterCall) {between : List LimiterCall}
    (hasks : ∀ call ∈ between, call.asks client = false) :
    (empty.run (before ++ .reset client :: between)).clientBackoffs client.text = none := by
  rw [run_append, run_cons]
  exact clientBackoffs_run_of_none (Function.update_self ..) hasks

/-- Nobody about whom nothing is known is rejected, except by the duplicate cache. -/
theorem accepted_iff_of_no_backoff (times : CallTimes) (identifier : Option String)
    (hnone : m.clientBackoffs client.text = none) :
    (m.shouldAcceptRequest times client.text identifier).1 = true ↔
      m.cached? times.start client.text identifier ≠ some false := by
  cases hcached : m.cached? times.start client.text identifier with
  | none =>
    rw [shouldAcceptRequest_of_not_cached hcached, hnone]
    exact iff_of_true rfl nofun
  | some answer =>
    rw [shouldAcceptRequest_of_cached hcached]
    cases answer <;> simp

/-! ## What the duplicate cache knows -/

/-- Every entry is from a request that was judged. -/
theorem judgedAt_of_recentRequests
    (h : (empty.run calls).recentRequests (dedupKey client.text id) = some entry) :
    JudgedAt calls client id entry.accepted entry.timestamp := by
  induction calls using List.reverseRecOn generalizing entry with
  | nil => cases h
  | append_singleton calls call ih =>
    rw [run_concat] at h
    obtain hold | ⟨times, rfl, hcached, rfl⟩ := recentRequests_of_step h
    · exact (ih hold).append [call]
    · refine ⟨calls, times, [], rfl, ?_, rfl⟩
      simp [evaluation?, hcached, shouldAcceptRequest_of_not_cached hcached]

/-- An entry that is not two seconds old stays as it is. -/
theorem recentRequests_step_of_live {now : Int64}
    (hentry : m.recentRequests (dedupKey client.text id) = some entry)
    (hnonneg : 0 ≤ entry.timestamp) (hle : entry.timestamp ≤ now) (horder : call.InOrder now)
    (hlive : (call.after now).toInt < entry.timestamp.toInt + 2000) :
    (m.step call).recentRequests (dedupKey client.text id) = some entry := by
  -- the age of the entry at a reading of the clock during the call
  have hage : ∀ reading : Int64, now ≤ reading → reading ≤ call.after now →
      reading - entry.timestamp < dedupWindowMs := by
    intro reading hfrom hto
    rw [Int64.lt_iff_toInt_lt, Int64.toInt_sub_of_le _ _ hnonneg (Int64.le_trans hle hfrom),
      show dedupWindowMs.toInt = 2000 from rfl]
    have hto' := Int64.le_iff_toInt_le.mp hto
    omega
  obtain hsame | ⟨times, rfl, hcached, -⟩ | ⟨cleanNow, dedupNow, other, rfl, hother, hold, -⟩ :=
    m.recentRequests_step call client id
  · rw [hsame, hentry]
  · have hrecent := hage times.start horder.1 (Int64.le_trans horder.2.1 horder.2.2)
    simp [cached?_some, hentry, hrecent] at hcached
  · cases hother.symm.trans hentry
    have hrecent := hage dedupNow horder.le_after (Int64.le_refl _)
    rw [gt_iff_lt, Int64.lt_iff_toInt_lt] at hold
    rw [Int64.lt_iff_toInt_lt] at hrecent
    omega

theorem recentRequests_run_of_live {now : Int64}
    (hentry : m.recentRequests (dedupKey client.text id) = some entry)
    (hnonneg : 0 ≤ entry.timestamp) (hle : entry.timestamp ≤ now) (hclock : ClockFrom now calls)
    (hlive : (lastReading now calls).toInt < entry.timestamp.toInt + 2000) :
    (m.run calls).recentRequests (dedupKey client.text id) = some entry := by
  induction calls generalizing m now with
  | nil => exact hentry
  | cons call calls ih =>
    obtain ⟨horder, hrest⟩ := hclock
    have hlast := Int64.le_iff_toInt_le.mp (le_lastReading hrest)
    refine ih (recentRequests_step_of_live hentry hnonneg hle horder ?_)
      (Int64.le_trans hle horder.le_after) hrest hlive
    exact lt_of_le_of_lt hlast hlive

theorem recentRequests_of_evaluation {times : CallTimes} {accepted : Bool}
    (h : m.evaluation? (.request client (some id) times) = some ⟨client, times.judge, accepted⟩) :
    (m.step (.request client (some id) times)).recentRequests (dedupKey client.text id) =
      some ⟨times.finish, accepted⟩ := by
  cases hcached : m.cached? times.start client.text (some id) with
  | some answer => simp [evaluation?, hcached] at h
  | none =>
    simp only [evaluation?, hcached, shouldAcceptRequest_of_not_cached hcached,
      Option.some.injEq, Evaluation.mk.injEq, true_and] at h
    simp [step, shouldAcceptRequest_of_not_cached hcached, remember, h]

section

variable {calls : List LimiterCall} {now : Int64} {accepted : Bool}

/-- An answer from the duplicate cache was given less than two seconds ago. -/
theorem judgedAt_of_cached? (hclock : ClockFrom 0 calls)
    (h : (empty.run calls).cached? now client.text (some id) = some accepted) :
    ∃ finish, JudgedAt calls client id accepted finish ∧ now.toInt < finish.toInt + 2000 := by
  rw [cached?_some] at h
  obtain ⟨entry, hentry, hanswer⟩ := Option.bind_eq_some_iff.mp h
  split_ifs at hanswer with hrecent
  obtain ⟨earlier, times, later, rfl, hjudged, hfinish⟩ := judgedAt_of_recentRequests hentry
  rw [Option.some.inj hanswer] at hjudged
  refine ⟨_, ⟨earlier, times, later, rfl, hjudged, hfinish⟩, ?_⟩
  -- an entry that were two seconds old would not be used
  by_contra hold
  obtain ⟨hearlier, horder, -⟩ := clockFrom_append.mp hclock
  have hnonneg : 0 ≤ times.finish := Int64.le_trans (le_lastReading hearlier) horder.le_after
  rw [← hfinish] at hrecent hold
  have hexpired : ¬ now - (DeduplicationEntry.mk times.finish accepted).timestamp <
      dedupWindowMs :=
    DeduplicationEntry.expired hnonneg (not_lt.mp hold)
  exact hexpired hrecent

/-- And what was judged less than two seconds ago is answered from the cache. -/
theorem cached?_of_judgedAt (hclock : ClockFrom 0 calls) (hnow : lastReading 0 calls ≤ now)
    {finish : Int64} (hjudged : JudgedAt calls client id accepted finish)
    (hlive : now.toInt < finish.toInt + 2000) :
    (empty.run calls).cached? now client.text (some id) = some accepted := by
  obtain ⟨earlier, times, later, rfl, hjudged, rfl⟩ := hjudged
  obtain ⟨hearlier, horder, hlater⟩ := clockFrom_append.mp hclock
  have hnonneg : 0 ≤ times.finish := Int64.le_trans (le_lastReading hearlier) horder.le_after
  have hlast : lastReading times.finish later ≤ now := by
    rw [lastReading, List.foldl_append] at hnow
    exact hnow
  have hle : times.finish ≤ now := Int64.le_trans (le_lastReading hlater) hlast
  have hkept : (empty.run (earlier ++ .request client (some id) times :: later)).recentRequests
      (dedupKey client.text id) = some ⟨times.finish, accepted⟩ := by
    rw [run_append, run_cons]
    refine recentRequests_run_of_live (recentRequests_of_evaluation hjudged) hnonneg
      (Int64.le_refl _) hlater ?_
    exact lt_of_le_of_lt (Int64.le_iff_toInt_le.mp hlast) hlive
  have hrecent : now - times.finish < dedupWindowMs := by
    rw [Int64.lt_iff_toInt_lt, Int64.toInt_sub_of_le _ _ hnonneg hle,
      show dedupWindowMs.toInt = 2000 from rfl]
    omega
  simp [cached?_some, hkept, hrecent]

end

/-! ## The first request after a reset -/

/-- The first request after a reset is accepted unless the duplicate cache has a rejection for
it; while the clock does not go back, that is one of a request of the client with this
identifier, judged within the last two seconds. -/
theorem accepted_after_reset_iff (before between : List LimiterCall) (client : ClientKey)
    (identifier : Option String) (times : CallTimes)
    (hfirst : ∀ call ∈ between, call.asks client = false) :
    (((empty.run (before ++ .reset client :: between)).shouldAcceptRequest times client.text
        identifier).1 = true ↔
      (empty.run (before ++ .reset client :: between)).cached? times.start client.text
        identifier ≠ some false) ∧
    (ClockFrom 0 (before ++ .reset client :: between ++ [.request client identifier times]) →
      (((empty.run (before ++ .reset client :: between)).shouldAcceptRequest times client.text
          identifier).1 = true ↔
        ¬ ∃ id finish, identifier = some id ∧ JudgedAt before client id false finish ∧
          times.start.toInt < finish.toInt + 2000)) := by
  have haccepted := accepted_iff_of_no_backoff times identifier
    (clientBackoffs_after_reset before hfirst)
  refine ⟨haccepted, fun hclock ↦ ?_⟩
  obtain ⟨hhistory, horder, -⟩ := clockFrom_append.mp hclock
  rw [haccepted, not_iff_not]
  cases identifier with
  | none => simp [cached?]
  | some id =>
    constructor
    · intro hrejected
      obtain ⟨finish, hjudged, hlive⟩ := judgedAt_of_cached? hhistory hrejected
      exact ⟨id, finish, rfl, hjudged.before hfirst, hlive⟩
    · rintro ⟨other, finish, hid, hjudged, hlive⟩
      cases hid
      exact cached?_of_judgedAt hhistory horder.1 (hjudged.append _) hlive

def busyClient : ClientKey := ⟨"c1", by simp⟩

/-- A burst, of which the last request is rejected. -/
def rejectedBurst : List LimiterCall :=
  [.request busyClient (some "1") ⟨0, 0, 0⟩, .request busyClient none ⟨100, 100, 100⟩,
    .request busyClient (some "2") ⟨200, 200, 200⟩,
    .request busyClient (some "3") ⟨300, 301, 302⟩]

/-- The rejected request, sent again after the reset, is rejected from the cache. -/
theorem rejected_after_reset :
    ((empty.run (rejectedBurst ++ [.reset busyClient])).shouldAcceptRequest ⟨400, 400, 400⟩
      busyClient.text (some "3")).1 = false := by decide +kernel

/-- A request the client has not sent before is accepted, and two seconds later so is the one
that was rejected. -/
theorem accepted_after_reset_iff_burst :
    ((empty.run (rejectedBurst ++ [.reset busyClient])).shouldAcceptRequest ⟨400, 400, 400⟩
        busyClient.text (some "4")).1 = true ∧
      ((empty.run (rejectedBurst ++ [.reset busyClient])).shouldAcceptRequest
        ⟨2302, 2302, 2302⟩ busyClient.text (some "3")).1 = true :=
  ⟨(accepted_after_reset_iff rejectedBurst [] busyClient (some "4") ⟨400, 400, 400⟩ nofun).1.mpr
      (by decide +kernel),
    (accepted_after_reset_iff rejectedBurst [] busyClient (some "3") ⟨2302, 2302, 2302⟩
      nofun).1.mpr (by decide +kernel)⟩

end LimiterMaps

end TapAuth.Phone
