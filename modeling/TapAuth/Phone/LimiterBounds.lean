import TapAuth.Phone.LimiterCalls

/-!
# Bounds on the runs of the rate limiter

How many requests of a client are judged and accepted in an interval
(`countP_evaluations_le`), and that a client who has been silent for five seconds is accepted
(`accepted_of_quiet`).

The bound is paid from the allowance of the client: until the interval begins nothing
counts, from the first request that does the allowance is at most what a client about whom
nothing is known would have, and after the end nothing counts again.  That a silent client
is accepted needs the duplicate cache to hold no answer for it; the answers it has
are from the client's own requests.
-/

namespace TapAuth.Phone

/-! ## Accepted requests in an interval -/

/-- The request is of the client, was accepted, and was judged between `a` and `b`. -/
def Evaluation.grantedTo (client : ClientKey) (a b : Int) (e : Evaluation) : Bool :=
  e.client = client && e.accepted && a ≤ e.time.toInt && e.time.toInt ≤ b

namespace LimiterMaps

/-- What the client can be granted before `b`, if it is not too late. -/
def budget (m : LimiterMaps) (now : Int64) (client : ClientKey) (b : Int) : Int :=
  max 0 (m.potential now client.text b)

variable {m : LimiterMaps} {now : Int64} {call : LimiterCall} {client : ClientKey} {b : Int}

theorem budget_nonneg : 0 ≤ m.budget now client b := le_max_left _ _

theorem budget_anti {later : Int64} (h : now ≤ later) :
    m.budget later client b ≤ m.budget now client b :=
  max_le_max le_rfl (Limiter.potential_anti rfl h b)

/-- A request that is judged is paid from what was left when it was. -/
theorem budget_of_evaluation {e : Evaluation} (a : Int) (hvalid : m.Valid now) (hnow : 0 ≤ now)
    (horder : call.InOrder now) (he : m.evaluation? call = some e)
    (haccepted : e.accepted = (assess e.time (m.clientBackoffs client.text)).1)
    (hjudged : (m.step call).clientBackoffs client.text =
      some (assess e.time (m.clientBackoffs client.text)).2) :
    (if e.grantedTo client a b then 1 else 0) + (m.step call).budget (call.after now) client b ≤
      m.budget e.time client b := by
  obtain ⟨hle, hafter⟩ := time_of_evaluation? he horder
  have hstates : ∀ s ∈ m.clientBackoffs client.text, s.Valid e.time :=
    fun s hs ↦ (hvalid _ s hs).mono hle
  have hpaid : accepts e.accepted + (m.step call).potential e.time client.text b ≤
      m.potential e.time client.text b := by
    rw [haccepted]
    exact Limiter.potential_assess b hstates hjudged
  have hlater : (m.step call).potential (call.after now) client.text b ≤
      (m.step call).potential e.time client.text b :=
    Limiter.potential_anti rfl hafter b
  unfold budget
  split_ifs with hgranted
  · -- it was judged before the end, so something was left then
    simp only [Evaluation.grantedTo, Bool.and_eq_true, decide_eq_true_eq] at hgranted
    obtain ⟨⟨⟨-, hyes⟩, -⟩, hend⟩ := hgranted
    have hleft : 0 ≤ (m.step call).potential e.time client.text b := by
      refine Limiter.potential_nonneg (fun s hs ↦ ?_) hend
      rw [hjudged] at hs
      cases hs
      exact assess_valid (Int64.le_trans hnow hle) hstates
    rw [hyes, accepts_true] at hpaid
    omega
  · have haccepts : 0 ≤ accepts e.accepted := by cases e.accepted <;> decide
    omega

/-- No other call adds to what the client can be granted. -/
theorem budget_step (hvalid : m.Valid now) (horder : call.InOrder now)
    (hreset : call.isReset = false)
    (hother : ∀ e, m.evaluation? call = some e → e.client ≠ client) :
    (m.step call).budget (call.after now) client b ≤ m.budget now client b := by
  obtain hsame | ⟨e, he, hclient, -⟩ | ⟨asker, rfl, -⟩ |
      ⟨cleanNow, dedupNow, s, rfl, hs, hold, hnone⟩ := m.clientBackoffs_step call client.text
  · exact max_le_max le_rfl (Limiter.potential_anti hsame horder.le_after b)
  · exact absurd (ClientKey.text_inj.mp hclient) (hother e he)
  · cases hreset
  · calc (m.step (.cleanup cleanNow dedupNow)).budget dedupNow client b
        ≤ (m.step (.cleanup cleanNow dedupNow)).budget cleanNow client b := budget_anti horder.2
      _ ≤ m.budget cleanNow client b :=
          max_le_max le_rfl (Limiter.potential_forgotten b hs
            ((hvalid _ s hs).mono horder.1) hold hnone)
      _ ≤ m.budget now client b := budget_anti horder.1

/-- The evaluations of a client from an instant on are paid from what is left then. -/
theorem countP_evaluations_le_budget {calls : List LimiterCall} (a : Int) (hvalid : m.Valid now)
    (hnow : 0 ≤ now) (hclock : ClockFrom now calls)
    (hreset : ∀ call ∈ calls, call.isReset = false) :
    ((m.evaluations calls).countP (·.grantedTo client a b) : Int) ≤ m.budget now client b := by
  induction calls generalizing m now with
  | nil => exact budget_nonneg
  | cons call calls ih =>
    obtain ⟨horder, hrest⟩ := hclock
    have htail := ih (hvalid.step hnow horder) (Int64.le_trans hnow horder.le_after) hrest
      fun c hc ↦ hreset c (List.mem_cons_of_mem _ hc)
    rw [evaluations, List.countP_append]
    by_cases hclient : ∃ e, m.evaluation? call = some e ∧ e.client = client
    · obtain ⟨e, he, rfl⟩ := hclient
      obtain ⟨haccepted, hjudged⟩ := judged_of_evaluation? he
      have hpaid := budget_of_evaluation (b := b) a hvalid hnow horder he haccepted hjudged
      have hearlier : m.budget e.time e.client b ≤ m.budget now e.client b :=
        budget_anti (time_of_evaluation? he horder).1
      rw [he, Option.toList_some, List.countP_singleton]
      split_ifs at hpaid ⊢ <;> omega
    · have hother : ∀ e, m.evaluation? call = some e → e.client ≠ client :=
        fun e he hsame ↦ hclient ⟨e, he, hsame⟩
      have hfirst : (m.evaluation? call).toList.countP (·.grantedTo client a b) = 0 := by
        rw [List.countP_eq_zero]
        intro e he
        simp [Evaluation.grantedTo, hother e (Option.mem_toList.mp he)]
      have hstep := budget_step (b := b) hvalid horder (hreset call List.mem_cons_self) hother
      omega

/-- The evaluations of an interval, wherever it begins. -/
theorem countP_evaluations_le {calls : List LimiterCall} {a : Int} (hab : a ≤ b)
    (hvalid : m.Valid now) (hnow : 0 ≤ now) (hclock : ClockFrom now calls)
    (hreset : ∀ call ∈ calls, call.isReset = false) :
    ((m.evaluations calls).countP (·.grantedTo client a b) : Int) ≤ 3 * ((b - a) / 1000 + 1) := by
  induction calls generalizing m now with
  | nil =>
    rw [evaluations, List.countP_nil]
    omega
  | cons call calls ih =>
    obtain ⟨horder, hrest⟩ := hclock
    have hvalid' := hvalid.step hnow horder
    have hnow' := Int64.le_trans hnow horder.le_after
    have hreset' : ∀ c ∈ calls, c.isReset = false :=
      fun c hc ↦ hreset c (List.mem_cons_of_mem _ hc)
    have htail := ih hvalid' hnow' hrest hreset'
    rw [evaluations, List.countP_append]
    by_cases hfirst : (m.evaluation? call).toList.countP (·.grantedTo client a b) = 0
    · omega
    · -- the first that counts: from here on the budget of the client pays
      obtain ⟨e, he, hgranted⟩ := List.countP_pos_iff.mp (Nat.pos_of_ne_zero hfirst)
      have he : m.evaluation? call = some e := Option.mem_toList.mp he
      have hparts := hgranted
      simp only [Evaluation.grantedTo, Bool.and_eq_true, decide_eq_true_eq] at hparts
      obtain ⟨⟨⟨rfl, -⟩, hbegin⟩, hend⟩ := hparts
      obtain ⟨haccepted, hjudged⟩ := judged_of_evaluation? he
      have hpaid := budget_of_evaluation (b := b) a hvalid hnow horder he haccepted hjudged
      have hbudget : (((m.step call).evaluations calls).countP (·.grantedTo e.client a b) : Int) ≤
          (m.step call).budget (call.after now) e.client b :=
        countP_evaluations_le_budget a hvalid' hnow' hrest hreset'
      have hfresh : m.budget e.time e.client b ≤ 3 * ((b - a) / 1000 + 1) := by
        refine max_le (by omega)
          ((Limiter.potential_le_freshAllowance _ _ _ b).trans ?_)
        unfold freshAllowance
        omega
      rw [if_pos hgranted] at hpaid
      rw [he, Option.toList_some, List.countP_singleton, if_pos hgranted]
      omega

end LimiterMaps

/-! ## A client who has been silent -/

/-- The call is not a request of the client, or it was finished at `T`. -/
def LimiterCall.EndsBy (client : ClientKey) (T : Int) : LimiterCall → Prop
  | .request asker _ times => asker = client → times.finish.toInt ≤ T
  | .reset _ => True
  | .cleanup _ _ => True

instance LimiterCall.EndsBy.decidable (client : ClientKey) (T : Int) :
    ∀ call : LimiterCall, Decidable (call.EndsBy client T)
  | .request asker _ times => inferInstanceAs (Decidable (asker = client → times.finish.toInt ≤ T))
  | .reset _ => instDecidableTrue
  | .cleanup _ _ => instDecidableTrue

namespace LimiterMaps

/-- What is stored of the client is from `T` or before. -/
structure Quiet (m : LimiterMaps) (client : ClientKey) (T : Int) : Prop where
  backoff : ∀ state, m.clientBackoffs client.text = some state → state.lastRequestTime.toInt ≤ T
  recent : ∀ id entry, m.recentRequests (dedupKey client.text id) = some entry →
    0 ≤ entry.timestamp ∧ entry.timestamp.toInt ≤ T

variable {m : LimiterMaps} {now : Int64} {call : LimiterCall} {client : ClientKey} {T : Int}

/-- An evaluation is made before its call ends. -/
theorem time_le_of_endsBy {e : Evaluation} (he : m.evaluation? call = some e)
    (horder : call.InOrder now) (hends : call.EndsBy e.client T) : e.time.toInt ≤ T := by
  have hafter := Int64.le_iff_toInt_le.mp (time_of_evaluation? he horder).2
  cases call with
  | request asker identifier times =>
    cases hcached : m.cached? times.start asker.text identifier with
    | some answer => simp [evaluation?, hcached] at he
    | none =>
      simp only [evaluation?, hcached, Option.some.injEq] at he
      subst he
      exact hafter.trans (hends rfl)
  | reset | cleanup => cases he

theorem Quiet.step (h : m.Quiet client T) (hnow : 0 ≤ now) (horder : call.InOrder now)
    (hends : call.EndsBy client T) : (m.step call).Quiet client T := by
  constructor
  · intro state hstate
    obtain hold | ⟨e, he, hclient, rfl⟩ := clientBackoffs_of_step hstate
    · exact h.backoff state hold
    · obtain rfl := ClientKey.text_inj.mp hclient
      rw [lastRequestTime_assess]
      exact time_le_of_endsBy he horder hends
  · intro id entry hentry
    obtain hold | ⟨times, rfl, -, rfl⟩ := recentRequests_of_step hentry
    · exact h.recent id entry hold
    · exact ⟨Int64.le_trans hnow horder.le_after, hends rfl⟩

/-- Five seconds after all that is stored of a client, a request of the client is accepted. -/
theorem accepted_of_quiet {times : CallTimes} {identifier : Option String}
    (hquiet : m.Quiet client (times.start.toInt - 5000)) (hvalid : m.Valid times.start)
    (hjudge : times.start ≤ times.judge) :
    (m.shouldAcceptRequest times client.text identifier).1 = true := by
  have hcached : m.cached? times.start client.text identifier = none := by
    cases identifier with
    | none => rfl
    | some id =>
      rw [cached?_some]
      cases hentry : m.recentRequests (dedupKey client.text id) with
      | none => rfl
      | some entry =>
        obtain ⟨hnonneg, hold⟩ := hquiet.recent id entry hentry
        have hexpired : ¬ times.start - entry.timestamp < dedupWindowMs :=
          DeduplicationEntry.expired hnonneg (by omega)
        simp [hexpired]
  rw [shouldAcceptRequest_of_not_cached hcached]
  cases hstate : m.clientBackoffs client.text with
  | none => rfl
  | some state =>
    have hlast := hquiet.backoff state hstate
    have hjudge' := Int64.le_iff_toInt_le.mp hjudge
    have hwaited : ¬ times.judge - state.lastRequestTime < state.backoffMs :=
      ((hvalid _ _ hstate).mono hjudge).waited (by omega)
    simp only [assess, if_neg hwaited]
    split_ifs <;> rfl

end LimiterMaps

/-! ## Whole runs -/

namespace LimiterMaps

variable {m : LimiterMaps} {now : Int64} {calls : List LimiterCall}

theorem Quiet.run {client : ClientKey} {T : Int} (h : m.Quiet client T) (hnow : 0 ≤ now)
    (hclock : ClockFrom now calls) (hends : ∀ call ∈ calls, call.EndsBy client T) :
    (m.run calls).Quiet client T := by
  induction calls generalizing m now with
  | nil => exact h
  | cons call calls ih =>
    obtain ⟨horder, hrest⟩ := hclock
    exact ih (h.step hnow horder (hends call List.mem_cons_self))
      (Int64.le_trans hnow horder.le_after) hrest fun c hc ↦ hends c (List.mem_cons_of_mem _ hc)

theorem quiet_empty (client : ClientKey) (T : Int) : empty.Quiet client T :=
  ⟨fun _ h ↦ (nomatch h), fun _ _ h ↦ (nomatch h)⟩

/-- A run without `resetClient`: how many requests of a client are judged and accepted in an
interval of `L` milliseconds, what is stored, and who is accepted in any case. -/
theorem limits_of_run (calls : List LimiterCall) (hclock : ClockFrom 0 calls)
    (hreset : ∀ call ∈ calls, call.isReset = false) (client : ClientKey) :
    (∀ (a : Int) (L : Nat),
      (empty.evaluations calls).countP (·.grantedTo client a (a + L)) ≤ 3 * (L / 1000 + 2)) ∧
    (∀ earlier later, calls = earlier ++ later → ∀ key state,
      (empty.run earlier).clientBackoffs key = some state →
        1 ≤ state.backoffSeconds ∧ state.backoffSeconds ≤ 5) ∧
    (∀ earlier identifier times later,
      calls = earlier ++ .request client identifier times :: later →
      (∀ call ∈ earlier, call.EndsBy client (times.start.toInt - 5000)) →
        ((empty.run earlier).shouldAcceptRequest times client.text identifier).1 = true) := by
  refine ⟨fun a L ↦ ?_, ?_, ?_⟩
  · have hcount : ((empty.evaluations calls).countP (·.grantedTo client a (a + L)) : Int) ≤
        3 * ((a + L - a) / 1000 + 1) :=
      countP_evaluations_le (by omega) (valid_empty 0) (by decide) hclock hreset
    omega
  · rintro earlier later rfl key state hstate
    have hvalid := (valid_empty 0).run (by decide) (clockFrom_append.mp hclock).1
    exact (hvalid key state hstate).backoff
  · rintro earlier identifier times later rfl hends
    obtain ⟨hearlier, horder, -⟩ := clockFrom_append.mp hclock
    have hvalid := (valid_empty 0).run (by decide) hearlier
    exact accepted_of_quiet ((quiet_empty client _).run (by decide) hearlier hends)
      (hvalid.mono horder.1) horder.2.1

def sampleClient : ClientKey := ⟨"ab", by simp⟩

/-- Four requests in a burst, a copy of the last, and a clean-up. -/
def burstCalls : List LimiterCall :=
  [.request sampleClient (some "1") ⟨0, 0, 1⟩, .request sampleClient none ⟨100, 101, 101⟩,
    .request sampleClient (some "2") ⟨200, 200, 200⟩,
    .request sampleClient (some "3") ⟨300, 301, 302⟩,
    .request sampleClient (some "3") ⟨400, 400, 400⟩, .cleanup 5000 5001]

theorem limits_of_run_burst :
    (empty.evaluations burstCalls).map (fun e ↦ (e.time, e.accepted)) =
        [(0, true), (101, true), (200, true), (301, false)] ∧
      (empty.evaluations (burstCalls ++
          [.request sampleClient (some "3") ⟨5400, 5400, 5400⟩])).countP
        (·.grantedTo sampleClient 0 1000) ≤ 9 ∧
      ((empty.run burstCalls).shouldAcceptRequest ⟨5400, 5400, 5400⟩ sampleClient.text
        (some "3")).1 = true := by
  have hlimits := limits_of_run (burstCalls ++
      [.request sampleClient (some "3") ⟨5400, 5400, 5400⟩])
    (by decide +kernel) (by decide +kernel) sampleClient
  exact ⟨by decide +kernel, hlimits.1 0 1000, hlimits.2.2 _ _ _ [] rfl (by decide +kernel)⟩

end LimiterMaps

end TapAuth.Phone
