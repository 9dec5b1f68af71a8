import TapAuth.Phone.AuthRequestManager
import TapAuth.Phone.RequestInterleaving

/-!
# How long a request stays pending

A submission schedules the clean-up that cancels the request when its session is over.
What is left of the session is counted from the timestamp that the handler hands over,
and nothing is scheduled when nothing is left.

The UDP service hands the timestamp over in milliseconds, the BLE service in seconds, and
`submitRequest` takes both for milliseconds.  `leavesInTime_iff_firesInTime` says exactly
when an unanswered request leaves in time: what is left, counted in `Long` arithmetic from
the timestamp as it was handed over, is positive and not more than what is really left.  For
ordinary values (`firesInTime_iff`) this is that the session is not over yet and, over BLE,
that the session timeout is about as long as the time since 1970.
-/

namespace TapAuth.Phone

open Shared AuthRequestManager

/-! ## The submission of a request -/

/-- The timestamp as the services hand it over. -/
def Job.submittedTimestamp (job : Job) : Int64 :=
  match job.incoming.transport with
  | .udp => job.request.timestampUnixSeconds * 1000
  | .ble => job.request.timestampUnixSeconds

/-- The call of `submitRequest` for a request that passed the checks. -/
def Job.submission (job : Job) (requestId address : String)
    (sessionTimeoutSeconds currentTimeMillis : Int64) (posted : Bool) : Submission where
  authRequest := {
    requestId
    deviceId := job.incoming.device.deviceId
    deviceName := job.incoming.device.displayName
    username := job.request.username
    hostname := job.request.hostname
    challenge := job.request.challenge
    timestamp := job.submittedTimestamp
    transportType := job.incoming.transport }
  bleDeviceAddress :=
    match job.incoming.transport with
    | .udp => none
    | .ble => some address
  sessionTimeoutSeconds
  currentTimeMillis
  posted

/-! ## Leaving in time -/

/-- The event neither answers nor cancels the request. -/
def Unanswered (authRequest : AuthRequest) (bleDeviceAddress : Option String)
    (_ : AuthRequestManager) : ManagerEvent → Prop
  | .handleResponse response => response.requestId ≠ authRequest.requestId
  | .cancelRequest requestId => requestId ≠ authRequest.requestId
  | .cancelRequestsByChallenge challenge => challenge ≠ authRequest.challenge
  | .cancelRequestsByBleDisconnection address => bleDeviceAddress ≠ some address
  | _ => True

/-- Time does not pass over a delay that the request waits for. -/
def Punctual (requestId : String) (m : AuthRequestManager) : ManagerEvent → Prop
  | .tick ms => ∀ due, (requestId, due) ∈ m.cleanups → m.elapsedRealtime + ms ≤ due
  | _ => True

/-- When the session of a request is over, with the slack, in milliseconds. -/
def sessionEnd (job : Job) (sessionTimeoutSeconds : Int64) : Int :=
  1000 * job.request.timestampUnixSeconds.toInt + 1000 * sessionTimeoutSeconds.toInt + 250

/-- However the manager goes on after the submission, as long as nobody answers or cancels
the request it is not pending once its session is over.  If the session was over before,
it is not pending once any time has passed. -/
def LeavesInTime (m : AuthRequestManager) (S : Submission) (sessionEnd : Int) : Prop :=
  ∀ events m', manager.exec (m.submitRequest S) events = some m' →
    manager.Along FreshId (m.submitRequest S) events →
    manager.Along (Unanswered S.authRequest S.bleDeviceAddress) (m.submitRequest S) events →
    manager.Along (Punctual S.authRequest.requestId) (m.submitRequest S) events →
    max S.currentTimeMillis.toInt sessionEnd <
      S.currentTimeMillis.toInt + (m'.elapsedRealtime - m.elapsedRealtime) →
    m'.pendingRequests.lookup S.authRequest.requestId = none

/-- The milliseconds that the handed over timestamp stands for. -/
def handedOver : TransportType → Int → Int
  | .udp, timestamp => 1000 * timestamp
  | .ble, timestamp => timestamp

/-- What is left of the session, counted from the timestamp as it was handed over and
wrapped to a `Long`. -/
def leftOfSession (transport : TransportType) (now timestamp timeout : Int64) : Int :=
  (1000 * timeout.toInt + handedOver transport timestamp.toInt - now.toInt).bmod (2 ^ 64)

/-- Something is left, and it is not more than what is really left, unless the slack wraps it
once more. -/
def FiresInTime (transport : TransportType) (now timestamp timeout : Int64) : Prop :=
  0 < leftOfSession transport now timestamp timeout ∧
    (leftOfSession transport now timestamp timeout + 250 < 2 ^ 63 →
      leftOfSession transport now timestamp timeout ≤
        1000 * timestamp.toInt + 1000 * timeout.toInt - now.toInt)

/-- For values that do not wrap, and a time after 1970: the session is not over, its seconds
counted as milliseconds over BLE. -/
theorem firesInTime_iff {transport : TransportType} {now timestamp timeout : Int64}
    (hpast : 0 ≤ timestamp.toInt)
    (hlow : -2 ^ 63 ≤ 1000 * timeout.toInt + handedOver transport timestamp.toInt - now.toInt)
    (hhigh : 1000 * timeout.toInt + handedOver transport timestamp.toInt - now.toInt < 2 ^ 63) :
    FiresInTime transport now timestamp timeout ↔
      now.toInt < handedOver transport timestamp.toInt + 1000 * timeout.toInt := by
  have hleft : leftOfSession transport now timestamp timeout =
      1000 * timeout.toInt + handedOver transport timestamp.toInt - now.toInt :=
    Int.bmod_eq_of_le_mul_two (by omega) (by omega)
  have hhanded : handedOver transport timestamp.toInt ≤ 1000 * timestamp.toInt := by
    cases transport <;> simp only [handedOver] <;> omega
  rw [FiresInTime, hleft]
  omega

/-! ## What is scheduled -/

theorem toInt_remaining (job : Job) (now timeout : Int64) :
    (timeout * 1000 - (now - job.submittedTimestamp)).toInt =
      leftOfSession job.incoming.transport now job.request.timestampUnixSeconds timeout := by
  have hhanded : job.submittedTimestamp.toInt =
      (handedOver job.incoming.transport job.request.timestampUnixSeconds.toInt).bmod (2 ^ 64) := by
    unfold Job.submittedTimestamp handedOver
    cases job.incoming.transport with
    | udp =>
      dsimp only
      rw [Int64.toInt_mul, mul_comm]
      rfl
    | ble => exact (Int64.toInt_bmod_size _).symm
  rw [Int64.toInt_sub, Int64.toInt_mul, Int64.toInt_sub, hhanded, leftOfSession]
  simp only [Int.sub_bmod_bmod, Int.bmod_sub_bmod]
  congr 1
  rw [show (1000 : Int64).toInt = 1000 from rfl]
  omega

theorem toInt_remainingTimeout (job : Job) (now timeout : Int64) :
    (remainingTimeout timeout now job.submittedTimestamp).toInt =
      max 0 (leftOfSession job.incoming.transport now job.request.timestampUnixSeconds
        timeout) := by
  rw [← toInt_remaining]
  simp only [remainingTimeout]
  split
  case isTrue h =>
    rw [Int64.lt_iff_toInt_lt] at h
    exact (max_eq_left h.le).symm
  case isFalse h =>
    rw [Int64.lt_iff_toInt_lt] at h
    exact (max_eq_right (not_lt.mp h)).symm

/-- What is scheduled waits for what is left and the slack, or not at all if their sum
wraps. -/
theorem delayMs_remainingTimeout {job : Job} {now timeout : Int64} {left : Int}
    (hleft : leftOfSession job.incoming.transport now job.request.timestampUnixSeconds timeout =
      left)
    (hpos : 0 < left) :
    (delayMs (remainingTimeout timeout now job.submittedTimestamp + 250) : Int) =
      if left + 250 < 2 ^ 63 then left + 250 else 0 := by
  have hremaining := toInt_remainingTimeout job now timeout
  have hbound := (remainingTimeout timeout now job.submittedTimestamp).toInt_lt
  rw [hleft, max_eq_right hpos.le] at hremaining
  rw [hremaining] at hbound
  have hsum : (remainingTimeout timeout now job.submittedTimestamp + 250).toInt =
      if left + 250 < 2 ^ 63 then left + 250 else left + 250 - 2 ^ 64 := by
    rw [Int64.toInt_add, hremaining, show (250 : Int64).toInt = 250 from rfl, Int.bmod_def]
    split_ifs <;> omega
  rw [delayMs, hsum]
  split_ifs <;> omega

section

variable {m : AuthRequestManager} {S : Submission}

theorem lookup_scheduleCleanup (requestId : String) :
    (m.scheduleCleanup S).pendingRequests.lookup requestId =
      m.pendingRequests.lookup requestId := by
  obtain ⟨_, h⟩ := scheduleCleanup_eq (m := m) S
  rw [h]

/-- A submission that is not dropped leaves the request pending, and its clean-up scheduled
if something is left. -/
theorem submitRequest_stores (h : (m.isChallengeCancelled S.authRequest.challenge).1 = false) :
    (m.submitRequest S).pendingRequests.lookup S.authRequest.requestId =
        some ⟨S.authRequest, S.bleDeviceAddress⟩ ∧
      (m.submitRequest S).cleanups = (m.scheduleCleanup S).cleanups := by
  obtain ⟨cancelled, hsubmit⟩ := submitRequest_eq m S
  rw [h, if_neg Bool.false_ne_true] at hsubmit
  rw [hsubmit]
  refine ⟨by rw [lookup_scheduleCleanup, lookup_store, if_pos rfl], ?_⟩
  have hcleanups : ∀ m' : AuthRequestManager, m'.cleanups = m.cleanups →
      m'.elapsedRealtime = m.elapsedRealtime →
      (m'.scheduleCleanup S).cleanups = (m.scheduleCleanup S).cleanups := by
    intro m' hsame htime
    simp only [scheduleCleanup]
    split <;> simp [hsame, htime]
  apply hcleanups <;> cases S.bleDeviceAddress <;> rfl

theorem scheduleCleanup_frame (m : AuthRequestManager) (S : Submission) :
    (m.scheduleCleanup S).elapsedRealtime = m.elapsedRealtime ∧
      (m.scheduleCleanup S).submitted = m.submitted := by
  obtain ⟨_, h⟩ := scheduleCleanup_eq S (m := m)
  rw [h]
  exact ⟨rfl, rfl⟩

theorem submitRequest_elapsedRealtime :
    (m.submitRequest S).elapsedRealtime = m.elapsedRealtime := by
  obtain ⟨cancelled, hsubmit⟩ := submitRequest_eq m S
  rw [hsubmit]
  split
  case isTrue => rfl
  case isFalse =>
    rw [(scheduleCleanup_frame _ S).1]
    cases S.bleDeviceAddress <;> rfl

theorem submitRequest_submitted :
    (m.submitRequest S).submitted = S.authRequest.requestId :: m.submitted := by
  obtain ⟨cancelled, hsubmit⟩ := submitRequest_eq m S
  rw [hsubmit]
  split
  case isTrue => rfl
  case isFalse =>
    rw [(scheduleCleanup_frame _ S).2, store_submitted]

/-- A submission schedules at most its own clean-up, and leaves the others' requests alone. -/
theorem submitRequest_frame {requestId : String} (hid : requestId ≠ S.authRequest.requestId) :
    (m.submitRequest S).pendingRequests.lookup requestId = m.pendingRequests.lookup requestId ∧
      ∀ due, (requestId, due) ∈ (m.submitRequest S).cleanups ↔ (requestId, due) ∈ m.cleanups := by
  obtain ⟨cancelled, hsubmit⟩ := submitRequest_eq m S
  rw [hsubmit]
  split
  case isTrue => exact ⟨rfl, fun due ↦ Iff.rfl⟩
  case isFalse =>
    refine ⟨by rw [lookup_scheduleCleanup, lookup_store, if_neg hid], fun due ↦ ?_⟩
    have hcleanups : ∀ m' : AuthRequestManager,
        (requestId, due) ∈ (m'.scheduleCleanup S).cleanups ↔ (requestId, due) ∈ m'.cleanups := by
      intro m'
      simp only [scheduleCleanup]
      split <;> simp [hid]
    rw [hcleanups]
    cases S.bleDeviceAddress <;> rfl

end

/-! ## Waiting for the clean-up -/

section

variable {m m' : AuthRequestManager} {requestId : String} {due : Nat}

/-- What an operation that only removes requests leaves alone. -/
structure Removes (m m' : AuthRequestManager) : Prop where
  lookup : ∀ requestId, (m'.pendingRequests.lookup requestId).isSome →
    (m.pendingRequests.lookup requestId).isSome
  cleanups : m'.cleanups = m.cleanups
  elapsedRealtime : m'.elapsedRealtime = m.elapsedRealtime
  submitted : m'.submitted = m.submitted

variable {unindex : AuthRequestManager → String → PendingAuthRequest → AuthRequestManager}

theorem removes_settle (hun : OnlyIndexes unindex) (response : AuthResponse) :
    Removes m (m.settle unindex response) := by
  have hkept : ∀ requestId,
      ((m.settle unindex response).pendingRequests.lookup requestId).isSome →
      (m.pendingRequests.lookup requestId).isSome := by
    intro requestId hpending
    rw [lookup_settle hun] at hpending
    split at hpending
    case isTrue => cases hpending
    case isFalse => exact hpending
  cases hlookup : m.pendingRequests.lookup response.requestId with
  | none =>
    rw [settle_of_not_pending hlookup]
    exact ⟨fun _ h ↦ h, rfl, rfl, rfl⟩
  | some pending =>
    obtain ⟨_, _, hsettle⟩ := settle_of_pending hun hlookup
    exact ⟨hkept, by rw [hsettle], by rw [hsettle], by rw [hsettle]⟩

theorem Removes.trans {n : AuthRequestManager} (h : Removes m m') (h' : Removes m' n) :
    Removes m n where
  lookup requestId hpending := h.lookup requestId (h'.lookup requestId hpending)
  cleanups := h'.cleanups.trans h.cleanups
  elapsedRealtime := h'.elapsedRealtime.trans h.elapsedRealtime
  submitted := h'.submitted.trans h.submitted

theorem removes_cancelEach (hun : OnlyIndexes unindex) (ids : List String) :
    Removes m (cancelEach unindex m ids) :=
  cancelEach_rule (Q := Removes m) (fun _ _ _ h _ ↦ h.trans (removes_settle hun _))
    ⟨fun _ h ↦ h, rfl, rfl, rfl⟩ ids

theorem removes_cancelRequestsByChallenge (challenge : Bytes) :
    Removes m (m.cancelRequestsByChallenge challenge).2 := by
  have h := removes_cancelEach onlyIndexes_unindexBle (m.idsToCancel challenge)
    (m := { m with challengeIndex := m.challengeIndex.drop challenge })
  exact ⟨h.lookup, h.cleanups, h.elapsedRealtime, h.submitted⟩

theorem removes_cancelRequestsByBleDisconnection (address : String) :
    Removes m (m.cancelRequestsByBleDisconnection address).2 := by
  unfold cancelRequestsByBleDisconnection
  cases m.bleDeviceRequests address with
  | none => exact ⟨fun _ h ↦ h, rfl, rfl, rfl⟩
  | some ids =>
    have h := removes_cancelEach onlyIndexes_unindexChallenge ids
      (m := { m with bleDeviceRequests := m.bleDeviceRequests.drop address })
    dsimp only
    split
    case isTrue => exact ⟨fun _ h ↦ h, rfl, rfl, rfl⟩
    case isFalse => exact ⟨h.lookup, h.cleanups, h.elapsedRealtime, h.submitted⟩

/-- A clean-up that runs removes its request, and is then no longer scheduled. -/
theorem lookup_timeoutCleanup (requestId first : String) :
    (m.timeoutCleanup first).pendingRequests.lookup requestId =
        (if requestId = first then none else m.pendingRequests.lookup requestId) ∧
      Removes m (m.timeoutCleanup first) := by
  unfold timeoutCleanup
  split
  case isTrue => exact ⟨lookup_settle onlyIndexes_both _ _, removes_settle onlyIndexes_both _⟩
  case isFalse hnone =>
    refine ⟨?_, fun _ h ↦ h, rfl, rfl, rfl⟩
    split
    case isTrue hid => rw [hid, Option.not_isSome_iff_eq_none.mp hnone]
    case isFalse => rfl

/-- What a step can do, as far as requests stay or go. -/
inductive ManagerStep (m : AuthRequestManager) : ManagerEvent → AuthRequestManager → Prop
  | tick (ms : Nat) :
      ManagerStep m (.tick ms) { m with elapsedRealtime := m.elapsedRealtime + ms }
  | submit (S : Submission) : ManagerStep m (.submitRequest S) (m.submitRequest S)
  | remove {event : ManagerEvent} {m' : AuthRequestManager} (hremoves : Removes m m') :
      ManagerStep m event m'
  | cleanup (first : String) (time : Nat) :
      ManagerStep m (.cleanup first time)
        ({ m with cleanups := m.cleanups.erase (first, time) }.timeoutCleanup first)

variable {event : ManagerEvent} {events : List ManagerEvent}

theorem managerStep_of_next (hnext : manager.next m event = some m') :
    ManagerStep m event m' := by
  cases event with
  | tick ms =>
    cases hnext
    exact .tick ms
  | submitRequest S =>
    cases hnext
    exact .submit S
  | handleResponse response =>
    cases hnext
    exact .remove (removes_settle onlyIndexes_both response)
  | cancelRequest first =>
    cases hnext
    exact .remove (removes_settle onlyIndexes_both (cancelledResponse first))
  | cancelRequestsByChallenge challenge =>
    cases hnext
    exact .remove (removes_cancelRequestsByChallenge challenge)
  | cancelRequestsByBleDisconnection address =>
    cases hnext
    exact .remove (removes_cancelRequestsByBleDisconnection address)
  | cleanup first time =>
    simp only [manager] at hnext
    split at hnext
    case isFalse => cases hnext
    case isTrue =>
      cases hnext
      exact .cleanup first time

/-- A submitted request is pending after a step only if it was before, and then its clean-up
is still to come if it was. -/
theorem pending_step (hsubmitted : requestId ∈ m.submitted) (hfresh : FreshId m event)
    (hpunctual : Punctual requestId m event) (hnext : manager.next m event = some m') :
    requestId ∈ m'.submitted ∧
      ((m'.pendingRequests.lookup requestId).isSome →
        (m.pendingRequests.lookup requestId).isSome ∧
          ∀ due, (requestId, due) ∈ m.cleanups ∧ m.elapsedRealtime ≤ due →
            (requestId, due) ∈ m'.cleanups ∧ m'.elapsedRealtime ≤ due) := by
  cases managerStep_of_next hnext with
  | tick ms =>
    exact ⟨hsubmitted, fun hpending ↦ ⟨hpending, fun due h ↦ ⟨h.1, hpunctual due h.1⟩⟩⟩
  | submit S =>
    have hid : requestId ≠ S.authRequest.requestId := fun hid ↦ hfresh (hid ▸ hsubmitted)
    obtain ⟨hlookup, hcleanups⟩ := submitRequest_frame (m := m) hid
    rw [submitRequest_submitted, hlookup, submitRequest_elapsedRealtime]
    refine ⟨List.mem_cons_of_mem _ hsubmitted, fun hpending ↦ ⟨hpending, fun due h ↦ ?_⟩⟩
    exact ⟨(hcleanups due).mpr h.1, h.2⟩
  | remove h =>
    rw [h.submitted, h.cleanups, h.elapsedRealtime]
    exact ⟨hsubmitted, fun hpending ↦ ⟨h.lookup _ hpending, fun _ h ↦ h⟩⟩
  | cleanup first time =>
    obtain ⟨hlookup, hfirst⟩ := lookup_timeoutCleanup
      (m := { m with cleanups := m.cleanups.erase (first, time) }) requestId first
    rw [hfirst.submitted, hlookup, hfirst.cleanups, hfirst.elapsedRealtime]
    refine ⟨hsubmitted, fun hpending ↦ ?_⟩
    split at hpending
    case isTrue => cases hpending
    case isFalse hid =>
      -- the delay that ended is another request's
      refine ⟨hpending, fun due h ↦ ⟨(List.mem_erase_of_ne ?_).mpr h.1, h.2⟩⟩
      exact fun heq ↦ hid (Prod.mk.inj heq).1

/-- While the request is pending, its clean-up is scheduled and its delay not over. -/
structure Waits (requestId : String) (due : Nat) (m : AuthRequestManager) : Prop where
  submitted : requestId ∈ m.submitted
  scheduled : (m.pendingRequests.lookup requestId).isSome →
    (requestId, due) ∈ m.cleanups ∧ m.elapsedRealtime ≤ due

theorem Waits.step (h : Waits requestId due m) (hfresh : FreshId m event)
    (hpunctual : Punctual requestId m event) (hnext : manager.next m event = some m') :
    Waits requestId due m' := by
  obtain ⟨hsubmitted, hpending⟩ := pending_step h.submitted hfresh hpunctual hnext
  refine ⟨hsubmitted, fun hlookup ↦ ?_⟩
  obtain ⟨hbefore, hwaits⟩ := hpending hlookup
  exact hwaits due (h.scheduled hbefore)

/-- Nothing is scheduled for a request that was not submitted. -/
theorem submitted_of_cleanup {before : List ManagerEvent}
    (hrun : manager.exec created before = some m) :
    ∀ requestId due, (requestId, due) ∈ m.cleanups → requestId ∈ m.submitted := by
  refine manager.invariant (I := fun m ↦ ∀ requestId due, (requestId, due) ∈ m.cleanups →
    requestId ∈ m.submitted) ?_ (fun _ _ h ↦ by cases h) hrun
  intro m event m' h hnext requestId due hmem
  cases managerStep_of_next hnext with
  | tick ms => exact h _ _ hmem
  | submit S =>
    rw [submitRequest_submitted, List.mem_cons]
    by_cases hid : requestId = S.authRequest.requestId
    · exact .inl hid
    · exact .inr (h _ _ (((submitRequest_frame hid).2 due).mp hmem))
  | remove hremoves =>
    rw [hremoves.cleanups] at hmem
    rw [hremoves.submitted]
    exact h _ _ hmem
  | cleanup first time =>
    obtain ⟨-, hfirst⟩ := lookup_timeoutCleanup
      (m := { m with cleanups := m.cleanups.erase (first, time) }) requestId first
    rw [hfirst.cleanups] at hmem
    rw [hfirst.submitted]
    exact h _ _ (List.mem_of_mem_erase hmem)

/-- A request that is not pending does not become pending again. -/
theorem not_pending_along (hsubmitted : requestId ∈ m.submitted)
    (hnone : m.pendingRequests.lookup requestId = none) (hrun : manager.exec m events = some m')
    (hfresh : manager.Along FreshId m events)
    (hpunctual : manager.Along (Punctual requestId) m events) :
    m'.pendingRequests.lookup requestId = none := by
  refine (manager.invariant_along (I := fun m ↦ requestId ∈ m.submitted ∧
    m.pendingRequests.lookup requestId = none) ?_ ⟨hsubmitted, hnone⟩ hrun
    (hfresh.and hpunctual)).2
  rintro m event m' ⟨hsubmitted, hnone⟩ ⟨hfresh, hpunctual⟩ hnext
  obtain ⟨hsubmitted', hpending⟩ := pending_step hsubmitted hfresh hpunctual hnext
  refine ⟨hsubmitted', Option.not_isSome_iff_eq_none.mp fun hsome ↦ ?_⟩
  simpa [hnone] using (hpending hsome).1

theorem Waits.along (h : Waits requestId due m) (hrun : manager.exec m events = some m')
    (hfresh : manager.Along FreshId m events)
    (hpunctual : manager.Along (Punctual requestId) m events) : Waits requestId due m' :=
  manager.invariant_along (fun _ _ _ h hG hnext ↦ h.step hG.1 hG.2 hnext) h hrun
    (hfresh.and hpunctual)

/-- Time alone lets the request wait, up to the delay of its clean-up. -/
theorem tick_possible (ms : Nat)
    (hwaits : ∀ due, (requestId, due) ∈ m.cleanups → m.elapsedRealtime + ms ≤ due)
    (authRequest : AuthRequest) (address : Option String) :
    manager.exec m [.tick ms] = some { m with elapsedRealtime := m.elapsedRealtime + ms } ∧
      manager.Along FreshId m [.tick ms] ∧
      manager.Along (Unanswered authRequest address) m [.tick ms] ∧
      manager.Along (Punctual requestId) m [.tick ms] :=
  ⟨rfl, ⟨trivial, fun _ _ ↦ trivial⟩, ⟨trivial, fun _ _ ↦ trivial⟩, ⟨hwaits, fun _ _ ↦ trivial⟩⟩

end

/-- The clean-up of a posted request is scheduled if something is left of its session. -/
theorem cleanups_scheduleCleanup (m : AuthRequestManager) (job : Job) (requestId address : String)
    (timeout now : Int64) :
    (m.scheduleCleanup (job.submission requestId address timeout now true)).cleanups =
      if 0 < leftOfSession job.incoming.transport now job.request.timestampUnixSeconds timeout then
        (requestId, m.elapsedRealtime +
          delayMs (remainingTimeout timeout now job.submittedTimestamp + 250)) :: m.cleanups
      else m.cleanups := by
  have hpos : 0 < remainingTimeout timeout now job.submittedTimestamp ↔
      0 < leftOfSession job.incoming.transport now job.request.timestampUnixSeconds timeout := by
    rw [Int64.lt_iff_toInt_lt, toInt_remainingTimeout, show (0 : Int64).toInt = 0 from rfl]
    exact lt_max_iff.trans (or_iff_right (lt_irrefl 0))
  simp only [scheduleCleanup, Job.submission, hpos, true_and]
  split <;> rfl

section

variable {m : AuthRequestManager} {S : Submission} {ending : Int}

/-- A clean-up whose delay ends with the session, or at once, is in time. -/
theorem leavesInTime_of_scheduled {delay : Nat}
    (hmem : (S.authRequest.requestId, m.elapsedRealtime + delay) ∈ (m.submitRequest S).cleanups)
    (hdelay : (delay : Int) ≤ max 0 (ending - S.currentTimeMillis.toInt)) :
    LeavesInTime m S ending := by
  intro events m' hrun hfresh _ hpunctual hover
  have hwaits : Waits S.authRequest.requestId (m.elapsedRealtime + delay) (m.submitRequest S) := by
    refine ⟨?_, fun _ ↦ ⟨hmem, ?_⟩⟩
    · rw [submitRequest_submitted]
      exact List.mem_cons_self
    · rw [submitRequest_elapsedRealtime]
      exact Nat.le_add_right _ _
  refine Option.not_isSome_iff_eq_none.mp fun hpending ↦ ?_
  have htime := ((hwaits.along hrun hfresh hpunctual).scheduled hpending).2
  omega

/-- Without a clean-up that ends by then, the request waits on. -/
theorem not_leavesInTime
    (hpending : ((m.submitRequest S).pendingRequests.lookup S.authRequest.requestId).isSome)
    (hlate : ∀ due, (S.authRequest.requestId, due) ∈ (m.submitRequest S).cleanups →
      m.elapsedRealtime + max 0 (ending - S.currentTimeMillis.toInt) < due) :
    ¬ LeavesInTime m S ending := by
  intro hleaves
  -- time passes until just after the end, and no delay is over before
  have hwaits : ∀ due, (S.authRequest.requestId, due) ∈ (m.submitRequest S).cleanups →
      (m.submitRequest S).elapsedRealtime +
        ((max 0 (ending - S.currentTimeMillis.toInt)).toNat + 1) ≤ due := by
    intro due hmem
    have := hlate due hmem
    rw [submitRequest_elapsedRealtime]
    omega
  obtain ⟨hexec, hfresh, hun, hpunctual⟩ :=
    tick_possible _ hwaits S.authRequest S.bleDeviceAddress
  have hover : max S.currentTimeMillis.toInt ending < S.currentTimeMillis.toInt +
      ((((m.submitRequest S).elapsedRealtime +
        ((max 0 (ending - S.currentTimeMillis.toInt)).toNat + 1) : Nat) : Int) -
          m.elapsedRealtime) := by
    rw [submitRequest_elapsedRealtime]
    omega
  have hnone := hleaves _ _ hexec hfresh hun hpunctual hover
  exact absurd hnone (Option.isSome_iff_ne_none.mp hpending)

/-- Where a submission schedules the only clean-up of its request, that one decides. -/
theorem leavesInTime_iff_of_scheduled {delay : Nat}
    (hpending : ((m.submitRequest S).pendingRequests.lookup S.authRequest.requestId).isSome)
    (hcleanups : (m.submitRequest S).cleanups =
      (S.authRequest.requestId, m.elapsedRealtime + delay) :: m.cleanups)
    (hnew : ∀ due, (S.authRequest.requestId, due) ∉ m.cleanups) :
    LeavesInTime m S ending ↔ (delay : Int) ≤ max 0 (ending - S.currentTimeMillis.toInt) := by
  constructor
  · intro hleaves
    by_contra hlate
    refine not_leavesInTime hpending (fun due hmem ↦ ?_) hleaves
    rw [hcleanups, List.mem_cons] at hmem
    rcases hmem with hown | hmem
    · obtain ⟨-, rfl⟩ := Prod.mk.inj hown
      omega
    · exact absurd hmem (hnew due)
  · intro hdelay
    refine leavesInTime_of_scheduled ?_ hdelay
    rw [hcleanups]
    exact List.mem_cons_self

/-- A request whose challenge has been cancelled before is never pending. -/
theorem leavesInTime_of_cancelled (hconsistent : Consistent m)
    (hid : S.authRequest.requestId ∉ m.submitted)
    (hcancelled : (m.isChallengeCancelled S.authRequest.challenge).1 = true) :
    LeavesInTime m S ending := by
  intro events m' hrun hfresh _ hpunctual _
  obtain ⟨_, hsubmit⟩ := submitRequest_eq m S
  rw [hsubmit, if_pos hcancelled] at hrun hfresh hpunctual
  refine not_pending_along List.mem_cons_self ?_ hrun hfresh hpunctual
  exact hconsistent.lookup_eq_none hid

end

/-- An unanswered request, of either transport, leaves when its session is over exactly if its
challenge was cancelled before it came, so that it never was pending, or what is left of the
session as the handler hands it over is positive and no more than what is really left. -/
theorem leavesInTime_iff_firesInTime {before : List ManagerEvent} {m : AuthRequestManager}
    (hrun : manager.exec created before = some m) (hfresh : manager.Along FreshId created before)
    {requestId : String} (hid : requestId ∉ m.submitted) (job : Job) (address : String)
    (timeout now : Int64) :
    LeavesInTime m (job.submission requestId address timeout now true) (sessionEnd job timeout) ↔
      (m.isChallengeCancelled job.request.challenge).1 = true ∨
        FiresInTime job.incoming.transport now job.request.timestampUnixSeconds timeout := by
  set S := job.submission requestId address timeout now true with hS
  set left := leftOfSession job.incoming.transport now job.request.timestampUnixSeconds timeout
    with hleft
  cases hcancelled : (m.isChallengeCancelled S.authRequest.challenge).1 with
  | true =>
    have hconsistent : Consistent m :=
      manager.invariant_along (fun _ _ _ h hfresh hnext ↦ h.step hfresh hnext)
        consistent_created hrun hfresh
    exact iff_of_true (leavesInTime_of_cancelled hconsistent hid hcancelled) (.inl hcancelled)
  | false =>
    obtain ⟨hlookup, hcleanups⟩ := submitRequest_stores hcancelled
    have hpending :
        ((m.submitRequest S).pendingRequests.lookup S.authRequest.requestId).isSome := by
      simp [hlookup]
    have hnew : ∀ due, (requestId, due) ∉ m.cleanups :=
      fun due hmem ↦ hid (submitted_of_cleanup hrun _ _ hmem)
    rw [cleanups_scheduleCleanup, ← hleft] at hcleanups
    have hnot : (m.isChallengeCancelled job.request.challenge).1 ≠ true :=
      fun h ↦ Bool.false_ne_true (hcancelled.symm.trans h)
    rw [or_iff_right hnot, FiresInTime, ← hleft]
    by_cases hpos : 0 < left
    · rw [if_pos hpos] at hcleanups
      have hdelay := delayMs_remainingTimeout hleft.symm hpos
      have hnow : S.currentTimeMillis.toInt = now.toInt := rfl
      have hending : sessionEnd job timeout =
          1000 * job.request.timestampUnixSeconds.toInt + 1000 * timeout.toInt + 250 := rfl
      rw [leavesInTime_iff_of_scheduled hpending hcleanups hnew]
      split_ifs at hdelay <;> omega
    · rw [if_neg hpos] at hcleanups
      refine iff_of_false ?_ fun h ↦ hpos h.1
      refine not_leavesInTime hpending fun due hmem ↦ ?_
      rw [hcleanups] at hmem
      exact absurd hmem (hnew due)

namespace TimeoutSample

open RequestSample

/-- The request of the sample, over either transport. -/
def incoming (transport : TransportType) : Incoming := { packet with transport }

def job (transport : TransportType) : Job :=
  let wrapper :=
    signWrapperMessage primitives (wrapAuthRequest ⟨challenge, "alice", "desktop", 1000⟩) desktop
  { incoming := incoming transport
    request := ⟨challenge, "alice", "desktop", 1000, wrapper.signatureAlgorithm,
      wrapper.signature⟩ }

/-- The phone a minute after the request was made. -/
def late : PhoneMemory := { memory with currentTimeMillis := 1060000 }

end TimeoutSample

open TimeoutSample

/-- Two requests that their handlers accept and that nobody answers stay for good: one over BLE,
that came at once, and one over UDP that came when its session of half a minute was over. -/
theorem request_stays_pending :
    (∀ transport, (incoming transport).job? RequestSample.primitives =
        some (job transport)) ∧
      (handleAuthRequest RequestSample.primitives RequestSample.memory
        (incoming .ble) true).2 = .submitted ∧
      ¬ LeavesInTime created ((job .ble).submission "a" "AA" 120 1000000 true)
        (sessionEnd (job .ble) 120) ∧
      (handleAuthRequest RequestSample.primitives late
        (incoming .udp) true).2 = .submitted ∧
      ¬ LeavesInTime created ((job .udp).submission "a" "AA" 30 1060000 true)
        (sessionEnd (job .udp) 30) := by
  refine ⟨fun transport ↦ ?_, by decide +kernel, ?_, by decide +kernel, ?_⟩
  · cases transport <;> decide +kernel
  · refine not_leavesInTime (by decide +kernel) fun due hmem ↦ ?_
    have hnone : (created.submitRequest
        ((job .ble).submission "a" "AA" 120 1000000 true)).cleanups = [] := by
      decide +kernel
    rw [hnone] at hmem
    cases hmem
  · refine not_leavesInTime (by decide +kernel) fun due hmem ↦ ?_
    have hnone : (created.submitRequest
        ((job .udp).submission "a" "AA" 30 1060000 true)).cleanups = [] := by
      decide +kernel
    rw [hnone] at hmem
    cases hmem

/-- A request over UDP that comes at once leaves two minutes later. -/
theorem leavesInTime_udp :
    FiresInTime .udp 1000000 1000 120 ∧
      LeavesInTime created ((job .udp).submission "a" "AA" 120 1000000 true)
        (sessionEnd (job .udp) 120) := by
  have hfires : FiresInTime .udp 1000000 1000 120 := ⟨by decide +kernel, fun _ ↦ by decide +kernel⟩
  have hrun : manager.exec created [] = some created := rfl
  exact ⟨hfires, (leavesInTime_iff_firesInTime hrun trivial (by decide) _ _ _ _).mpr (.inr hfires)⟩

end TapAuth.Phone
