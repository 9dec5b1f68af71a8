import TapAuth.Pam.Authenticate

/-!
# Local failures and the last conclusion

The record exists to replay what the daemon concluded.  `start_authentication` arms the
verdict once the request is on the wire, so a failed connect or send records nothing;
but `authenticate` then records whatever the call returns, and between the two points
there are failures that say nothing about the daemon either: the pipe or the password
thread that cannot be made, and a connection that fails before a response is read.

`Call.localFailure` is the local failure of a call, if it has one.  It leaves the last
conclusion as it was if it comes before the request is on the wire, or if nothing can be
recorded at all (`last_eq_of_localFailure`); in a process all of whose local failures are
such, what is replayed was never one (`local_failure_not_replayed`).
-/

namespace TapAuth.Pam

open Shared

/-- What goes wrong on this side of the socket. -/
inductive LocalFailure where
  | connect
  | send
  | pipe
  | thread
  /-- The read fails, the peer hangs up or the poll fails, before any response. -/
  | connection
  deriving DecidableEq, Repr

/-- The request is on the wire by then. -/
def LocalFailure.onTheWire : LocalFailure → Bool
  | .connect | .send => false
  | .pipe | .thread | .connection => true

namespace Call

variable (call : Call)

def sequentialFailure : Option LocalFailure :=
  match (sequentialLoop call.deadline).run () call.sequentialRounds with
  | .inr (.ipcError, _) => some .connection
  | _ => none

def threadedFailure : Option LocalFailure :=
  if !call.pipe then some .pipe
  else if !call.thread then some .thread
  else
    match (guiLoop call.deadline).run () call.guiRounds with
    | .inr ⟨.ipcError, _, _⟩ => some .connection
    | _ => none

def terminalFailure : Option LocalFailure :=
  match (terminalLoop call.deadline).run true call.terminalRounds with
  | .inr .connectionLost | .inr .readFailed => some .connection
  | _ => none

/-- The local failure of `wait`. -/
def waitFailure : Option LocalFailure :=
  if call.hasTerminal then call.terminalFailure
  else if call.mode = .threaded then call.threadedFailure
  else call.sequentialFailure

/-- The local failure of `transaction`. -/
def transactionFailure : Option LocalFailure :=
  call.requestId.bind fun _ ↦
    if !call.connects then some .connect
    else if !call.sends then some .send
    else call.waitFailure

/-- The call gets to its own transaction: it is not skipped and not answered from the
record. -/
def asks (last : Option LastConclusion) : Bool :=
  call.guardDisplayManagerBypass.isNone && call.user.isSome && call.conversation &&
    call.mode ≠ .preCollected &&
    (call.user.bind fun username ↦ call.service.bind fun service ↦
      cachedConclusionFor call.poisoned last username service call.lookupAt).isNone

/-- The local failure of a call, if it has one. -/
def localFailure (last : Option LastConclusion) : Option LocalFailure :=
  if !call.panics && call.asks last then call.transactionFailure else none

/-- The call would leave this failure behind as its conclusion. -/
def recordsFailure (failure : LocalFailure) : Bool :=
  failure.onTheWire && call.service.isSome && !call.poisoned

variable {call}

variable {failure : LocalFailure} {ended : Ended}

theorem onTheWire_of_waitFailure (h : call.waitFailure = some failure) :
    failure.onTheWire = true := by
  unfold waitFailure sequentialFailure threadedFailure terminalFailure at h
  repeat' split at h
  all_goals first | (cases h; rfl) | cases h

/-- A call that asks is its transaction. -/
theorem authenticateInner_of_asks {last : Option LastConclusion} (h : call.asks last = true) :
    ∃ username, call.user = some username ∧
      call.authenticateInner last = call.transaction username := by
  simp only [asks, Bool.and_eq_true, Option.isNone_iff_eq_none, decide_eq_true_eq] at h
  obtain ⟨⟨⟨⟨hguard, huser⟩, hconversation⟩, hmode⟩, hmiss⟩ := h
  obtain ⟨username, huser⟩ := Option.isSome_iff_exists.mp huser
  rw [huser, Option.bind_some] at hmiss
  refine ⟨username, huser, ?_⟩
  simp [authenticateInner, hguard, huser, hconversation, hmode, hmiss]

/-- The others arm no verdict of their own. -/
theorem verdict_of_not_asks {last : Option LastConclusion} (h : call.asks last = false)
    {verdict : Verdict} (hinner : call.authenticateInner last = some (ended, some verdict)) :
    verdict.fromCache = true := by
  unfold authenticateInner at hinner
  split at hinner
  · cases hinner
  next hguard =>
  split at hinner
  · cases hinner
  next username huser =>
  split_ifs at hinner with hconversation hmode
  · cases hinner
  · cases hinner
  split at hinner
  · cases hinner
    rfl
  next hmiss =>
  -- every condition of `asks` has been met
  have hconversation : call.conversation = true := by simpa using hconversation
  simp [asks, hguard, huser, hconversation, hmode, hmiss] at h

/-- A failure before the request is on the wire arms no verdict; one after it arms the
verdict of the call. -/
theorem transaction_of_failure {username : String} (h : call.transactionFailure = some failure)
    {verdict : Option Verdict} (hended : call.transaction username = some (ended, verdict)) :
    verdict = if failure.onTheWire then some ⟨username, call.service, false⟩ else none := by
  unfold transactionFailure at h
  obtain ⟨requestId, hrequestId, h⟩ := Option.bind_eq_some_iff.mp h
  simp only [transaction, hrequestId] at hended
  split_ifs at h hended with hconnects hsends
  · cases h
    cases hended
    rfl
  · cases h
    cases hended
    rfl
  · obtain ⟨waited, -, heq⟩ := Option.map_eq_some_iff.mp hended
    cases heq
    rw [onTheWire_of_waitFailure h, if_pos rfl]

/-- A verdict that is armed by the call's own transaction is armed after the send. -/
theorem transactionFailure_of_verdict {username : String} {verdict : Verdict}
    (hended : call.transaction username = some (ended, some verdict)) :
    call.transactionFailure = call.waitFailure := by
  unfold transaction at hended
  split at hended
  · cases hended
  next hrequestId =>
  split_ifs at hended with hconnects hsends
  · cases hended
  · cases hended
  · simp [transactionFailure, hrequestId, hconnects, hsends]

end Call

variable {call : Call} {last : Option LastConclusion} {returned : Returned}

/-- A call without a panic is `authenticate_inner`. -/
theorem authenticateInner_of_return (hpanics : call.panics = false)
    (hreturn : pamSmAuthenticate last call = some returned) :
    call.authenticateInner last = some (returned.ended, returned.verdict) ∧
      returned.last = call.recordVerdict last returned.verdict returned.ended.code := by
  rw [pamSmAuthenticate, if_neg (by simp [hpanics])] at hreturn
  obtain ⟨⟨ended, verdict⟩, hinner, rfl⟩ := Option.map_eq_some_iff.mp hreturn
  exact ⟨hinner, rfl⟩

/-- One call: a local failure that it does not record leaves the last conclusion as it was. -/
theorem last_eq_of_localFailure {failure : LocalFailure}
    (hfails : call.localFailure last = some failure)
    (hunrecorded : call.recordsFailure failure = false)
    (hreturn : pamSmAuthenticate last call = some returned) : returned.last = last := by
  unfold Call.localFailure at hfails
  split_ifs at hfails with hasks
  obtain ⟨hpanics, hasks⟩ := Bool.and_eq_true_iff.mp hasks
  obtain ⟨hinner, hlast⟩ := authenticateInner_of_return (by simpa using hpanics) hreturn
  obtain ⟨username, -, htransaction⟩ := Call.authenticateInner_of_asks hasks
  rw [htransaction] at hinner
  rw [hlast, Call.transaction_of_failure hfails hinner]
  by_cases hwire : failure.onTheWire = true
  · rw [if_pos hwire]
    cases hservice : call.service with
    | none => rfl
    | some service =>
      have hpoisoned : call.poisoned = true := by
        simpa [Call.recordsFailure, hwire, hservice] using hunrecorded
      simp [Call.recordVerdict, recordConclusion, hpoisoned]
  · rw [if_neg hwire]
    rfl

variable {conclusion : LastConclusion}

theorem Logged.conclusion_eq_some {entry : Logged} (h : entry.conclusion = some conclusion) :
    (∃ username service, entry.verdict = some ⟨username, some service, false⟩) ∧
      entry.call.poisoned = false ∧ conclusion.code = entry.ended.code := by
  unfold Logged.conclusion Call.recordVerdict recordConclusion at h
  split at h
  · rename_i username service hverdict
    split_ifs at h with hpoisoned
    cases h
    exact ⟨⟨username, service, hverdict⟩, by simpa using hpoisoned, rfl⟩
  · cases h

/-- One call: what it records is no local failure, if it does not record such. -/
theorem waitFailure_of_conclusion
    (hunrecorded : ∀ failure ∈ call.localFailure last, call.recordsFailure failure = false)
    (hreturn : pamSmAuthenticate last call = some returned)
    (hconclusion :
      Logged.conclusion ⟨call, returned.ended, returned.verdict⟩ = some conclusion) :
    call.waitFailure = none := by
  obtain ⟨⟨username, service, hverdict⟩, hpoisoned, -⟩ := Logged.conclusion_eq_some hconclusion
  dsimp only at hverdict hpoisoned
  have hpanics : call.panics = false := by
    by_contra hpanics
    rw [pamSmAuthenticate, if_pos (by simpa using hpanics)] at hreturn
    cases hreturn
    cases hverdict
  obtain ⟨hinner, -⟩ := authenticateInner_of_return hpanics hreturn
  rw [hverdict] at hinner
  have hasks : call.asks last = true := by
    by_contra hasks
    cases Call.verdict_of_not_asks (by simpa using hasks) hinner
  obtain ⟨user, -, htransaction⟩ := Call.authenticateInner_of_asks hasks
  rw [htransaction] at hinner
  have hfails : call.localFailure last = call.transactionFailure := by
    simp [Call.localFailure, hpanics, hasks]
  rw [← Call.transactionFailure_of_verdict hinner]
  by_contra hfailed
  obtain ⟨failure, hfailure⟩ := Option.ne_none_iff_exists'.mp hfailed
  have hwire : failure.onTheWire = true := by
    rw [Call.transactionFailure_of_verdict hinner] at hfailure
    exact Call.onTheWire_of_waitFailure hfailure
  have harmed := Call.transaction_of_failure hfailure hinner
  rw [if_pos hwire] at harmed
  have hservice : call.service = some service :=
    (congrArg Verdict.service (Option.some.inj harmed)).symm
  have hrecords := hunrecorded failure (hfails.trans hfailure)
  simp [Call.recordsFailure, hwire, hservice, hpoisoned] at hrecords

/-! ## A process -/

/-- A call records no local failure of its own. -/
def Process.FailsUnrecorded (p : Process) (call : Call) : Prop :=
  ∀ failure ∈ call.localFailure p.last, call.recordsFailure failure = false

instance (p : Process) (call : Call) : Decidable (p.FailsUnrecorded call) :=
  Option.decidableForallMem _

/-- What the calls of a process have recorded is no local failure. -/
theorem waitFailure_of_exec {calls : List Call} {p : Process}
    (hrun : process.exec .loaded calls = some p)
    (hunrecorded : process.Along Process.FailsUnrecorded .loaded calls) :
    ∀ entry ∈ p.log, entry.conclusion.isSome → entry.call.waitFailure = none := by
  refine process.invariant_along
    (I := fun p ↦ ∀ entry ∈ p.log, entry.conclusion.isSome → entry.call.waitFailure = none)
    ?_ (fun _ hmem ↦ absurd hmem List.not_mem_nil) hrun hunrecorded
  intro p call q hp hcall hnext
  obtain ⟨returned, hreturn, rfl⟩ := Option.map_eq_some_iff.mp hnext
  refine List.forall_mem_cons.mpr ⟨fun hsome ↦ ?_, hp⟩
  obtain ⟨conclusion, hconclusion⟩ := Option.isSome_iff_exists.mp hsome
  exact waitFailure_of_conclusion hcall hreturn hconclusion

/-- In a process whose local failures all come before the request is on the wire, or in
calls that can record nothing, a local failure leaves the last conclusion as it was, and
what is replayed is the conclusion of a call that did not fail locally. -/
theorem local_failure_not_replayed {calls : List Call} {p : Process}
    (hrun : process.exec .loaded calls = some p)
    (hunrecorded : process.Along Process.FailsUnrecorded .loaded calls)
    {call : Call} {returned : Returned} (hreturn : pamSmAuthenticate p.last call = some returned) :
    ((call.localFailure p.last).isSome → p.FailsUnrecorded call → returned.last = p.last) ∧
      ∀ verdict, returned.verdict = some verdict → verdict.fromCache = true →
        ∃ entry ∈ p.log, p.MostRecent entry ∧ entry.call.waitFailure = none ∧
          returned.ended.code = entry.ended.code := by
  constructor
  · intro hfails hcall
    obtain ⟨failure, hfailure⟩ := Option.isSome_iff_exists.mp hfails
    exact last_eq_of_localFailure hfailure (hcall failure hfailure) hreturn
  · intro verdict hverdict hcache
    obtain ⟨hinner, -⟩ := inner_of_pamSmAuthenticate hreturn
    rcases returned with ⟨ended, _, last⟩
    cases hverdict
    cases hinner with
    | replayed huser hservice hprev hreusable =>
      obtain ⟨entry, hmem, hrecent, hentry⟩ := (Process.ok_of_exec hrun).exists_conclusion hprev
      obtain ⟨-, -, -, rfl⟩ := reusableConclusion_eq_some hreusable
      refine ⟨entry, hmem, hrecent, ?_, (Logged.conclusion_eq_some hentry).2.2⟩
      exact waitFailure_of_exec hrun hunrecorded entry hmem (Option.isSome_of_eq_some hentry)
    | asked => cases hcache

namespace LocalFailureSample

/-- The daemon is not running. -/
def refused : Call := { ReplaySample.first with connects := false }

def answered : Call :=
  { ReplaySample.first with
    lookupAt := 1400000000
    waitsAt := 1100000000
    returnedAt := 1600000000 }

def duplicate : Call := { answered with lookupAt := 1700000000, returnedAt := 1700000000 }

/-- The daemon has stopped again, and the window is over. -/
def refusedAgain : Call := { refused with lookupAt := 2200000000, returnedAt := 2200000000 }

/-- The process after a failed connect and an answer. -/
def afterAnswer : Process := (process.exec .loaded [refused, answered]).get rfl

theorem exec_answer : process.exec .loaded [refused, answered] = some afterAnswer := rfl

def refusal : Returned := (pamSmAuthenticate afterAnswer.last refusedAgain).get rfl

theorem returns_refusal : pamSmAuthenticate afterAnswer.last refusedAgain = some refusal := rfl

def repetition : Returned := (pamSmAuthenticate afterAnswer.last duplicate).get rfl

theorem returns_repetition : pamSmAuthenticate afterAnswer.last duplicate = some repetition := rfl

/-- A call of a host with a password thread, for which the pipe cannot be made. -/
def noPipe : Call :=
  { ReplaySample.first with service := some "polkit-1", process := some "polkit-agent-helper-1" }

/-- Its repetition 300 ms later, with a pipe, a thread and a daemon that grants. -/
def retried : Call :=
  { noPipe with
    lookupAt := 1600000000
    pipe := true
    thread := true
    guiRounds :=
      [⟨1700000000, .ready ⟨false, ⟨some ⟨true, false, false⟩, .ok (some ⟨0, ""⟩)⟩, none⟩⟩]
    returnedAt := 1800000000 }

def afterNoPipe : Process := (process.exec .loaded [noPipe]).get rfl

end LocalFailureSample

open LocalFailureSample

/-- A failed connect leaves the conclusion, and a duplicate gets the answer of the daemon. -/
theorem local_failure_not_replayed_connect :
    refusal.last = some ⟨1600000000, "alice", "sudo", .success⟩ ∧
    repetition.ended.code = .success ∧
    ∃ entry ∈ afterAnswer.log, afterAnswer.MostRecent entry ∧ entry.call.waitFailure = none ∧
      repetition.ended.code = entry.ended.code := by
  have halong : process.Along Process.FailsUnrecorded .loaded [refused, answered] := by
    decide +kernel
  refine ⟨?_, rfl, ?_⟩
  · exact (local_failure_not_replayed exec_answer halong returns_refusal).1 (by decide +kernel)
      (by decide +kernel)
  · exact (local_failure_not_replayed exec_answer halong returns_repetition).2 _ rfl rfl

/-- The pipe cannot be made for the first call, which records its error, and the second,
which the daemon would grant, is answered with that error. -/
theorem local_failure_replayed :
    process.exec .loaded [noPipe] = some afterNoPipe ∧
    noPipe.localFailure Process.loaded.last = some .pipe ∧
    afterNoPipe.last = some ⟨1300000000, "alice", "polkit-1", .authErr⟩ ∧
    (pamSmAuthenticate none retried).map (·.ended.code) = some .success ∧
    ∃ returned, pamSmAuthenticate afterNoPipe.last retried = some returned ∧
      returned.verdict = some ⟨"alice", some "polkit-1", true⟩ ∧
      returned.ended.code = .authErr :=
  ⟨rfl, by decide +kernel, rfl, by decide +kernel, _, rfl, rfl, rfl⟩

end TapAuth.Pam
