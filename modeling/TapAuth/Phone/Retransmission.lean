import Mathlib.Data.Fintype.Basic
import TapAuth.Phone.RequestHandlers

/-!
# Starting and stopping retransmissions

`RetransmissionManager` keeps, for each challenge, the job that retransmits the answer to it.
A start stops the job it finds, launches a new one and then enters it in the map; a stop takes
the entry out and cancels the job.  A job looks at its cancellation before each transmission and
while it waits, and when it ends it takes out the entry of its challenge, whichever job that
entry is for.

`Orderly` says what keeps this right: the calls for one challenge do not overlap, no job is
cancelled between its look and its transmission, and no job that ends finds the entry of
another.  Then at most one job of a challenge goes on, and after a stop none transmits until
the next start (`retransmissions_exclusive`).  If a job that was replaced ends after its
successor was entered, the next stop finds nothing to cancel (`transmits_after_stop`).
-/

namespace TapAuth.Phone.Retransmission

open Shared Function

/-! ## The jobs -/

def retransmissionIntervalMs : Int64 := 500

def maxRetransmissionDurationMs : Int64 := 10000

def maxRetransmissionAttempts : Nat := 20

/-- Where a job is. -/
inductive JobPlace where
  /-- Launched, and not yet begun. -/
  | launched
  /-- At the condition of the loop. -/
  | check
  /-- Before the transmission. -/
  | sending
  /-- In `delay`. -/
  | delaying (due : Int64)
  /-- Behind the loop. -/
  | cleanup
  | finished
  deriving DecidableEq

/-- The coroutine of a start.  Over UDP and over BLE it is the same but for the transmission. -/
structure Job where
  transport : TransportType
  challengeKey : String
  place : JobPlace
  isCancelled : Bool
  attempts : Nat
  startTime : Int64
  deriving DecidableEq

namespace Job

def launch (transport : TransportType) (challengeKey : String) : Job :=
  ⟨transport, challengeKey, .launched, false, 0, 0⟩

/-- After a transmission: the limits, and then the wait. -/
def sent (job : Job) (now : Int64) : Job :=
  { job with
    attempts := job.attempts + 1
    place :=
      if maxRetransmissionDurationMs ≤ now - job.startTime then .cleanup
      else if maxRetransmissionAttempts ≤ job.attempts + 1 then .cleanup
      else .delaying (now + retransmissionIntervalMs) }

/-- One step of the coroutine.  One that is cancelled before it has begun never runs. -/
def step (job : Job) (now : Int64) (throws : Bool) : Option Job :=
  match job.place with
  | .launched =>
    some (if job.isCancelled then { job with place := .finished }
      else { job with place := .check, startTime := now })
  | .check =>
    some { job with
      place :=
        if !job.isCancelled && job.attempts < maxRetransmissionAttempts then .sending
        else .cleanup }
  | .sending => some (if throws then { job with place := .cleanup } else job.sent now)
  | .delaying due =>
    if job.isCancelled then some { job with place := .cleanup }
    else if due ≤ now then some { job with place := .check }
    else none
  | .cleanup => some { job with place := .finished }
  | .finished => none

/-- The job goes on: it has not ended and nobody has cancelled it. -/
def Live (job : Job) : Prop := job.isCancelled = false ∧ job.place ≠ .finished

instance (job : Job) : Decidable job.Live := inferInstanceAs (Decidable (_ ∧ _))

/-- What a step leaves alone, and that only an uncancelled job gets to its transmission. -/
theorem step_effect {job after : Job} {now : Int64} {throws : Bool}
    (h : job.step now throws = some after) :
    after.challengeKey = job.challengeKey ∧ after.isCancelled = job.isCancelled ∧
      job.place ≠ .finished ∧ (after.place = .sending → job.isCancelled = false) ∧
      (job.place = .cleanup → after.place = .finished) := by
  cases hplace : job.place with
  | launched =>
    simp only [step, hplace] at h
    split at h <;> cases h <;> exact ⟨rfl, rfl, nofun, nofun, nofun⟩
  | check =>
    simp only [step, hplace] at h
    cases h
    refine ⟨rfl, rfl, nofun, fun hsending ↦ ?_, nofun⟩
    by_cases hcancelled : job.isCancelled = true
    · simp [hcancelled] at hsending
    · simpa using hcancelled
  | sending =>
    simp only [step, hplace] at h
    split at h
    · cases h
      exact ⟨rfl, rfl, nofun, nofun, nofun⟩
    · cases h
      refine ⟨rfl, rfl, nofun, fun hsending ↦ ?_, nofun⟩
      simp only [sent] at hsending
      split at hsending
      · cases hsending
      · split at hsending <;> cases hsending
  | delaying due =>
    simp only [step, hplace] at h
    split at h
    · cases h
      exact ⟨rfl, rfl, nofun, nofun, nofun⟩
    · split at h <;> cases h
      exact ⟨rfl, rfl, nofun, nofun, nofun⟩
  | cleanup =>
    simp only [step, hplace] at h
    cases h
    exact ⟨rfl, rfl, nofun, nofun, fun _ ↦ rfl⟩
  | finished =>
    simp only [step, hplace] at h
    cases h

end Job

/-! ## The calls -/

inductive Call where
  | startRetransmission (transport : TransportType) (challenge : Bytes)
  | stopRetransmission (challenge : Bytes)
  deriving DecidableEq

def startUdpRetransmission : Bytes → Call := .startRetransmission .udp

def Call.challengeKey : Call → String
  | .startRetransmission _ challenge | .stopRetransmission challenge => hexEncode challenge

/-- A call between its steps.  A start and a stop both begin with `stopRetransmission`. -/
inductive CallPhase where
  | idle (call : Call)
  /-- The entry is taken out; its job is to be cancelled. -/
  | cancelling (call : Call) (job : Option Nat)
  | launching (transport : TransportType) (challengeKey : String)
  /-- The job runs and is not entered yet. -/
  | registering (challengeKey : String) (job : Nat)
  | returned
  deriving DecidableEq

namespace CallPhase

/-- The challenge of a call that has begun and not returned. -/
def key? : CallPhase → Option String
  | .cancelling call _ => some call.challengeKey
  | .launching _ challengeKey | .registering challengeKey _ => some challengeKey
  | _ => none

/-- The challenge of a call that is about to begin. -/
def begins? : CallPhase → Option String
  | .idle call => some call.challengeKey
  | _ => none

/-- The challenge of a start that is about to begin. -/
def starts? : CallPhase → Option String
  | .idle (.startRetransmission _ challenge) => some (hexEncode challenge)
  | _ => none

/-- The job that is about to be cancelled. -/
def cancels? : CallPhase → Option Nat
  | .cancelling _ job => job
  | _ => none

/-- The job that the call alone knows of. -/
def holds? : CallPhase → Option Nat
  | .cancelling _ job => job
  | .registering _ job => some job
  | _ => none

end CallPhase

/-! ## The manager -/

/-- The manager, its jobs in the order of their launches, and the calls. -/
structure Manager (ι : Type) where
  activeRetransmissions : HexMap Nat
  jobs : List Job
  callers : ι → CallPhase
  elapsedRealtime : Int64
  /-- What has been transmitted, the last first. -/
  transmissions : List (TransportType × String)

inductive Event (ι : Type) where
  | call (i : ι)
  | job (j : Nat) (throws : Bool)
  | clock (elapsedRealtime : Int64)

namespace Manager

variable {ι : Type}

/-- Nothing has been started. -/
def start (calls : ι → Call) : Manager ι := ⟨fun _ ↦ none, [], fun i ↦ .idle (calls i), 0, []⟩

def cancel (s : Manager ι) : Option Nat → Manager ι
  | none => s
  | some j => { s with jobs := s.jobs.modify j fun job ↦ { job with isCancelled := true } }

/-- A step of a job.  Behind the loop it takes out the entry of its challenge. -/
def jobStep (s : Manager ι) (j : Nat) (throws : Bool) : Option (Manager ι) :=
  match s.jobs[j]? with
  | none => none
  | some job =>
    (job.step s.elapsedRealtime throws).map fun after ↦
      { s with
        jobs := s.jobs.set j after
        activeRetransmissions :=
          if job.place = .cleanup then
            update s.activeRetransmissions job.challengeKey none
          else s.activeRetransmissions
        transmissions :=
          if job.place = .sending ∧ throws = false then
            (job.transport, job.challengeKey) :: s.transmissions
          else s.transmissions }

/-- How often the answer to a challenge has been transmitted. -/
def sends (s : Manager ι) (challengeKey : String) : Nat :=
  s.transmissions.countP fun sent ↦ sent.2 = challengeKey

variable [DecidableEq ι]

def setCaller (s : Manager ι) (i : ι) (phase : CallPhase) : Manager ι :=
  { s with callers := update s.callers i phase }

def setEntry (s : Manager ι) (challengeKey : String) (entry : Option Nat) : Manager ι :=
  { s with activeRetransmissions := update s.activeRetransmissions challengeKey entry }

/-- A step of a call. -/
def callStep (s : Manager ι) (i : ι) : Option (Manager ι) :=
  match s.callers i with
  | .idle call =>
    some ((s.setEntry call.challengeKey none).setCaller i
      (.cancelling call (s.activeRetransmissions call.challengeKey)))
  | .cancelling (.startRetransmission transport challenge) job =>
    some ((s.cancel job).setCaller i (.launching transport (hexEncode challenge)))
  | .cancelling (.stopRetransmission _) job => some ((s.cancel job).setCaller i .returned)
  | .launching transport challengeKey =>
    some ({ s with jobs := s.jobs ++ [Job.launch transport challengeKey] }.setCaller i
      (.registering challengeKey s.jobs.length))
  | .registering challengeKey job =>
    some ((s.setEntry challengeKey (some job)).setCaller i .returned)
  | .returned => none

def next (s : Manager ι) : Event ι → Option (Manager ι)
  | .call i => s.callStep i
  | .job j throws => s.jobStep j throws
  | .clock elapsedRealtime =>
    if s.elapsedRealtime ≤ elapsedRealtime then
      some { s with elapsedRealtime := elapsedRealtime }
    else none

theorem callers_setCaller_self (s : Manager ι) (i : ι) (phase : CallPhase) :
    (s.setCaller i phase).callers i = phase :=
  update_self ..

theorem callers_setCaller_of_ne (s : Manager ι) {i i' : ι} (phase : CallPhase) (h : i' ≠ i) :
    (s.setCaller i phase).callers i' = s.callers i' :=
  update_of_ne h ..

section

omit [DecidableEq ι]

theorem callers_cancel (s : Manager ι) (job : Option Nat) : (s.cancel job).callers = s.callers := by
  cases job <;> rfl

theorem activeRetransmissions_cancel (s : Manager ι) (job : Option Nat) :
    (s.cancel job).activeRetransmissions = s.activeRetransmissions := by
  cases job <;> rfl

theorem sends_cancel (s : Manager ι) (job : Option Nat) (key : String) :
    (s.cancel job).sends key = s.sends key := by
  cases job <;> rfl

/-- A job after a cancellation: the same as before, unless it is the one. -/
theorem jobs_of_cancel {s : Manager ι} {removed : Option Nat} {j : Nat} {job : Job}
    (h : (s.cancel removed).jobs[j]? = some job) :
    (removed ≠ some j ∧ s.jobs[j]? = some job) ∨
      (removed = some j ∧ ∃ before, s.jobs[j]? = some before ∧
        job = { before with isCancelled := true }) := by
  cases removed with
  | none => exact .inl ⟨nofun, h⟩
  | some k =>
    simp only [cancel, List.getElem?_modify] at h
    split at h
    next hkj =>
      obtain ⟨before, hbefore, rfl⟩ := Option.map_eq_some_iff.mp h
      exact .inr ⟨congrArg some hkj, before, hbefore, rfl⟩
    next hkj => exact .inl ⟨fun heq ↦ hkj (Option.some.inj heq), by simpa using h⟩

end

end Manager

/-- A job after a launch. -/
theorem jobs_of_launch {jobs : List Job} {launched job : Job} {j : Nat}
    (h : (jobs ++ [launched])[j]? = some job) :
    jobs[j]? = some job ∨ (j = jobs.length ∧ job = launched) := by
  rw [List.getElem?_append] at h
  split at h
  · exact .inl h
  · rw [List.getElem?_singleton] at h
    obtain ⟨hzero, h⟩ := Option.ite_none_right_eq_some.mp h
    exact .inr ⟨by omega, (Option.some.inj h).symm⟩

/-- A job after a step of another, or of itself. -/
theorem jobs_of_set {jobs : List Job} {after job : Job} {j k : Nat}
    (h : (jobs.set j after)[k]? = some job) :
    (k = j ∧ job = after) ∨ (k ≠ j ∧ jobs[k]? = some job) := by
  by_cases hkj : k = j
  · subst hkj
    rw [List.getElem?_set_self'] at h
    obtain ⟨_, -, heq⟩ := Option.map_eq_some_iff.mp h
    exact .inl ⟨rfl, heq.symm⟩
  · rw [List.getElem?_set_ne fun heq ↦ hkj heq.symm] at h
    exact .inr ⟨hkj, h⟩

def retransmissionManager {ι : Type} [DecidableEq ι] : Machine (Manager ι) (Event ι) :=
  ⟨Manager.next⟩

/-! ## Orderly runs -/

section

variable {ι : Type}

/-- What keeps the entries and the jobs together. -/
def Orderly (s : Manager ι) : Event ι → Prop
  | .call i =>
    -- the calls for one challenge do not overlap
    (∀ key ∈ (s.callers i).begins?, ∀ i', (s.callers i').key? ≠ some key) ∧
    -- a job is not cancelled between its look and its transmission
    ∀ j ∈ (s.callers i).cancels?, ∀ job ∈ s.jobs[j]?, job.place ≠ .sending
  | .job j _ =>
    -- a job that ends does not find the entry of another
    ∀ job ∈ s.jobs[j]?, job.place = .cleanup →
      s.activeRetransmissions job.challengeKey = none ∨
        s.activeRetransmissions job.challengeKey = some j
  | .clock _ => True

instance [Fintype ι] (s : Manager ι) : ∀ event, Decidable (Orderly s event)
  | .call _ => inferInstanceAs (Decidable (_ ∧ _))
  | .job j _ =>
    inferInstanceAs (Decidable (∀ job ∈ s.jobs[j]?, job.place = .cleanup →
      s.activeRetransmissions job.challengeKey = none ∨
        s.activeRetransmissions job.challengeKey = some j))
  | .clock _ => inferInstanceAs (Decidable True)

/-- No retransmission of the answer to the challenge is started. -/
def NoStart (challengeKey : String) (s : Manager ι) : Event ι → Prop
  | .call i => (s.callers i).starts? ≠ some challengeKey
  | _ => True

instance (challengeKey : String) (s : Manager ι) : ∀ event, Decidable (NoStart challengeKey s event)
  | .call _ => inferInstanceAs (Decidable (_ ≠ _))
  | .job .. => inferInstanceAs (Decidable True)
  | .clock _ => inferInstanceAs (Decidable True)

/-- A job that goes on is entered, or the one call for its challenge that is under way has it. -/
structure Tracked (s : Manager ι) : Prop where
  /-- While a call is under way the challenge has no entry. -/
  removed : ∀ i key, (s.callers i).key? = some key → s.activeRetransmissions key = none
  alone : ∀ i i' key, (s.callers i).key? = some key → (s.callers i').key? = some key → i = i'
  live : ∀ j job, s.jobs[j]? = some job → job.Live →
    s.activeRetransmissions job.challengeKey = some j ∨
      ∃ i, (s.callers i).key? = some job.challengeKey ∧ (s.callers i).holds? = some j
  sending : ∀ (j : Nat) (job : Job), s.jobs[j]? = some job → job.place = .sending →
    job.isCancelled = false

namespace Tracked

variable {s t : Manager ι}

theorem of_start (calls : ι → Call) : Tracked (.start calls) where
  removed := nofun
  alone := nofun
  live := nofun
  sending := nofun

/-- At most one job of a challenge goes on. -/
theorem eq_of_live (h : Tracked s) {j j' : Nat} {job job' : Job} (hj : s.jobs[j]? = some job)
    (hj' : s.jobs[j']? = some job') (hlive : job.Live) (hlive' : job'.Live)
    (hkey : job.challengeKey = job'.challengeKey) : j = j' := by
  have hentry := h.live j job hj hlive
  have hentry' := h.live j' job' hj' hlive'
  rw [← hkey] at hentry'
  rcases hentry with hentry | ⟨i, hi, hholds⟩
  · rcases hentry' with hentry' | ⟨i', hi', -⟩
    · exact Option.some.inj (hentry.symm.trans hentry')
    · rw [h.removed i' _ hi'] at hentry
      cases hentry
  · rcases hentry' with hentry' | ⟨i', hi', hholds'⟩
    · rw [h.removed i _ hi] at hentry'
      cases hentry'
    · obtain rfl := h.alone i i' _ hi hi'
      exact Option.some.inj (hholds.symm.trans hholds')

/-- A step of a job. -/
theorem jobStep (h : Tracked s) {j : Nat} {throws : Bool} (horderly : Orderly s (.job j throws))
    (hstep : s.jobStep j throws = some t) : Tracked t := by
  unfold Manager.jobStep at hstep
  split at hstep
  · cases hstep
  next job hjob =>
    obtain ⟨after, hafter, rfl⟩ := Option.map_eq_some_iff.mp hstep
    obtain ⟨hkey, hcancelled, hrunning, hsending, hended⟩ := Job.step_effect hafter
    refine ⟨fun i key hi ↦ ?_, h.alone, fun k job' hk hlive ↦ ?_, fun k job' hk hplace ↦ ?_⟩
    · have hnone := h.removed i key hi
      dsimp only
      split
      · by_cases heq : key = job.challengeKey
        · rw [heq, update_self]
        · rwa [update_of_ne heq]
      · exact hnone
    · rcases jobs_of_set hk with ⟨rfl, rfl⟩ | ⟨hne, hk⟩
      · -- the job itself: it was live before, and it has not ended
        have hplace : job.place ≠ .cleanup := fun hplace ↦ hlive.2 (hended hplace)
        have hentry := h.live k job hjob ⟨hcancelled ▸ hlive.1, hrunning⟩
        rw [if_neg hplace, hkey]
        exact hentry
      · rcases h.live k job' hk hlive with hentry | hheld
        · left
          dsimp only
          split
          · next hplace =>
            -- the entry that is taken out is not the one of a job that goes on
            have hother : job'.challengeKey ≠ job.challengeKey := by
              intro heq
              rw [heq] at hentry
              rcases horderly job hjob hplace with hfree | hown
              · rw [hfree] at hentry
                cases hentry
              · exact hne (Option.some.inj (hentry.symm.trans hown))
            rwa [update_of_ne hother]
          · exact hentry
        · exact .inr hheld
    · rcases jobs_of_set hk with ⟨rfl, rfl⟩ | ⟨-, hk⟩
      · exact hcancelled.trans (hsending hplace)
      · exact h.sending k job' hk hplace

variable [DecidableEq ι] {i : ι}

/-- A step of call `i`: what is asked of the other calls is asked of the state before. -/
theorem setCaller (h : Tracked s) {phase : CallPhase} (hcallers : t.callers = s.callers)
    (hremoved : ∀ key, phase.key? = some key → t.activeRetransmissions key = none)
    (hothers : ∀ i' key, i' ≠ i → (s.callers i').key? = some key →
      t.activeRetransmissions key = none ∧ phase.key? ≠ some key)
    (hlive : ∀ j job, t.jobs[j]? = some job → job.Live →
      t.activeRetransmissions job.challengeKey = some j ∨
        (phase.key? = some job.challengeKey ∧ phase.holds? = some j) ∨
        ∃ i', i' ≠ i ∧ (s.callers i').key? = some job.challengeKey ∧
          (s.callers i').holds? = some j)
    (hsending : ∀ (j : Nat) (job : Job), t.jobs[j]? = some job → job.place = .sending →
      job.isCancelled = false) :
    Tracked (t.setCaller i phase) := by
  have hself := t.callers_setCaller_self i phase
  have hother {i' : ι} (hi : i' ≠ i) : (t.setCaller i phase).callers i' = s.callers i' := by
    rw [t.callers_setCaller_of_ne phase hi, hcallers]
  refine ⟨fun i' key hkey ↦ ?_, fun i₁ i₂ key h₁ h₂ ↦ ?_, fun j job hj hjob ↦ ?_, hsending⟩
  · by_cases hi : i' = i
    · rw [hi, hself] at hkey
      exact hremoved key hkey
    · rw [hother hi] at hkey
      exact (hothers i' key hi hkey).1
  · by_cases hi₁ : i₁ = i
    · by_cases hi₂ : i₂ = i
      · exact hi₁.trans hi₂.symm
      · rw [hi₁, hself] at h₁
        rw [hother hi₂] at h₂
        exact absurd h₁ (hothers i₂ key hi₂ h₂).2
    · rw [hother hi₁] at h₁
      by_cases hi₂ : i₂ = i
      · rw [hi₂, hself] at h₂
        exact absurd h₂ (hothers i₁ key hi₁ h₁).2
      · rw [hother hi₂] at h₂
        exact h.alone i₁ i₂ key h₁ h₂
  · rcases hlive j job hj hjob with hentry | hheld | ⟨i', hi, hheld⟩
    · exact .inl hentry
    · exact .inr ⟨i, by rwa [hself]⟩
    · exact .inr ⟨i', by rwa [hother hi]⟩

/-- A call begins, and is the only one for its challenge. -/
theorem remove (h : Tracked s) {call : Call} (hi : s.callers i = .idle call)
    (hfree : ∀ i', (s.callers i').key? ≠ some call.challengeKey) :
    Tracked ((s.setEntry call.challengeKey none).setCaller i
      (.cancelling call (s.activeRetransmissions call.challengeKey))) := by
  refine h.setCaller rfl ?_ ?_ ?_ h.sending
  · intro key hkey
    cases hkey
    exact update_self ..
  · intro i' key _ hkey
    have hne : key ≠ call.challengeKey := by
      rintro rfl
      exact hfree i' hkey
    refine ⟨(update_of_ne hne ..).trans (h.removed i' key hkey), fun heq ↦ ?_⟩
    exact hne (Option.some.inj heq).symm
  · intro j job hj hlive
    rcases h.live j job hj hlive with hentry | ⟨i', hkey, hholds⟩
    · by_cases heq : job.challengeKey = call.challengeKey
      · rw [heq] at hentry
        exact .inr (.inl ⟨congrArg some heq.symm, hentry⟩)
      · exact .inl ((update_of_ne heq ..).trans hentry)
    · refine .inr (.inr ⟨i', ?_, hkey, hholds⟩)
      rintro rfl
      rw [hi] at hkey
      cases hkey

/-- A call has cancelled the job it took out. -/
theorem cancelled (h : Tracked s) {call : Call} {removed : Option Nat} {phase : CallPhase}
    (hi : s.callers i = .cancelling call removed)
    (hquiet : ∀ j ∈ removed, ∀ job ∈ s.jobs[j]?, job.place ≠ .sending)
    (hphase : ∀ key, phase.key? = some key → key = call.challengeKey) :
    Tracked ((s.cancel removed).setCaller i phase) := by
  have hkeys : (s.callers i).key? = some call.challengeKey := by rw [hi]; rfl
  have hactive := s.activeRetransmissions_cancel removed
  refine h.setCaller (s.callers_cancel removed) ?_ ?_ ?_ ?_
  · intro key hkey
    rw [hactive, hphase key hkey]
    exact h.removed i _ hkeys
  · intro i' key hi' hkey
    rw [hactive]
    refine ⟨h.removed i' key hkey, fun heq ↦ hi' ?_⟩
    rw [hphase key heq] at hkey
    exact h.alone i' i _ hkey hkeys
  · intro j job hj hlive
    rcases Manager.jobs_of_cancel hj with ⟨hne, hj⟩ | ⟨-, before, -, rfl⟩
    · rcases h.live j job hj hlive with hentry | ⟨i', hkey, hholds⟩
      · rw [hactive]
        exact .inl hentry
      · refine .inr (.inr ⟨i', ?_, hkey, hholds⟩)
        rintro rfl
        rw [hi] at hholds
        exact hne hholds
    · cases hlive.1
  · intro j job hj hplace
    rcases Manager.jobs_of_cancel hj with ⟨-, hj⟩ | ⟨hremoved, before, hbefore, rfl⟩
    · exact h.sending j job hj hplace
    · exact absurd hplace (hquiet j hremoved before hbefore)

/-- A start has launched its job and is about to enter it. -/
theorem launched (h : Tracked s) {transport : TransportType} {key : String}
    (hi : s.callers i = .launching transport key) :
    Tracked ({ s with jobs := s.jobs ++ [Job.launch transport key] }.setCaller i
      (.registering key s.jobs.length)) := by
  have hkeys : (s.callers i).key? = some key := by rw [hi]; rfl
  refine h.setCaller rfl ?_ ?_ ?_ ?_
  · intro key' hkey
    cases hkey
    exact h.removed i key hkeys
  · intro i' key' hi' hkey
    refine ⟨h.removed i' key' hkey, fun heq ↦ hi' ?_⟩
    cases heq
    exact h.alone i' i key hkey hkeys
  · intro j job hj hlive
    rcases jobs_of_launch hj with hj | ⟨rfl, rfl⟩
    · rcases h.live j job hj hlive with hentry | ⟨i', hkey, hholds⟩
      · exact .inl hentry
      · refine .inr (.inr ⟨i', ?_, hkey, hholds⟩)
        rintro rfl
        rw [hi] at hholds
        cases hholds
    · exact .inr (.inl ⟨rfl, rfl⟩)
  · intro j job hj hplace
    rcases jobs_of_launch hj with hj | ⟨-, rfl⟩
    · exact h.sending j job hj hplace
    · cases hplace

/-- A start has entered its job. -/
theorem registered (h : Tracked s) {key : String} {started : Nat}
    (hi : s.callers i = .registering key started) :
    Tracked ((s.setEntry key (some started)).setCaller i .returned) := by
  have hkeys : (s.callers i).key? = some key := by rw [hi]; rfl
  refine h.setCaller rfl nofun ?_ ?_ h.sending
  · intro i' key' hi' hkey
    have hne : key' ≠ key := by
      rintro rfl
      exact hi' (h.alone i' i key' hkey hkeys)
    exact ⟨(update_of_ne hne ..).trans (h.removed i' key' hkey), nofun⟩
  · intro j job hj hlive
    rcases h.live j job hj hlive with hentry | ⟨i', hkey, hholds⟩
    · have hne : job.challengeKey ≠ key := by
        intro heq
        rw [heq, h.removed i key hkeys] at hentry
        cases hentry
      exact .inl ((update_of_ne hne ..).trans hentry)
    · by_cases heq : i' = i
      · subst heq
        rw [hi] at hkey hholds
        cases hkey
        cases hholds
        exact .inl (update_self ..)
      · exact .inr (.inr ⟨i', heq, hkey, hholds⟩)

/-- An orderly step. -/
theorem next (h : Tracked s) {event : Event ι} (horderly : Orderly s event)
    (hnext : retransmissionManager.next s event = some t) : Tracked t := by
  cases event with
  | call i =>
    obtain ⟨hfree, hquiet⟩ := horderly
    change s.callStep i = some t at hnext
    unfold Manager.callStep at hnext
    split at hnext
    next call hi =>
      cases hnext
      exact h.remove hi (hfree call.challengeKey (by rw [hi]; rfl))
    next transport challenge removed hi =>
      cases hnext
      refine h.cancelled hi (fun j hj ↦ hquiet j (by rw [hi]; exact hj)) fun key hkey ↦ ?_
      exact (Option.some.inj hkey).symm
    next challenge removed hi =>
      cases hnext
      exact h.cancelled hi (fun j hj ↦ hquiet j (by rw [hi]; exact hj)) nofun
    next transport key hi =>
      cases hnext
      exact h.launched hi
    next key started hi =>
      cases hnext
      exact h.registered hi
    · cases hnext
  | job j throws => exact h.jobStep horderly hnext
  | clock elapsedRealtime =>
    obtain ⟨-, hnext⟩ := Option.ite_none_right_eq_some.mp hnext
    cases hnext
    exact ⟨h.removed, h.alone, h.live, h.sending⟩

end Tracked

/-! ## After a stop -/

/-- The step with which a stop for the challenge returns. -/
def StopReturns (challenge : Bytes) (s : Manager ι) (event : Event ι) : Prop :=
  ∃ i removed, event = .call i ∧ s.callers i = .cancelling (.stopRetransmission challenge) removed

/-- The challenge has no entry, and whatever call for it is under way is a stop that has found
none. -/
structure Stopped (key : String) (s : Manager ι) : Prop where
  entry : s.activeRetransmissions key = none
  calls : ∀ i, (s.callers i).key? = some key →
    ∃ challenge, s.callers i = .cancelling (.stopRetransmission challenge) none

variable {s t : Manager ι} {key : String}

theorem Stopped.not_live (hs : Stopped key s) (h : Tracked s) {j : Nat} {job : Job}
    (hj : s.jobs[j]? = some job) (hlive : job.Live) : job.challengeKey ≠ key := by
  rintro rfl
  rcases h.live j job hj hlive with hentry | ⟨i, hi, hholds⟩
  · rw [hs.entry] at hentry
    cases hentry
  · obtain ⟨challenge, hphase⟩ := hs.calls i hi
    rw [hphase] at hholds
    cases hholds

theorem Stopped.jobStep (hs : Stopped key s) (h : Tracked s) {j : Nat} {throws : Bool}
    (hstep : s.jobStep j throws = some t) : Stopped key t ∧ t.sends key = s.sends key := by
  unfold Manager.jobStep at hstep
  split at hstep
  · cases hstep
  next job hjob =>
    obtain ⟨after, -, rfl⟩ := Option.map_eq_some_iff.mp hstep
    refine ⟨⟨?_, hs.calls⟩, ?_⟩
    · dsimp only
      split
      · by_cases heq : key = job.challengeKey
        · rw [heq, update_self]
        · rw [update_of_ne heq]
          exact hs.entry
      · exact hs.entry
    · unfold Manager.sends
      dsimp only
      split
      · next hsends =>
        have hlive : job.Live := by
          refine ⟨h.sending j job hjob hsends.1, fun hplace ↦ ?_⟩
          rw [hsends.1] at hplace
          cases hplace
        rw [List.countP_cons_of_neg]
        simpa using hs.not_live h hjob hlive
      · rfl

variable [DecidableEq ι] {i : ι}

/-- A step of a call that leaves the challenge without an entry. -/
theorem Stopped.setCaller (hs : Stopped key s) {phase : CallPhase}
    (hentry : t.activeRetransmissions key = none) (hcallers : t.callers = s.callers)
    (hphase : phase.key? = some key →
      ∃ challenge, phase = .cancelling (.stopRetransmission challenge) none) :
    Stopped key (t.setCaller i phase) := by
  refine ⟨hentry, fun i' hi' ↦ ?_⟩
  by_cases heq : i' = i
  · rw [heq, t.callers_setCaller_self] at hi' ⊢
    exact hphase hi'
  · rw [t.callers_setCaller_of_ne phase heq, hcallers] at hi' ⊢
    exact hs.calls i' hi'

theorem Stopped.callStep (hs : Stopped key s) (hno : NoStart key s (.call i))
    (hstep : s.callStep i = some t) : Stopped key t ∧ t.sends key = s.sends key := by
  -- no start for the challenge is under way
  have hcalls := hs.calls i
  have hcancel (removed : Option Nat) :
      (s.cancel removed).activeRetransmissions key = none := by
    rw [s.activeRetransmissions_cancel]
    exact hs.entry
  unfold Manager.callStep at hstep
  split at hstep
  next call hi =>
    cases hstep
    refine ⟨hs.setCaller ?_ rfl fun hkey ↦ ?_, rfl⟩
    · by_cases heq : key = call.challengeKey
      · rw [heq]
        exact update_self ..
      · exact (update_of_ne heq ..).trans hs.entry
    · cases hkey
      rw [hs.entry]
      cases call with
      | startRetransmission transport challenge =>
        refine absurd ?_ hno
        rw [hi]
        rfl
      | stopRetransmission challenge => exact ⟨challenge, rfl⟩
  next transport challenge removed hi =>
    cases hstep
    refine ⟨hs.setCaller (hcancel removed) (s.callers_cancel removed) fun hkey ↦ ?_,
      s.sends_cancel removed key⟩
    rw [hi] at hcalls
    obtain ⟨_, hstop⟩ := hcalls hkey
    cases hstop
  next challenge removed hi =>
    cases hstep
    exact ⟨hs.setCaller (hcancel removed) (s.callers_cancel removed) nofun,
      s.sends_cancel removed key⟩
  next transport key' hi =>
    cases hstep
    refine ⟨hs.setCaller hs.entry rfl fun hkey ↦ ?_, rfl⟩
    rw [hi] at hcalls
    obtain ⟨_, hstop⟩ := hcalls hkey
    cases hstop
  next key' started hi =>
    cases hstep
    have hne : key ≠ key' := by
      rintro rfl
      rw [hi] at hcalls
      obtain ⟨_, hstop⟩ := hcalls rfl
      cases hstop
    exact ⟨hs.setCaller ((update_of_ne hne ..).trans hs.entry) rfl nofun, rfl⟩
  · cases hstep

/-- Until the next start nothing is transmitted. -/
theorem Stopped.next (hs : Stopped key s) (h : Tracked s) {event : Event ι}
    (hno : NoStart key s event) (hnext : retransmissionManager.next s event = some t) :
    Stopped key t ∧ t.sends key = s.sends key := by
  cases event with
  | call i => exact hs.callStep hno hnext
  | job j throws => exact hs.jobStep h hnext
  | clock elapsedRealtime =>
    obtain ⟨-, hnext⟩ := Option.ite_none_right_eq_some.mp hnext
    cases hnext
    exact ⟨⟨hs.entry, hs.calls⟩, rfl⟩

/-- A stop that returns leaves the challenge stopped. -/
theorem Stopped.of_return (h : Tracked s) {challenge : Bytes} {event : Event ι}
    (hreturns : StopReturns challenge s event)
    (hnext : retransmissionManager.next s event = some t) : Stopped (hexEncode challenge) t := by
  obtain ⟨i, removed, rfl, hi⟩ := hreturns
  change s.callStep i = some t at hnext
  simp only [Manager.callStep, hi] at hnext
  cases hnext
  have hkeys : (s.callers i).key? = some (hexEncode challenge) := by rw [hi]; rfl
  refine ⟨?_, fun i' hi' ↦ ?_⟩
  · exact (congrFun (s.activeRetransmissions_cancel removed) _).trans (h.removed i _ hkeys)
  · by_cases heq : i' = i
    · rw [heq, Manager.callers_setCaller_self] at hi'
      cases hi'
    · rw [Manager.callers_setCaller_of_ne _ _ heq, s.callers_cancel] at hi'
      exact absurd (h.alone i' i _ hi' hkeys) heq

variable {calls : ι → Call} {events : List (Event ι)}

theorem tracked_of_exec (hrun : retransmissionManager.exec (.start calls) events = some s)
    (horderly : retransmissionManager.Along Orderly (.start calls) events) : Tracked s :=
  retransmissionManager.invariant_along (fun _ _ _ h horderly hnext ↦ h.next horderly hnext)
    (.of_start calls) hrun horderly

/-- In an orderly run two jobs of one challenge never both go on, and once a stop has returned
the answer to its challenge is not transmitted until a start. -/
theorem retransmissions_exclusive
    (hrun : retransmissionManager.exec (.start calls) events = some s)
    (horderly : retransmissionManager.Along Orderly (.start calls) events) :
    (∀ (j j' : Nat) (job job' : Job), s.jobs[j]? = some job → s.jobs[j']? = some job' →
      job.Live → job'.Live → job.challengeKey = job'.challengeKey → j = j') ∧
    ∀ challenge before event after t u, events = before ++ event :: after →
      retransmissionManager.exec (.start calls) before = some t →
      StopReturns challenge t event → retransmissionManager.next t event = some u →
      retransmissionManager.Along (NoStart (hexEncode challenge)) u after →
      s.sends (hexEncode challenge) = u.sends (hexEncode challenge) := by
  refine ⟨fun j j' job job' hj hj' hlive hlive' hkey ↦
    (tracked_of_exec hrun horderly).eq_of_live hj hj' hlive hlive' hkey, ?_⟩
  rintro challenge before event after t u rfl hbefore hreturns hnext hno
  obtain ⟨hbeforeOrderly, hevent, hafter⟩ :=
    (retransmissionManager.along_append hbefore).mp horderly
  rw [retransmissionManager.exec_append hbefore, Machine.exec_cons, hnext] at hrun
  have ht := tracked_of_exec hbefore hbeforeOrderly
  refine (retransmissionManager.invariant_along
    (I := fun s ↦ Tracked s ∧ Stopped (hexEncode challenge) s ∧
      s.sends (hexEncode challenge) = u.sends (hexEncode challenge)) ?_
    ⟨ht.next hevent hnext, .of_return ht hreturns hnext, rfl⟩ hrun
    ((hafter u hnext).and hno)).2.2
  rintro v event w ⟨hv, hstopped, hsends⟩ ⟨horderly, hno⟩ hnext
  obtain ⟨hstopped', hsends'⟩ := hstopped.next hv hno hnext
  exact ⟨hv.next horderly hnext, hstopped', hsends'.trans hsends⟩

end

namespace ManagerSample

def challenge : Bytes := [1]

/-- Three starts and a stop for one challenge. -/
inductive Caller where
  | first
  | second
  | stop
  | third
  deriving DecidableEq

instance : Fintype Caller where
  elems := {.first, .second, .stop, .third}
  complete i := by cases i <;> decide

def calls : Caller → Call
  | .stop => .stopRetransmission challenge
  | _ => startUdpRetransmission challenge

def go (j : Nat) : Event Caller := .job j false

/-- A start from its first step to its last. -/
def started (i : Caller) : List (Event Caller) := [.call i, .call i, .call i, .call i]

/-- The second start replaces the first job, which ends after the second is entered. -/
def before : List (Event Caller) :=
  started .first ++ [go 0, go 0, go 0] ++ started .second ++ [go 0, go 0, .call .stop]

/-- The second job begins and transmits. -/
def after : List (Event Caller) := [go 1, go 1, go 1]

def stopping : Manager Caller :=
  (retransmissionManager.exec (.start calls) before).get (by decide +kernel)

def stopped : Manager Caller :=
  (retransmissionManager.next stopping (.call .stop)).get (by decide +kernel)

def transmitted : Manager Caller :=
  (retransmissionManager.exec stopped after).get (by decide +kernel)

def doubled : Manager Caller :=
  (retransmissionManager.exec transmitted (started .third)).get (by decide +kernel)

/-- A start, a transmission, and a stop up to its last step. -/
def inTurn : List (Event Caller) :=
  started .first ++ [go 0, go 0, go 0, .call .stop]

def silencing : Manager Caller :=
  (retransmissionManager.exec (.start calls) inTurn).get (by decide +kernel)

def silenced : Manager Caller :=
  (retransmissionManager.next silencing (.call .stop)).get (by decide +kernel)

/-- The cancelled job ends. -/
def silent : Manager Caller :=
  (retransmissionManager.exec (.start calls) (inTurn ++ .call .stop :: [go 0, go 0])).get
    (by decide +kernel)

end ManagerSample

open ManagerSample

/-- The answer is transmitted again after the stop has returned, and after one more start two
jobs for it go on. -/
theorem transmits_after_stop :
    retransmissionManager.exec (.start calls) before =
        some stopping ∧
      StopReturns challenge stopping (.call .stop) ∧
      retransmissionManager.next stopping (.call .stop) = some stopped ∧
      retransmissionManager.Along (NoStart (hexEncode challenge))
        stopped after ∧
      retransmissionManager.exec stopped after =
        some transmitted ∧
      stopped.sends (hexEncode challenge) = 1 ∧
      transmitted.sends (hexEncode challenge) = 2 ∧
      retransmissionManager.exec transmitted (started .third) =
        some doubled ∧
      (doubled.jobs.filter (·.Live)).map Job.challengeKey =
        [hexEncode challenge, hexEncode challenge] := by
  refine ⟨(Option.some_get _).symm, ⟨.stop, none, rfl, by decide +kernel⟩, (Option.some_get _).symm,
    by decide +kernel, (Option.some_get _).symm, by decide +kernel, by decide +kernel,
    (Option.some_get _).symm, by decide +kernel⟩

/-- The job that a stop has cancelled ends without another transmission. -/
theorem retransmissions_exclusive_inTurn :
    silent.sends (hexEncode challenge) =
      silenced.sends (hexEncode challenge) := by
  have hrun : retransmissionManager.exec (.start calls)
      (inTurn ++ .call .stop :: [go 0, go 0]) =
      some silent := (Option.some_get _).symm
  exact (retransmissions_exclusive hrun (by decide +kernel)).2 challenge
    inTurn _ _ silencing _ rfl (Option.some_get _).symm
    ⟨.stop, some 0, rfl, by decide +kernel⟩ (Option.some_get _).symm (by decide +kernel)

end TapAuth.Phone.Retransmission
