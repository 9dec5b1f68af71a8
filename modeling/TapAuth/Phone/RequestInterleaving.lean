import Mathlib.Data.Fintype.Basic
import TapAuth.Lib.Long
import TapAuth.Phone.RequestHandlers
import TapAuth.Shared.Transparent

/-!
# Interleaved request handlers

Any number of handlers run on the phone at once, and copies of one request reach
several of them: the desktop retransmits, and sends over both transports.  The user
should be asked once.

What stands between two copies is the replay cache, but `isReplay` looks a challenge
up and enters it in two operations.  `submissions_le_one` is what holds: a request is
submitted at most once while its timestamp is acceptable, in every run in which no
handler looks its challenge up while another is between its look-up and its entry,
and in which the wall clock is not set back.

The proof follows the challenge.  At most one handler is past its look-up and not yet
finished, and once it has entered the challenge the entry stays as long as the
timestamp is acceptable (`Covered`), since an entry outlives the window.
-/

namespace TapAuth.Phone

open Shared

/-! ## Acceptable times -/

/-- A reading of the wall clock, in seconds. -/
def IsSeconds (n : Int64) : Prop := ∃ millis : Int64, n = millis / 1000

theorem PhoneMemory.isSeconds_nowSeconds (s : PhoneMemory) : IsSeconds s.nowSeconds := ⟨_, rfl⟩

theorem IsSeconds.bounds {n : Int64} (h : IsSeconds n) :
    -9223372036854775 ≤ n.toInt ∧ n.toInt ≤ 9223372036854775 := by
  obtain ⟨millis, rfl⟩ := h
  constructor
  · exact Int64.toInt_div_le_toInt_div (n := Int64.minValue) (d := 1000) (by decide) millis.le_toInt
  · exact Int64.toInt_div_le_toInt_div (m := Int64.maxValue) (d := 1000) (by decide) millis.toInt_le

theorem toInt_abs_le_of_not_stale {n timestamp : Int64} (h : stale n timestamp = false) :
    (n - timestamp).abs.toInt ≤ 60 := by
  have hle : ¬ timestampValiditySeconds < (n - timestamp).abs := of_decide_eq_false h
  rw [Int64.lt_iff_toInt_lt] at hle
  exact Int.not_lt.mp hle

/-- The times at which a timestamp is acceptable are at most 120 seconds apart. -/
theorem toInt_le_of_not_stale {n m timestamp : Int64} (hn : IsSeconds n) (hm : IsSeconds m)
    (hnt : stale n timestamp = false) (hmt : stale m timestamp = false) :
    m.toInt ≤ n.toInt + 120 :=
  Int64.toInt_le_add_of_abs_sub_le hn.bounds hm.bounds (by decide) (by decide)
    (toInt_abs_le_of_not_stale hnt) (toInt_abs_le_of_not_stale hmt)

theorem toInt_add_cacheExpirySeconds {n : Int64} (hn : IsSeconds n) :
    (n + cacheExpirySeconds).toInt = n.toInt + 120 := by
  have hbounds := hn.bounds
  rw [Int64.toInt_add, show cacheExpirySeconds.toInt = 120 from rfl, Int.bmod_def]
  omega

/-! ## What a step can do -/

namespace Handler

/-- The request a handler is about. -/
def job? (P : Primitives) : Handler → Option Job
  | .arrived incoming => incoming.job? P
  | .claiming job | .sweeping job _ | .removing job _ _ | .swept job _ | .replacing job _ _
  | .claimed job | .checking job _ | .missed job _ | .cleaning job _ _ | .cleaned job _
  | .accepted job | .verified job => some job
  | .surroundings | .finished _ => none

/-- The handler has not asked the replay cache, or has finished. -/
def OutsideCache : Handler → Prop
  | .checking _ _ | .missed _ _ | .cleaning _ _ _ | .cleaned _ _ | .accepted _ | .verified _ =>
    False
  | _ => True

/-- The handler has looked the challenge up in vain and has not entered it. -/
def betweenCheckAndPut (key : String) : Handler → Bool
  | .missed job _ | .cleaning job _ _ | .cleaned job _ => job.key = key
  | _ => false

/-- The handler has entered the challenge and has not finished. -/
def entered (key : String) : Handler → Bool
  | .accepted job | .verified job => job.key = key
  | _ => false

end Handler

/-- Every step of a handler, with what it does to the clock, the replay cache and the
submissions.  Steps that at most change the locks are `locking`. -/
inductive RequestStep (P : Primitives) (s : PhoneMemory) :
    Handler → PhoneEvent → PhoneMemory → Handler → Prop where
  | clocks {currentTimeMillis elapsedRealtime : Int64} :
      RequestStep P s .surroundings (.clocks currentTimeMillis elapsedRealtime)
        { s with currentTimeMillis, elapsedRealtime } .surroundings
  | locking {l l' : Handler} {e : PhoneEvent} (locks : HexMap TransportLock)
      (houtside : l'.OutsideCache) (hjob : ∀ job, l'.job? P = some job → l.job? P = some job) :
      RequestStep P s l e { s with challengeLocks := locks } l'
  | timeRead {job : Job} (hstale : stale s.nowSeconds job.request.timestampUnixSeconds = false) :
      RequestStep P s (.claimed job) .go s (.checking job s.nowSeconds)
  | missed {job : Job} {n : Int64} (hmiss : s.challengeCache job.key = none) :
      RequestStep P s (.checking job n) .go s (.missed job n)
  | cleanTimeRead {job : Job} {n : Int64} :
      RequestStep P s (.missed job n) .go s (.cleaning job n s.nowSeconds)
  | cleaned {job : Job} {n cleanNow : Int64} :
      RequestStep P s (.cleaning job n cleanNow) .go
        { s with challengeCache := cleanExpired cleanNow s.challengeCache } (.cleaned job n)
  | put {job : Job} {n : Int64} :
      RequestStep P s (.cleaned job n) .go
        (s.putChallenge job.key (n + cacheExpirySeconds)) (.accepted job)
  | verified {job : Job} : RequestStep P s (.accepted job) .go s (.verified job)
  | submitted {job : Job} :
      RequestStep P s (.verified job) .go (s.submitRequest job) (.finished .submitted)

namespace RequestStep

variable {P : Primitives} {s t : PhoneMemory} {l l' : Handler} {e : PhoneEvent}

/-- A handler that ends without submitting. -/
theorem ended {result : HandlerEnd} : RequestStep P s l e s (.finished result) :=
  .locking s.challengeLocks trivial nofun

theorem of_afterExisting {job : Job} {existing : TransportLock} (hjob : l.job? P = some job) :
    RequestStep P s l e s (afterExisting job existing) := by
  unfold afterExisting
  split_ifs
  · exact .locking s.challengeLocks trivial fun _ h ↦ h ▸ hjob
  · exact .ended

theorem of_handlerStep (h : handlerStep P s l e = some (t, l')) : RequestStep P s l e t l' := by
  unfold handlerStep at h
  split at h
  · cases h; exact .clocks
  · cases h; exact .locking _ trivial fun _ h ↦ h
  · split at h
    · rename_i hprecheck
      cases h
      exact .locking s.challengeLocks trivial fun _ h ↦ h ▸ job?_of_precheck hprecheck
    · cases h; exact .ended
  · cases h; exact .locking s.challengeLocks trivial fun _ h ↦ h
  · split at h
    · split_ifs at h
      cases h
      exact .locking s.challengeLocks trivial fun _ h ↦ h
    · cases h
  · cases h; exact .locking _ trivial fun _ h ↦ h
  · cases h; exact .locking s.challengeLocks trivial fun _ h ↦ h
  · rename_i job now
    unfold putIfAbsent at h
    split at h
    · cases h; exact .locking _ trivial fun _ h ↦ h
    · split_ifs at h
      · cases h; exact .locking s.challengeLocks trivial fun _ h ↦ h
      · cases h; exact of_afterExisting rfl
  · unfold replaceLock at h
    split_ifs at h
    · cases h; exact .locking _ trivial fun _ h ↦ h
    · cases h; exact of_afterExisting rfl
  · split_ifs at h with hstale
    · cases h; exact .ended
    · cases h; exact .timeRead (by simpa using hstale)
  · split_ifs at h with hseen
    · cases h; exact .ended
    · cases h; exact .missed (by simpa using hseen)
  · cases h; exact .cleanTimeRead
  · cases h; exact .cleaned
  · cases h; exact .put
  · split_ifs at h
    · cases h; exact .verified
    · cases h; exact .ended
  · cases h; exact .submitted
  · cases h

end RequestStep

/-! ## One challenge -/

section

variable (key : String) (timestamp : Int64)

namespace PhoneMemory

/-- How often the challenge has been submitted while its timestamp was acceptable. -/
def submissions (s : PhoneMemory) : Nat :=
  s.submitted.countP fun submission ↦ submission.1.key = key && !stale submission.2 timestamp

/-- The timestamp is acceptable no more. -/
def Past (s : PhoneMemory) : Prop :=
  ∀ m, IsSeconds m → s.nowSeconds.toInt ≤ m.toInt → stale m timestamp = true

/-- The cache has the challenge for as long as its timestamp is acceptable. -/
def Covered (s : PhoneMemory) : Prop :=
  ∃ expiry, s.challengeCache key = some expiry ∧
    ∀ m, IsSeconds m → stale m timestamp = false → m.toInt ≤ expiry.toInt

/-- The invariant of the memory. -/
structure Ok (s : PhoneMemory) : Prop where
  once : s.submissions key timestamp ≤ 1
  covered : ¬ s.Past timestamp → s.submissions key timestamp ≠ 0 → s.Covered key timestamp

/-- What the steps of others look like. -/
structure Evolves (s t : PhoneMemory) : Prop where
  clock : s.nowSeconds.toInt ≤ t.nowSeconds.toInt
  covered : s.Covered key timestamp → ¬ t.Past timestamp → t.Covered key timestamp

end PhoneMemory

namespace Handler

/-- The handler has looked the challenge up in vain and has not finished. -/
def Inside (l : Handler) : Prop := l.betweenCheckAndPut key = true ∨ l.entered key = true

variable {key} in
theorem OutsideCache.not_inside {l : Handler} (h : l.OutsideCache) : ¬ l.Inside key := by
  rintro (hbetween | hentered)
  · cases l with
    | missed | cleaning | cleaned => exact h
    | _ => cases hbetween
  · cases l with
    | accepted | verified => exact h
    | _ => cases hentered

/-- The times a handler has read. -/
def ReadOk (s : PhoneMemory) : Handler → Prop
  | .checking job n | .missed job n | .cleaned job n =>
    IsSeconds n ∧ stale n job.request.timestampUnixSeconds = false
  | .cleaning job n cleanNow =>
    IsSeconds n ∧ stale n job.request.timestampUnixSeconds = false ∧
      cleanNow.toInt ≤ s.nowSeconds.toInt
  | _ => True

/-- The invariant of a handler. -/
structure Ok (P : Primitives) (s : PhoneMemory) (l : Handler) : Prop where
  copy : ∀ job, l.job? P = some job → job.key = key → job.request.timestampUnixSeconds = timestamp
  read : l.ReadOk s
  free : l.Inside key → ¬ s.Past timestamp → s.submissions key timestamp = 0
  covered : l.entered key = true → ¬ s.Past timestamp → s.Covered key timestamp

end Handler

end

variable {key : String} {timestamp : Int64}

namespace PhoneMemory

variable {s t : PhoneMemory}

theorem Past.mono (h : s.Past timestamp) (hclock : s.nowSeconds.toInt ≤ t.nowSeconds.toInt) :
    t.Past timestamp :=
  fun m hm hle ↦ h m hm (hclock.trans hle)

theorem not_past_of_not_stale (h : stale s.nowSeconds timestamp = false) : ¬ s.Past timestamp :=
  fun hpast ↦ by simp [hpast _ s.isSeconds_nowSeconds le_rfl] at h

theorem not_covered_of_none (h : s.challengeCache key = none) : ¬ s.Covered key timestamp := by
  rintro ⟨expiry, hexpiry, -⟩
  rw [h] at hexpiry
  cases hexpiry

/-- Cleaning takes the entry only when the timestamp is acceptable no more. -/
theorem Covered.cleanExpired {cleanNow : Int64} (h : s.Covered key timestamp)
    (hclean : cleanNow.toInt ≤ s.nowSeconds.toInt) (hpast : ¬ s.Past timestamp) :
    Covered key timestamp { s with challengeCache := cleanExpired cleanNow s.challengeCache } := by
  obtain ⟨expiry, hexpiry, hcovers⟩ := h
  have hkept : ¬ expiry < cleanNow := by
    intro hlt
    refine hpast fun m hm hle ↦ ?_
    rw [Int64.lt_iff_toInt_lt] at hlt
    by_contra hstale
    have := hcovers m hm (by simpa using hstale)
    omega
  refine ⟨expiry, ?_, hcovers⟩
  simp [Phone.cleanExpired, hexpiry, hkept]

/-- An entry that is made at an acceptable time outlives the window. -/
theorem covered_put {n : Int64} (hn : IsSeconds n) (hstale : stale n timestamp = false) :
    (s.putChallenge key (n + cacheExpirySeconds)).Covered key timestamp := by
  refine ⟨n + cacheExpirySeconds, by simp [putChallenge], fun m hm hmt ↦ ?_⟩
  rw [toInt_add_cacheExpirySeconds hn]
  exact toInt_le_of_not_stale hn hm hstale hmt

end PhoneMemory

/-- The step looks the challenge up. -/
def Handler.looksUp (key : String) : Handler → PhoneEvent → Bool
  | .checking job _, .go => job.key = key
  | _, _ => false

/-- The step sets the wall clock back. -/
def Handler.setsBack (s : PhoneMemory) : Handler → PhoneEvent → Bool
  | .surroundings, .clocks currentTimeMillis _ => currentTimeMillis < s.currentTimeMillis
  | _, _ => false

/-- The condition on a step.  A handler looks the challenge up while no other handler
is between its look-up and its entry; the wall clock is not set back. -/
def Unraced {ι : Type} (key : String) (p : Pool ι PhoneMemory Handler) (label : ι × PhoneEvent) :
    Prop :=
  ((p.locals label.1).looksUp key label.2 = true →
    ∀ j, (p.locals j).betweenCheckAndPut key = false) ∧
    (p.locals label.1).setsBack p.shared label.2 = false

instance {ι : Type} [Fintype ι] (key : String) (p : Pool ι PhoneMemory Handler)
    (label : ι × PhoneEvent) : Decidable (Unraced key p label) :=
  inferInstanceAs (Decidable (_ ∧ _))

namespace RequestStep

variable {P : Primitives} {s t : PhoneMemory} {l l' : Handler} {e : PhoneEvent}

theorem job?_eq (h : RequestStep P s l e t l') {job : Job} (hjob : l'.job? P = some job) :
    l.job? P = some job := by
  cases h with
  | locking locks houtside hsame => exact hsame job hjob
  | submitted => cases hjob
  | _ => exact hjob

/-- The entry a handler is about to make covers its timestamp. -/
theorem covered_of_cleaned {job : Job} {n : Int64}
    (hl : (Handler.cleaned job n).Ok key timestamp P s) (hkey : job.key = key) :
    (s.putChallenge job.key (n + cacheExpirySeconds)).Covered key timestamp := by
  obtain ⟨hn, hstale⟩ := hl.read
  rw [hl.copy job rfl hkey] at hstale
  rw [hkey]
  exact PhoneMemory.covered_put hn hstale

theorem evolves (h : RequestStep P s l e t l') (hl : l.Ok key timestamp P s)
    (hclock : s.nowSeconds.toInt ≤ t.nowSeconds.toInt) : s.Evolves key timestamp t := by
  refine ⟨hclock, fun hcovered hpast ↦ ?_⟩
  cases h with
  | cleaned => exact hcovered.cleanExpired hl.read.2.2 hpast
  | @put job n =>
    by_cases hkey : job.key = key
    · exact covered_of_cleaned hl hkey
    · obtain ⟨expiry, hexpiry, hcovers⟩ := hcovered
      refine ⟨expiry, ?_, hcovers⟩
      simpa [PhoneMemory.putChallenge, Ne.symm hkey] using hexpiry
  | _ => exact hcovered

/-- Only a handler that is about to finish submits, and it counts only while the
timestamp is acceptable. -/
theorem submissions_eq (h : RequestStep P s l e t l') (key : String) (timestamp : Int64) :
    t.submissions key timestamp = s.submissions key timestamp ∨
      (l.entered key = true ∧ ¬ s.Past timestamp ∧ ¬ l'.Inside key ∧
        t.submissions key timestamp = s.submissions key timestamp + 1) := by
  cases h with
  | @submitted job =>
    by_cases hcounts : (decide (job.key = key) && !stale s.nowSeconds timestamp) = true
    · obtain ⟨hkey, hstale⟩ := Bool.and_eq_true_iff.mp hcounts
      exact .inr ⟨hkey, PhoneMemory.not_past_of_not_stale (by simpa using hstale),
        Handler.OutsideCache.not_inside trivial, List.countP_cons_of_pos hcounts⟩
    · exact .inl (List.countP_cons_of_neg hcounts)
  | _ => exact .inl rfl

/-- A handler gets inside only by a look-up in vain. -/
theorem inside_cases (h : RequestStep P s l e t l') (hinside : l'.Inside key) :
    l.Inside key ∨
      ∃ job n, l = .checking job n ∧ e = .go ∧ job.key = key ∧ s.challengeCache key = none ∧
        t = s := by
  cases h with
  | @missed job n hmiss =>
    have hkey : job.key = key := by
      simpa [Handler.Inside, Handler.betweenCheckAndPut, Handler.entered] using hinside
    exact .inr ⟨job, n, rfl, rfl, hkey, hkey ▸ hmiss, rfl⟩
  | locking locks houtside hjob =>
    exact absurd hinside houtside.not_inside
  | put => exact .inl (.inl (by
      simpa [Handler.Inside, Handler.betweenCheckAndPut, Handler.entered] using hinside))
  | timeRead => simp [Handler.Inside, Handler.betweenCheckAndPut, Handler.entered] at hinside
  | submitted => exact absurd hinside (Handler.OutsideCache.not_inside trivial)
  | _ => exact .inl hinside

/-- A handler that has entered the challenge did so before or does so now. -/
theorem entered_cases (h : RequestStep P s l e t l') (hl : l.Ok key timestamp P s)
    (hentered : l'.entered key = true) : l.entered key = true ∨ t.Covered key timestamp := by
  cases h with
  | @put job n => exact .inr (covered_of_cleaned hl (of_decide_eq_true hentered))
  | verified => exact .inl hentered
  | locking locks houtside hjob =>
    exact absurd (.inr hentered) houtside.not_inside
  | _ => cases hentered

theorem readOk (h : RequestStep P s l e t l') (hl : l.ReadOk s) : l'.ReadOk t := by
  cases h with
  | locking locks houtside hjob =>
    cases l' with
    | checking | missed | cleaning | cleaned | accepted | verified => exact houtside.elim
    | _ => trivial
  | timeRead hstale => exact ⟨s.isSeconds_nowSeconds, hstale⟩
  | missed => exact hl
  | cleanTimeRead => exact ⟨hl.1, hl.2, le_rfl⟩
  | cleaned => exact ⟨hl.1, hl.2.1⟩
  | _ => trivial

theorem clock_le {ι : Type} {p : Pool ι PhoneMemory Handler} {i : ι}
    (h : RequestStep P p.shared (p.locals i) e t l') (hG : Unraced key p (i, e)) :
    p.shared.nowSeconds.toInt ≤ t.nowSeconds.toInt := by
  generalize hl : p.locals i = l at h
  cases h with
  | @clocks currentTimeMillis elapsedRealtime =>
    have hle : ¬ currentTimeMillis < p.shared.currentTimeMillis := by
      simpa [hl, Handler.setsBack] using hG.2
    rw [Int64.lt_iff_toInt_lt] at hle
    exact Int64.toInt_div_le_toInt_div (by decide) (Int.not_lt.mp hle)
  | _ => exact le_rfl

end RequestStep

namespace Handler

variable {P : Primitives} {s t : PhoneMemory} {l : Handler}

theorem ReadOk.mono (h : l.ReadOk s) (hclock : s.nowSeconds.toInt ≤ t.nowSeconds.toInt) :
    l.ReadOk t := by
  cases l with
  | cleaning job n cleanNow => exact ⟨h.1, h.2.1, h.2.2.trans hclock⟩
  | _ => exact h

/-- What a handler has is kept by the step of another that does not count a
submission. -/
theorem Ok.evolve (h : l.Ok key timestamp P s) (hst : s.Evolves key timestamp t)
    (hsubmissions : l.Inside key → ¬ s.Past timestamp →
      t.submissions key timestamp = s.submissions key timestamp) : l.Ok key timestamp P t where
  copy := h.copy
  read := h.read.mono hst.clock
  free hinside hpast := by
    have hbefore : ¬ s.Past timestamp := fun hs ↦ hpast (hs.mono hst.clock)
    rw [hsubmissions hinside hbefore]
    exact h.free hinside hbefore
  covered hentered hpast :=
    hst.covered (h.covered hentered fun hs ↦ hpast (hs.mono hst.clock)) hpast

end Handler

/-- The pool at the start: handlers with packets, in which the challenge comes with one
timestamp, and the surroundings; nothing has been submitted. -/
structure Arrivals {ι : Type} (P : Primitives) (challenge : Bytes) (timestamp : Int64)
    (p : Pool ι PhoneMemory Handler) : Prop where
  start : ∀ i, p.locals i = .surroundings ∨ ∃ incoming, p.locals i = .arrived incoming
  copies : ∀ i incoming request, p.locals i = .arrived incoming →
    parseAuthRequest P incoming.wrapperMessage = some request → request.challenge = challenge →
    request.timestampUnixSeconds = timestamp
  unsubmitted : p.shared.submitted = []

section

variable {ι : Type} {P : Primitives} {p : Pool ι PhoneMemory Handler}

/-- The invariant of the pool: both invariants, and while the timestamp is acceptable
at most one handler is inside. -/
abbrev RequestsHold (P : Primitives) (key : String) (timestamp : Int64) :
    Pool ι PhoneMemory Handler → Prop :=
  Threads.Holds (PhoneMemory.Ok key timestamp) (fun s l ↦ l.Ok key timestamp P s)
    fun s l ↦ ¬ s.Past timestamp ∧ l.Inside key

theorem Arrivals.holds {challenge : Bytes} (h : Arrivals P challenge timestamp p) :
    RequestsHold P (hexEncode challenge) timestamp p := by
  have hzero : p.shared.submissions (hexEncode challenge) timestamp = 0 := by
    simp [PhoneMemory.submissions, h.unsubmitted]
  have houtside : ∀ i, ¬ (p.locals i).Inside (hexEncode challenge) := by
    intro i
    apply Handler.OutsideCache.not_inside
    rcases h.start i with hi | ⟨incoming, hi⟩ <;> rw [hi] <;> trivial
  refine ⟨⟨by omega, fun _ h ↦ absurd hzero h⟩, fun i ↦ ?_, fun i _ hi ↦ absurd hi.2 (houtside i)⟩
  refine ⟨fun job hjob hkey ↦ ?_, ?_, fun hinside ↦ absurd hinside (houtside i),
    fun hentered ↦ absurd (.inr hentered) (houtside i)⟩
  · rcases h.start i with hi | ⟨incoming, hi⟩
    · simp [hi, Handler.job?] at hjob
    · rw [hi] at hjob
      obtain ⟨request, hparse, rfl⟩ := Option.map_eq_some_iff.mp hjob
      exact h.copies i incoming request hi hparse (hexEncode_injective hkey)
  · rcases h.start i with hi | ⟨incoming, hi⟩ <;> rw [hi] <;> trivial

/-- The step of a handler, for the handler itself. -/
theorem RequestsHold.self {i : ι} {e : PhoneEvent} {t : PhoneMemory} {l' : Handler}
    (hp : RequestsHold P key timestamp p) (hG : Unraced key p (i, e))
    (h : RequestStep P p.shared (p.locals i) e t l') :
    t.Ok key timestamp ∧ l'.Ok key timestamp P t ∧
      (¬ t.Past timestamp ∧ l'.Inside key →
        ∀ j, j ≠ i → ¬ (¬ t.Past timestamp ∧ (p.locals j).Inside key)) := by
  have hl := hp.locals i
  have hst := h.evolves hl (h.clock_le hG)
  have hbefore : ¬ t.Past timestamp → ¬ p.shared.Past timestamp :=
    fun ht hs ↦ ht (hs.mono hst.clock)
  refine ⟨⟨?_, fun hpast hsome ↦ ?_⟩,
    ⟨fun job hjob ↦ hl.copy job (h.job?_eq hjob), h.readOk hl.read, fun hinside hpast ↦ ?_,
      fun hentered hpast ↦ ?_⟩, ?_⟩
  · rcases h.submissions_eq key timestamp with heq | ⟨hentered, hpast, -, heq⟩
    · exact heq ▸ hp.shared.once
    · rw [heq, hl.free (.inr hentered) hpast]
  · rcases h.submissions_eq key timestamp with heq | ⟨hentered, hs, -, -⟩
    · exact hst.covered (hp.shared.covered (hbefore hpast) (heq ▸ hsome)) hpast
    · exact hst.covered (hl.covered hentered hs) hpast
  · rcases h.submissions_eq key timestamp with heq | ⟨-, -, houtside, -⟩
    · rw [heq]
      rcases h.inside_cases hinside with hl' | ⟨job, n, -, -, -, hnone, -⟩
      · exact hl.free hl' (hbefore hpast)
      · by_contra hsome
        -- a look-up in vain: nothing has been submitted
        exact PhoneMemory.not_covered_of_none hnone (hp.shared.covered (hbefore hpast) hsome)
    · exact absurd hinside houtside
  · rcases h.entered_cases hl hentered with hl' | hcovered
    · exact hst.covered (hl.covered hl' (hbefore hpast)) hpast
    · exact hcovered
  · rintro ⟨hpast, hinside⟩ j hj ⟨-, hother⟩
    rcases h.inside_cases hinside with hl' | ⟨job, n, hli, rfl, hkey, hnone, -⟩
    · exact hj (hp.exclusive i j ⟨hbefore hpast, hl'⟩ ⟨hbefore hpast, hother⟩).symm
    · rcases hother with hbetween | hentered
      · have hlooksUp : (p.locals i).looksUp key .go = true := by
          simpa [hli, Handler.looksUp] using hkey
        rw [hG.1 hlooksUp j] at hbetween
        cases hbetween
      · exact PhoneMemory.not_covered_of_none hnone
          ((hp.locals j).covered hentered (hbefore hpast))

/-- The step of a handler, for another. -/
theorem RequestsHold.other {i j : ι} {e : PhoneEvent} {t : PhoneMemory} {l' : Handler}
    (hp : RequestsHold P key timestamp p) (hG : Unraced key p (i, e)) (hj : j ≠ i)
    (h : RequestStep P p.shared (p.locals i) e t l') :
    (p.locals j).Ok key timestamp P t ∧
      (¬ t.Past timestamp ∧ (p.locals j).Inside key →
        ¬ p.shared.Past timestamp ∧ (p.locals j).Inside key) := by
  have hst := h.evolves (hp.locals i) (h.clock_le hG)
  refine ⟨(hp.locals j).evolve hst fun hinside hpast ↦ ?_,
    fun ⟨hpast, hinside⟩ ↦ ⟨fun hs ↦ hpast (hs.mono hst.clock), hinside⟩⟩
  rcases h.submissions_eq key timestamp with heq | ⟨hentered, -, -, -⟩
  · exact heq
  · exact absurd (hp.exclusive j i ⟨hpast, hinside⟩ ⟨hpast, .inr hentered⟩) hj

/-- **A request is submitted at most once while its timestamp is acceptable**, in every
interleaving of any number of handlers in which no look-up of its challenge falls
between the look-up and the entry of another handler. -/
theorem submissions_le_one [DecidableEq ι] {challenge : Bytes} {q : Pool ι PhoneMemory Handler}
    {labels : List (ι × PhoneEvent)} (hstart : Arrivals P challenge timestamp p)
    (hrun : (requestHandlers P).pool.exec p labels = some q)
    (hunraced : (requestHandlers P).pool.Along (Unraced (hexEncode challenge)) p labels) :
    q.shared.submissions (hexEncode challenge) timestamp ≤ 1 := by
  have hq : RequestsHold P (hexEncode challenge) timestamp q := by
    refine (requestHandlers P).exclusion_along ?_ ?_ hstart.holds hrun hunraced
    · intro p i e t l' hp hG hstep
      exact RequestsHold.self hp hG (.of_handlerStep hstep)
    · intro p i j e t l' hp hG hj hstep
      exact RequestsHold.other hp hG hj (.of_handlerStep hstep)
  exact hq.shared.once

end

namespace RequestSample

def primitives : Primitives := Transparent.primitives

def desktop : Ed25519KeyPair := ⟨FixedBytes.fill 32 7⟩

def challenge : Bytes := List.replicate 32 9

def device : PairedDevice where
  deviceId := "d"
  publicKey := (desktop.verifyingKeyBytes primitives).bytes
  csk := List.replicate 32 3
  displayName := "desktop"
  pairedAt := 0
  allowedUsers := ["alice"]

/-- A packet with the signed request. -/
def packet : Incoming where
  transport := .udp
  device := device
  wrapperMessage := primitives.wrapperFormat.encode
    (signWrapperMessage primitives (wrapAuthRequest ⟨challenge, "alice", "desktop", 1000⟩) desktop)

def memory : PhoneMemory where
  currentTimeMillis := 1000000
  elapsedRealtime := 5000
  challengeLocks _ := none
  challengeCache _ := none
  submitted := []

/-- Two copies of the request, and the surroundings. -/
def start : Pool (Fin 3) PhoneMemory Handler :=
  ⟨memory, fun i ↦ if i = 2 then .surroundings else .arrived packet⟩

def go (i : Fin 3) (n : Nat) : List (Fin 3 × PhoneEvent) := List.replicate n (i, .go)

/-- Both handlers look the challenge up before one of them enters it. -/
def raced : List (Fin 3 × PhoneEvent) :=
  (0, .precheck true) :: go 0 5 ++ (1, .precheck true) :: go 1 5 ++ go 0 5 ++ go 1 5

/-- The second handler comes a second after the first. -/
def unraced : List (Fin 3 × PhoneEvent) :=
  (0, .precheck true) :: go 0 10 ++ (2, .clocks 1001000 6000) :: (1, .precheck true) :: go 1 5

theorem arrivals : Arrivals primitives challenge 1000 start where
  start := by
    intro i
    by_cases hi : i = 2
    · exact .inl (if_pos hi)
    · exact .inr ⟨packet, if_neg hi⟩
  copies := by
    intro i incoming request hi hparse _
    have hpacket : incoming = packet := by
      change (if i = 2 then _ else _) = _ at hi
      split_ifs at hi
      cases hi
      rfl
    have htimestamp : (parseAuthRequest primitives packet.wrapperMessage).map
        ParsedRequest.timestampUnixSeconds = some 1000 := by
      decide +kernel
    rw [← hpacket, hparse] at htimestamp
    exact Option.some.inj htimestamp
  unsubmitted := rfl

end RequestSample

open RequestSample

/-- Two copies over UDP, and the user is asked twice within the same second. -/
theorem submissions_of_raced :
    Arrivals primitives challenge 1000 start ∧
      ¬ ∀ labels q,
        (requestHandlers primitives).pool.exec start labels = some q →
        q.shared.submissions (hexEncode challenge) 1000 ≤ 1 := by
  refine ⟨arrivals, fun h ↦ ?_⟩
  have hrun : ((requestHandlers primitives).pool.exec start
      raced).map (fun q ↦
        q.shared.submissions (hexEncode challenge) 1000) = some 2 := by
    decide +kernel
  obtain ⟨q, hq, htwo⟩ := Option.map_eq_some_iff.mp hrun
  have := h _ q hq
  omega

/-- A second copy that comes later is a replay. -/
theorem submissions_le_one_sample :
    ∃ q, (requestHandlers primitives).pool.exec start
        unraced = some q ∧
      q.shared.submissions (hexEncode challenge) 1000 ≠ 0 ∧
      q.locals 1 = .finished .replay ∧
      q.shared.submissions (hexEncode challenge) 1000 ≤ 1 := by
  have hrun : ((requestHandlers primitives).pool.exec start
      unraced).map (fun q ↦
        (q.shared.submissions (hexEncode challenge) 1000, q.locals 1)) =
      some (1, .finished .replay) := by
    decide +kernel
  obtain ⟨q, hq, hend⟩ := Option.map_eq_some_iff.mp hrun
  obtain ⟨hone, hreplay⟩ := Prod.mk.inj hend
  refine ⟨q, hq, by omega, hreplay, ?_⟩
  exact submissions_le_one arrivals hq (by decide +kernel)

end TapAuth.Phone
