import TapAuth.Phone.RequestInterleaving

/-!
# The replay cache over whole runs

A run of the replay cache is a list of calls of `isReplay`, each one step, under a clock
that does not go back.  A call reads the clock twice, once for the window and the expiry
of the new entry and once in `cleanExpired`, so `ReplayCall` has both readings;
`ReplayCall.isReplay_eq` is the case in which the clock has not moved between them.

An entry is kept for 120 seconds and a timestamp is acceptable over at most 120, so the
entry is removed only when the timestamp is acceptable no more.  `Spent` says that one of
the two holds; a call that accepts a pair makes it so, every later call keeps it, and no
call accepts a pair of which it holds.
-/

namespace TapAuth.Phone

open Shared

/-- A call of `isReplay`: its arguments and what it reads from the clock. -/
structure ReplayCall where
  challenge : Bytes
  timestampUnixSeconds : Int64
  nowSeconds : Int64
  /-- The reading of `cleanExpired`. -/
  cleanSeconds : Int64
  deriving DecidableEq

namespace ReplayCall

def key (call : ReplayCall) : String := hexEncode call.challenge

def isReplay (call : ReplayCall) (cache : HexMap Int64) : Bool × HexMap Int64 :=
  if stale call.nowSeconds call.timestampUnixSeconds then (true, cache)
  else if (cache call.key).isSome then (true, cache)
  else
    (false, Function.update (cleanExpired call.cleanSeconds cache) call.key
      (some (call.nowSeconds + cacheExpirySeconds)))

/-- With one reading of the clock it is the check of the request handlers. -/
theorem isReplay_eq (call : ReplayCall) (cache : HexMap Int64)
    (h : call.cleanSeconds = call.nowSeconds) :
    call.isReplay cache =
      Phone.isReplay call.nowSeconds call.key call.timestampUnixSeconds cache := by
  rw [isReplay, h, Phone.isReplay]

/-- What a call can do: refuse and leave the cache, or accept, clean and enter the challenge. -/
theorem isReplay_cases (call : ReplayCall) (cache : HexMap Int64) :
    ((stale call.nowSeconds call.timestampUnixSeconds ∨ (cache call.key).isSome) ∧
      call.isReplay cache = (true, cache)) ∨
    (stale call.nowSeconds call.timestampUnixSeconds = false ∧ cache call.key = none ∧
      call.isReplay cache =
        (false, Function.update (cleanExpired call.cleanSeconds cache) call.key
          (some (call.nowSeconds + cacheExpirySeconds)))) := by
  unfold isReplay
  split_ifs with hstale hseen
  · exact .inl ⟨.inl hstale, rfl⟩
  · exact .inl ⟨.inr hseen, rfl⟩
  · exact .inr ⟨by simpa using hstale, by simpa using hseen, rfl⟩

end ReplayCall

/-- What the calls read from the clock, in order. -/
def clockReadings (calls : List ReplayCall) : List Int :=
  calls.flatMap fun call ↦ [call.nowSeconds.toInt, call.cleanSeconds.toInt]

/-- The clock does not go back and stays between 0 and `2 ^ 40` seconds. -/
structure ReplayClock (calls : List ReplayCall) : Prop where
  nondecreasing : (clockReadings calls).Pairwise (· ≤ ·)
  bounded : ∀ n ∈ clockReadings calls, 0 ≤ n ∧ n ≤ 2 ^ 40

/-- The pairs of challenge and timestamp that the calls accept, in order. -/
def acceptedPairs : HexMap Int64 → List ReplayCall → List (Bytes × Int64)
  | _, [] => []
  | cache, call :: calls =>
    let checked := call.isReplay cache
    if checked.1 then acceptedPairs checked.2 calls
    else (call.challenge, call.timestampUnixSeconds) :: acceptedPairs checked.2 calls

theorem isSeconds_of_bounds {n : Int64} (h : 0 ≤ n.toInt ∧ n.toInt ≤ 2 ^ 40) : IsSeconds n := by
  refine ⟨n * 1000, Int64.toInt_inj.mp ?_⟩
  have hmul : (n * 1000).toInt = n.toInt * 1000 := by
    rw [Int64.toInt_mul, show (1000 : Int64).toInt = 1000 from rfl, Int.bmod_def]
    omega
  rw [Int64.toInt_div_of_ne_right _ _ (by decide), hmul, show (1000 : Int64).toInt = 1000 from rfl,
    Int.mul_tdiv_cancel _ (by decide)]

/-! ## Spent pairs -/

section

variable (key : String) (timestamp : Int64)

/-- From `now` on the timestamp is not acceptable. -/
def Outlived (now : Int) : Prop := ∀ m, IsSeconds m → now ≤ m.toInt → stale m timestamp = true

/-- The cache has the challenge for as long as the timestamp is acceptable, or the
timestamp is acceptable no more. -/
def Spent (now : Int) (cache : HexMap Int64) : Prop :=
  (∃ expiry, cache key = some expiry ∧
    ∀ m, IsSeconds m → stale m timestamp = false → m.toInt ≤ expiry.toInt) ∨
  Outlived timestamp now

end

variable {key : String} {timestamp : Int64} {now : Int} {cache : HexMap Int64} {call : ReplayCall}

theorem Outlived.mono {later : Int} (h : Outlived timestamp now) (hle : now ≤ later) :
    Outlived timestamp later :=
  fun m hm hlater ↦ h m hm (hle.trans hlater)

theorem Spent.mono {later : Int} (h : Spent key timestamp now cache) (hle : now ≤ later) :
    Spent key timestamp later cache :=
  h.imp_right fun houtlived ↦ houtlived.mono hle

/-- Cleaning removes the entry only when the timestamp is acceptable no more. -/
theorem Spent.cleanExpired {cleanNow : Int64} (h : Spent key timestamp now cache)
    (hnow : now ≤ cleanNow.toInt) :
    Spent key timestamp cleanNow.toInt (cleanExpired cleanNow cache) := by
  obtain ⟨expiry, hexpiry, hcovers⟩ | houtlived := h
  · by_cases hexpired : expiry < cleanNow
    · right
      intro m hm hle
      by_contra hstale
      have hcovered := hcovers m hm (by simpa using hstale)
      rw [Int64.lt_iff_toInt_lt] at hexpired
      omega
    · exact .inl ⟨expiry, by simp [Phone.cleanExpired, hexpiry, hexpired], hcovers⟩
  · exact .inr (houtlived.mono hnow)

/-- A spent pair is refused. -/
theorem Spent.refused (h : Spent call.key call.timestampUnixSeconds now cache)
    (hseconds : IsSeconds call.nowSeconds) (hnow : now ≤ call.nowSeconds.toInt) :
    (call.isReplay cache).1 = true := by
  obtain ⟨-, hrefused⟩ | ⟨hstale, hnone, -⟩ := call.isReplay_cases cache
  · rw [hrefused]
  · obtain ⟨expiry, hexpiry, -⟩ | houtlived := h
    · rw [hnone] at hexpiry
      cases hexpiry
    · rw [houtlived _ hseconds hnow] at hstale
      cases hstale

/-- A spent pair stays spent, whatever is asked. -/
theorem Spent.isReplay (h : Spent key timestamp now cache) (hnow : now ≤ call.nowSeconds.toInt)
    (hclean : call.nowSeconds.toInt ≤ call.cleanSeconds.toInt) :
    Spent key timestamp call.cleanSeconds.toInt (call.isReplay cache).2 := by
  obtain ⟨-, hrefused⟩ | ⟨-, hnone, haccepted⟩ := call.isReplay_cases cache
  · rw [hrefused]
    exact h.mono (hnow.trans hclean)
  · rw [haccepted]
    obtain ⟨expiry, hexpiry, hcovers⟩ | houtlived := h.cleanExpired (hnow.trans hclean)
    · -- the entry that is made is another one, for the call found none
      have hne : key ≠ call.key := by
        rintro rfl
        simp [Phone.cleanExpired, hnone] at hexpiry
      exact .inl ⟨expiry, by simp [Function.update_of_ne hne, hexpiry], hcovers⟩
    · exact .inr houtlived

/-- A pair that is accepted is spent: its entry outlives the window of its timestamp. -/
theorem spent_of_accepted (hseconds : IsSeconds call.nowSeconds)
    (haccepted : (call.isReplay cache).1 = false) (now : Int) :
    Spent call.key call.timestampUnixSeconds now (call.isReplay cache).2 := by
  obtain ⟨-, hrefused⟩ | ⟨hstale, -, heq⟩ := call.isReplay_cases cache
  · rw [hrefused] at haccepted
    cases haccepted
  · rw [heq]
    refine .inl ⟨call.nowSeconds + cacheExpirySeconds, by simp, fun m hm hmt ↦ ?_⟩
    rw [toInt_add_cacheExpirySeconds hseconds]
    exact toInt_le_of_not_stale hseconds hm hstale hmt

/-! ## Runs -/

variable {calls : List ReplayCall}

/-- What the clock of a run says of its first call and of the rest. -/
theorem ReplayClock.cons (h : ReplayClock (call :: calls)) :
    IsSeconds call.nowSeconds ∧ call.nowSeconds.toInt ≤ call.cleanSeconds.toInt ∧
      (∀ n ∈ clockReadings calls, call.cleanSeconds.toInt ≤ n) ∧ ReplayClock calls := by
  obtain ⟨hsorted, hbounded⟩ := h
  have hreadings : clockReadings (call :: calls) =
      call.nowSeconds.toInt :: call.cleanSeconds.toInt :: clockReadings calls := rfl
  rw [hreadings] at hsorted hbounded
  rw [List.pairwise_cons, List.pairwise_cons] at hsorted
  obtain ⟨hfirst, hsecond, hrest⟩ := hsorted
  exact ⟨isSeconds_of_bounds (hbounded _ List.mem_cons_self), hfirst _ List.mem_cons_self, hsecond,
    hrest, fun n hn ↦ hbounded n (List.mem_cons_of_mem _ (List.mem_cons_of_mem _ hn))⟩

theorem acceptedPairs_cons (cache : HexMap Int64) (call : ReplayCall) (calls : List ReplayCall) :
    acceptedPairs cache (call :: calls) =
      if (call.isReplay cache).1 then acceptedPairs (call.isReplay cache).2 calls
      else (call.challenge, call.timestampUnixSeconds) ::
        acceptedPairs (call.isReplay cache).2 calls := rfl

/-- A spent pair is never accepted. -/
theorem Spent.not_mem_acceptedPairs {challenge : Bytes}
    (h : Spent (hexEncode challenge) timestamp now cache) (hclock : ReplayClock calls)
    (hnow : ∀ n ∈ clockReadings calls, now ≤ n) :
    (challenge, timestamp) ∉ acceptedPairs cache calls := by
  induction calls generalizing cache now with
  | nil => exact List.not_mem_nil
  | cons call calls ih =>
    obtain ⟨hseconds, hclean, hlater, hrest⟩ := hclock.cons
    have hfirst : now ≤ call.nowSeconds.toInt := hnow _ List.mem_cons_self
    have htail := ih (h.isReplay hfirst hclean) hrest hlater
    rw [acceptedPairs_cons]
    split_ifs with hrefused
    · exact htail
    · rw [List.mem_cons, not_or]
      refine ⟨?_, htail⟩
      rintro ⟨⟩
      exact hrefused (h.refused hseconds hfirst)

/-- Whatever is in the cache at the start, a pair is accepted at most once in a run. -/
theorem acceptedPairs_count_le_one (cache : HexMap Int64) (calls : List ReplayCall)
    (hclock : ReplayClock calls) (challenge : Bytes) (timestamp : Int64) :
    (acceptedPairs cache calls).count (challenge, timestamp) ≤ 1 := by
  induction calls generalizing cache with
  | nil => exact Nat.zero_le _
  | cons call calls ih =>
    obtain ⟨hseconds, hclean, hlater, hrest⟩ := hclock.cons
    rw [acceptedPairs_cons]
    split_ifs with hrefused
    · exact ih _ hrest
    · rw [List.count_cons]
      split_ifs with heq
      · obtain ⟨rfl, rfl⟩ := Prod.mk.inj (eq_of_beq heq)
        have hspent := spent_of_accepted hseconds (by simpa using hrefused)
          call.cleanSeconds.toInt
        rw [List.count_eq_zero_of_not_mem (hspent.not_mem_acceptedPairs hrest hlater)]
      · exact ih _ hrest

/-- A challenge, another one whose call removes its expired entry, and a replay. -/
def replayedCalls : List ReplayCall :=
  [⟨[7], 1000, 1000, 1000⟩, ⟨[7], 1000, 1030, 1030⟩, ⟨[8], 1121, 1121, 1122⟩,
    ⟨[7], 1000, 1122, 1122⟩]

theorem acceptedPairs_count_le_one_replayed :
    (acceptedPairs (fun _ ↦ none) replayedCalls = [([7], 1000), ([8], 1121)]) ∧
      (acceptedPairs (fun _ ↦ none) replayedCalls).count ([7], 1000) ≤ 1 :=
  ⟨by decide +kernel, acceptedPairs_count_le_one _ _ ⟨by decide +kernel, by decide +kernel⟩ _ _⟩

end TapAuth.Phone
