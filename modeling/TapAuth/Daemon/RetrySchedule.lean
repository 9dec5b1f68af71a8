import TapAuth.Daemon.AuthLoop

/-!
# How fast a transport's loop transmits

The loop sends the request at the top of every round, and then waits for a packet for as long
as the retry interval of its attempt.  A wait that times out has taken that long; a wait that
a packet ends has taken no particular time, and the loop sends again at once unless the packet
decides the session.

So two transmissions are apart as the schedule says if all waits so far have timed out
(`transmissions_spaced`).  Packets that the loop ignores make it transmit as fast as they come
(`replays_transmitted_at_once`).
-/

namespace TapAuth.Daemon

open Shared

section

variable (P : Primitives) (A : AuthParams)

/-- How long the wait of a round has taken at least. -/
def minWait (s : LoopState) (r : Round) : Nat :=
  match r.received with
  | .ok .timeout => getClientRetryInterval s.attempt
  | _ => 0

/-- The times of the rounds are possible: each round begins after the wait of the one
before. -/
def pacedFrom : LoopState → List Round → Bool
  | _, [] => true
  | s, r :: rounds =>
    match (authLoop P A).turn s r with
    | .inr _ => true
    | .inl t =>
      (rounds.head?.all fun next ↦ r.elapsed + minWait s r ≤ next.elapsed) &&
        pacedFrom t rounds

/-- When the loop calls `send_request`. -/
def transmissionTimes : LoopState → List Round → List Nat
  | _, [] => []
  | s, r :: rounds =>
    if getSessionTimeout ≤ r.elapsed then []
    else
      r.elapsed ::
        match (authLoop P A).turn s r with
        | .inl t => transmissionTimes t rounds
        | .inr _ => []

variable {P A} {s : LoopState} {rounds : List Round}

theorem head?_of_transmissionTimes {t : Nat}
    (h : (transmissionTimes P A s rounds)[0]? = some t) :
    ∃ r, rounds.head? = some r ∧ r.elapsed = t := by
  cases rounds with
  | nil => cases h
  | cons r rounds =>
    unfold transmissionTimes at h
    split_ifs at h
    · cases h
    · cases h
      exact ⟨r, rfl, rfl⟩

/-- What a transmission after the first says of the first round. -/
theorem transmissionTimes_succ {r : Round} {i t : Nat}
    (h : (transmissionTimes P A s (r :: rounds))[i + 1]? = some t) :
    ∃ u, (authLoop P A).turn s r = .inl u ∧ (transmissionTimes P A u rounds)[i]? = some t := by
  unfold transmissionTimes at h
  split_ifs at h
  · cases h
  · rw [List.getElem?_cons_succ] at h
    cases hturn : (authLoop P A).turn s r with
    | inl u =>
      rw [hturn] at h
      exact ⟨u, rfl, h⟩
    | inr outcome =>
      rw [hturn] at h
      cases h

/-- Between two transmissions lies the wait of the round of the first. -/
theorem minWait_le_gap {i t t' : Nat} (hpaced : pacedFrom P A s rounds)
    (ht : (transmissionTimes P A s rounds)[i]? = some t)
    (ht' : (transmissionTimes P A s rounds)[i + 1]? = some t') :
    ∃ u r, (authLoop P A).run s (rounds.take i) = .inl u ∧ rounds[i]? = some r ∧
      t + minWait u r ≤ t' := by
  induction rounds generalizing s i with
  | nil => cases ht
  | cons r rounds ih =>
    obtain ⟨u, hturn, hnext⟩ := transmissionTimes_succ ht'
    simp only [pacedFrom, hturn, Bool.and_eq_true] at hpaced
    cases i with
    | zero =>
      obtain ⟨first, hfirst, hr⟩ := head?_of_transmissionTimes ht
      cases hfirst
      obtain ⟨next, hhead, hnext⟩ := head?_of_transmissionTimes hnext
      rw [hhead, Option.all_some, decide_eq_true_eq, hr, hnext] at hpaced
      exact ⟨s, r, rfl, rfl, hpaced.1⟩
    | succ i =>
      obtain ⟨v, hv, hthis⟩ := transmissionTimes_succ ht
      cases hturn.symm.trans hv
      obtain ⟨w, q, hrun, hround, hgap⟩ := ih hpaced.2 hthis hnext
      refine ⟨w, q, ?_, hround, hgap⟩
      rw [List.take_succ_cons, (authLoop P A).run_cons_of_inl hturn, hrun]

/-- A wait that times out is counted. -/
theorem attempt_of_timeout {r : Round} {u : LoopState} (h : (authLoop P A).turn s r = .inl u)
    (htimeout : r.received = .ok .timeout) : u.attempt = s.attempt + 1 := by
  simp only [authLoop] at h
  split at h
  · cases h
  · rw [htimeout] at h
    cases h
    rfl

/-- While all waits time out, the attempt is the number of the round. -/
theorem attempt_of_timeouts {u : LoopState} (hrun : (authLoop P A).run s rounds = .inl u)
    (htimeouts : ∀ r ∈ rounds, r.received = .ok .timeout) :
    u.attempt = s.attempt + rounds.length := by
  induction rounds generalizing s with
  | nil =>
    cases hrun
    rfl
  | cons r rounds ih =>
    cases hturn : (authLoop P A).turn s r with
    | inr outcome =>
      rw [(authLoop P A).run_cons_of_inr hturn] at hrun
      cases hrun
    | inl v =>
      rw [(authLoop P A).run_cons_of_inl hturn] at hrun
      have hrest := ih hrun fun q hq ↦ htimeouts q (List.mem_cons_of_mem r hq)
      have hfirst := attempt_of_timeout hturn (htimeouts r List.mem_cons_self)
      rw [List.length_cons]
      omega

/-- **The schedule.**  A transmission whose wait timed out is followed by the next one after the
interval of the loop's attempt, and if all waits before have timed out too, that is the
interval of the retries made so far. -/
theorem transmissions_spaced {i t t' : Nat} {r : Round}
    (hpaced : pacedFrom P A .start rounds)
    (ht : (transmissionTimes P A .start rounds)[i]? = some t)
    (ht' : (transmissionTimes P A .start rounds)[i + 1]? = some t')
    (hr : rounds[i]? = some r) (htimeout : r.received = .ok .timeout) :
    (∃ u, (authLoop P A).run .start (rounds.take i) = .inl u ∧
      t + getClientRetryInterval u.attempt ≤ t') ∧
    ((∀ q ∈ rounds.take i, q.received = .ok .timeout) → t + 200 * 2 ^ min i 5 ≤ t') := by
  obtain ⟨u, q, hrun, hround, hgap⟩ := minWait_le_gap hpaced ht ht'
  cases hr.symm.trans hround
  rw [minWait, htimeout] at hgap
  refine ⟨⟨u, hrun, hgap⟩, fun htimeouts ↦ ?_⟩
  have hattempt := attempt_of_timeouts hrun htimeouts
  have hlength : i < rounds.length := (List.getElem?_eq_some_iff.mp hr).1
  rw [List.length_take, Nat.min_eq_left hlength.le] at hattempt
  rw [hattempt, LoopState.start, Nat.zero_add] at hgap
  exact hgap

end

namespace ScheduleSample

open Sample

/-- The phone's denial of another session. -/
def oldDenial : EncryptedPacket := sealed 5 (.authDenial ⟨List.replicate 32 9⟩)

/-- It arrives again and again. -/
def replays : List Round := [arrival oldDenial, arrival oldDenial, arrival oldDenial]

/-- Nothing arrives. -/
def silence (elapsed : Nat) : Round := ⟨elapsed, .ok (), .ok .timeout, env⟩

def silences : List Round := [silence 0, silence 200, silence 600, silence 1400]

end ScheduleSample

open ScheduleSample

open Sample

/-- Three transmissions in no time. -/
theorem replays_transmitted_at_once :
    pacedFrom primitives params .start replays = true ∧
      transmissionTimes primitives params .start replays =
        [0, 0, 0] := by
  decide +kernel

theorem transmissions_spaced_silences :
    transmissionTimes primitives params .start silences =
        [0, 200, 600, 1400] ∧
      600 + 200 * 2 ^ min 2 5 ≤ 1400 := by
  have htimes : transmissionTimes primitives params .start
      silences = [0, 200, 600, 1400] := by decide +kernel
  have hpaced : pacedFrom primitives params .start silences := by
    decide +kernel
  have hthird : (transmissionTimes primitives params .start
      silences)[2]? = some 600 := by rw [htimes]; rfl
  have hfourth : (transmissionTimes primitives params .start
      silences)[2 + 1]? = some 1400 := by rw [htimes]; rfl
  exact ⟨htimes, (transmissions_spaced hpaced hthird hfourth rfl rfl).2 (by decide +kernel)⟩

end TapAuth.Daemon
