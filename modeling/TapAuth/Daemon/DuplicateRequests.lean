import TapAuth.Daemon.Server

/-!
# Duplicate requests

`handle_pam_authenticate` keeps one timestamp for each user in `recent_requests` and
refuses a request that comes less than a second after it.  A refused request does not
touch the timestamp, and entries of two seconds and more are removed.

The window is given in units of which `second` make a second, so that the results hold
for any resolution of the clock; the server counts milliseconds
(`Server.retainRecent_eq`, `Server.isDuplicate_eq`).  `Tracks` relates the table to the
requests that were accepted: the table has only such, and an accepted request of less
than two seconds ago is in it or was replaced by a later one.  A request is then refused
exactly if a request of the same user was accepted less than a second before
(`isDuplicate_iff_accepted`), and in a run of the whole daemon this is what its table
says (`Server.isDuplicate_iff_of_exec`).
-/

universe u

namespace TapAuth.Daemon

open Shared

/-- `recent_requests`: when a request of a user was last accepted. -/
abbrev RecentRequests := String → Option Nat

/-- A `PamAuthenticate` request as the table sees it. -/
structure Arrival where
  time : Nat
  username : String
  deriving DecidableEq

namespace RecentRequests

variable (second : Nat)

/-- The entries of less than two seconds. -/
def retain (recent : RecentRequests) (now : Nat) : RecentRequests := fun username ↦
  (recent username).filter fun timestamp ↦ now - timestamp < 2 * second

def isDuplicate (recent : RecentRequests) (request : Arrival) : Bool :=
  (recent.retain second request.time request.username).any fun timestamp ↦
    request.time - timestamp < second

/-- `handle_pam_authenticate` on the table. -/
def handle (recent : RecentRequests) (request : Arrival) : RecentRequests :=
  if recent.isDuplicate second request then recent.retain second request.time
  else
    Function.update (recent.retain second request.time) request.username (some request.time)

/-- The table after a sequence of requests. -/
def handleAll (recent : RecentRequests) (requests : List Arrival) : RecentRequests :=
  requests.foldl (handle second) recent

/-- Of a sequence of requests, those that are not refused. -/
def accepted : RecentRequests → List Arrival → List Arrival
  | _, [] => []
  | recent, request :: requests =>
    let rest := accepted (recent.handle second request) requests
    if recent.isDuplicate second request then rest else request :: rest

end RecentRequests

/-- The requests come at times that do not decrease. -/
def InOrder (requests : List Arrival) : Prop := requests.Pairwise (·.time ≤ ·.time)

instance (requests : List Arrival) : Decidable (InOrder requests) :=
  inferInstanceAs (Decidable (List.Pairwise _ _))

open RecentRequests

variable {second now : Nat} {recent : RecentRequests} {acc : List Arrival}

/-- The table `recent` at `now`, after the requests `acc` were accepted. -/
structure Tracks (second now : Nat) (acc : List Arrival) (recent : RecentRequests) : Prop where
  past : ∀ earlier ∈ acc, earlier.time ≤ now
  sound : ∀ username timestamp, recent username = some timestamp → ⟨timestamp, username⟩ ∈ acc
  complete : ∀ earlier ∈ acc, now - earlier.time < 2 * second →
    ∃ timestamp, recent earlier.username = some timestamp ∧ earlier.time ≤ timestamp

theorem tracks_empty (second now : Nat) : Tracks second now [] fun _ ↦ none where
  past := nofun
  sound := nofun
  complete := nofun

namespace Tracks

theorem mono {later : Nat} (h : Tracks second now acc recent) (hle : now ≤ later) :
    Tracks second later acc recent where
  past earlier hmem := (h.past earlier hmem).trans hle
  sound := h.sound
  complete earlier hmem hrecent := h.complete earlier hmem (by omega)

/-- Removing what is two seconds old removes nothing the table is asked for. -/
theorem retain (h : Tracks second now acc recent) :
    Tracks second now acc (recent.retain second now) where
  past := h.past
  sound username timestamp hkept :=
    h.sound username timestamp (Option.filter_eq_some_iff.mp hkept).1
  complete earlier hmem hrecent := by
    obtain ⟨timestamp, hentry, hle⟩ := h.complete earlier hmem hrecent
    refine ⟨timestamp, ?_, hle⟩
    rw [RecentRequests.retain, hentry, Option.filter_some, if_pos (by simpa using by omega)]

/-- An accepted request takes the place of the one before. -/
theorem accept (h : Tracks second now acc recent) (username : String) :
    Tracks second now (acc ++ [⟨now, username⟩]) (Function.update recent username (some now)) where
  past := by
    intro earlier hmem
    rcases List.mem_append.mp hmem with hmem | hlast
    · exact h.past earlier hmem
    · rw [List.mem_singleton.mp hlast]
  sound := by
    intro user timestamp hentry
    by_cases huser : user = username
    · subst huser
      rw [Function.update_self] at hentry
      cases hentry
      exact List.mem_append_right _ List.mem_cons_self
    · rw [Function.update_of_ne huser] at hentry
      exact List.mem_append_left _ (h.sound user timestamp hentry)
  complete := by
    intro earlier hmem hrecent
    by_cases huser : earlier.username = username
    · rw [huser, Function.update_self]
      refine ⟨now, rfl, ?_⟩
      rcases List.mem_append.mp hmem with hmem | hlast
      · exact h.past earlier hmem
      · rw [List.mem_singleton.mp hlast]
    · rw [Function.update_of_ne huser]
      rcases List.mem_append.mp hmem with hmem | hlast
      · exact h.complete earlier hmem hrecent
      · exact absurd (congrArg Arrival.username (List.mem_singleton.mp hlast)) huser

/-- What the table is asked for. -/
theorem isDuplicate_iff (request : Arrival) (h : Tracks second request.time acc recent) :
    recent.isDuplicate second request = true ↔
      ∃ earlier ∈ acc, earlier.username = request.username ∧
        request.time < earlier.time + second := by
  rw [isDuplicate, Option.any_eq_true]
  constructor
  · rintro ⟨timestamp, hentry, hwithin⟩
    have hmem := h.retain.sound _ _ hentry
    exact ⟨_, hmem, rfl, by have := of_decide_eq_true hwithin; dsimp only; omega⟩
  · rintro ⟨earlier, hmem, huser, hwithin⟩
    -- the entry of the user is `earlier` or a later one, which is within the second too
    have hpast := h.past earlier hmem
    obtain ⟨timestamp, hentry, hle⟩ := h.retain.complete earlier hmem (by omega)
    exact ⟨timestamp, huser ▸ hentry, decide_eq_true (by omega)⟩

/-- One request. -/
theorem handle {request : Arrival} (h : Tracks second request.time acc recent) :
    Tracks second request.time
      (if recent.isDuplicate second request then acc else acc ++ [request])
      (recent.handle second request) := by
  unfold RecentRequests.handle
  split_ifs
  · exact h.retain
  · exact h.retain.accept request.username

/-- A sequence of requests. -/
theorem handleAll {requests : List Arrival} (h : Tracks second now acc recent)
    (horder : InOrder requests) (hlater : ∀ request ∈ requests, now ≤ request.time)
    {finish : Nat} (hnow : now ≤ finish) (hfinish : ∀ request ∈ requests, request.time ≤ finish) :
    Tracks second finish (acc ++ accepted second recent requests)
      (recent.handleAll second requests) := by
  induction requests generalizing now acc recent with
  | nil =>
    rw [accepted, List.append_nil]
    exact h.mono hnow
  | cons request requests ih =>
    obtain ⟨hnext, horder⟩ := List.pairwise_cons.mp horder
    obtain ⟨hrequest, hfinish⟩ := List.forall_mem_cons.mp hfinish
    have hone := (h.mono (hlater request List.mem_cons_self)).handle
    have hrest := ih hone horder hnext hrequest hfinish
    rw [accepted]
    split_ifs at hrest ⊢
    · exact hrest
    · rwa [List.append_assoc] at hrest

end Tracks

/-- A request is refused as a duplicate exactly if a request of the same user was accepted
less than a second before. -/
theorem isDuplicate_iff_accepted (second : Nat) (requests : List Arrival) (request : Arrival)
    (horder : InOrder (requests ++ [request])) :
    (handleAll second (fun _ ↦ none) requests).isDuplicate second request = true ↔
      ∃ earlier ∈ accepted second (fun _ ↦ none) requests,
        earlier.username = request.username ∧ request.time < earlier.time + second := by
  obtain ⟨horder, -, hlast⟩ := List.pairwise_append.mp horder
  have htracks := (tracks_empty second 0).handleAll horder (fun _ _ ↦ Nat.zero_le _)
    (Nat.zero_le request.time) fun earlier hmem ↦ hlast earlier hmem request List.mem_cons_self
  exact htracks.isDuplicate_iff request

/-- Three requests of one user half a second apart and one of another: the second is
refused, and the third is not, since the second left the timestamp as it was. -/
def sampleArrivals : List Arrival :=
  [⟨5000, "alice"⟩, ⟨5500, "alice"⟩, ⟨5900, "bob"⟩]

theorem isDuplicate_iff_accepted_sample :
    accepted 1000 (fun _ ↦ none) sampleArrivals = [⟨5000, "alice"⟩, ⟨5900, "bob"⟩] ∧
    ((handleAll 1000 (fun _ ↦ none) sampleArrivals).isDuplicate 1000 ⟨6000, "alice"⟩ = true ↔
      ∃ earlier ∈ accepted 1000 (fun _ ↦ none) sampleArrivals,
        earlier.username = "alice" ∧ 6000 < earlier.time + 1000) ∧
    (handleAll 1000 (fun _ ↦ none) sampleArrivals).isDuplicate 1000 ⟨6000, "alice"⟩ = false :=
  ⟨by decide, isDuplicate_iff_accepted 1000 sampleArrivals ⟨6000, "alice"⟩ (by decide), by decide⟩

/-! ## The table of the daemon -/

namespace Server

variable {ι : Type u} (P : Primitives) (ble : Bool) {s t : Server ι}

theorem retainRecent_eq (s : Server ι) :
    s.retainRecent = RecentRequests.retain 1000 s.recentRequests s.now := rfl

theorem isDuplicate_eq (s : Server ι) (username : String) :
    s.isDuplicate username =
      RecentRequests.isDuplicate 1000 s.recentRequests ⟨s.now, username⟩ := rfl

/-- A request to authenticate, if a step reads one. -/
def arrival? (s : Server ι) : ServerEvent ι → Option Arrival
  | .read i _ =>
    match s.connection i, s.inbox i with
    | .reading, .pamAuthenticate request :: _ => some ⟨s.now, request.username⟩
    | _, _ => none
  | _ => none

theorem time_of_mem_arrival? {e : ServerEvent ι} {request : Arrival}
    (h : request ∈ (s.arrival? e).toList) : request.time = s.now := by
  rw [Option.mem_toList] at h
  unfold arrival? at h
  split at h
  · split at h
    · cases h
      rfl
    · cases h
  · cases h

theorem inOrder_arrival? (s : Server ι) (e : ServerEvent ι) : InOrder (s.arrival? e).toList := by
  cases s.arrival? e with
  | none => exact List.Pairwise.nil
  | some request => exact List.pairwise_singleton _ request

variable [DecidableEq ι]

/-- The requests to authenticate that a run reads, in order. -/
def arrivals : Server ι → List (ServerEvent ι) → List Arrival
  | _, [] => []
  | s, e :: es =>
    match s.next P ble e with
    | none => []
    | some t => (s.arrival? e).toList ++ arrivals t es

theorem recentRequests_startSession (s : Server ι) (input : SessionInput) (i : ι)
    (request : PamAuthenticateRequest) :
    (s.startSession P ble input i request).recentRequests = s.recentRequests ∧
      (s.startSession P ble input i request).now = s.now := by
  unfold startSession
  split
  · exact ⟨rfl, rfl⟩
  · dsimp only
    split
    · exact ⟨rfl, rfl⟩
    · exact ⟨rfl, rfl⟩
    · exact ⟨rfl, rfl⟩

theorem recentRequests_handlePamAuthenticate (s : Server ι) (input : SessionInput) (i : ι)
    (request : PamAuthenticateRequest) :
    (s.handlePamAuthenticate P ble input i request).recentRequests =
        RecentRequests.handle 1000 s.recentRequests ⟨s.now, request.username⟩ ∧
      (s.handlePamAuthenticate P ble input i request).now = s.now := by
  unfold handlePamAuthenticate RecentRequests.handle
  rw [← isDuplicate_eq, ← retainRecent_eq]
  split_ifs
  · exact ⟨rfl, rfl⟩
  · exact recentRequests_startSession P ble _ input i request

theorem recentRequests_handlePamCancel (s : Server ι) (i : ι) (requestId : String) :
    (s.handlePamCancel i requestId).recentRequests = s.recentRequests ∧
      (s.handlePamCancel i requestId).now = s.now := by
  unfold handlePamCancel
  split
  · exact ⟨rfl, rfl⟩
  · exact ⟨rfl, rfl⟩

variable {P ble}

theorem recentRequests_sessionStep {i : ι} {e : Event} (h : s.sessionStep P i e = some t) :
    t.recentRequests = s.recentRequests ∧ t.now = s.now := by
  unfold sessionStep at h
  split at h
  · unfold parallelStep at h
    split_ifs at h
    obtain ⟨t', -, rfl⟩ := Option.map_eq_some_iff.mp h
    cases e <;> exact ⟨rfl, rfl⟩
  · obtain ⟨connection, -, rfl⟩ := Option.map_eq_some_iff.mp h
    exact ⟨rfl, rfl⟩
  · cases h

/-- Only the reading of a request to authenticate changes the table. -/
theorem recentRequests_of_next {e : ServerEvent ι} (h : s.next P ble e = some t) :
    t.recentRequests = RecentRequests.handleAll 1000 s.recentRequests (s.arrival? e).toList ∧
      s.now ≤ t.now := by
  cases e with
  | tick elapsed =>
    cases h
    exact ⟨rfl, Nat.le_add_right _ _⟩
  | write i message =>
    cases h
    exact ⟨rfl, le_rfl⟩
  | read i input =>
    simp only [next, readStep] at h
    split at h
    next hconnection hinbox =>
      cases h
      simp only [arrival?, hconnection, hinbox]
      cases ‹IpcMessage› with
      | pamAuthenticate request =>
        obtain ⟨hrecent, hnow⟩ := recentRequests_handlePamAuthenticate P ble
          { s with inbox := Function.update s.inbox i _ } input i request
        exact ⟨hrecent, hnow.ge⟩
      | pamCancel reason requestId =>
        obtain ⟨hrecent, hnow⟩ := recentRequests_handlePamCancel
          { s with inbox := Function.update s.inbox i _ } i requestId
        exact ⟨hrecent, hnow.ge⟩
      | healthCheck => exact ⟨rfl, le_rfl⟩
      | unrecognized => exact ⟨rfl, le_rfl⟩
    next => cases h
  | readFailed i =>
    simp only [next] at h
    split at h
    · cases h
      exact ⟨rfl, le_rfl⟩
    · cases h
  | session i e =>
    obtain ⟨hrecent, hnow⟩ := recentRequests_sessionStep h
    exact ⟨hrecent, hnow.ge⟩

/-- The table after a run is what the requests it reads make of it. -/
theorem recentRequests_of_exec {es : List (ServerEvent ι)}
    (hrun : (server P ble).exec s es = some t) :
    t.recentRequests = RecentRequests.handleAll 1000 s.recentRequests (arrivals P ble s es) ∧
      InOrder (arrivals P ble s es) ∧ s.now ≤ t.now ∧
      ∀ request ∈ arrivals P ble s es, s.now ≤ request.time ∧ request.time ≤ t.now := by
  induction es generalizing s with
  | nil =>
    cases hrun
    exact ⟨rfl, List.Pairwise.nil, le_rfl, nofun⟩
  | cons e es ih =>
    obtain ⟨u, hnext, hrun⟩ := (server P ble).exec_cons_eq_some.mp hrun
    have hnext : s.next P ble e = some u := hnext
    obtain ⟨hstep, hnow⟩ := recentRequests_of_next hnext
    obtain ⟨hrecent, horder, hlater, htimes⟩ := ih hrun
    simp only [arrivals, hnext]
    refine ⟨?_, ?_, hnow.trans hlater, ?_⟩
    · rw [hrecent, hstep, RecentRequests.handleAll, RecentRequests.handleAll,
        RecentRequests.handleAll, List.foldl_append]
    · refine List.pairwise_append.mpr ⟨inOrder_arrival? s e, horder, ?_⟩
      intro request hfirst later hrest
      rw [time_of_mem_arrival? hfirst]
      exact hnow.trans (htimes later hrest).1
    · intro request hmem
      rcases List.mem_append.mp hmem with hfirst | hrest
      · rw [time_of_mem_arrival? hfirst]
        exact ⟨le_rfl, hnow.trans hlater⟩
      · exact ⟨hnow.trans (htimes request hrest).1, (htimes request hrest).2⟩

/-- The daemon refuses a request as a duplicate exactly if it has accepted one of the same
user less than a second ago. -/
theorem isDuplicate_iff_of_exec {es : List (ServerEvent ι)}
    (hrun : (server P ble).exec start es = some s) (username : String) :
    s.isDuplicate username = true ↔
      ∃ earlier ∈ RecentRequests.accepted 1000 (fun _ ↦ none) (arrivals P ble start es),
        earlier.username = username ∧ s.now < earlier.time + 1000 := by
  obtain ⟨hrecent, horder, -, htimes⟩ := recentRequests_of_exec hrun
  have htracks := (tracks_empty 1000 0).handleAll horder (fun _ _ ↦ Nat.zero_le _)
    (Nat.zero_le s.now) fun request hmem ↦ (htimes request hmem).2
  rw [isDuplicate_eq, hrecent]
  exact htracks.isDuplicate_iff ⟨s.now, username⟩

/-- Alice's request, and nine tenths of a second later. -/
theorem isDuplicate_iff_of_exec_alice :
    ∃ (es : List (ServerEvent Unit)) (s : Server Unit),
      (server Sample.primitives true).exec start es = some s ∧
      s.isDuplicate "alice" = true ∧
      ∃ earlier ∈ RecentRequests.accepted 1000 (fun _ ↦ none)
          (arrivals Sample.primitives true start es),
        earlier.username = "alice" ∧ s.now < earlier.time + 1000 :=
  ⟨[.tick 5000, .write () (.pamAuthenticate ⟨"alice", 30, "tty-1"⟩),
      .read () ⟨⟨∅, none, none, "desktop", none⟩, .ok Sample.challenge, ⟨true, true⟩, Sample.env⟩,
      .tick 900],
    _, rfl, by decide +kernel, (isDuplicate_iff_of_exec rfl "alice").mp (by decide +kernel)⟩

end Server

end TapAuth.Daemon
