import TapAuth.Daemon.Authorization
import TapAuth.Daemon.Server

/-!
# Cancelling a session

A `PamCancel` is meant to end the session that runs under its request id, and
nothing else is meant to.  The registry serves that purpose only as long as it and
the sessions keep sight of each other; `Orderly` says, for one step, that they do.
`Sound` is the invariant that orderly steps keep: it tells the state of a session's
cancel channel and its ghost from the phase the session is in.

* `cancelled_iff_processed_of_orderly`: in orderly runs the sessions that end as
  cancelled are those for which a `PamCancel` was processed while they ran.
* `cancel_lost_or_mistaken`: three runs that are not orderly and in which this
  fails.
-/

universe u

namespace TapAuth.Daemon

open Shared Connection

/-! ## Runs in which the registry serves its purpose -/

section

variable {ι : Type u}

/-- The three ways in which registry and sessions lose sight of each other, ruled
out one step at a time: a session registers while another one runs under the same
id; a `PamCancel` is processed while a session with its id has not registered, has
left its `select!` with a result, or cannot register; a session that has been
signalled takes another branch or times out. -/
def Orderly (s : Server ι) : ServerEvent ι → Prop
  | .read i _ =>
    match s.inbox i with
    | .pamCancel _ requestId :: _ =>
      ∀ j, (s.connection j).running? = some requestId →
        s.cancelRegistry requestId = some j ∧ (s.connection j).isSelecting = true ∨
          s.channel j = .sent
    | _ => True
  | .session i (.registered _) =>
    ∀ requestId ∈ (s.connection i).running?, ∀ j ∈ s.cancelRegistry requestId,
      (s.connection j).running? = none
  | .session i (.joined _) | .session i .timeout => s.channel i ≠ .sent
  | _ => True

/-- What the phase of a session says about its channel and its ghost. -/
def LinkedPhase (channel : CancelChannel) (processed : Bool) : Phase → Prop
  | .initializing | .registering => channel = .absent ∧ processed = false
  | .selecting _ =>
    channel = .pending ∧ processed = false ∨ channel = .sent ∧ processed = true
  | .closing _ => channel = .pending ∧ processed = false
  | .cancelling => channel = .sent ∧ processed = true
  | .responded _ => False

/-- What a connection says about its channel and its ghost. -/
def Linked (channel : CancelChannel) (processed : Bool) : Connection → Prop
  | .reading | .plain _ _ _ => channel = .absent ∧ processed = false
  | .authenticating _ _ s => LinkedPhase channel processed s.phase
  | .ended _ ending _ => ending = .cancelled ↔ processed = true
  | .answered _ | .closed => processed = false

/-- The invariant that links the registry to the connections. -/
structure Sound (s : Server ι) : Prop where
  registered : ∀ requestId i, s.cancelRegistry requestId = some i →
    (s.connection i).requestId? = some requestId ∧ s.channel i = .pending
  linked : ∀ i, Linked (s.channel i) (s.cancelProcessed i) (s.connection i)

theorem sound_start : Sound (.start : Server ι) where
  registered _ _ h := by cases h
  linked _ := ⟨rfl, rfl⟩

@[simp] theorem Connection.requestId?_tick (c : Connection) (elapsed : Nat) :
    (c.tick elapsed).requestId? = c.requestId? := by
  cases c <;> rfl

variable {channel : CancelChannel} {c : Connection} {processed : Bool} {s : Server ι}
  {requestId : String} {i : ι} {P : Primitives} {ble : Bool} {input : SessionInput} {e : Event}
  {S : Session} {t : SessionState}

theorem Linked.tick (h : Linked channel processed c) (elapsed : Nat) :
    Linked channel processed (c.tick elapsed) := by
  cases c <;> exact h

theorem Sound.tick (hs : Sound s) (elapsed : Nat) : Sound (s.tick elapsed) where
  registered requestId i h := by
    obtain ⟨hid, hpending⟩ := hs.registered requestId i h
    exact ⟨(requestId?_tick _ _).trans hid, hpending⟩
  linked i := (hs.linked i).tick elapsed

/-- A session that has not ended is still known by its request id. -/
theorem Connection.requestId?_of_running (h : c.running? = some requestId) :
    c.requestId? = some requestId := by
  cases c <;> first | exact h | cases h

/-- A session that has a request id and does not run has ended. -/
theorem Connection.eq_ended (hid : c.requestId? = some requestId) (hrunning : c.running? = none) :
    ∃ ending response, c = .ended requestId ending response := by
  cases c with
  | ended id ending response => cases hid; exact ⟨ending, response, rfl⟩
  | authenticating | plain => cases hrunning
  | _ => cases hid

/-- A session whose channel was used has its ghost set. -/
theorem Linked.processed_of_sent (h : Linked channel processed c)
    (hrunning : c.running? = some requestId) (hsent : channel = .sent) : processed = true := by
  subst hsent
  rcases c with _ | ⟨id, S, s⟩ | ⟨id, S, task⟩ | _ | _ | _
  case authenticating =>
    change LinkedPhase .sent processed s.phase at h
    cases hphase : s.phase <;> simp_all [LinkedPhase]
  case plain => cases h.1
  all_goals cases hrunning

/-- The ghost changes nothing for a session that has been signalled before. -/
theorem Sound.noteCancel_apply (hs : Sound s) {j : ι}
    (hsent : (s.connection j).running? = some requestId → s.channel j = .sent) :
    (s.noteCancel requestId).cancelProcessed j = s.cancelProcessed j := by
  by_cases hrunning : (s.connection j).running? = some requestId
  · have hprocessed := (hs.linked j).processed_of_sent hrunning (hsent hrunning)
    simp [Server.noteCancel, hprocessed]
  · simp [Server.noteCancel, hrunning]

/-- A `PamCancel` that finds no entry, in an orderly run. -/
theorem Sound.noteCancel (hs : Sound s)
    (hsent : ∀ j, (s.connection j).running? = some requestId → s.channel j = .sent) :
    Sound (s.noteCancel requestId) where
  registered := hs.registered
  linked j := by
    rw [hs.noteCancel_apply (hsent j)]
    exact hs.linked j

variable [DecidableEq ι]

/-- One connection moves on, and the maps stay. -/
theorem Sound.setConnection (hs : Sound s)
    (hid : ∀ requestId, s.cancelRegistry requestId = some i → c.requestId? = some requestId)
    (hlinked : Linked (s.channel i) (s.cancelProcessed i) c) : Sound (s.setConnection i c) where
  registered requestId j h := by
    refine ⟨?_, (hs.registered requestId j h).2⟩
    rcases eq_or_ne j i with rfl | hne
    · simpa [Server.setConnection] using hid requestId h
    · simpa [Server.setConnection, hne] using (hs.registered requestId j h).1
  linked j := by
    rcases eq_or_ne j i with rfl | hne
    · simpa [Server.setConnection] using hlinked
    · simpa [Server.setConnection, hne] using hs.linked j

/-! ### Reading a frame -/

/-- A connection whose task still reads may become anything that has no channel and
was not cancelled. -/
theorem Sound.settle (hs : Sound s) (hreading : s.connection i = .reading)
    (hc : Linked .absent false c) :
    Sound (s.setConnection i c) := by
  have hlinked := hs.linked i
  rw [hreading] at hlinked
  obtain ⟨hchannel, hprocessed⟩ := hlinked
  apply hs.setConnection
  · intro requestId h
    have hid := (hs.registered requestId i h).1
    rw [hreading] at hid
    cases hid
  · rwa [hchannel, hprocessed]

theorem Sound.startSession (hs : Sound s) (hreading : s.connection i = .reading)
    (request : PamAuthenticateRequest) : Sound (s.startSession P ble input i request) := by
  unfold Server.startSession
  split
  · exact hs.settle hreading rfl
  · dsimp only
    split
    · exact hs.settle hreading rfl
    · exact hs.settle hreading rfl
    · unfold Server.openSession
      cases ble
      · exact hs.settle hreading ⟨rfl, rfl⟩
      · exact hs.settle hreading ⟨rfl, rfl⟩

theorem Sound.handlePamAuthenticate (hs : Sound s) (hreading : s.connection i = .reading)
    (request : PamAuthenticateRequest) :
    Sound (s.handlePamAuthenticate P ble input i request) := by
  unfold Server.handlePamAuthenticate
  have hrecent : ∀ recent, Sound { s with recentRequests := recent } :=
    fun _ ↦ ⟨hs.registered, hs.linked⟩
  split
  · exact (hrecent _).settle hreading rfl
  · apply Sound.startSession
    · exact hrecent _
    · exact hreading

/-- The session in its `select!` gets the signal. -/
theorem Linked.signal (h : Linked .pending processed c) (hselecting : c.isSelecting = true) :
    Linked .sent true c := by
  cases c with
  | authenticating id S s =>
    change LinkedPhase .pending processed s.phase at h
    change LinkedPhase .sent true s.phase
    cases hphase : s.phase with
    | selecting failed => exact .inr ⟨rfl, rfl⟩
    | _ => simp [isSelecting, hphase] at hselecting
  | _ => cases hselecting

omit [DecidableEq ι] in
/-- The session whose sender is used: it waits in its `select!`, or the entry outlived it. -/
theorem Sound.signalled (hs : Sound s) {k : ι} (hentry : s.cancelRegistry requestId = some k)
    (hselecting : (s.connection k).running? = some requestId →
      (s.connection k).isSelecting = true) :
    Linked .sent ((s.noteCancel requestId).cancelProcessed k) (s.connection k) := by
  obtain ⟨hid, hpending⟩ := hs.registered requestId k hentry
  have hlinked := hs.linked k
  cases hrunning : (s.connection k).running? with
  | none =>
    obtain ⟨ending, response, hended⟩ := eq_ended hid hrunning
    have hprocessed : (s.noteCancel requestId).cancelProcessed k = s.cancelProcessed k := by
      simp [Server.noteCancel, hrunning]
    rw [hended] at hlinked
    rw [hprocessed, hended]
    exact hlinked
  | some id =>
    obtain rfl : id = requestId :=
      Option.some.inj ((requestId?_of_running hrunning).symm.trans hid)
    have hprocessed : (s.noteCancel id).cancelProcessed k = true := by
      simp [Server.noteCancel, hrunning]
    rw [hpending] at hlinked
    rw [hprocessed]
    exact hlinked.signal (hselecting hrunning)

/-- A `PamCancel` that finds the sender of `k`, in an orderly run. -/
theorem Sound.forward (hs : Sound s) {k : ι} (hentry : s.cancelRegistry requestId = some k)
    (horderly : ∀ j, (s.connection j).running? = some requestId →
      s.cancelRegistry requestId = some j ∧ (s.connection j).isSelecting = true ∨
        s.channel j = .sent) :
    Sound { s.noteCancel requestId with
      cancelRegistry := Function.update s.cancelRegistry requestId none
      channel := Function.update s.channel k .sent } := by
  obtain ⟨hid, hpending⟩ := hs.registered requestId k hentry
  constructor
  · intro id j h
    have hne : id ≠ requestId := by
      rintro rfl
      simp at h
    simp only [Function.update_of_ne hne] at h
    obtain ⟨hidj, hpendingj⟩ := hs.registered id j h
    have hjk : j ≠ k := by
      rintro rfl
      exact hne (Option.some.inj (hidj.symm.trans hid))
    exact ⟨hidj, by simpa [Function.update_of_ne hjk] using hpendingj⟩
  · intro j
    rcases eq_or_ne j k with rfl | hne
    · simp only [Function.update_self]
      apply hs.signalled hentry
      intro hrunning
      rcases horderly j hrunning with ⟨-, h⟩ | h
      · exact h
      · rw [hpending] at h
        cases h
    · simp only [Function.update_of_ne hne]
      rw [hs.noteCancel_apply]
      · exact hs.linked j
      · intro hrunning
        rcases horderly j hrunning with ⟨h, -⟩ | h
        · exact absurd (Option.some.inj (h.symm.trans hentry)) hne
        · exact h

theorem Sound.handlePamCancel (hs : Sound s) (hreading : s.connection i = .reading)
    (horderly : ∀ j, (s.connection j).running? = some requestId →
      s.cancelRegistry requestId = some j ∧ (s.connection j).isSelecting = true ∨
        s.channel j = .sent) :
    Sound (s.handlePamCancel i requestId) := by
  unfold Server.handlePamCancel
  split
  next k hentry =>
    apply (hs.forward hentry horderly).settle
    · exact hreading
    · exact rfl
  next hentry =>
    have hnone : Sound (s.noteCancel requestId) := by
      apply hs.noteCancel
      intro j hrunning
      rcases horderly j hrunning with ⟨h, -⟩ | h
      · rw [hentry] at h
        cases h
      · exact h
    exact hnone.settle hreading rfl

theorem Sound.read {s t : Server ι} (hs : Sound s) (horderly : Orderly s (.read i input))
    (h : s.readStep P ble i input = some t) : Sound t := by
  unfold Server.readStep at h
  split at h
  case h_2 => cases h
  case h_1 message rest hreading hinbox =>
      cases h
      simp only [Orderly, hinbox] at horderly
      have hpopped : Sound { s with inbox := Function.update s.inbox i rest } :=
        ⟨hs.registered, hs.linked⟩
      cases message with
      | pamAuthenticate request => exact hpopped.handlePamAuthenticate hreading request
      | pamCancel reason requestId => exact hpopped.handlePamCancel hreading horderly
      | healthCheck => exact hpopped.settle hreading rfl
      | unrecognized => exact hpopped.settle hreading rfl

/-! ### The steps of a session -/

theorem SessionState.setTask_phase (t : SessionState) (k : TransportKind) (task : Task) :
    (t.setTask k task).phase = t.phase := by
  cases k <;> rfl

/-- A session that has not answered keeps its connection. -/
theorem Connection.ofSession_of_none (h : t.response? = none) :
    ofSession requestId S e t = .authenticating requestId S t := by
  simp [ofSession, h]

/-- A session that answers in another way than through `handle_cancellation` was not
cancelled. -/
theorem linked_ofSession_responded {response : PamAuthenticateResponse}
    (hphase : t.phase = .responded response) (he : e ≠ .cancellationDone) :
    Linked channel false (.ofSession requestId S e t) := by
  have hresponse : t.response? = some response := by simp [SessionState.response?, hphase]
  cases e <;> simp_all [ofSession, Linked]

theorem linked_ofSession_of_phase (h : LinkedPhase channel processed t.phase) :
    Linked channel processed (.ofSession requestId S e t) := by
  have hnone : t.response? = none := by
    unfold SessionState.response?
    split
    next hphase =>
      rw [hphase] at h
      cases h
    · rfl
  rw [ofSession_of_none hnone]
  exact h

/-- A channel that was not used belongs to a session that was not cancelled. -/
theorem LinkedPhase.processed_eq_false {phase : Phase} (h : LinkedPhase channel processed phase)
    (hsent : channel ≠ .sent) : processed = false := by
  cases phase <;> simp_all [LinkedPhase]

theorem LinkedPhase.pending_of_selecting {failed : Failed}
    (h : LinkedPhase channel processed (.selecting failed)) (hsent : channel ≠ .sent) :
    channel = .pending ∧ processed = false := by
  rcases h with h | ⟨h, -⟩
  · exact h
  · exact absurd h hsent

/-- Every step of a session but its registration keeps the link. -/
theorem LinkedPhase.ofSession {t t' : SessionState} (hstep : SessionStep P S t e t')
    (h : LinkedPhase channel processed t.phase) (hoffers : channel.offers e = true)
    (hregistered : ∀ env, e ≠ .registered env)
    (hbranch : (∃ k, e = .joined k) ∨ e = .timeout → channel ≠ .sent) (requestId : String) :
    Linked channel processed (.ofSession requestId S e t') := by
  cases hstep with
  | tick elapsed => cases hoffers
  | bleInitialized ok hphase =>
    rw [hphase] at h
    exact linked_ofSession_of_phase h
  | registerFailed env error hphase => exact absurd rfl (hregistered env)
  | spawned env hphase => exact absurd rfl (hregistered env)
  | task k hstep =>
    apply linked_ofSession_of_phase
    rwa [SessionState.setTask_phase]
  | @joinedTerminal k failed result hphase hjoin =>
    rw [hphase] at h
    exact linked_ofSession_of_phase (h.pending_of_selecting (hbranch (.inl ⟨k, rfl⟩)))
  | @joinedFailed k failed hphase hjoin =>
    rw [hphase] at h
    have hpending := h.pending_of_selecting (hbranch (.inl ⟨k, rfl⟩))
    unfold SessionState.fail
    split
    · rw [hpending.2]
      exact linked_ofSession_responded rfl nofun
    · exact linked_ofSession_of_phase (.inl hpending)
  | @cancelled failed hphase =>
    rw [hphase] at h
    apply linked_ofSession_of_phase
    rcases h with ⟨hpending, -⟩ | h
    · rw [hpending] at hoffers
      cases hoffers
    · exact h
  | closed hphase =>
    rw [hphase] at h
    rw [h.2]
    exact linked_ofSession_responded rfl nofun
  | cancellationDone hphase =>
    rw [hphase] at h
    rw [h.2]
    exact ⟨fun _ ↦ rfl, fun _ ↦ rfl⟩
  | timeout hbefore hdue =>
    rw [h.processed_eq_false (hbranch (.inr rfl))]
    exact linked_ofSession_responded rfl nofun

/-- A registration changes no channel but its own and that of the sender it replaces. -/
theorem Server.channel_registerCancelHandler {i j : ι} (hne : j ≠ i)
    (hentry : s.cancelRegistry requestId ≠ some j) :
    (s.registerCancelHandler i requestId).channel j = s.channel j := by
  cases hold : s.cancelRegistry requestId with
  | none => simp [Server.registerCancelHandler, hold, hne]
  | some k =>
    have hjk : j ≠ k := by
      rintro rfl
      exact hentry hold
    simp [Server.registerCancelHandler, hold, hne, hjk]

/-- A registration that replaces no sender of a running session. -/
theorem Sound.registerCancelHandler (hs : Sound s) (habsent : s.channel i = .absent)
    (horderly : ∀ j ∈ s.cancelRegistry requestId, (s.connection j).running? = none)
    (hid : c.requestId? = some requestId) (hlinked : Linked .pending (s.cancelProcessed i) c) :
    Sound ((s.registerCancelHandler i requestId).setConnection i c) := by
  -- only the holder of the old entry can lose its sender, and it has ended
  have hholder : ∀ j id, s.cancelRegistry id = some j → j ≠ i := by
    rintro j id h rfl
    have hpending := (hs.registered id j h).2
    rw [habsent] at hpending
    cases hpending
  constructor
  · intro id j h
    rcases eq_or_ne id requestId with rfl | hne
    · obtain rfl : i = j := by
        simpa [Server.registerCancelHandler, Server.setConnection] using h
      simp [Server.registerCancelHandler, Server.setConnection, hid]
    · have hold : s.cancelRegistry id = some j := by
        simpa [Server.registerCancelHandler, Server.setConnection, hne] using h
      obtain ⟨hidj, hpending⟩ := hs.registered id j hold
      have hji := hholder j id hold
      refine ⟨by simpa [Server.registerCancelHandler, Server.setConnection, hji] using hidj, ?_⟩
      refine (Server.channel_registerCancelHandler hji ?_).trans hpending
      intro hentry
      exact hne (Option.some.inj (hidj.symm.trans (hs.registered requestId j hentry).1))
  · intro j
    rcases eq_or_ne j i with rfl | hne
    · simpa [Server.registerCancelHandler, Server.setConnection] using hlinked
    · have hconnection : ((s.registerCancelHandler i requestId).setConnection i c).connection j =
          s.connection j := by
        simp [Server.registerCancelHandler, Server.setConnection, hne]
      rw [hconnection]
      by_cases hentry : s.cancelRegistry requestId = some j
      · obtain ⟨ending, response, hended⟩ :=
          eq_ended (hs.registered requestId j hentry).1 (horderly j hentry)
        have hold := hs.linked j
        rw [hended] at hold ⊢
        exact hold
      · have hkeep := hs.linked j
        rw [← Server.channel_registerCancelHandler hne hentry] at hkeep
        exact hkeep

/-- A step of a session of the `ble` build. -/
theorem Sound.parallelStep {s u : Server ι} (hs : Sound s)
    (hconnection : s.connection i = .authenticating requestId S t)
    (horderly : Orderly s (.session i e)) (h : s.parallelStep P i requestId S t e = some u) :
    Sound u := by
  have hlinked : LinkedPhase (s.channel i) (s.cancelProcessed i) t.phase := by
    simpa [hconnection, Linked] using hs.linked i
  unfold Server.parallelStep at h
  split_ifs at h with hoffers
  obtain ⟨t', hnext, rfl⟩ := Option.map_eq_some_iff.mp h
  have hstep := sessionNext_eq_some hnext
  by_cases hregistered : ∃ env, e = .registered env
  · obtain ⟨env, rfl⟩ := hregistered
    have hold : ∀ j ∈ s.cancelRegistry requestId, (s.connection j).running? = none :=
      horderly requestId (by simp [hconnection, running?])
    have hrequestId := requestId?_ofSession requestId S (.registered env) t'
    cases hstep with
    | registerFailed _ error hphase =>
      rw [hphase] at hlinked
      apply hs.registerCancelHandler hlinked.1 hold hrequestId
      rw [hlinked.2]
      exact linked_ofSession_responded rfl nofun
    | spawned _ hphase =>
      rw [hphase] at hlinked
      apply hs.registerCancelHandler hlinked.1 hold hrequestId
      exact linked_ofSession_of_phase (.inl ⟨rfl, hlinked.2⟩)
    | task k hstep =>
      generalize t.task k = task at hstep
      cases hstep
  · have hother : ∀ env, e ≠ .registered env := fun env he ↦ hregistered ⟨env, he⟩
    have hbranch : (∃ k, e = .joined k) ∨ e = .timeout → s.channel i ≠ .sent := by
      rintro (⟨k, rfl⟩ | rfl)
      · exact horderly
      · exact horderly
    have hunchanged : Sound (s.setConnection i (.ofSession requestId S e t')) := by
      apply hs.setConnection
      · intro id hentry
        rw [requestId?_ofSession]
        have hid := (hs.registered id i hentry).1
        rwa [hconnection] at hid
      · exact hlinked.ofSession hstep hoffers hother hbranch requestId
    cases e with
    | registered env => exact absurd rfl (hother env)
    | _ => exact hunchanged

/-- A session without a channel ends, if it does, as not cancelled. -/
theorem linked_plainStep {now : Nat} {task : Task}
    (h : Server.plainStep P now requestId S task e = some c) : Linked .absent false c := by
  rcases plainStep_spec h with rfl | ⟨task', rfl⟩ | ⟨response, rfl⟩
  · exact rfl
  · exact ⟨rfl, rfl⟩
  · simp [Linked]

theorem Sound.sessionStep {s u : Server ι} (hs : Sound s) (horderly : Orderly s (.session i e))
    (h : s.sessionStep P i e = some u) : Sound u := by
  unfold Server.sessionStep at h
  split at h
  next hconnection => exact hs.parallelStep hconnection horderly h
  next requestId S task hconnection =>
    obtain ⟨c, hstep, rfl⟩ := Option.map_eq_some_iff.mp h
    have hlinked := hs.linked i
    rw [hconnection] at hlinked
    obtain ⟨habsent, hprocessed⟩ := hlinked
    apply hs.setConnection
    · intro id hentry
      have hpending := (hs.registered id i hentry).2
      rw [habsent] at hpending
      cases hpending
    · rw [habsent, hprocessed]
      exact linked_plainStep hstep
  · cases h

theorem sound_next {s t : Server ι} {e : ServerEvent ι} (hs : Sound s) (horderly : Orderly s e)
    (h : s.next P ble e = some t) : Sound t := by
  cases e with
  | tick elapsed =>
    cases h
    exact hs.tick elapsed
  | write i message =>
    cases h
    exact ⟨hs.registered, hs.linked⟩
  | read i input => exact hs.read horderly h
  | readFailed i =>
    obtain ⟨hreading, rfl⟩ := readFailed_spec h
    exact hs.settle hreading rfl
  | session i e => exact hs.sessionStep horderly h

/-! ## The cancel contract -/

/-- Every state of an orderly run is sound. -/
theorem sound_of_exec {events : List (ServerEvent ι)}
    (hrun : (server P ble).exec .start events = some s)
    (horderly : (server P ble).Along Orderly .start events) : Sound s :=
  (server P ble).invariant_along (fun _ _ _ hs hG hnext ↦ sound_next hs hG hnext) sound_start hrun
    horderly

/-- A session whose ghost is set has ended as cancelled, or it is signalled and
waits: in its `select!`, or in `handle_cancellation`. -/
theorem Linked.of_processed (h : Linked channel true c) :
    c.ending? = some .cancelled ∨ ∃ requestId S t, c = .authenticating requestId S t ∧
      channel = .sent ∧ (t.phase = .cancelling ∨ ∃ failed, t.phase = .selecting failed) := by
  cases c with
  | ended requestId ending response =>
    obtain rfl : ending = .cancelled := h.mpr rfl
    exact .inl rfl
  | authenticating requestId S t =>
    refine .inr ⟨requestId, S, t, rfl, ?_⟩
    change LinkedPhase channel true t.phase at h
    cases hphase : t.phase <;> simp_all [LinkedPhase]
  | _ => simp [Linked] at h

section

variable {P : Primitives} {ble : Bool} {s : Server ι} {i : ι} {requestId : String} {S : Session}
  {t : SessionState}

theorem next_cancelled {failed : Failed}
    (hconnection : s.connection i = .authenticating requestId S t)
    (hphase : t.phase = .selecting failed) (hsent : s.channel i = .sent) :
    (server P ble).next s (.session i .cancelled) =
      some (s.setConnection i (.authenticating requestId S { t with phase := .cancelling })) := by
  simp [server, Server.next, Server.sessionStep, hconnection, Server.parallelStep, hsent,
    CancelChannel.offers, CancelChannel.ready, sessionNext, hphase, ofSession,
    SessionState.response?]

/-- `select!` has no cancel branch any more once `handle_cancellation` runs. -/
theorem next_cancelled_eq_none (hconnection : s.connection i = .authenticating requestId S t)
    (hphase : t.phase = .cancelling) :
    (server P ble).next s (.session i .cancelled) = none := by
  simp [server, Server.next, Server.sessionStep, hconnection, Server.parallelStep, sessionNext,
    hphase]

variable (P ble) in
theorem next_cancellationDone (hconnection : s.connection i = .authenticating requestId S t)
    (hphase : t.phase = .cancelling) :
    ∃ u, (server P ble).next s (.session i .cancellationDone) = some u ∧
      (u.connection i).ending? = some .cancelled := by
  simp [server, Server.next, Server.sessionStep, hconnection, Server.parallelStep,
    CancelChannel.offers, sessionNext, hphase, ofSession, SessionState.response?,
    Server.setConnection, ending?]

theorem next_session_of_ended {e : Event} {ending : Ending}
    (h : (s.connection i).ending? = some ending) :
    (server P ble).next s (.session i e) = none := by
  cases hconnection : s.connection i with
  | ended requestId ending response =>
    simp [server, Server.next, Server.sessionStep, hconnection]
  | _ =>
    rw [hconnection] at h
    cases h

/-- Two steps of its own end a session whose ghost is set as cancelled. -/
theorem Sound.feed_cancelled (hs : Sound s) (hprocessed : s.cancelProcessed i = true) :
    (((server P ble).feed s
      [.session i .cancelled, .session i .cancellationDone]).connection i).ending? =
        some .cancelled := by
  have hlinked := hs.linked i
  rw [hprocessed] at hlinked
  rcases hlinked.of_processed with hended | ⟨requestId, S, t, hconnection, hsent, hphase⟩
  · rw [Machine.feed_cons, next_session_of_ended hended, Option.getD_none, Machine.feed_cons,
      next_session_of_ended hended, Option.getD_none, Machine.feed_nil, hended]
  · rcases hphase with hphase | ⟨failed, hphase⟩
    · obtain ⟨u, hu, hended⟩ := next_cancellationDone P ble hconnection hphase
      rw [Machine.feed_cons, next_cancelled_eq_none hconnection hphase, Option.getD_none,
        Machine.feed_cons, hu, Option.getD_some, Machine.feed_nil, hended]
    · have hcancelling : (s.setConnection i
          (.authenticating requestId S { t with phase := .cancelling })).connection i =
            .authenticating requestId S { t with phase := .cancelling } := by
        simp [Server.setConnection]
      obtain ⟨u, hu, hended⟩ := next_cancellationDone P ble hcancelling rfl
      rw [Machine.feed_cons, next_cancelled hconnection hphase hsent, Option.getD_some,
        Machine.feed_cons, hu, Option.getD_some, Machine.feed_nil, hended]

omit [DecidableEq ι] in
/-- A session whose ghost is set and that runs no more has ended as cancelled. -/
theorem Sound.ended_of_processed (hs : Sound s) (hprocessed : s.cancelProcessed i = true)
    (hstopped : (s.connection i).running? = none) :
    (s.connection i).ending? = some .cancelled := by
  have hlinked := hs.linked i
  rw [hprocessed] at hlinked
  rcases hlinked.of_processed with hended | ⟨requestId, S, t, hconnection, -⟩
  · exact hended
  · rw [hconnection] at hstopped
    cases hstopped

end

/-- **Cancellation in orderly runs.**  In every state of an orderly run, of either
build: a session that has ended as cancelled was asked to by a `PamCancel` with its
own request id that was processed while it ran; and a session for which such a
`PamCancel` was processed has either ended as cancelled or is ended so by its own
next two steps. -/
theorem cancelled_iff_processed_of_orderly (P : Primitives) (ble : Bool)
    {events : List (ServerEvent ι)} {s : Server ι}
    (hrun : (server P ble).exec .start events = some s)
    (horderly : (server P ble).Along Orderly .start events) (i : ι) :
    ((s.connection i).ending? = some .cancelled →
      (server P ble).Meets (Cancels i) .start events) ∧
    ((server P ble).Meets (Cancels i) .start events →
      ((s.connection i).running? = none → (s.connection i).ending? = some .cancelled) ∧
      (((server P ble).feed s
        [.session i .cancelled, .session i .cancellationDone]).connection i).ending? =
          some .cancelled) := by
  rw [← cancelProcessed_iff_meets hrun i]
  have hs := sound_of_exec hrun horderly
  refine ⟨?_, fun hprocessed ↦ ⟨hs.ended_of_processed hprocessed, hs.feed_cancelled hprocessed⟩⟩
  intro hended
  have hlinked := hs.linked i
  cases hconnection : s.connection i with
  | ended requestId ending response =>
    rw [hconnection] at hlinked hended
    exact hlinked.mp (Option.some.inj hended)
  | _ =>
    rw [hconnection] at hended
    cases hended

end

/-! ## Runs in which it does not -/

instance Orderly.decidable {n : Nat} (s : Server (Fin n)) (e : ServerEvent (Fin n)) :
    Decidable (Orderly s e) := by
  unfold Orderly
  split
  · split <;> infer_instance
  all_goals infer_instance

namespace RegistrySample

/-- The connection of the session that is looked at, and another one. -/
def here : Fin 2 := 0

def elsewhere : Fin 2 := 1

def input : SessionInput where
  daemon := ⟨Sample.ownServers, some Sample.desktop, some Sample.csk, "desktop", none⟩
  challenge := .ok Sample.challenge
  transports := ⟨true, false⟩
  env := Sample.env

/-- Alice's request arrives on connection `i`. -/
def authenticate (i : Fin 2) : List (ServerEvent (Fin 2)) :=
  [.write i (.pamAuthenticate ⟨"alice", 30, "tty-1"⟩), .read i input]

/-- A cancel of that request arrives on the other connection. -/
def cancel : List (ServerEvent (Fin 2)) :=
  [.write elsewhere (.pamCancel "tty-skip" "tty-1"), .read elsewhere input]

def register (i : Fin 2) : List (ServerEvent (Fin 2)) :=
  [.session i (.bleInitialized false), .session i (.registered Sample.env)]

/-- Alice's phone grants the request. -/
def grant : List (ServerEvent (Fin 2)) :=
  [.session here (.taskTop .udp (.ok ())),
    .session here (.taskReceive .udp (.ok (.response (Sample.grant 5) Sample.addr)) Sample.env)]

def endCancelled : List (ServerEvent (Fin 2)) :=
  [.session here .cancelled, .session here .cancellationDone]

/-- The cancel comes before the session has registered. -/
def lateRegistration : List (ServerEvent (Fin 2)) :=
  authenticate here ++ cancel ++ register here ++ grant ++
    [.session here (.joined .udp), .session here .closed]

/-- A second request comes with the same id, a second after the first. -/
def sharedId : List (ServerEvent (Fin 2)) :=
  authenticate here ++ register here ++ [.tick 1000] ++
    authenticate elsewhere ++ register elsewhere ++ endCancelled

/-- The cancel comes to a build whose sessions do not register. -/
def unregistered : List (ServerEvent (Fin 2)) := authenticate here ++ cancel ++ grant

/-- The session waits in its `select!` when the cancel comes. -/
def signalled : List (ServerEvent (Fin 2)) := authenticate here ++ register here ++ cancel

/-- Whether a `PamCancel` for the session was processed in the run,
and how the session ended. -/
def Ends (ble : Bool) (events : List (ServerEvent (Fin 2))) (processed : Prop)
    (ending : Ending) : Prop :=
  ∃ s, (server Sample.primitives ble).exec .start events = some s ∧
    ((server Sample.primitives ble).Meets (Cancels here) .start events ↔ processed) ∧
    (s.connection here).ending? = some ending

theorem ends_of_check {ble : Bool} {events : List (ServerEvent (Fin 2))} {processed : Prop}
    [Decidable processed] {ending : Ending}
    (h : ((server Sample.primitives ble).exec .start events).map (fun s ↦
      decide (s.cancelProcessed here = decide processed ∧
        (s.connection here).ending? = some ending)) = some true) :
    Ends ble events processed ending := by
  obtain ⟨s, hrun, hend⟩ := Option.map_eq_some_iff.mp h
  obtain ⟨hprocessed, hending⟩ := of_decide_eq_true hend
  refine ⟨s, hrun, ?_, hending⟩
  rw [← cancelProcessed_iff_meets hrun, hprocessed, decide_eq_true_iff]

end RegistrySample

open RegistrySample

/-- A `PamCancel` that is processed before the session has registered does not end
it, a session ends as cancelled because a later one took over its id, and without
`ble` no session is ever cancelled. -/
theorem cancel_lost_or_mistaken :
    RegistrySample.Ends true lateRegistration True .other ∧
    RegistrySample.Ends true sharedId False .cancelled ∧
    RegistrySample.Ends false unregistered True .other :=
  ⟨ends_of_check (by decide +kernel),
    ends_of_check (by decide +kernel),
    ends_of_check (by decide +kernel)⟩

/-- A session that was signalled in its `select!` ends as cancelled. -/
theorem cancelled_iff_processed_of_orderly_signalled :
    ∃ s : Server (Fin 2),
      (server Sample.primitives true).exec .start signalled = some s ∧
      (((server Sample.primitives true).feed s endCancelled).connection
        here).ending? = some .cancelled := by
  have hrun : ((server Sample.primitives true).exec .start signalled).map
      (fun s ↦ decide (s.cancelProcessed here = true)) = some true := by
    decide +kernel
  obtain ⟨s, hrun, hprocessed⟩ := Option.map_eq_some_iff.mp hrun
  have hmeets := (cancelProcessed_iff_meets hrun _).mp (of_decide_eq_true hprocessed)
  have hcontract := cancelled_iff_processed_of_orderly Sample.primitives true hrun
    (by decide +kernel) here
  exact ⟨s, hrun, (hcontract.2 hmeets).2⟩

end TapAuth.Daemon
