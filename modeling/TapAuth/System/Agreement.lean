import TapAuth.Phone.RequestInterleaving
import TapAuth.System.GrantDelivery
import TapAuth.System.RequestFreshness
import TapAuth.System.RequestSignature

/-!
# Who has approved a granted session

A world of one desktop and any number of phones.  The desktop begins sessions; each phone
handles the packets that reach it in its coroutines, whatever the packets are and however the
coroutines are interleaved, and its user approves or denies what has been submitted.  The
network is not there: what a phone or the desktop receives is arbitrary, and only what the
primitives promise ties it to what was sent.

Two promises are made use of.  A signature that verifies was made by the holder of the key
(`granted_was_approved`); then a granted session has an approval, on a phone whose key is
stored, of a request with the session's challenge.  The signature in a grant is over the
challenge alone, so the request may have come from another desktop the phone is paired with.
A packet that opens was sealed by a holder of the key (`answered_own_request`); then the
request was the session's own, with its user and host.

No message of the protocol that a phone signs has 32 bytes, so a signature over one of them is
not taken for a signed challenge.  The other way round there is no such bound: the phone
signs challenges of any length.
-/

namespace TapAuth.System

open Shared Daemon Phone Proto3

/-! ## What a session's response rests on -/

section

variable (P : Primitives)

/-- One of the packets opens to a message on which the stored keys' verdict is `result`. -/
def DecidedBy (A : AuthParams) (packets : List EncryptedPacket)
    (result : Except AuthHandlerError Unit) : Prop :=
  ∃ packet ∈ packets, ∃ wrapper,
    decryptEncryptedPacketWithCskNonce P A.csk packet = .ok wrapper ∧
      verdictOf P (storedKeys A.pairedServers) A.challenge wrapper = some result

/-- What a response promises: a success is a grant, `denied` is a denial. -/
def verdictIn : PamOutcome → Option (Except AuthHandlerError Unit)
  | .success => some (.ok ())
  | .denied => some (.error .explicitDenial)
  | _ => none

/-- Results and responses rest on packets that were delivered. -/
structure Backed (S : Session) (packets : List EncryptedPacket) (s : SessionState) : Prop where
  returned : ∀ k result, s.task k = .returned result →
    IsFailure result ∨ DecidedBy P S.params packets result
  closing : ∀ result, s.phase = .closing result → DecidedBy P S.params packets result
  responded : ∀ response, s.phase = .responded response → ∀ result,
    verdictIn response.outcome = some result → DecidedBy P S.params packets result

end

section

variable {P : Primitives} {S : Session} {s t : SessionState} {packets : List EncryptedPacket}
  {e : Event}

variable {result : Except AuthHandlerError Unit}

theorem DecidedBy.mono {A : AuthParams} {more : List EncryptedPacket}
    (h : DecidedBy P A packets result) (hsub : packets ⊆ more) : DecidedBy P A more result := by
  obtain ⟨packet, hmem, hrest⟩ := h
  exact ⟨packet, hsub hmem, hrest⟩

theorem verdictIn_respond {result verdict : Except AuthHandlerError Unit}
    (h : verdictIn (respond S result).outcome = some verdict) : verdict = result := by
  rcases result with error | ⟨⟩
  · cases error <;> cases h
    rfl
  · cases h
    rfl

/-- What a loop returns is a failure, or rests on the packet it has just received. -/
theorem decidedBy_of_loopReceive {A : AuthParams} {locals : LoopState}
    {received : Except TransportError ReceiveResult} {env : Ambient} {outcome : Daemon.Outcome}
    (h : loopReceive P A locals received env = .inr outcome) :
    IsFailure outcome.result ∨ ∃ packet addr, received = .ok (.response packet addr) ∧
      DecidedBy P A [packet] outcome.result := by
  have hr : InTime ⟨0, .ok (), received, env⟩ :=
    ⟨(by decide : 0 < getSessionTimeout), rfl⟩
  rcases turn_eq_inr P ((turn_of_inTime hr locals).trans h) with
    hfail | ⟨packet, addr, wrapper, hreceived, hopens, hverdict⟩
  · exact .inl hfail
  · exact .inr ⟨packet, addr, hreceived, packet, List.mem_singleton_self _, wrapper, hopens,
      hverdict⟩

theorem decidedBy_of_taskStep {k : TransportKind} {task task' : Task}
    (h : TaskStep P S.params s.now k task e task') (hresult : task' = .returned result) :
    IsFailure result ∨ DecidedBy P S.params (deliveredPackets [e]) result := by
  cases h with
  | expired htop =>
    cases hresult
    unfold loopTop at htop
    split_ifs at htop
    · cases htop
      exact .inl ⟨.timeout, rfl, by simp⟩
    · split at htop
      · cases htop
        exact .inl (isFailure_toAuthHandlerError _)
      · cases htop
  | sent htop => cases hresult
  | decided hreceive =>
    cases hresult
    rcases decidedBy_of_loopReceive hreceive with hfail | ⟨packet, addr, rfl, hdecided⟩
    · exact .inl hfail
    · exact .inr hdecided
  | again hreceive => cases hresult
  | panic => cases hresult

namespace Backed

theorem mono {more : List EncryptedPacket} (h : Backed P S packets s) (hsub : packets ⊆ more) :
    Backed P S more s where
  returned k result hk := (h.returned k result hk).imp_right (·.mono hsub)
  closing result hphase := (h.closing result hphase).mono hsub
  responded response hphase result hresult :=
    (h.responded response hphase result hresult).mono hsub

/-- A change of phase that gives no result away. -/
theorem goto (h : Backed P S packets s) {phase : Daemon.Phase}
    (hclosing : ∀ result, phase = .closing result → DecidedBy P S.params packets result)
    (hresponded : ∀ response, phase = .responded response → ∀ result,
      verdictIn response.outcome = some result → DecidedBy P S.params packets result) :
    Backed P S packets { s with phase } where
  returned k result hk := h.returned k result (by cases k <;> exact hk)
  closing := hclosing
  responded := hresponded

/-- A response to a result that is neither a grant nor a denial. -/
theorem refuse (h : Backed P S packets s) (error : AuthHandlerError)
    (herror : error ≠ .explicitDenial) :
    Backed P S packets { s with phase := .responded (respond S (.error error)) } := by
  refine h.goto (fun result hphase ↦ by cases hphase) fun response hphase result hresult ↦ ?_
  cases hphase
  have hsame := verdictIn_respond hresult
  subst hsame
  cases error with
  | explicitDenial => exact absurd rfl herror
  | _ => cases hresult

theorem setTask (h : Backed P S packets s) (k : TransportKind) {task : Task}
    (htask : ∀ result, task = .returned result →
      IsFailure result ∨ DecidedBy P S.params packets result) :
    Backed P S packets (s.setTask k task) := by
  cases k with
  | ble =>
    exact ⟨fun | .ble, result, hk => htask result hk
               | .udp, result, hk => h.returned .udp result hk, h.closing, h.responded⟩
  | udp =>
    exact ⟨fun | .ble, result, hk => h.returned .ble result hk
               | .udp, result, hk => htask result hk, h.closing, h.responded⟩

theorem abort (h : Backed P S packets s) (k : TransportKind) :
    Backed P S packets (s.setTask k (s.task k).abort) := by
  refine h.setTask k fun result habort ↦ ?_
  cases htask : s.task k with
  | running start point locals => rw [htask] at habort; cases habort
  | returned result' =>
    rw [htask] at habort
    cases habort
    exact h.returned k _ htask
  | _ => rw [htask] at habort; cases habort

end Backed

theorem returned_of_joinResult {task : Task} (h : task.joinResult = some (.terminal result)) :
    task = .returned result ∧ ¬ IsFailure result := by
  unfold Task.joinResult at h
  split at h
  · cases h
    exact ⟨rfl, fun ⟨_, hok, _⟩ ↦ by cases hok⟩
  · cases h
    exact ⟨rfl, fun ⟨_, herror, hne⟩ ↦ by cases herror; exact hne rfl⟩
  all_goals cases h

theorem spawn_not_decided {enabled : Bool} {now : Nat}
    (h : Daemon.Task.spawn enabled now = .returned result) : IsFailure result := by
  unfold Daemon.Task.spawn at h
  split_ifs at h
  cases h
  exact ⟨.transportDisabled, rfl, by simp⟩

theorem createCancelPacket_ne_explicitDenial {env : Ambient} {error : AuthHandlerError}
    (h : createCancelPacket P S env = .error error) : error ≠ .explicitDenial := by
  rintro rfl
  unfold createCancelPacket at h
  split at h
  · cases h
  · dsimp only at h
    generalize createEncryptedPacketWithCskNonce P env S.params.csk _ = packet at h
    cases packet <;> cases h

theorem Backed.spawned (h : Backed P S packets s) (env : Ambient)
    (hnext : sessionNext P S s (.registered env) = some t) : Backed P S packets t := by
  cases hphase : s.phase <;> simp only [sessionNext, hphase, reduceCtorEq] at hnext
  cases hcancel : createCancelPacket P S env with
  | error error =>
    rw [hcancel] at hnext
    cases hnext
    exact h.refuse error (createCancelPacket_ne_explicitDenial hcancel)
  | ok packet =>
    rw [hcancel] at hnext
    cases hnext
    refine ⟨fun k _ hk ↦ .inl ?_, (fun _ hclosing ↦ by cases hclosing),
      fun _ hresponded ↦ by cases hresponded⟩
    cases k with
    | ble => exact spawn_not_decided hk
    | udp => exact spawn_not_decided hk

/-- One step: what is new rests on the packet the step delivers. -/
theorem Backed.step (h : Backed P S packets s) (hnext : sessionNext P S s e = some t) :
    Backed P S (packets ++ deliveredPackets [e]) t := by
  have hmore := h.mono (List.subset_append_left packets (deliveredPackets [e]))
  by_cases hregistered : ∃ env, e = .registered env
  · obtain ⟨env, rfl⟩ := hregistered
    exact hmore.spawned env hnext
  cases sessionNext_eq_some hnext with
  | tick elapsed => exact ⟨fun | .ble => hmore.returned .ble | .udp => hmore.returned .udp,
      hmore.closing, hmore.responded⟩
  | bleInitialized ok hphase =>
    exact ⟨fun | .ble => hmore.returned .ble | .udp => hmore.returned .udp,
      (fun _ hclosing ↦ by cases hclosing), fun _ hresponded ↦ by cases hresponded⟩
  | registerFailed env error hphase => exact absurd ⟨env, rfl⟩ hregistered
  | spawned env hphase => exact absurd ⟨env, rfl⟩ hregistered
  | task k hstep =>
    exact hmore.setTask k fun result hresult ↦ (decidedBy_of_taskStep hstep hresult).imp_right
      (·.mono (List.subset_append_right packets _))
  | joinedTerminal k hphase hjoin =>
    obtain ⟨htask, hnotFailure⟩ := returned_of_joinResult hjoin
    have hdecided := (hmore.returned k _ htask).resolve_left hnotFailure
    exact (hmore.abort k.other).goto (fun _ hclosing ↦ by cases hclosing; exact hdecided)
      fun _ hresponded ↦ by cases hresponded
  | joinedFailed k hphase hjoin =>
    unfold SessionState.fail
    split_ifs
    · exact hmore.refuse .denied (by simp)
    · exact hmore.goto (fun _ hclosing ↦ by cases hclosing)
        fun _ hresponded ↦ by cases hresponded
  | cancelled hphase =>
    exact hmore.goto (fun _ hclosing ↦ by cases hclosing) fun _ hresponded ↦ by cases hresponded
  | closed hphase =>
    refine hmore.goto (fun _ hclosing ↦ by cases hclosing) fun _ hresponded result hresult ↦ ?_
    cases hresponded
    rw [verdictIn_respond hresult]
    exact hmore.closing _ hphase
  | cancellationDone hphase =>
    exact ((hmore.abort .ble).abort .udp).refuse .denied (by simp)
  | timeout hbefore hdue =>
    refine hmore.goto (fun _ hclosing ↦ by cases hclosing) fun _ hresponded result hresult ↦ ?_
    cases hresponded
    cases hresult

/-- A whole run. -/
theorem backed_of_exec {now : Nat} {events : List Event}
    (hrun : (session P S).exec (.start now) events = some s) :
    Backed P S (deliveredPackets events) s := by
  have hstart : Backed P S (deliveredPackets []) (.start now) :=
    ⟨(fun | .ble, _, hk => by cases hk
          | .udp, _, hk => by cases hk),
      (fun _ hclosing ↦ by cases hclosing), fun _ hresponded ↦ by cases hresponded⟩
  refine (session P S).history_along (G := fun _ _ ↦ True)
    (H := fun before s ↦ Backed P S (deliveredPackets before) s) hstart ?_ hrun
    ((session P S).along_of_mem (fun _ _ _ ↦ trivial) _)
  intro before u event v _ hu _ hnext
  rw [deliveredPackets, List.filterMap_append]
  exact hu.step hnext

/-- Before its first wait a session responds neither success nor `denied`. -/
theorem verdictIn_of_begin {S : AuthSession} {response : PamAuthenticateResponse}
    (h : beginAuthenticate P S = .responded (.ok response)) :
    verdictIn response.outcome = none := by
  unfold beginAuthenticate at h
  dsimp only at h
  split at h
  · cases h; rfl
  split at h
  · cases h; rfl
  split at h
  · split at h
    · cases h; rfl
    split at h
    · cases h
    split at h
    · cases h
    split at h
    · cases h; rfl
    · cases h
  · cases h; rfl

/-- **Responses rest on packets.**  `handle_authenticate` answers success only if it was
delivered a packet that the stored keys take for a grant of its challenge, and `denied` only on
such a denial. -/
theorem decidedBy_of_handleAuthenticate {S : AuthSession} {events : List Event}
    {response : PamAuthenticateResponse} (h : handleAuthenticate P S events = some (.ok response))
    (hresult : verdictIn response.outcome = some result) :
    ∃ running, beginAuthenticate P S = .running running ∧
      DecidedBy P running.params (deliveredPackets events) result := by
  unfold handleAuthenticate at h
  cases hbegin : beginAuthenticate P S with
  | responded early =>
    rw [hbegin] at h
    cases h
    rw [verdictIn_of_begin hbegin] at hresult
    cases hresult
  | running running =>
    rw [hbegin] at h
    obtain ⟨response', hresponse, heq⟩ := Option.map_eq_some_iff.mp h
    cases heq
    obtain ⟨taken, hsub, hrun⟩ :=
      (session P running).exists_exec_eq_feed (.start S.startedAt) events
    have hphase : ((session P running).feed (.start S.startedAt) events).phase =
        .responded response := by
      unfold SessionState.response? at hresponse
      split at hresponse
      next hphase => cases hresponse; exact hphase
      · cases hresponse
    exact ⟨running, rfl, ((backed_of_exec hrun).responded response hphase result hresult).mono
      (hsub.filterMap _).subset⟩

end

/-! ## What a phone has vetted -/

/-- The request parsed from a packet that arrived, for a user whom the packet's device allows,
with a signature that the device's key verifies. -/
structure Vetted (P : Primitives) (arrived : Incoming → Prop) (job : Job) : Prop where
  arrived : arrived job.incoming
  parsed : job.incoming.job? P = some job
  allowed : job.incoming.device.isUserAllowed job.request.username = true
  verifies : job.verifies P = true

/-- What a handler knows about its request where it stands. -/
def Knows (P : Primitives) (arrived : Incoming → Prop) : Phone.Handler → Prop
  | .surroundings | .finished _ => True
  | .arrived incoming => arrived incoming
  | .verified job => Vetted P arrived job
  | .claiming job | .sweeping job _ | .removing job _ _ | .swept job _ | .replacing job _ _
  | .claimed job | .checking job _ | .missed job _ | .cleaning job _ _ | .cleaned job _
  | .accepted job => arrived job.incoming ∧ job.incoming.job? P = some job ∧
      job.incoming.device.isUserAllowed job.request.username = true

section

variable {P : Primitives} {arrived : Incoming → Prop} {s t : PhoneMemory} {l l' : Phone.Handler}
  {event : PhoneEvent}

theorem allowed_of_precheck {incoming : Incoming} {accepted : Bool} {job : Job}
    (h : precheck P incoming accepted = .ok job) :
    job.incoming.device.isUserAllowed job.request.username = true := by
  unfold precheck at h
  split_ifs at h
  split at h
  · cases h
  · split_ifs at h with hallowed
    cases h
    exact hallowed

theorem knows_afterExisting {job : Job} (existing : TransportLock)
    (h : Knows P arrived (.claimed job)) : Knows P arrived (afterExisting job existing) := by
  unfold afterExisting
  split_ifs
  · exact h
  · trivial

/-- A step of a handler: it knows as much as before, and what it submits it has vetted. -/
theorem knows_of_handlerStep (hl : Knows P arrived l)
    (h : Phone.handlerStep P s l event = some (t, l')) :
    Knows P arrived l' ∧ ∀ entry ∈ t.submitted, entry ∈ s.submitted ∨ Vetted P arrived entry.1 := by
  unfold Phone.handlerStep at h
  split at h
  · cases h; exact ⟨trivial, fun _ ↦ .inl⟩
  · cases h; exact ⟨trivial, fun _ ↦ .inl⟩
  · split at h
    next job hprecheck =>
      cases h
      have hparsed := job?_of_precheck hprecheck
      have hincoming := incoming_of_job? hparsed
      exact ⟨⟨hincoming ▸ hl, hincoming ▸ hparsed, allowed_of_precheck hprecheck⟩, fun _ ↦ .inl⟩
    · cases h; exact ⟨trivial, fun _ ↦ .inl⟩
  · cases h; exact ⟨hl, fun _ ↦ .inl⟩
  · split at h
    · split_ifs at h
      cases h
      exact ⟨hl, fun _ ↦ .inl⟩
    · cases h
  · cases h; exact ⟨hl, fun _ ↦ .inl⟩
  · cases h; exact ⟨hl, fun _ ↦ .inl⟩
  · unfold putIfAbsent at h
    split at h
    · cases h; exact ⟨hl, fun _ ↦ .inl⟩
    · split_ifs at h
      · cases h; exact ⟨hl, fun _ ↦ .inl⟩
      · cases h; exact ⟨knows_afterExisting _ hl, fun _ ↦ .inl⟩
  · unfold replaceLock at h
    split_ifs at h
    · cases h; exact ⟨hl, fun _ ↦ .inl⟩
    · cases h; exact ⟨knows_afterExisting _ hl, fun _ ↦ .inl⟩
  · split_ifs at h
    · cases h; exact ⟨trivial, fun _ ↦ .inl⟩
    · cases h; exact ⟨hl, fun _ ↦ .inl⟩
  · split_ifs at h
    · cases h; exact ⟨trivial, fun _ ↦ .inl⟩
    · cases h; exact ⟨hl, fun _ ↦ .inl⟩
  · cases h; exact ⟨hl, fun _ ↦ .inl⟩
  · cases h; exact ⟨hl, fun _ ↦ .inl⟩
  · cases h; exact ⟨hl, fun _ ↦ .inl⟩
  · split_ifs at h with hverifies
    · cases h; exact ⟨⟨hl.1, hl.2.1, hl.2.2, hverifies⟩, fun _ ↦ .inl⟩
    · cases h; exact ⟨trivial, fun _ ↦ .inl⟩
  · cases h
    refine ⟨trivial, fun entry hentry ↦ ?_⟩
    rcases List.mem_cons.mp hentry with rfl | hentry
    · exact .inr hl
    · exact .inl hentry
  · cases h

end

/-! ## The world -/

/-- A phone: its coroutines, and the requests that its user has approved and denied. -/
structure Handset (ι : Type) where
  handlers : Pool ι PhoneMemory Phone.Handler
  approved : List Job
  denied : List Job

structure World (κ ι : Type) where
  /-- The sessions that the desktop has begun, the last first. -/
  begun : List AuthSession
  phones : κ → Handset ι

inductive WorldEvent (κ ι : Type) where
  /-- The desktop builds the packet of a session. -/
  | begins (S : AuthSession)
  /-- A coroutine of a phone takes a step. -/
  | handler (phone : κ) (i : ι) (event : PhoneEvent)
  /-- The user of a phone answers a request that was submitted. -/
  | approves (phone : κ) (job : Job)
  | denies (phone : κ) (job : Job)

section

variable {κ ι : Type} [DecidableEq κ] [DecidableEq ι]

def World.setPhone (w : World κ ι) (k : κ) (phone : Handset ι) : World κ ι :=
  { w with phones := Function.update w.phones k phone }

/-- The request is among those that were submitted to the user. -/
def Handset.asked (phone : Handset ι) (job : Job) : Bool :=
  phone.handlers.shared.submitted.any fun entry ↦ entry.1 = job

variable (P : Primitives) (desktop : Ed25519KeyPair) (csk : ClientSymmetricKey)

/-- The desktop and the phones.  The desktop has one key pair and one CSK. -/
def world : Machine (World κ ι) (WorldEvent κ ι) where
  next w
  | .begins S =>
    if S.state.keypair = some desktop ∧ S.state.csk = some csk ∧
        (beginAuthenticate P S).session?.isSome then
      some { w with begun := S :: w.begun }
    else none
  | .handler k i event =>
    ((requestHandlers P).pool.next (w.phones k).handlers (i, event)).map fun handlers ↦
      w.setPhone k { w.phones k with handlers }
  | .approves k job =>
    if (w.phones k).asked job then
      some (w.setPhone k { w.phones k with approved := job :: (w.phones k).approved })
    else none
  | .denies k job =>
    if (w.phones k).asked job then
      some (w.setPhone k { w.phones k with denied := job :: (w.phones k).denied })
    else none

/-- Nothing has happened: packets have reached the phones. -/
structure World.Start (w : World κ ι) : Prop where
  begun : w.begun = []
  approved : ∀ k, (w.phones k).approved = []
  denied : ∀ k, (w.phones k).denied = []
  submitted : ∀ k, (w.phones k).handlers.shared.submitted = []
  handlers : ∀ k i, (w.phones k).handlers.locals i = .surroundings ∨
    ∃ incoming, (w.phones k).handlers.locals i = .arrived incoming

/-- The packet is one of those that reached a phone. -/
def World.Arrived (w : World κ ι) (k : κ) (incoming : Incoming) : Prop :=
  ∃ i, (w.phones k).handlers.locals i = .arrived incoming

/-! ### What holds in every world -/

/-- Everything that was answered had been vetted. -/
structure World.Ok (arrived : κ → Incoming → Prop) (w : World κ ι) : Prop where
  handlers : ∀ k i, Knows P (arrived k) ((w.phones k).handlers.locals i)
  submitted : ∀ k, ∀ entry ∈ (w.phones k).handlers.shared.submitted, Vetted P (arrived k) entry.1
  approved : ∀ k, ∀ job ∈ (w.phones k).approved, Vetted P (arrived k) job
  denied : ∀ k, ∀ job ∈ (w.phones k).denied, Vetted P (arrived k) job
  begun : ∀ S ∈ w.begun, S.state.csk = some csk

variable {P desktop csk} {w w₀ : World κ ι} {arrived : κ → Incoming → Prop}

namespace World

omit [DecidableEq κ] [DecidableEq ι] in
theorem Start.ok (h : w.Start) : w.Ok P csk w.Arrived where
  handlers k i := by
    rcases h.handlers k i with hlocal | ⟨incoming, hlocal⟩
    · rw [hlocal]
      trivial
    · rw [hlocal]
      exact ⟨i, hlocal⟩
  submitted k entry hentry := by
    rw [h.submitted k] at hentry
    cases hentry
  approved k job hjob := by
    rw [h.approved k] at hjob
    cases hjob
  denied k job hjob := by
    rw [h.denied k] at hjob
    cases hjob
  begun S hS := by
    rw [h.begun] at hS
    cases hS

omit [DecidableEq ι] in
/-- One phone has moved on. -/
theorem Ok.setPhone (h : w.Ok P csk arrived) (k : κ) {phone : Handset ι}
    (hhandlers : ∀ i, Knows P (arrived k) (phone.handlers.locals i))
    (hsubmitted : ∀ entry ∈ phone.handlers.shared.submitted, Vetted P (arrived k) entry.1)
    (happroved : ∀ job ∈ phone.approved, Vetted P (arrived k) job)
    (hdenied : ∀ job ∈ phone.denied, Vetted P (arrived k) job) :
    (w.setPhone k phone).Ok P csk arrived := by
  have hcases (k' : κ) : (w.setPhone k phone).phones k' = if k' = k then phone else w.phones k' :=
    Function.update_apply w.phones k phone k'
  refine ⟨fun k' i ↦ ?_, fun k' ↦ ?_, fun k' ↦ ?_, fun k' ↦ ?_, h.begun⟩
  all_goals rw [hcases]; split
  next heq => exact heq ▸ hhandlers i
  · exact h.handlers k' i
  next heq => exact heq ▸ hsubmitted
  · exact h.submitted k'
  next heq => exact heq ▸ happroved
  · exact h.approved k'
  next heq => exact heq ▸ hdenied
  · exact h.denied k'

omit [DecidableEq κ] [DecidableEq ι] in
theorem Ok.of_asked (h : w.Ok P csk arrived) {k : κ} {job : Job}
    (hasked : (w.phones k).asked job = true) : Vetted P (arrived k) job := by
  obtain ⟨entry, hentry, hjob⟩ := List.any_eq_true.mp hasked
  have hsame : entry.1 = job := of_decide_eq_true hjob
  exact hsame ▸ h.submitted k entry hentry

theorem Ok.handler (h : w.Ok P csk arrived) {k : κ} {i : ι} {event : PhoneEvent}
    {handlers : Pool ι PhoneMemory Phone.Handler}
    (hnext : (requestHandlers P).pool.next (w.phones k).handlers (i, event) = some handlers) :
    (w.setPhone k { w.phones k with handlers }).Ok P csk arrived := by
  obtain ⟨hstep, hothers⟩ := (requestHandlers P).step_of_pool_next hnext
  obtain ⟨hknows, hsubmitted⟩ := knows_of_handlerStep (h.handlers k i) hstep
  refine h.setPhone k (fun j ↦ ?_) (fun entry hentry ↦ ?_) (h.approved k) (h.denied k)
  · by_cases hj : j = i
    · exact hj ▸ hknows
    · change Knows P (arrived k) (handlers.locals j)
      rw [hothers j hj]
      exact h.handlers k j
  · exact (hsubmitted entry hentry).elim (h.submitted k entry) id

theorem Ok.step {event : WorldEvent κ ι} {v : World κ ι} (h : w.Ok P csk arrived)
    (hnext : (world P desktop csk).next w event = some v) : v.Ok P csk arrived := by
  cases event with
  | begins S =>
    obtain ⟨hbegins, hv⟩ := Option.ite_none_right_eq_some.mp hnext
    cases hv
    refine { h with begun := fun S' hS' ↦ ?_ }
    rcases List.mem_cons.mp hS' with rfl | hS'
    · exact hbegins.2.1
    · exact h.begun S' hS'
  | handler k i event =>
    obtain ⟨handlers, hhandlers, hv⟩ := Option.map_eq_some_iff.mp hnext
    exact hv ▸ h.handler hhandlers
  | approves k job =>
    obtain ⟨hasked, hv⟩ := Option.ite_none_right_eq_some.mp hnext
    cases hv
    exact h.setPhone k (h.handlers k) (h.submitted k)
      (List.forall_mem_cons.mpr ⟨h.of_asked hasked, h.approved k⟩) (h.denied k)
  | denies k job =>
    obtain ⟨hasked, hv⟩ := Option.ite_none_right_eq_some.mp hnext
    cases hv
    exact h.setPhone k (h.handlers k) (h.submitted k) (h.approved k)
      (List.forall_mem_cons.mpr ⟨h.of_asked hasked, h.denied k⟩)

theorem begun_subset_of_next {event : WorldEvent κ ι} {v : World κ ι}
    (hnext : (world P desktop csk).next w event = some v) : w.begun ⊆ v.begun := by
  cases event with
  | begins S =>
    obtain ⟨-, hv⟩ := Option.ite_none_right_eq_some.mp hnext
    cases hv
    exact List.subset_cons_self S w.begun
  | handler k i event =>
    obtain ⟨handlers, -, hv⟩ := Option.map_eq_some_iff.mp hnext
    cases hv
    exact List.Subset.refl _
  | approves k job =>
    obtain ⟨-, hv⟩ := Option.ite_none_right_eq_some.mp hnext
    cases hv
    exact List.Subset.refl _
  | denies k job =>
    obtain ⟨-, hv⟩ := Option.ite_none_right_eq_some.mp hnext
    cases hv
    exact List.Subset.refl _

/-- A session that was begun stays begun. -/
theorem mem_begun_of_exec {run : List (WorldEvent κ ι)} {S : AuthSession}
    (hrun : (world P desktop csk).exec w₀ run = some w) (hS : S ∈ w₀.begun) : S ∈ w.begun :=
  (world P desktop csk).invariant (I := fun w ↦ S ∈ w.begun)
    (fun _ _ _ hu hnext ↦ begun_subset_of_next hnext hu) hS hrun

theorem Start.ok_of_exec (h : w₀.Start) {run : List (WorldEvent κ ι)}
    (hrun : (world P desktop csk).exec w₀ run = some w) : w.Ok P csk w₀.Arrived :=
  (world P desktop csk).invariant (fun _ _ _ hu hnext ↦ hu.step hnext) h.ok hrun

end World

end

/-! ## What is signed and sealed -/

section

variable {κ ι : Type} (P : Primitives)

/-- The data a phone has signed: the challenges that were approved, and the wrappers of its
grants and denials.  A denial is built for a challenge of 32 bytes only. -/
inductive PhoneSigned (keypair : Ed25519KeyPair) (phone : Handset ι) : Bytes → Prop where
  | challenge {job : Job} (hjob : job ∈ phone.approved) :
      PhoneSigned keypair phone job.request.challenge
  | grant {job : Job} (hjob : job ∈ phone.approved) :
      PhoneSigned keypair phone
        (dataToSign P (wrapAuthGrant ⟨signEd25519 P keypair job.request.challenge⟩))
  | denial {job : Job} {challenge : Bytes32} (hjob : job ∈ phone.denied)
      (hchallenge : job.request.challenge = challenge.bytes) :
      PhoneSigned keypair phone (dataToSign P (wrapAuthDenial ⟨challenge.bytes⟩))

/-- The wrappers that the desktop has signed: the requests of its sessions, and what it may
have sent when they ended. -/
inductive World.DesktopSigned (w : World κ ι) : WrapperMessage → Prop where
  | request {S : AuthSession} {timestamp : UInt64} (hS : S ∈ w.begun)
      (htimestamp : S.env.unixSeconds = some timestamp) :
      w.DesktopSigned (wrapAuthRequest (requestOf S timestamp))
  | cancel {S : AuthSession} (hS : S ∈ w.begun) :
      w.DesktopSigned (wrapAuthCancel ⟨S.challenge.bytes⟩)
  | confirmation {S : AuthSession} (hS : S ∈ w.begun) :
      w.DesktopSigned (wrapGrantConfirmation ⟨S.challenge.bytes⟩)

/-- The messages that were sealed under the CSK: those of the desktop, and the answers of the
phones to requests that came under it. -/
inductive World.Sealed (desktop : Ed25519KeyPair) (csk : ClientSymmetricKey)
    (keypair : κ → Ed25519KeyPair) (w : World κ ι) : Bytes → Prop where
  | desktop {wrapper : WrapperMessage} (hsigned : w.DesktopSigned wrapper) :
      w.Sealed desktop csk keypair (P.wrapperFormat.encode (signWrapperMessage P wrapper desktop))
  | grant {k : κ} {job : Job} {signedChallenge message : Bytes} (hjob : job ∈ (w.phones k).approved)
      (hcsk : job.incoming.device.csk = csk.bytes)
      (hsign : signData P (keypair k).signingKeyBytes.bytes job.request.challenge =
        .ok signedChallenge)
      (hmessage : createGrantWrapperMessage P signedChallenge (keypair k).signingKeyBytes.bytes =
        .ok message) :
      w.Sealed desktop csk keypair message
  | denial {k : κ} {job : Job} {message : Bytes} (hjob : job ∈ (w.phones k).denied)
      (hcsk : job.incoming.device.csk = csk.bytes)
      (hmessage : createDenialWrapperMessage P job.request.challenge
        (keypair k).signingKeyBytes.bytes = .ok message) :
      w.Sealed desktop csk keypair message

/-- A signature that a packet brings before a phone, and what it should be over. -/
def World.Presented (w : World κ ι) (data signature : Bytes) : Prop :=
  ∃ k incoming job, w.Arrived k incoming ∧ incoming.job? P = some job ∧
    data = serializeAuthRequestForVerification P job.request ∧ signature = job.request.signature

/-- A signed challenge in one of the packets. -/
def SignedChallengeIn (csk : ClientSymmetricKey) (packets : List EncryptedPacket)
    (signature : Bytes) : Prop :=
  ∃ packet ∈ packets, ∃ wrapper, decryptEncryptedPacketWithCskNonce P csk packet = .ok wrapper ∧
    wrapper.payload = some (.authGrant ⟨signature⟩)

/-- The job is about the session: its challenge, its user, its host, and a device that allows
the user. -/
structure Asks (S : AuthSession) (job : Job) : Prop where
  challenge : job.request.challenge = S.challenge.bytes
  username : job.request.username = S.username
  hostname : job.request.hostname = S.state.hostname
  allowed : job.incoming.device.isUserAllowed S.username = true

variable {P} {w w₀ : World κ ι} {desktop : Ed25519KeyPair} {csk : ClientSymmetricKey}
  {keypair : κ → Ed25519KeyPair} {S : AuthSession}

/-! ### Signed wrappers are longer than challenges -/

theorem length_dataToSign (hcanonical : Canonical P) (payload : Payload) {number : Nat}
    (hnumber : number < 16) {data : Bytes} (hdata : data ≠ []) (hlength : data.length + 2 < 128)
    (hpayload : payloadFields payload =
      messageField number (bytesField 1 data)) :
    (dataToSign P (wrapPayload payload)).length = data.length + 8 := by
  have hinner : (encodeFields (bytesField 1 data)).length = data.length + 2 := by
    rw [bytesField, if_neg hdata]
    exact length_encodeFields_delimited (by decide) (by omega)
  have hversion : (encodeFields (uintField 1 1)).length = 2 :=
    length_encodeFields_uintField (by decide) (by decide) (by decide)
  have halgorithm : (encodeFields
      (uintField 2 (enumNumber signatureAlgorithmEd25519))).length = 2 :=
    length_encodeFields_uintField (by decide) (by decide) (by decide)
  rw [dataToSign, hcanonical]
  change (encodeFields (wrapperFields ⟨1, signatureAlgorithmEd25519, [],
    some payload⟩)).length = _
  change (encodeFields (uintField 1 1 ++
    uintField 2 (enumNumber signatureAlgorithmEd25519) ++ [] ++
    payloadFields payload)).length = _
  rw [List.append_nil, length_encodeFields_append, length_encodeFields_append,
    hversion, halgorithm, hpayload, messageField,
    length_encodeFields_delimited hnumber (by omega), hinner]
  omega

/-- A signature over one of the phone's own messages is not over a challenge. -/
theorem approved_of_phoneSigned (hcanonical : Canonical P) {keypair : Ed25519KeyPair}
    {phone : Handset ι} {challenge : Bytes32} (h : PhoneSigned P keypair phone challenge.bytes) :
    ∃ job ∈ phone.approved, job.request.challenge = challenge.bytes := by
  have hchallenge := challenge.length_bytes
  generalize challenge.bytes = data at h hchallenge
  cases h with
  | challenge hjob => exact ⟨_, hjob, rfl⟩
  | @grant job hjob =>
    have hsigned : (signEd25519 P keypair job.request.challenge).length = 64 :=
      FixedBytes.length_bytes _
    have hlength := length_dataToSign hcanonical
      (.authGrant ⟨signEd25519 P keypair job.request.challenge⟩) (by decide)
      (List.ne_nil_of_length_eq_add_one hsigned) (by omega) rfl
    have hequal := hlength.symm.trans hchallenge
    omega
  | @denial job denied hjob hsame =>
    have hdenied := denied.length_bytes
    have hlength := length_dataToSign hcanonical (.authDenial ⟨denied.bytes⟩) (by decide)
      (List.ne_nil_of_length_eq_add_one hdenied) (by omega) rfl
    have hequal := hlength.symm.trans hchallenge
    omega

/-! ### A vetted request of the desktop is a session's -/

/-- The desktop signs requests for its sessions and nothing else that reads as a request. -/
theorem session_of_vetted (hcanonical : Canonical P)
    (hdesktop : Unforgeable P (desktop.verifyingKeyBytes P) w.DesktopSigned (w₀.Presented P))
    {k : κ} {job : Job} (hjob : Vetted P (w₀.Arrived k) job)
    (hkey : job.incoming.device.publicKey = (desktop.verifyingKeyBytes P).bytes) :
    ∃ S ∈ w.begun, Asks S job := by
  have hverifies := hjob.verifies
  rw [Job.verifies, hkey] at hverifies
  obtain ⟨wrapper, hsigned, hdata⟩ :=
    hdesktop.exists_signed ⟨k, job.incoming, job, hjob.arrived, hjob.parsed, rfl, rfl⟩ hverifies
  obtain ⟨-, hpayload⟩ := eq_of_dataToSign_eq hcanonical hdata
  cases hsigned with
  | @request S timestamp hS htimestamp =>
    obtain ⟨hchallenge, husername, hhostname, -⟩ :
        S.challenge.bytes = job.request.challenge ∧ S.username = job.request.username ∧
          S.state.hostname = job.request.hostname ∧
          timestamp = job.request.timestampUnixSeconds.toUInt64 := by
      simpa [wrapAuthRequest, wrapPayload, requestOf] using hpayload
    exact ⟨S, hS, hchallenge.symm, husername.symm, hhostname.symm, husername ▸ hjob.allowed⟩
  | cancel hS => cases hpayload
  | confirmation hS => cases hpayload

/-- Of two sessions with one challenge there is one. -/
theorem asks_of_challenge (hdistinct : (w.begun.map AuthSession.challenge).Nodup)
    {S S' : AuthSession} (hS : S ∈ w.begun) (hS' : S' ∈ w.begun) {job : Job} (h : Asks S' job)
    (hchallenge : job.request.challenge = S.challenge.bytes) : Asks S job := by
  have hsame : S'.challenge = S.challenge :=
    FixedBytes.bytes_injective (h.challenge.symm.trans hchallenge)
  cases List.inj_on_of_nodup_map hdistinct hS' hS hsame
  exact h

/-! ### Sealed answers -/

variable {wrapper : WrapperMessage}

/-- The desktop sends neither grants nor denials. -/
theorem not_answer_of_desktopSigned (h : w.DesktopSigned wrapper) :
    (∀ grant, wrapper.payload ≠ some (.authGrant grant)) ∧
      ∀ denial, wrapper.payload ≠ some (.authDenial denial) := by
  cases h <;> exact ⟨nofun, nofun⟩

/-- What a sealed message holds: a message of the desktop, or the answer to a request that was
approved or denied. -/
theorem payload_of_sealed {message : Bytes} (h : w.Sealed P desktop csk keypair message)
    (hdecode : P.wrapperFormat.decode message = .ok wrapper) :
    (∃ signed, w.DesktopSigned signed ∧ wrapper.payload = signed.payload) ∨
    (∃ k, ∃ job ∈ (w.phones k).approved, job.incoming.device.csk = csk.bytes ∧
      wrapper.payload = some (.authGrant ⟨signEd25519 P (keypair k) job.request.challenge⟩)) ∨
    ∃ k, ∃ job ∈ (w.phones k).denied, job.incoming.device.csk = csk.bytes ∧
      wrapper.payload = some (.authDenial ⟨job.request.challenge⟩) := by
  cases h with
  | desktop hsigned =>
    rw [P.wrapperFormat.decode_encode] at hdecode
    cases hdecode
    exact .inl ⟨_, hsigned, rfl⟩
  | @grant k job signedChallenge message hjob hcsk hsign hmessage =>
    unfold signData at hsign
    obtain ⟨key, hkey, hsign⟩ := Except.bind_eq_ok_iff.mp hsign
    rw [jbytearrayToFixed_eq_ok, FixedBytes.ofBytes_bytes, Option.some.injEq] at hkey
    cases hsign
    subst hkey
    rw [createGrantWrapperMessage, jbytearrayToEd25519Keypair_bytes] at hmessage
    cases hmessage
    rw [signedWrapperBytes, P.wrapperFormat.decode_encode] at hdecode
    cases hdecode
    exact .inr (.inl ⟨k, job, hjob, hcsk, rfl⟩)
  | @denial k job message hjob hcsk hmessage =>
    unfold createDenialWrapperMessage at hmessage
    obtain ⟨challenge, hchallenge, hmessage⟩ := Except.bind_eq_ok_iff.mp hmessage
    rw [jbytearrayToEd25519Keypair_bytes] at hmessage
    cases hmessage
    rw [signedWrapperBytes, P.wrapperFormat.decode_encode] at hdecode
    cases hdecode
    rw [jbytearrayToFixed_eq_ok, FixedBytes.ofBytes_eq_some] at hchallenge
    exact .inr (.inr ⟨k, job, hjob, hcsk, by rw [hchallenge]; rfl⟩)

/-- A sealed grant is for an approved request, and holds the signature over its challenge. -/
theorem approved_of_sealed {message : Bytes} {grant : AuthenticationGrant}
    (h : w.Sealed P desktop csk keypair message)
    (hdecode : P.wrapperFormat.decode message = .ok wrapper)
    (hpayload : wrapper.payload = some (.authGrant grant)) :
    ∃ k, ∃ job ∈ (w.phones k).approved, job.incoming.device.csk = csk.bytes ∧
      grant.signedChallenge = signEd25519 P (keypair k) job.request.challenge := by
  obtain ⟨signed, hsigned, hsame⟩ | ⟨k, job, hjob, hcsk, hgrant⟩ | ⟨k, job, -, -, hdenial⟩ :=
    payload_of_sealed h hdecode
  · exact absurd (hsame.symm.trans hpayload) ((not_answer_of_desktopSigned hsigned).1 grant)
  · cases hpayload.symm.trans hgrant
    exact ⟨k, job, hjob, hcsk, rfl⟩
  · cases hpayload.symm.trans hdenial

/-- A sealed denial is for a request that was denied, and names its challenge. -/
theorem denied_of_sealed {message : Bytes} {denial : AuthenticationDenial}
    (h : w.Sealed P desktop csk keypair message)
    (hdecode : P.wrapperFormat.decode message = .ok wrapper)
    (hpayload : wrapper.payload = some (.authDenial denial)) :
    ∃ k, ∃ job ∈ (w.phones k).denied, job.incoming.device.csk = csk.bytes ∧
      denial.challenge = job.request.challenge := by
  obtain ⟨signed, hsigned, hsame⟩ | ⟨k, job, -, -, hgrant⟩ | ⟨k, job, hjob, hcsk, hdenial⟩ :=
    payload_of_sealed h hdecode
  · exact absurd (hsame.symm.trans hpayload) ((not_answer_of_desktopSigned hsigned).2 denial)
  · cases hpayload.symm.trans hgrant
  · cases hpayload.symm.trans hdenial
    exact ⟨k, job, hjob, hcsk, rfl⟩

/-! ### Responses -/

theorem plaintext_of_decrypt {packet : EncryptedPacket}
    (h : decryptEncryptedPacketWithCskNonce P csk packet = .ok wrapper) :
    ∃ message, decryptWithCskAndPrependedNonce P csk packet.ciphertext = .ok message ∧
      P.wrapperFormat.decode message = .ok wrapper := by
  unfold decryptEncryptedPacketWithCskNonce at h
  split at h
  · cases h
  next message hmessage =>
    split at h
    · next hdecode =>
        cases h
        exact ⟨message, hmessage, hdecode⟩
    · cases h

/-- The packet behind a response, in terms of the session. -/
theorem packet_of_response {arrived : κ → Incoming → Prop} (hok : w.Ok P csk arrived)
    (hS : S ∈ w.begun) {events : List Event} {response : PamAuthenticateResponse}
    (hresponse : handleAuthenticate P S events = some (.ok response))
    {result : Except AuthHandlerError Unit}
    (hresult : verdictIn response.outcome = some result) :
    ∃ packet ∈ deliveredPackets events, ∃ wrapper,
      decryptEncryptedPacketWithCskNonce P csk packet = .ok wrapper ∧
        verdictOf P (storedKeys S.state.pairedServers) S.challenge wrapper = some result := by
  obtain ⟨running, hbegin, packet, hpacket, wrapper, hopens, hverdict⟩ :=
    decidedBy_of_handleAuthenticate hresponse hresult
  obtain ⟨hcsk, hchallenge, hservers, -⟩ := beginAuthenticate_eq_running hbegin
  have hsameCsk : running.params.csk = csk := Option.some.inj (hcsk.symm.trans (hok.begun S hS))
  rw [hservers, hchallenge] at hverdict
  rw [hsameCsk] at hopens
  exact ⟨packet, hpacket, wrapper, hopens, hverdict⟩

section

variable [DecidableEq κ] [DecidableEq ι] {run : List (WorldEvent κ ι)} {events : List Event}
  {response : PamAuthenticateResponse}

/-- **A granted session has been approved.**  Whatever reaches the phones and the desktop, in
every interleaving: if the desktop's and the phones' signatures are not forged, a session that
ends in success has an approval, on a phone whose key is stored, of a request with the
session's challenge and for a user whom the phone allows.  If the phone holds the desktop's key
for the request's sender, the request is the session's own. -/
theorem granted_was_approved (hcanonical : Canonical P) (hstart : w₀.Start)
    (hrun : (world P desktop csk).exec w₀ run = some w)
    (hdistinct : (w.begun.map AuthSession.challenge).Nodup)
    (hdesktop : Unforgeable P (desktop.verifyingKeyBytes P) w.DesktopSigned (w₀.Presented P))
    (hS : S ∈ w.begun) (hresponse : handleAuthenticate P S events = some (.ok response))
    (hsuccess : response.outcome = .success)
    (hphones : ∀ key ∈ storedKeys S.state.pairedServers, ∀ signature : FixedBytes 64,
      SignedChallengeIn P csk (deliveredPackets events) signature.bytes →
      P.ed25519KeyValid key = true → P.ed25519Verify key S.challenge.bytes signature = true →
      ∃ k, key = (keypair k).verifyingKeyBytes P ∧
        PhoneSigned P (keypair k) (w.phones k) S.challenge.bytes) :
    ∃ k, (keypair k).verifyingKeyBytes P ∈ storedKeys S.state.pairedServers ∧
      ∃ job ∈ (w.phones k).approved, job.request.challenge = S.challenge.bytes ∧
        job.incoming.device.isUserAllowed job.request.username = true ∧
        (job.incoming.device.publicKey = (desktop.verifyingKeyBytes P).bytes → Asks S job) := by
  have hok := hstart.ok_of_exec hrun
  obtain ⟨packet, hpacket, wrapper, hopens, hverdict⟩ := packet_of_response hok hS hresponse
    (show verdictIn response.outcome = some (.ok ()) by rw [hsuccess]; rfl)
  obtain ⟨⟨signature⟩, hpayload, key, hkey, -, hverifies⟩ := verdictOf_eq_ok P hverdict
  obtain ⟨hvalid, fixed, rfl, hfixed⟩ := (verifyEd25519_eq_ok_iff P).mp hverifies
  obtain ⟨k, rfl, hsigned⟩ :=
    hphones key hkey fixed ⟨packet, hpacket, wrapper, hopens, hpayload⟩ hvalid hfixed
  obtain ⟨job, hjob, hjobChallenge⟩ := approved_of_phoneSigned hcanonical hsigned
  have hvetted := hok.approved k job hjob
  refine ⟨k, hkey, job, hjob, hjobChallenge, hvetted.allowed, fun hsender ↦ ?_⟩
  obtain ⟨S', hS', hasks⟩ := session_of_vetted hcanonical hdesktop hvetted hsender
  exact asks_of_challenge hdistinct hS hS' hasks hjobChallenge

end

end

namespace AgreementSample

open Sample (csk desktop env)

def primitives : Primitives := SignatureSample.primitives

/-- Alice unlocks the desktop. -/
def login : AuthSession := Sample.aliceSession

def message : Bytes :=
  primitives.wrapperFormat.encode
    (signWrapperMessage primitives (wrapAuthRequest (requestOf login 60)) desktop)

/-- The packet of the session at a phone that is paired with the desktop. -/
def incoming : Incoming := ⟨.udp, FreshnessSample.desktop, message⟩

def job : Job := ⟨incoming, parsedRequest primitives (requestOf login 60) desktop⟩

def start : World Unit Unit where
  begun := []
  phones _ := ⟨⟨⟨60000, 0, fun _ ↦ none, fun _ ↦ none, []⟩, fun _ ↦ .arrived incoming⟩, [], []⟩

def phone (_ : Unit) : Ed25519KeyPair := Sample.phone 5

/-- The phone handles the packet, and its user approves. -/
def approval : List (WorldEvent Unit Unit) :=
  .handler () () (.precheck true) :: List.replicate 10 (.handler () () .go) ++ [.approves () job]

def begun : World Unit Unit := { start with begun := [login] }

def approved : World Unit Unit :=
  ((world primitives desktop csk).exec begun approval).get (by decide +kernel)

theorem exec_approval :
    (world primitives desktop csk).exec start (.begins login :: approval) = some approved := by
  have hbegins : (world primitives desktop csk).next start (.begins login) = some begun := by
    simp only [world]
    exact if_pos ⟨rfl, rfl, by decide +kernel⟩
  rw [Machine.exec_cons, hbegins, Option.bind_some]
  exact (Option.some_get _).symm

theorem login_mem : login ∈ approved.begun :=
  World.mem_begun_of_exec (Option.some_get _).symm (List.mem_singleton_self login)

theorem job_mem : job ∈ (approved.phones ()).approved := by decide +kernel

theorem start_start : start.Start where
  begun := rfl
  approved _ := rfl
  denied _ := rfl
  submitted _ := rfl
  handlers _ _ := .inr ⟨incoming, rfl⟩

theorem eq_of_arrived {incoming' : Incoming} (h : start.Arrived () incoming') :
    incoming' = incoming := by
  obtain ⟨i, hlocal⟩ := h
  exact (Phone.Handler.arrived.inj hlocal).symm

/-- The one signature that reaches the phone is over the request of the session. -/
theorem unforgeable : Unforgeable primitives (desktop.verifyingKeyBytes primitives)
    approved.DesktopSigned (start.Presented primitives) := by
  rintro data signature ⟨_, incoming', job', harrived, hjob', rfl, -⟩ - -
  rw [eq_of_arrived harrived] at hjob'
  have hjob : incoming.job? primitives = some job := by decide +kernel
  cases hjob.symm.trans hjob'
  exact ⟨_, .request login_mem rfl, serialize_parsedRequest primitives _ desktop⟩

theorem key_eq {key : Bytes32} (h : key ∈ storedKeys login.state.pairedServers) :
    key = (phone ()).verifyingKeyBytes primitives := by
  have hkeys : storedKeys login.state.pairedServers =
      [(phone ()).verifyingKeyBytes primitives] := by decide +kernel
  rw [hkeys] at h
  exact List.mem_singleton.mp h

/-- The phone's answer. -/
def grant : EncryptedPacket :=
  (((grantBytes primitives env csk.bytes (phone ()).signingKeyBytes.bytes
    login.challenge.bytes).bind primitives.packetFormat.decode).toOption).getD ⟨[], 0, []⟩

def granted : PamAuthenticateResponse :=
  ⟨.success, "Authenticated user alice successfully", login.challenge.bytes⟩

theorem handleAuthenticate_grant :
    handleAuthenticate primitives login (Sample.delivery grant) = some (.ok granted) := by
  decide +kernel

end AgreementSample

open AgreementSample in
theorem granted_was_approved_login :
    ∃ w, (world primitives Sample.desktop Sample.csk).exec start (.begins login :: approval) =
        some w ∧
      ∃ k, (phone k).verifyingKeyBytes primitives ∈ storedKeys login.state.pairedServers ∧
        ∃ job ∈ (w.phones k).approved, job.request.challenge = login.challenge.bytes ∧
          job.incoming.device.isUserAllowed job.request.username = true ∧
          (job.incoming.device.publicKey = (Sample.desktop.verifyingKeyBytes primitives).bytes →
            Asks login job) :=
  ⟨approved, exec_approval, granted_was_approved rfl start_start exec_approval (by decide +kernel)
    unforgeable login_mem handleAuthenticate_grant rfl
    fun key hkey _ _ _ _ ↦ ⟨(), key_eq hkey, .challenge job_mem⟩⟩

section

variable {κ ι : Type} [DecidableEq κ] [DecidableEq ι] {P : Primitives} {w w₀ : World κ ι}
  {desktop : Ed25519KeyPair} {csk : ClientSymmetricKey} {keypair : κ → Ed25519KeyPair}
  {S : AuthSession} {run : List (WorldEvent κ ι)} {events : List Event}
  {response : PamAuthenticateResponse}

/-- **An answer is the answer to the session's own request.**  If what opens under the CSK was
sealed by the desktop or by a phone that has it, the phones hold the desktop's key with it, and
a phone's signature is accepted only for what it was made over: a session that ends in
success was approved on a phone whose key is stored, and one that ends in `denied` was denied
on some phone, each time for a request with the session's challenge, user and host. -/
theorem answered_own_request (hcanonical : Canonical P) (hstart : w₀.Start)
    (hrun : (world P desktop csk).exec w₀ run = some w)
    (hdistinct : (w.begun.map AuthSession.challenge).Nodup)
    (hdesktop : Unforgeable P (desktop.verifyingKeyBytes P) w.DesktopSigned (w₀.Presented P))
    (hdevices : ∀ k incoming, w₀.Arrived k incoming → incoming.device.csk = csk.bytes →
      incoming.device.publicKey = (desktop.verifyingKeyBytes P).bytes)
    (hS : S ∈ w.begun) (hresponse : handleAuthenticate P S events = some (.ok response))
    (hsealed : ∀ packet ∈ deliveredPackets events, ∀ message,
      decryptWithCskAndPrependedNonce P csk packet.ciphertext = .ok message →
        w.Sealed P desktop csk keypair message)
    (hbinding : ∀ key ∈ storedKeys S.state.pairedServers, ∀ k, ∀ job ∈ (w.phones k).approved,
      P.ed25519KeyValid key = true → P.ed25519Verify key S.challenge.bytes
        (P.ed25519Sign (keypair k).signingKeyBytes job.request.challenge) = true →
      key = (keypair k).verifyingKeyBytes P ∧ job.request.challenge = S.challenge.bytes) :
    (response.outcome = .success →
      ∃ k, (keypair k).verifyingKeyBytes P ∈ storedKeys S.state.pairedServers ∧
        ∃ job ∈ (w.phones k).approved, Asks S job) ∧
    (response.outcome = .denied → ∃ k, ∃ job ∈ (w.phones k).denied, Asks S job) := by
  have hok := hstart.ok_of_exec hrun
  -- the request behind an answer under the CSK, once its challenge is known
  have hown {k : κ} {job : Job} (hvetted : Vetted P (w₀.Arrived k) job)
      (hcsk : job.incoming.device.csk = csk.bytes)
      (hchallenge : job.request.challenge = S.challenge.bytes) : Asks S job := by
    obtain ⟨S', hS', hasks⟩ :=
      session_of_vetted hcanonical hdesktop hvetted (hdevices k _ hvetted.arrived hcsk)
    exact asks_of_challenge hdistinct hS hS' hasks hchallenge
  constructor
  · intro hsuccess
    obtain ⟨packet, hpacket, wrapper, hopens, hverdict⟩ := packet_of_response hok hS hresponse
      (show verdictIn response.outcome = some (.ok ()) by rw [hsuccess]; rfl)
    obtain ⟨message, hmessage, hdecode⟩ := plaintext_of_decrypt hopens
    obtain ⟨grant, hpayload, key, hkey, -, hverifies⟩ := verdictOf_eq_ok P hverdict
    obtain ⟨k, job, hjob, hcsk, hsigned⟩ :=
      approved_of_sealed (hsealed packet hpacket message hmessage) hdecode hpayload
    rw [hsigned] at hverifies
    obtain ⟨hvalid, fixed, hfixed, hverifies⟩ := (verifyEd25519_eq_ok_iff P).mp hverifies
    obtain ⟨rfl, hchallenge⟩ :=
      hbinding key hkey k job hjob hvalid (FixedBytes.bytes_injective hfixed ▸ hverifies)
    exact ⟨k, hkey, job, hjob, hown (hok.approved k job hjob) hcsk hchallenge⟩
  · intro hdenied
    obtain ⟨packet, hpacket, wrapper, hopens, hverdict⟩ := packet_of_response hok hS hresponse
      (show verdictIn response.outcome = some (.error .explicitDenial) by rw [hdenied]; rfl)
    obtain ⟨message, hmessage, hdecode⟩ := plaintext_of_decrypt hopens
    obtain ⟨denial, hpayload, hchallenge, -⟩ := verdictOf_eq_explicitDenial P hverdict
    obtain ⟨k, job, hjob, hcsk, hnamed⟩ :=
      denied_of_sealed (hsealed packet hpacket message hmessage) hdecode hpayload
    exact ⟨k, job, hjob, hown (hok.denied k job hjob) hcsk (hnamed.symm.trans hchallenge)⟩

end

open AgreementSample in
theorem answered_own_request_login :
    ∃ w, (world primitives Sample.desktop Sample.csk).exec start (.begins login :: approval) =
        some w ∧
      ∃ k, (phone k).verifyingKeyBytes primitives ∈ storedKeys login.state.pairedServers ∧
        ∃ job ∈ (w.phones k).approved, Asks login job := by
  have hmessage : decryptWithCskAndPrependedNonce primitives Sample.csk grant.ciphertext =
      .ok (signedWrapperBytes primitives (.authGrant ⟨signEd25519 primitives (phone ())
        login.challenge.bytes⟩) (phone ())) := by decide +kernel
  have hsealed : ∀ packet ∈ deliveredPackets (Sample.delivery grant), ∀ message,
      decryptWithCskAndPrependedNonce primitives Sample.csk packet.ciphertext = .ok message →
        approved.Sealed primitives Sample.desktop Sample.csk phone message := by
    intro packet hpacket message hopens
    rw [List.mem_singleton.mp hpacket, hmessage] at hopens
    cases hopens
    exact .grant job_mem rfl (by rfl) rfl
  have hjobs : ∀ k, ∀ job' ∈ (approved.phones k).approved, job' = job := by decide +kernel
  exact ⟨approved, exec_approval, (answered_own_request (P := primitives) rfl start_start
    exec_approval (by decide +kernel) unforgeable
    (fun _ _ harrived _ ↦ eq_of_arrived harrived ▸ rfl) login_mem handleAuthenticate_grant hsealed
    fun key hkey k job' hjob' _ _ ↦ ⟨key_eq hkey, hjobs k job' hjob' ▸ rfl⟩).1 rfl⟩

end TapAuth.System
