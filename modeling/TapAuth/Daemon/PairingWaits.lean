import TapAuth.Daemon.PairingExclusion
import TapAuth.Lib.Framing

/-!
# What a pairing waits for

A handler of a pairing waits for the phone three times: for the connection, with a timeout of
300 seconds, for the `PairingHello`, and for the `PairingComplete`.  The last two are reads of a
length and of that many bytes, and no timeout is set for them; the timeouts of the pairing
session only look at the slot, and a session whose handler reads is not in the slot.

Here the requests of `AdminRequest` run together with the connections of their sessions.  A
handler takes a bounded number of steps, and one that has none left has answered, unless it
reads from a peer that is silent; and from a silent peer nothing but the peer itself frees it
(`answered_unless_silent`).  A peer that connects and sends nothing is enough
(`silent_peer_holds_session`).
-/

namespace TapAuth.Daemon

open Shared

/-! ## Connections -/

/-- What has come of a connection: the bytes not yet read, and the error of a read beyond them
once it has ended. -/
structure PeerConnection where
  connected : Bool
  arrived : Bytes
  ended : Option String
  deriving DecidableEq

namespace PeerConnection

def fresh : PeerConnection := ⟨false, [], none⟩

/-- What `read_u32` and `read_exact` give, once they are done.  A length above the limit is
refused before any of its bytes is read. -/
def frame? (c : PeerConnection) : Option Frame :=
  match Framing.read maxMessageSize c.arrived with
  | .frame payload _ => some (.ok payload)
  | .tooLong => some (.ok (List.replicate (maxMessageSize + 1) 0))
  | .incomplete => c.ended.map .error

/-- The connection after such a read. -/
def afterRead (c : PeerConnection) : PeerConnection :=
  match Framing.read maxMessageSize c.arrived with
  | .frame _ rest => { c with arrived := rest }
  | _ => c

theorem afterRead_of_frame?_eq_none {c : PeerConnection} (h : c.frame? = none) :
    c.afterRead = c := by
  unfold frame? at h
  unfold afterRead
  split at h
  · cases h
  · cases h
  next hread => rw [hread]

end PeerConnection

/-- The session from whose connection a request reads. -/
def RequestThread.reads? : RequestThread → Option UInt64
  | .request _ _ (.pairing (.handshaking pending)) => some pending.generation
  | .request _ _ (.reloading (.handling _ (.awaitingComplete job _))) =>
    some job.active.generation
  | _ => none

/-- The session whose connection a request waits for. -/
def RequestThread.accepts? : RequestThread → Option UInt64
  | .request _ _ (.pairing (.accepting pending)) => some pending.generation
  | _ => none

/-- What a step has read. -/
def RequestEvent.frame? : RequestEvent → Option Frame
  | .pairing (.handshake frame _) _ => some frame
  | .reload (.handler (.receiveComplete frame)) _ => some frame
  | _ => none

/-- A connection was accepted. -/
def RequestEvent.connects : RequestEvent → Bool
  | .pairing (.accept (.ok ())) _ => true
  | _ => false

/-! ## Requests and peers -/

/-- The requests, and the connections by the generation of their session. -/
structure PeerWorld (ι : Type) where
  pool : Pool ι AdminWorld RequestThread
  connections : UInt64 → PeerConnection

inductive PeerLabel (ι : Type) where
  /-- A step of a task of the daemon. -/
  | daemon (i : ι) (event : RequestEvent)
  | connect (generation : UInt64)
  | arrive (generation : UInt64) (bytes : Bytes)
  /-- The connection ends or breaks. -/
  | hangUp (generation : UInt64) (error : String)

/-- What a step reads is what has come, and a connection that is accepted has been made. -/
def Permitted (connections : UInt64 → PeerConnection) (l : RequestThread) (event : RequestEvent) :
    Prop :=
  (∀ generation ∈ l.reads?, (connections generation).frame? = event.frame?) ∧
    ∀ generation ∈ l.accepts?, event.connects = true → (connections generation).connected = true

-- By the option, and not by a search through all generations.
instance (connections : UInt64 → PeerConnection) (l : RequestThread) (event : RequestEvent) :
    Decidable (Permitted connections l event) :=
  @instDecidableAnd _ _ (Option.decidableForallMem _) (Option.decidableForallMem _)

/-- The connections after a step of a task. -/
def readFrom (connections : UInt64 → PeerConnection) (l : RequestThread) :
    UInt64 → PeerConnection :=
  match l.reads? with
  | some generation => Function.update connections generation (connections generation).afterRead
  | none => connections

/-- The peer of a label, if it is the peer that acts. -/
def PeerLabel.peer? {ι : Type} : PeerLabel ι → Option UInt64
  | .daemon .. => none
  | .connect generation | .arrive generation _ | .hangUp generation _ => some generation

section

variable (P : Primitives) (tpm : Bool) {ι : Type} [DecidableEq ι]

def peerNext (s : PeerWorld ι) : PeerLabel ι → Option (PeerWorld ι)
  | .daemon i event =>
    if Permitted s.connections (s.pool.locals i) event then
      ((adminRequests P tpm).pool.next s.pool (i, event)).map fun pool ↦
        ⟨pool, readFrom s.connections (s.pool.locals i)⟩
    else none
  | .connect generation =>
    some { s with
      connections := Function.update s.connections generation
        { s.connections generation with connected := true } }
  | .arrive generation bytes =>
    if (s.connections generation).connected ∧ (s.connections generation).ended = none then
      some { s with
        connections := Function.update s.connections generation
          { s.connections generation with
            arrived := (s.connections generation).arrived ++ bytes } }
    else none
  | .hangUp generation error =>
    if (s.connections generation).connected then
      some { s with
        connections := Function.update s.connections generation
          { s.connections generation with ended := some error } }
    else none

def peerRequests : Machine (PeerWorld ι) (PeerLabel ι) := ⟨peerNext P tpm⟩

end

/-- A daemon that has just started. -/
def PeerWorld.start {ι : Type} (world : AdminWorld) : PeerWorld ι :=
  ⟨⟨world, fun _ ↦ .idle⟩, fun _ ↦ .fresh⟩

/-- The request reads from a peer that has neither sent a frame nor ended the connection. -/
def AwaitsSilentPeer {ι : Type} (s : PeerWorld ι) (i : ι) : Prop :=
  ∃ generation, (s.pool.locals i).reads? = some generation ∧
    (s.connections generation).frame? = none

/-! ## A request takes finitely many steps -/

/-- How many steps are left at most. -/
def Handler.rank : Handler → Nat
  | .idle => 13
  | .loadingCsk _ => 12
  | .lookingForCskFile _ => 11
  | .sendingCsk _ _ => 10
  | .awaitingComplete _ _ => 9
  | .savingCsk _ _ => 8
  | .loadingServers _ _ | .clearingServers => 7
  | .savingServers _ _ _ _ _ | .savingFreshCsk => 6
  | .finished _ => 5

def Recovery.rank : Recovery → Nat
  | .removingKeyFiles => 10
  | .clearing => 9
  | .generatingKeypair => 8
  | .clearingAgain => 7
  | .savingFreshCsk => 6

def ReloadPoint.rank : ReloadPoint → Nat
  | .keypair => 5
  | .csk _ => 4
  | .servers _ _ => 3
  | .config _ _ _ => 2

def AdminThread.rank : AdminThread → Nat
  | .idle => 14
  | .handling _ handler => handler.rank
  | .removing _ _ _ | .savingToml _ => 7
  | .savingRemoval _ _ _ _ | .savingClientConfig _ => 6
  | .recovering _ stage => stage.rank
  | .reloading _ _ point => point.rank
  | .installing _ _ => 1
  | .finished _ => 0

def PairingThread.rank : PairingThread → Nat
  | .lockingActive _ _ => 13
  | .taken _ => 12
  | .loadingKeypair | .lockingPending _ => 10
  | .generatingKeypair | .accepting _ => 9
  | .preparing _ | .handshaking _ => 8
  | .installing _ | .activating _ _ => 7
  | .spawning _ _ => 6
  | .finished _ => 5

def Stage.rank : Stage → Nat
  | .resolving => 15
  | .authorizing _ => 14
  | .gettingServers _ | .gettingConfig | .gettingDaemonStatus => 1
  | .pairing l => l.rank
  | .reloading l => l.rank
  | .finished _ => 0

def RequestThread.rank : RequestThread → Nat
  | .idle => 16
  | .sleeping _ => 1
  | .timedOut => 0
  | .request _ _ stage => stage.rank

section

variable {P : Primitives} {tpm : Bool}

theorem rank_handlerStep {s t : AdminState} {l l' : Handler} {event : AdminEvent}
    (h : handlerStep P s l event = some (t, l')) : l'.rank < l.rank := by
  revert h
  fun_cases handlerStep P s l event
  case case21 =>
    intro h
    cases h
  all_goals
    intro h
    obtain ⟨-, rfl⟩ := Prod.mk.inj (Option.some.inj h)
    simp [Handler.rank]

open AdminThread

theorem rank_ofHandler (daemon : DaemonState) (l : Handler) :
    (ofHandler daemon l).rank = l.rank := by
  cases l <;> rfl

theorem rank_start (tpm : Bool) (daemon : DaemonState) (request : ReloadRequest) :
    (start tpm daemon request).rank ≤ 12 := by
  fun_cases start tpm daemon request <;>
    simp [rank, answered, Handler.rank, Recovery.rank, ReloadPoint.rank]

variable {daemon : DaemonState} {event : RequestEvent} {reply : Option PolkitReply}
  {s t : AdminWorld} {call : AdminCall}

theorem rank_recoveryStep {s t : ReloadState} {stage : Recovery} {event : ReloadEvent}
    {l' : AdminThread} (h : recoveryStep s daemon stage event = some (t, l')) :
    l'.rank < stage.rank := by
  revert h
  fun_cases recoveryStep s daemon stage event <;> rintro ⟨⟩ <;>
    simp [rank, answered, Recovery.rank, ReloadPoint.rank]

theorem rank_reloadStep {s : ReloadState} {answer : Answer} {point : ReloadPoint}
    {event : ReloadEvent} {l' : AdminThread}
    (h : reloadStep s daemon answer point event = some l') : l'.rank < point.rank := by
  revert h
  fun_cases reloadStep s daemon answer point event <;> rintro ⟨⟩ <;>
    simp [rank, ReloadPoint.rank]

theorem rank_adminStep {s t : ReloadState} {l l' : AdminThread} {event : ReloadEvent}
    (h : adminStep P tpm s l event = some (t, l')) : l'.rank < l.rank := by
  revert h
  fun_cases adminStep P tpm s l event with
  | case1 request =>
    rintro ⟨⟩
    exact Nat.lt_of_le_of_lt (rank_start tpm s.daemon request) (by simp [rank])
  | case2 daemon handler event =>
    intro h
    obtain ⟨⟨admin, handler'⟩, hstep, hmoved⟩ := Option.map_eq_some_iff.mp h
    cases hmoved
    rw [rank_ofHandler]
    exact rank_handlerStep hstep
  | case3 | case4 | case5 | case6 | case7 | case8 | case9 | case10 | case11 =>
    rintro ⟨⟩
    simp [rank, answered, removed, ReloadPoint.rank]
  | case12 => exact rank_recoveryStep
  | case13 =>
    intro h
    obtain ⟨l', hstep, hmoved⟩ := Option.map_eq_some_iff.mp h
    cases hmoved
    exact rank_reloadStep hstep
  | case14 =>
    rintro ⟨⟩
    simp [rank]
  | case15 =>
    intro h
    cases h

theorem rank_pairingStep {s t : PairingSlot} {l l' : PairingThread} {event : PairingEvent}
    (h : pairingStep P s l event = some (t, l')) : l'.rank < l.rank := by
  revert h
  fun_cases pairingStep P s l event <;> rintro ⟨⟩ <;> simp [PairingThread.rank]

theorem rank_ofReload (l : AdminThread) : (Stage.ofReload l).rank = l.rank := by
  cases l <;> rfl

theorem rank_ofPairing (call : AdminCall) (l : PairingThread) :
    (Stage.ofPairing tpm call l).rank ≤ l.rank := by
  cases l with
  | taken job => exact rank_start tpm call.daemon (.completePairing (.ok job))
  | finished response =>
    unfold Stage.ofPairing
    dsimp only
    split
    · simp [Stage.startReload, Stage.rank, start, answered,
        rank, ReloadPoint.rank, PairingThread.rank]
    · exact Nat.zero_le _
  | _ => exact Nat.le_refl _

theorem rank_dispatch (call : AdminCall) (username : String) :
    (Stage.dispatch tpm call username).rank ≤ 13 := by
  have hreload (request : ReloadRequest) :
      (Stage.startReload tpm call.daemon request).rank ≤ 13 :=
    Nat.le_succ_of_le (rank_start tpm call.daemon request)
  fun_cases Stage.dispatch tpm call username
  case case5 | case6 | case7 | case8 => exact hreload _
  all_goals simp [Stage.rank, PairingThread.rank]

theorem rank_stageStep {stage stage' : Stage}
    (h : stageStep P tpm s call stage event = some (t, reply, stage')) :
    stage'.rank < stage.rank := by
  revert h
  fun_cases stageStep P tpm s call stage event with
  | case4 identity _ _ =>
    rintro ⟨⟩
    exact Nat.lt_succ_of_le (rank_dispatch call identity.username)
  | case8 l event left =>
    intro h
    obtain ⟨⟨slot, l'⟩, hstep, hmoved⟩ := Option.map_eq_some_iff.mp h
    cases hmoved
    exact Nat.lt_of_le_of_lt (rank_ofPairing call l') (rank_pairingStep hstep)
  | case9 l event left =>
    intro h
    obtain ⟨⟨reload, l'⟩, hstep, hmoved⟩ := Option.map_eq_some_iff.mp h
    cases hmoved
    rw [rank_ofReload]
    exact rank_adminStep hstep
  | case10 =>
    intro h
    cases h
  | _ =>
    rintro ⟨⟩
    simp [Stage.rank]

/-- Every step of a task brings it closer to its end. -/
theorem rank_requestStep {l l' : RequestThread} (h : requestStep P tpm s l event = some (t, l')) :
    l'.rank < l.rank := by
  revert h
  fun_cases requestStep P tpm s l event with
  | case5 call reply stage event =>
    intro h
    obtain ⟨⟨s', reply', stage'⟩, hstep, hmoved⟩ := Option.map_eq_some_iff.mp h
    cases hmoved
    exact rank_stageStep hstep
  | case3 | case6 =>
    intro h
    cases h
  | _ =>
    rintro ⟨⟩
    simp [RequestThread.rank, Stage.rank]

/-! ## A request that waits for no peer can go on -/

/-- A request that has answered, or is at one of the waits of a handler. -/
def Stage.Proper : Stage → Prop
  | .pairing (.taken _) | .pairing (.finished _) => False
  | .reloading .idle | .reloading (.finished _) => False
  | .reloading (.handling _ .idle) | .reloading (.handling _ (.finished _)) => False
  | _ => True

theorem proper_start (tpm : Bool) (daemon : DaemonState) (request : ReloadRequest) :
    (Stage.reloading (start tpm daemon request)).Proper := by
  fun_cases start tpm daemon request <;> trivial

theorem ne_idle_of_handlerStep {s t : AdminState} {l l' : Handler} {event : AdminEvent}
    (h : handlerStep P s l event = some (t, l')) : l' ≠ .idle := by
  revert h
  fun_cases handlerStep P s l event
  case case21 =>
    intro h
    cases h
  all_goals
    intro h
    obtain ⟨-, rfl⟩ := Prod.mk.inj (Option.some.inj h)
    intro hidle
    cases hidle

theorem proper_ofReload {s t : ReloadState} {l l' : AdminThread} {event : ReloadEvent}
    (h : adminStep P tpm s l event = some (t, l')) : (Stage.ofReload l').Proper := by
  revert h
  fun_cases adminStep P tpm s l event with
  | case1 request =>
    rintro ⟨⟩
    have hproper := proper_start tpm s.daemon request
    generalize start tpm s.daemon request = l' at hproper ⊢
    cases l' with
    | finished answer => exact hproper.elim
    | _ => exact hproper
  | case2 daemon handler event =>
    intro h
    obtain ⟨⟨admin, handler'⟩, hstep, hmoved⟩ := Option.map_eq_some_iff.mp h
    cases hmoved
    have hne := ne_idle_of_handlerStep hstep
    cases handler' with
    | idle => exact absurd rfl hne
    | _ => trivial
  | case12 daemon stage event =>
    fun_cases recoveryStep s daemon stage event <;> rintro ⟨⟩ <;> trivial
  | case13 daemon answer point event =>
    intro h
    obtain ⟨l', hstep, hmoved⟩ := Option.map_eq_some_iff.mp h
    cases hmoved
    revert hstep
    fun_cases reloadStep s daemon answer point event <;> rintro ⟨⟩ <;> trivial
  | case15 =>
    intro h
    cases h
  | _ =>
    rintro ⟨⟩
    trivial

theorem proper_ofPairing (call : AdminCall) (l : PairingThread) :
    (Stage.ofPairing tpm call l).Proper := by
  cases l with
  | finished response =>
    unfold Stage.ofPairing
    dsimp only
    split <;> trivial
  | _ => trivial

theorem proper_stageStep {stage stage' : Stage}
    (h : stageStep P tpm s call stage event = some (t, reply, stage')) : stage'.Proper := by
  revert h
  fun_cases stageStep P tpm s call stage event with
  | case4 identity _ _ =>
    rintro ⟨⟩
    fun_cases Stage.dispatch tpm call identity.username
    case case5 | case6 | case7 | case8 => exact proper_start tpm call.daemon _
    all_goals trivial
  | case8 l event left =>
    intro h
    obtain ⟨⟨slot, l'⟩, -, hmoved⟩ := Option.map_eq_some_iff.mp h
    cases hmoved
    exact proper_ofPairing call l'
  | case9 l event left =>
    intro h
    obtain ⟨⟨reload, l'⟩, hstep, hmoved⟩ := Option.map_eq_some_iff.mp h
    cases hmoved
    exact proper_ofReload hstep
  | case10 =>
    intro h
    cases h
  | _ =>
    rintro ⟨⟩
    trivial

def RequestThread.Proper : RequestThread → Prop
  | .request _ _ stage => stage.Proper
  | _ => True

theorem proper_requestStep {l l' : RequestThread} (h : requestStep P tpm s l event = some (t, l')) :
    l'.Proper := by
  revert h
  fun_cases requestStep P tpm s l event with
  | case5 call reply stage event =>
    intro h
    obtain ⟨⟨s', reply', stage'⟩, hstep, hmoved⟩ := Option.map_eq_some_iff.mp h
    cases hmoved
    exact proper_stageStep hstep
  | case3 | case6 =>
    intro h
    cases h
  | _ =>
    rintro ⟨⟩
    trivial

/-- A handler of the slot can take a step, with the frame it reads if it reads. -/
theorem exists_pairingStep (P : Primitives) (s : PairingSlot) (call : AdminCall)
    (reply : Option PolkitReply) (frame : Frame) {l : PairingThread}
    (hl : (Stage.pairing l).Proper) :
    ∃ event, (pairingStep P s l event).isSome = true ∧ ∀ left,
      (RequestEvent.pairing event left).connects = false ∧
      ((RequestThread.request call reply (.pairing l)).reads? ≠ none →
        (RequestEvent.pairing event left).frame? = some frame) := by
  cases l with
  | loadingKeypair => exact ⟨.loadKeypair (.error .invalidConfig), rfl, fun _ ↦ ⟨rfl, absurd rfl⟩⟩
  | generatingKeypair =>
    exact ⟨.generateKeypair (.error .invalidConfig), rfl, fun _ ↦ ⟨rfl, absurd rfl⟩⟩
  | preparing keypair =>
    exact ⟨.listen ⟨none, none, .error "", .error "", .error "", .error .systemTimeError⟩,
      rfl, fun _ ↦ ⟨rfl, absurd rfl⟩⟩
  | spawning timeout response => exact ⟨.spawn, rfl, fun _ ↦ ⟨rfl, absurd rfl⟩⟩
  | installing | lockingPending | activating | lockingActive =>
    refine ⟨.lock, ?_, fun _ ↦ ⟨rfl, absurd rfl⟩⟩
    simp only [pairingStep]
    split <;> rfl
  | accepting pending =>
    -- the timeout of `accept`
    exact ⟨.accept (.error .timeout), rfl, fun _ ↦ ⟨rfl, absurd rfl⟩⟩
  | handshaking pending =>
    refine ⟨.handshake frame none, ?_, fun _ ↦ ⟨rfl, fun _ ↦ rfl⟩⟩
    simp only [pairingStep]
    split <;> rfl
  | taken job => exact hl.elim
  | finished response => exact hl.elim

/-- So can a handler that completes a pairing or rotates the CSK. -/
theorem exists_handlerStep (P : Primitives) (s : AdminState) (call : AdminCall)
    (reply : Option PolkitReply) (frame : Frame) {l : Handler}
    (hl : (Stage.reloading (.handling daemon l)).Proper) :
    ∃ event, (handlerStep P s l event).isSome = true ∧ ∀ left,
      (RequestThread.request call reply (.reloading (.handling daemon l))).reads? ≠ none →
        (RequestEvent.reload (.handler event) left).frame? = some frame := by
  cases l with
  | idle => exact hl.elim
  | loadingCsk job =>
    refine ⟨.loadCsk none, ?_, fun _ ↦ absurd rfl⟩
    simp only [handlerStep]
    split <;> rfl
  | lookingForCskFile job =>
    refine ⟨.lookForCskFile none, ?_, fun _ ↦ absurd rfl⟩
    simp only [handlerStep]
    split <;> rfl
  | sendingCsk job csk =>
    refine ⟨.sendCsk none, ?_, fun _ ↦ absurd rfl⟩
    simp only [handlerStep]
    split <;> rfl
  | awaitingComplete job csk =>
    refine ⟨.receiveComplete frame, ?_, fun _ _ ↦ rfl⟩
    simp only [handlerStep]
    split <;> rfl
  | savingCsk job csk =>
    refine ⟨.saveCsk none, ?_, fun _ ↦ absurd rfl⟩
    simp only [handlerStep]
    split <;> rfl
  | loadingServers job csk =>
    refine ⟨.loadServers none 0, ?_, fun _ ↦ absurd rfl⟩
    simp only [handlerStep]
    split <;> rfl
  | savingServers job csk servers sentTo entry =>
    refine ⟨.saveServers none, ?_, fun _ ↦ absurd rfl⟩
    simp only [handlerStep]
    split <;> rfl
  | clearingServers => exact ⟨.clearServers none, rfl, fun _ ↦ absurd rfl⟩
  | savingFreshCsk =>
    refine ⟨.saveFreshCsk none none, ?_, fun _ ↦ absurd rfl⟩
    simp only [handlerStep]
    split <;> rfl
  | finished response => exact hl.elim

theorem exists_recoveryStep (s : ReloadState) (daemon : DaemonState) (stage : Recovery) :
    ∃ event, (recoveryStep s daemon stage event).isSome = true := by
  cases stage with
  | removingKeyFiles => exact ⟨.writeOther (.ok ()), rfl⟩
  | clearing =>
    refine ⟨.clearServers none, ?_⟩
    simp only [recoveryStep]
    split <;> rfl
  | generatingKeypair => exact ⟨.writeOther (.ok ()), rfl⟩
  | clearingAgain => exact ⟨.clearServers none, rfl⟩
  | savingFreshCsk =>
    refine ⟨.saveFreshCsk none none, ?_⟩
    simp only [recoveryStep]
    split <;> rfl

theorem exists_reloadStep (s : ReloadState) (daemon : DaemonState) (answer : Answer)
    (point : ReloadPoint) : ∃ event, (reloadStep s daemon answer point event).isSome = true := by
  cases point with
  | keypair => exact ⟨.loadKeypair (.error .invalidConfig), rfl⟩
  | csk keypair => exact ⟨.loadCsk none, rfl⟩
  | servers keypair csk => exact ⟨.loadServers none, rfl⟩
  | config keypair csk servers => exact ⟨.loadConfig (.error .invalidConfig), rfl⟩

/-- And every other request that has an answer to give. -/
theorem exists_adminStep (P : Primitives) (tpm : Bool) (s : ReloadState) (call : AdminCall)
    (reply : Option PolkitReply) (frame : Frame) {l : AdminThread}
    (hl : (Stage.reloading l).Proper) :
    ∃ event, (adminStep P tpm s l event).isSome = true ∧ ∀ left,
      (RequestThread.request call reply (.reloading l)).reads? ≠ none →
        (RequestEvent.reload event left).frame? = some frame := by
  cases l with
  | idle => exact hl.elim
  | handling daemon handler =>
    obtain ⟨event, hsome, hframe⟩ := exists_handlerStep P s.admin call reply frame hl
    refine ⟨.handler event, ?_, hframe⟩
    rwa [adminStep, Option.isSome_map]
  | removing daemon publicKey username =>
    refine ⟨.loadServers none, ?_, fun _ ↦ absurd rfl⟩
    simp only [adminStep]
    split
    · rfl
    · split <;> rfl
  | savingRemoval daemon publicKey username edited =>
    refine ⟨.saveServers none, ?_, fun _ ↦ absurd rfl⟩
    simp only [adminStep]
    split <;> rfl
  | savingToml daemon => exact ⟨.saveToml (.ok ()), rfl, fun _ ↦ absurd rfl⟩
  | savingClientConfig daemon => exact ⟨.writeOther (.ok ()), rfl, fun _ ↦ absurd rfl⟩
  | recovering daemon stage =>
    obtain ⟨event, hsome⟩ := exists_recoveryStep s daemon stage
    exact ⟨event, hsome, fun _ ↦ absurd rfl⟩
  | reloading daemon answer point =>
    obtain ⟨event, hsome⟩ := exists_reloadStep s daemon answer point
    refine ⟨event, ?_, fun _ ↦ absurd rfl⟩
    rwa [adminStep, Option.isSome_map]
  | installing reloaded answer => exact ⟨.install, rfl, fun _ ↦ absurd rfl⟩
  | finished answer => exact hl.elim

/-- A request that has not answered can go on, if what it reads has come. -/
theorem exists_stageStep (P : Primitives) (tpm : Bool) (s : AdminWorld) (call : AdminCall)
    (reply : Option PolkitReply) (frame : Frame) {stage : Stage} (hproper : stage.Proper)
    (hstage : ∀ response, stage ≠ .finished response) :
    ∃ event, (stageStep P tpm s call stage event).isSome = true ∧ event.connects = false ∧
      ((RequestThread.request call reply stage).reads? ≠ none → event.frame? = some frame) := by
  cases stage with
  | resolving =>
    refine ⟨.resolve (.error "") (.error ""), ?_, rfl, absurd rfl⟩
    simp only [stageStep]
    split <;> rfl
  | authorizing identity =>
    refine ⟨.polkit (.answered false), ?_, rfl, absurd rfl⟩
    simp only [stageStep]
    split <;> rfl
  | gettingServers username => exact ⟨.loadServers none, rfl, rfl, absurd rfl⟩
  | gettingConfig => exact ⟨.readConfig ⟨"", 0, false, false⟩, rfl, rfl, absurd rfl⟩
  | gettingDaemonStatus => exact ⟨.readStatus, rfl, rfl, absurd rfl⟩
  | pairing l =>
    obtain ⟨event, hsome, hevent⟩ := exists_pairingStep P s.pairing call reply frame hproper
    refine ⟨.pairing event s.files, ?_, hevent _⟩
    rwa [stageStep, Option.isSome_map]
  | reloading l =>
    obtain ⟨event, hsome, hevent⟩ := exists_adminStep P tpm s.reload call reply frame hproper
    refine ⟨.reload event s.files, ?_, rfl, hevent _⟩
    rwa [stageStep, Option.isSome_map]
  | finished response => exact absurd rfl (hstage response)

/-- A request that reads takes a step only with what it has read. -/
theorem frame?_of_stageStep {s : AdminWorld} {stage : Stage} {generation : UInt64}
    (hreads : (RequestThread.request call reply stage).reads? = some generation)
    (h : (stageStep P tpm s call stage event).isSome = true) : event.frame? ≠ none := by
  revert h
  fun_cases stageStep P tpm s call stage event with
  | case8 l event left =>
    rw [Option.isSome_map]
    cases l with
    | handshaking pending =>
      cases event with
      | handshake frame hostname => exact fun _ ↦ Option.some_ne_none frame
      | _ =>
        intro h
        cases h
    | _ => cases hreads
  | case9 l event left =>
    rw [Option.isSome_map]
    cases l with
    | handling daemon handler =>
      cases handler with
      | awaitingComplete job csk =>
        cases event with
        | handler event =>
          rw [adminStep, Option.isSome_map]
          cases event with
          | receiveComplete frame => exact fun _ ↦ Option.some_ne_none frame
          | _ =>
            intro h
            cases h
        | _ =>
          intro h
          cases h
      | _ => cases hreads
    | _ => cases hreads
  | case10 =>
    intro h
    cases h
  | _ => cases hreads

end

/-! ## Every run -/

section

variable {P : Primitives} {tpm : Bool} {ι : Type} [DecidableEq ι] {s t : PeerWorld ι} {i : ι}

/-- The task that takes the step. -/
def PeerLabel.stepOf? : PeerLabel ι → Option ι
  | .daemon i _ => some i
  | _ => none

variable {label : PeerLabel ι} {labels : List (PeerLabel ι)} {generation : UInt64}

/-- What a step does to a task: it is the step of that task, or the task stays. -/
theorem task_of_peerNext (h : (peerRequests P tpm).next s label = some t) (i : ι) :
    (∃ event, label = .daemon i event ∧ Permitted s.connections (s.pool.locals i) event ∧
      requestStep P tpm s.pool.shared (s.pool.locals i) event =
        some (t.pool.shared, t.pool.locals i)) ∨
      (label.stepOf? ≠ some i ∧ t.pool.locals i = s.pool.locals i) := by
  cases label with
  | daemon j event =>
    obtain ⟨hpermitted, h⟩ := Option.ite_none_right_eq_some.mp h
    obtain ⟨pool, hnext, rfl⟩ := Option.map_eq_some_iff.mp h
    obtain ⟨hstep, hothers⟩ := (adminRequests P tpm).step_of_pool_next hnext
    by_cases hij : i = j
    · subst hij
      exact .inl ⟨event, rfl, hpermitted, hstep⟩
    · exact .inr ⟨fun heq ↦ hij (Option.some.inj heq).symm, hothers i hij⟩
  | connect generation =>
    cases h
    exact .inr ⟨nofun, rfl⟩
  | arrive generation bytes =>
    obtain ⟨-, h⟩ := Option.ite_none_right_eq_some.mp h
    cases h
    exact .inr ⟨nofun, rfl⟩
  | hangUp generation error =>
    obtain ⟨-, h⟩ := Option.ite_none_right_eq_some.mp h
    cases h
    exact .inr ⟨nofun, rfl⟩

/-- The steps a task has taken and those it has left. -/
theorem rank_add_steps_le {world : AdminWorld}
    (hrun : (peerRequests P tpm).exec (.start world) labels = some s) (i : ι) :
    (s.pool.locals i).rank + labels.countP (fun label ↦ label.stepOf? = some i) ≤ 16 := by
  refine (peerRequests P tpm).history_along (G := fun _ _ ↦ True)
    (H := fun labels s ↦ (s.pool.locals i).rank +
      labels.countP (fun label ↦ label.stepOf? = some i) ≤ 16)
    ?_ ?_ hrun (Machine.along_of_mem _ (fun _ _ _ ↦ trivial) _)
  · exact Nat.le_refl 16
  · intro before u label v _ ih _ hnext
    rw [List.countP_append, List.countP_singleton]
    rcases task_of_peerNext hnext i with ⟨event, rfl, -, hstep⟩ | ⟨hother, hsame⟩
    · have hrank := rank_requestStep hstep
      rw [if_pos (by simp [PeerLabel.stepOf?])]
      omega
    · rw [hsame, if_neg (by simpa using hother)]
      exact ih

theorem proper_of_exec {world : AdminWorld}
    (hrun : (peerRequests P tpm).exec (.start world) labels = some s) (i : ι) :
    (s.pool.locals i).Proper := by
  refine (peerRequests P tpm).invariant (I := fun s ↦ (s.pool.locals i).Proper) ?_ ?_ hrun
  · intro u label v hu hnext
    rcases task_of_peerNext hnext i with ⟨event, -, -, hstep⟩ | ⟨-, hsame⟩
    · exact proper_requestStep hstep
    · rwa [hsame]
  · exact trivial

/-- A request that reads from a silent peer stays where it is. -/
theorem locals_of_silent (hreads : (s.pool.locals i).reads? = some generation)
    (hsilent : (s.connections generation).frame? = none)
    (hnext : (peerRequests P tpm).next s label = some t) :
    t.pool.locals i = s.pool.locals i := by
  rcases task_of_peerNext hnext i with ⟨event, -, hpermitted, hstep⟩ | ⟨-, hsame⟩
  · have hframe : event.frame? = none := (hpermitted.1 generation hreads).symm.trans hsilent
    cases hl : s.pool.locals i with
    | request call reply stage =>
      rw [hl] at hreads hstep
      obtain ⟨moved, hmoved, -⟩ := Option.map_eq_some_iff.mp hstep
      have hsome : (stageStep P tpm s.pool.shared call stage event).isSome = true := by
        rw [hmoved]
        rfl
      exact absurd hframe (frame?_of_stageStep hreads hsome)
    | _ =>
      rw [hl] at hreads
      cases hreads
  · exact hsame

/-- And the peer is silent until it acts. -/
theorem connections_of_silent (hsilent : (s.connections generation).frame? = none)
    (hlabel : label.peer? ≠ some generation) (hnext : (peerRequests P tpm).next s label = some t) :
    t.connections generation = s.connections generation := by
  have hother {generation' : UInt64} {c : PeerConnection} (hne : generation' ≠ generation) :
      Function.update s.connections generation' c generation = s.connections generation :=
    Function.update_of_ne (Ne.symm hne) ..
  cases label with
  | daemon j event =>
    obtain ⟨-, hnext⟩ := Option.ite_none_right_eq_some.mp hnext
    obtain ⟨pool, -, rfl⟩ := Option.map_eq_some_iff.mp hnext
    cases hj : (s.pool.locals j).reads? with
    | none => simp only [readFrom, hj]
    | some generation' =>
      simp only [readFrom, hj]
      by_cases heq : generation' = generation
      · rw [heq, Function.update_self, PeerConnection.afterRead_of_frame?_eq_none hsilent]
      · exact hother heq
  | connect generation' =>
    cases hnext
    exact hother fun heq ↦ hlabel (congrArg some heq)
  | arrive generation' bytes =>
    obtain ⟨-, hnext⟩ := Option.ite_none_right_eq_some.mp hnext
    cases hnext
    exact hother fun heq ↦ hlabel (congrArg some heq)
  | hangUp generation' error =>
    obtain ⟨-, hnext⟩ := Option.ite_none_right_eq_some.mp hnext
    cases hnext
    exact hother fun heq ↦ hlabel (congrArg some heq)

theorem stays_along_silent {more : List (PeerLabel ι)}
    (hreads : (s.pool.locals i).reads? = some generation)
    (hsilent : (s.connections generation).frame? = none)
    (hmore : (peerRequests P tpm).exec s more = some t)
    (hlabels : ∀ label ∈ more, label.peer? ≠ some generation) :
    t.pool.locals i = s.pool.locals i := by
  refine ((peerRequests P tpm).invariant_along
    (I := fun t ↦ t.pool.locals i = s.pool.locals i ∧
      t.connections generation = s.connections generation) ?_ ⟨rfl, rfl⟩ hmore
    (Machine.along_of_mem _ (fun label hmem _ ↦ hlabels label hmem) _)).1
  rintro u label v ⟨hu, hconnection⟩ hlabel hnext
  rw [← hu] at hreads
  rw [← hconnection] at hsilent
  exact ⟨(locals_of_silent hreads hsilent hnext).trans hu,
    (connections_of_silent hsilent hlabel hnext).trans hconnection⟩

/-- A request that reads from no silent peer and has not answered can take a step. -/
theorem exists_next_of_not_silent {call : AdminCall} {reply : Option PolkitReply} {stage : Stage}
    (hi : s.pool.locals i = .request call reply stage) (hproper : stage.Proper)
    (hstage : ∀ response, stage ≠ .finished response) (hpeer : ¬ AwaitsSilentPeer s i) :
    ∃ event, (peerRequests P tpm).next s (.daemon i event) ≠ none := by
  -- what has come for the request, if it reads
  obtain ⟨frame, hframe⟩ : ∃ frame, ∀ generation, (s.pool.locals i).reads? = some generation →
      (s.connections generation).frame? = some frame := by
    cases hreads : (s.pool.locals i).reads? with
    | none => exact ⟨.error "", nofun⟩
    | some generation =>
      cases hcome : (s.connections generation).frame? with
      | none => exact absurd ⟨generation, hreads, hcome⟩ hpeer
      | some frame =>
        refine ⟨frame, fun generation' heq ↦ ?_⟩
        cases heq
        exact hcome
  obtain ⟨event, hsome, hconnects, hread⟩ :=
    exists_stageStep P tpm s.pool.shared call reply frame hproper hstage
  have hpermitted : Permitted s.connections (s.pool.locals i) event := by
    refine ⟨fun generation hreads ↦ ?_, fun _ _ hconnect ↦ ?_⟩
    · rw [hframe generation hreads, hread]
      rw [← hi, hreads]
      nofun
    · rw [hconnects] at hconnect
      cases hconnect
  obtain ⟨moved, hmoved⟩ := Option.isSome_iff_exists.mp hsome
  refine ⟨event, ?_⟩
  change peerNext P tpm s (.daemon i event) ≠ none
  rw [peerNext, if_pos hpermitted]
  simp [Threads.pool, adminRequests, hi, requestStep, hmoved]

/-- A request takes at most sixteen steps, and where it can take none it has answered, unless it
reads from a silent peer; then it stays where it is, with its session, until that peer acts. -/
theorem answered_unless_silent {world : AdminWorld} {labels : List (PeerLabel ι)}
    {call : AdminCall} {reply : Option PolkitReply} {stage : Stage}
    (hrun : (peerRequests P tpm).exec (.start world) labels = some s)
    (hi : s.pool.locals i = .request call reply stage) :
    labels.countP (fun label ↦ label.stepOf? = some i) ≤ 16 ∧
    (¬ AwaitsSilentPeer s i → (∀ event, (peerRequests P tpm).next s (.daemon i event) = none) →
      ∃ response, stage = .finished response) ∧
    ∀ generation more t, (s.pool.locals i).reads? = some generation →
      (s.connections generation).frame? = none → (peerRequests P tpm).exec s more = some t →
      (∀ label ∈ more, label.peer? ≠ some generation) →
      t.pool.locals i = .request call reply stage := by
  refine ⟨Nat.le_trans (Nat.le_add_left _ _) (rank_add_steps_le hrun i), fun hpeer hblocked ↦ ?_,
    fun generation more t hreads hsilent hmore hlabels ↦ ?_⟩
  · by_contra hstage
    have hproper := proper_of_exec hrun i
    rw [hi] at hproper
    obtain ⟨event, hevent⟩ := exists_next_of_not_silent (P := P) hi hproper
      (fun response heq ↦ hstage ⟨response, heq⟩) hpeer
    exact hevent (hblocked event)
  · rw [← hi]
    exact stays_along_silent hreads hsilent hmore hlabels

end

namespace WaitsSample

/-- Steps of the daemon. -/
def steps (labels : List (Bool × RequestEvent)) : List (PeerLabel Bool) :=
  labels.map fun label ↦ .daemon label.1 label.2

/-- A session is started, a handler waits with it, and a peer connects. -/
def accepted : List (PeerLabel Bool) :=
  steps (SlotSample.starting false 4000 ++ SlotSample.waiting true) ++
    .connect 0 :: steps [SlotSample.step true (.accept (.ok ()))]

/-- The peer sends half a length. -/
def halfLength : List (PeerLabel Bool) := accepted ++ [PeerLabel.arrive 0 [0, 0]]

def silent : PeerWorld Bool :=
  ((peerRequests Sample.primitives false).exec (.start RequestSample.world) halfLength).get
    (by decide +kernel)

/-- The peer hangs up, and the handler answers. -/
def hungUp : List (PeerLabel Bool) :=
  halfLength ++ [PeerLabel.hangUp 0 "early eof"] ++
    steps [SlotSample.step true (.handshake (.error "early eof") none)]

def answered : PeerWorld Bool :=
  ((peerRequests Sample.primitives false).exec (.start RequestSample.world) hungUp).get
    (by decide +kernel)

end WaitsSample

open WaitsSample

/-- A peer that connects and sends half a length keeps the handler with the session for as long
as it likes. -/
theorem silent_peer_holds_session :
    (peerRequests Sample.primitives false).exec (.start RequestSample.world)
        halfLength = some silent ∧
      AwaitsSilentPeer silent true ∧
      ∀ more t, (peerRequests Sample.primitives false).exec silent more = some t →
        (∀ label ∈ more, label.peer? ≠ some 0) →
        RequestSample.statusOf (t.pool.locals true) = none ∧
          (t.pool.locals true).holdsSession = true := by
  have hstate : ((silent.pool.locals true).reads? = some 0 ∧
      (silent.connections 0).frame? = none) ∧
      RequestSample.statusOf (silent.pool.locals true) = none ∧
      (silent.pool.locals true).holdsSession = true := by decide +kernel
  obtain ⟨⟨hreads, hsilent⟩, hheld⟩ := hstate
  refine ⟨(Option.some_get _).symm, ⟨0, hreads, hsilent⟩, fun more t hmore hlabels ↦ ?_⟩
  rw [stays_along_silent hreads hsilent hmore hlabels]
  exact hheld

/-- A peer that hangs up lets the handler answer. -/
theorem answered_unless_silent_hungUp :
    ∃ call reply stage, answered.pool.locals true = .request call reply stage ∧
      hungUp.countP (fun label ↦ label.stepOf? = some true) ≤ 16 ∧
      ∃ response, stage = .finished response := by
  have hrun : (peerRequests Sample.primitives false).exec (.start RequestSample.world)
      hungUp = some answered := (Option.some_get _).symm
  have hstatus : RequestSample.statusOf (answered.pool.locals true) ≠ none := by
    decide +kernel
  cases hi : answered.pool.locals true with
  | request call reply stage =>
    cases stage with
    | finished response =>
      obtain ⟨hsteps, hanswered, -⟩ := answered_unless_silent hrun hi
      refine ⟨call, reply, .finished response, rfl, hsteps, hanswered ?_ fun event ↦ ?_⟩
      · rintro ⟨generation, hreads, -⟩
        rw [hi] at hreads
        cases hreads
      · refine Option.eq_none_iff_forall_not_mem.mpr fun t ht ↦ ?_
        rcases task_of_peerNext ht true with ⟨_, -, -, hstep⟩ | ⟨hother, -⟩
        · rw [hi] at hstep
          exact absurd (rank_requestStep hstep) (Nat.not_lt_zero _)
        · exact hother rfl
    | _ =>
      rw [hi] at hstatus
      exact absurd rfl hstatus
  | _ =>
    rw [hi] at hstatus
    exact absurd rfl hstatus

end TapAuth.Daemon
