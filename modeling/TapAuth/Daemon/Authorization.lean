import TapAuth.Daemon.Session

/-!
# Whose phones decide a session

A paired server carries the list of users it may authenticate, and a request for
a user no server may authenticate is refused.  Past that check the session's
tasks trust the keys of *all* stored servers, so a server that is not allowed for
the user can decide the session.

`handleAuthenticate_eq_of_agree` says how far this goes: sessions over two server
maps that agree on the servers allowed for the user respond alike as long as no
packet is decided only by a server that is not allowed.  The proof is a
simulation: the two runs can differ in a retry counter and in nothing else.
-/

namespace TapAuth.Daemon

open Shared

/-- The keys of the servers allowed for a user. -/
def allowedKeys (servers : ServerMap) (username : String) : List Bytes32 :=
  (allowedServers servers username).filterMap PairedServer.key

/-- Two maps have the same entries among those allowed for a user. -/
def AgreeOn (username : String) (m₁ m₂ : ServerMap) : Prop :=
  ∀ id server, username ∈ server.allowedUsers →
    (m₁.lookup id = some server ↔ m₂.lookup id = some server)

/-- A server that is not allowed for the user may be added under a new
identifier. -/
theorem agreeOn_insert {username id : String} {m : ServerMap} {server : PairedServer}
    (hid : id ∉ m) (hserver : username ∉ server.allowedUsers) :
    AgreeOn username m (m.insert id server) := by
  intro id' server' hallowed
  by_cases heq : id' = id
  · subst heq
    rw [AList.lookup_insert, AList.lookup_eq_none.mpr hid]
    constructor
    · rintro ⟨⟩
    · rintro ⟨⟩
      exact absurd hallowed hserver
  · rw [AList.lookup_insert_ne heq]

theorem mem_allowedServers {servers : ServerMap} {username : String} {server : PairedServer} :
    server ∈ allowedServers servers username ↔
      (∃ id, servers.lookup id = some server) ∧ username ∈ server.allowedUsers := by
  simp [allowedServers, ServerMap.mem_values]

theorem AgreeOn.mem_allowedServers_iff {username : String} {m₁ m₂ : ServerMap}
    (h : AgreeOn username m₁ m₂) (server : PairedServer) :
    server ∈ allowedServers m₁ username ↔ server ∈ allowedServers m₂ username := by
  rw [mem_allowedServers, mem_allowedServers]
  constructor
  · rintro ⟨⟨id, hid⟩, hallowed⟩
    exact ⟨⟨id, (h id server hallowed).mp hid⟩, hallowed⟩
  · rintro ⟨⟨id, hid⟩, hallowed⟩
    exact ⟨⟨id, (h id server hallowed).mpr hid⟩, hallowed⟩

theorem AgreeOn.mem_allowedKeys_iff {username : String} {m₁ m₂ : ServerMap}
    (h : AgreeOn username m₁ m₂) (key : Bytes32) :
    key ∈ allowedKeys m₁ username ↔ key ∈ allowedKeys m₂ username := by
  simp only [allowedKeys, List.mem_filterMap, h.mem_allowedServers_iff]

section

variable (P : Primitives)

/-! ## Verdicts of the allowed keys -/

theorem verdictOf_congr {keys keys' : List Bytes32} (h : ∀ key, key ∈ keys ↔ key ∈ keys')
    (challenge : Bytes32) (wrapper : WrapperMessage) :
    verdictOf P keys challenge wrapper = verdictOf P keys' challenge wrapper := by
  simp only [verdictOf, h]

theorem verdictOf_mono {keys keys' : List Bytes32} (h : keys ⊆ keys') {challenge : Bytes32}
    {wrapper : WrapperMessage} {result : Except AuthHandlerError Unit}
    (hv : verdictOf P keys challenge wrapper = some result) :
    verdictOf P keys' challenge wrapper = some result := by
  unfold verdictOf at hv ⊢
  rcases hp : wrapper.payload with - | (request | grant | denial | confirmation | cancel) <;>
    simp only [hp] at hv ⊢
  case some.authGrant =>
    split_ifs at hv with hk
    obtain ⟨key, hmem, hverifies⟩ := hk
    rw [if_pos ⟨key, h hmem, hverifies⟩, hv]
  case some.authDenial =>
    split_ifs at hv with hk
    obtain ⟨hch, key, hmem, hverifies⟩ := hk
    rw [if_pos ⟨hch, key, h hmem, hverifies⟩, hv]
  all_goals cases hv

theorem allowedKeys_subset (servers : ServerMap) (username : String) :
    allowedKeys servers username ⊆ storedKeys servers := by
  intro key hkey
  obtain ⟨server, hmem, hkey⟩ := List.mem_filterMap.mp hkey
  exact List.mem_filterMap.mpr ⟨server, List.mem_of_mem_filter hmem, hkey⟩

/-- The packet opens to a grant or a denial of the challenge that some stored key
accepts and no key of a server allowed for the user does. -/
def DecidedByOthers (csk : ClientSymmetricKey) (challenge : Bytes32) (servers : ServerMap)
    (username : String) (packet : EncryptedPacket) : Prop :=
  ∃ wrapper, decryptEncryptedPacketWithCskNonce P csk packet = .ok wrapper ∧
    verdictOf P (storedKeys servers) challenge wrapper ≠ none ∧
    verdictOf P (allowedKeys servers username) challenge wrapper = none

instance (csk : ClientSymmetricKey) (challenge : Bytes32) (servers : ServerMap)
    (username : String) (packet : EncryptedPacket) :
    Decidable (DecidedByOthers P csk challenge servers username packet) :=
  match h : decryptEncryptedPacketWithCskNonce P csk packet with
  | .error _ => isFalse fun ⟨_, hdec, _⟩ ↦ by rw [h] at hdec; cases hdec
  | .ok wrapper =>
    decidable_of_iff (verdictOf P (storedKeys servers) challenge wrapper ≠ none ∧
        verdictOf P (allowedKeys servers username) challenge wrapper = none)
      ⟨fun hv ↦ ⟨wrapper, h, hv⟩, fun ⟨w, hdec, hv⟩ ↦ by
        rw [h] at hdec
        cases hdec
        exact hv⟩

theorem verdictOf_storedKeys_eq {csk : ClientSymmetricKey} {challenge : Bytes32}
    {servers : ServerMap} {username : String} {packet : EncryptedPacket} {wrapper : WrapperMessage}
    (h : ¬ DecidedByOthers P csk challenge servers username packet)
    (hdec : decryptEncryptedPacketWithCskNonce P csk packet = .ok wrapper) :
    verdictOf P (storedKeys servers) challenge wrapper =
      verdictOf P (allowedKeys servers username) challenge wrapper := by
  cases ha : verdictOf P (allowedKeys servers username) challenge wrapper with
  | some result => exact verdictOf_mono P (allowedKeys_subset servers username) ha
  | none =>
    by_contra hs
    exact h ⟨wrapper, hdec, hs, ha⟩

/-- On a packet that no server decides alone, the verdict is the same over maps
that agree on the allowed servers. -/
theorem AgreeOn.verdictOf_eq {csk : ClientSymmetricKey} {challenge : Bytes32} {m₁ m₂ : ServerMap}
    {username : String} {packet : EncryptedPacket} {wrapper : WrapperMessage}
    (hagree : AgreeOn username m₁ m₂)
    (h₁ : ¬ DecidedByOthers P csk challenge m₁ username packet)
    (h₂ : ¬ DecidedByOthers P csk challenge m₂ username packet)
    (hdec : decryptEncryptedPacketWithCskNonce P csk packet = .ok wrapper) :
    verdictOf P (storedKeys m₁) challenge wrapper =
      verdictOf P (storedKeys m₂) challenge wrapper := by
  rw [verdictOf_storedKeys_eq P h₁ hdec, verdictOf_storedKeys_eq P h₂ hdec]
  exact verdictOf_congr P hagree.mem_allowedKeys_iff challenge wrapper

/-! ## The simulation -/

/-- Tasks that differ at most in their retry counter. -/
inductive Task.Sim : Task → Task → Prop where
  | notSpawned : Sim .notSpawned .notSpawned
  | running (start : Nat) (point : LoopPoint) {l l' : LoopState}
      (h : l.nonceCache = l'.nonceCache) : Sim (.running start point l) (.running start point l')
  | returned (result : Except AuthHandlerError Unit) : Sim (.returned result) (.returned result)
  | panicked : Sim .panicked .panicked
  | aborted : Sim .aborted .aborted

theorem Task.Sim.refl : ∀ task : Task, task.Sim task
  | .notSpawned => .notSpawned
  | .running start point _ => .running start point rfl
  | .returned result => .returned result
  | .panicked => .panicked
  | .aborted => .aborted

structure SessionState.Sim (s t : SessionState) : Prop where
  now : s.now = t.now
  phase : s.phase = t.phase
  bleTransport : s.bleTransport = t.bleTransport
  task : ∀ k, (s.task k).Sim (t.task k)

/-- A session over another map of servers. -/
def Session.withServers (S : Session) (servers : ServerMap) : Session :=
  { S with params := { S.params with pairedServers := servers } }

variable {P}

/-- The received thing is no packet that one map decides without the allowed
servers. -/
def SameVerdict (A : AuthParams) (servers : ServerMap)
    (received : Except TransportError ReceiveResult) : Prop :=
  ∀ packet addr wrapper, received = .ok (.response packet addr) →
    decryptEncryptedPacketWithCskNonce P A.csk packet = .ok wrapper →
      verdictOf P (storedKeys A.pairedServers) A.challenge wrapper =
        verdictOf P (storedKeys servers) A.challenge wrapper

/-- The loop body, over two maps with the same verdict on what it received. -/
theorem loopReceive_rel {A : AuthParams} {servers : ServerMap}
    {received : Except TransportError ReceiveResult} (env : Ambient)
    (hsame : SameVerdict (P := P) A servers received) {l l' : LoopState}
    (hl : l.nonceCache = l'.nonceCache) :
    Sum.LiftRel (fun l l' : LoopState ↦ l.nonceCache = l'.nonceCache) Eq
      (loopReceive P A l received env)
      (loopReceive P { A with pairedServers := servers } l' received env) := by
  rcases received with e | (⟨packet, addr⟩ | -)
  · exact .inr rfl
  · rw [loopReceive_response, loopReceive_response, hl]
    split_ifs with hreplay
    · exact .inl rfl
    cases hdec : decryptEncryptedPacketWithCskNonce P A.csk packet with
    | error e => exact .inr rfl
    | ok wrapper =>
      simp only [← hsame packet addr wrapper rfl hdec]
      cases verdictOf P (storedKeys A.pairedServers) A.challenge wrapper with
      | some result => exact .inr rfl
      | none => exact .inl rfl
  · exact .inl hl

namespace Task.Sim

variable {a b : Task}

theorem atTop (h : a.Sim b) (now : Nat) (sent : Except TransportError Unit) :
    Option.Rel Task.Sim (a.atTop now sent) (b.atTop now sent) := by
  cases h with
  | running start point hl =>
    cases point with
    | waiting => exact .none
    | top =>
      simp only [Task.atTop]
      cases loopTop (now - start) sent with
      | some outcome => exact .some (.returned _)
      | none => exact .some (.running start .waiting hl)
  | _ => exact .none

theorem receive (h : a.Sim b) {A : AuthParams} {servers : ServerMap}
    {received : Except TransportError ReceiveResult} (env : Ambient)
    (hsame : SameVerdict (P := P) A servers received) :
    Option.Rel Task.Sim (a.receive P A received env)
      (b.receive P { A with pairedServers := servers } received env) := by
  cases h with
  | @running start point l l' hl =>
    cases point with
    | top => exact .none
    | waiting =>
      have hrel := loopReceive_rel env hsame hl
      simp only [Task.receive]
      generalize loopReceive P A l received env = x,
        loopReceive P { A with pairedServers := servers } l' received env = y at hrel
      cases hrel with
      | inl h => exact .some (.running start .top h)
      | inr h => cases h; exact .some (.returned _)
  | _ => exact .none

theorem panic (h : a.Sim b) : Option.Rel Task.Sim a.panic b.panic := by
  cases h with
  | running start point hl => exact .some .panicked
  | _ => exact .none

theorem joinResult_eq (h : a.Sim b) : a.joinResult = b.joinResult := by
  cases h <;> rfl

theorem abort (h : a.Sim b) : a.abort.Sim b.abort := by
  cases h with
  | running start point hl => exact .aborted
  | notSpawned => exact .notSpawned
  | returned result => exact .returned result
  | panicked => exact .panicked
  | aborted => exact .aborted

end Task.Sim

namespace SessionState.Sim

variable {s t : SessionState}

theorem response?_eq (h : s.Sim t) : s.response? = t.response? := by
  rw [SessionState.response?, h.phase]
  rfl

theorem setTask (h : s.Sim t) (k : TransportKind) {a b : Task} (hab : a.Sim b) :
    (s.setTask k a).Sim (t.setTask k b) := by
  cases k with
  | ble => exact ⟨h.now, h.phase, h.bleTransport, fun | .ble => hab | .udp => h.task .udp⟩
  | udp => exact ⟨h.now, h.phase, h.bleTransport, fun | .ble => h.task .ble | .udp => hab⟩

theorem setPhase (h : s.Sim t) (phase : Phase) :
    ({ s with phase := phase } : SessionState).Sim { t with phase := phase } :=
  ⟨h.now, rfl, h.bleTransport, fun | .ble => h.task .ble | .udp => h.task .udp⟩

theorem map_setTask (h : s.Sim t) (k : TransportKind) {a b : Option Task}
    (hab : Option.Rel Task.Sim a b) :
    Option.Rel SessionState.Sim (a.map (s.setTask k)) (b.map (t.setTask k)) := by
  cases hab with
  | some hab => exact .some (h.setTask k hab)
  | none => exact .none

theorem close (h : s.Sim t) (k : TransportKind) (result : Except AuthHandlerError Unit) :
    (s.close k result).Sim (t.close k result) :=
  (h.setTask k.other (h.task k.other).abort).setPhase _

theorem fail (h : s.Sim t) (S : Session) (failed : Failed) (k : TransportKind) :
    (s.fail S failed k).Sim (t.fail S failed k) := by
  unfold SessionState.fail
  split_ifs
  · exact h.setPhase _
  · exact h.setPhase _

theorem join (h : s.Sim t) (S : Session) (k : TransportKind) :
    Option.Rel SessionState.Sim (join S s k) (join S t k) := by
  unfold Daemon.join
  rw [h.phase, (h.task k).joinResult_eq]
  cases t.phase with
  | selecting failed =>
    dsimp only
    split_ifs
    · exact .none
    rcases (t.task k).joinResult with - | (result | -)
    · exact .none
    · exact .some (h.close k result)
    · exact .some (h.fail S failed k)
  | _ => exact .none

end SessionState.Sim

theorem SessionState.Sim.refl (s : SessionState) : s.Sim s :=
  ⟨rfl, rfl, rfl, fun k ↦ .refl (s.task k)⟩

/-- The tasks are spawned alike, and the cancel packet does not depend on the servers. -/
theorem registered_rel (S : Session) (servers : ServerMap) {s t : SessionState} (h : s.Sim t)
    (env : Ambient) :
    Option.Rel SessionState.Sim (sessionNext P S s (.registered env))
      (sessionNext P (S.withServers servers) t (.registered env)) := by
  simp only [sessionNext, h.phase]
  cases t.phase with
  | registering =>
    rw [show createCancelPacket P (S.withServers servers) env =
      createCancelPacket P S env from rfl]
    cases createCancelPacket P S env with
    | error e => exact .some (h.setPhase _)
    | ok packet =>
      refine .some ⟨h.now, rfl, h.bleTransport, fun k ↦ ?_⟩
      cases k with
      | ble =>
        change (Task.spawn s.bleTransport s.now).Sim (Task.spawn t.bleTransport t.now)
        rw [h.bleTransport, h.now]
        exact .refl _
      | udp =>
        change (Task.spawn S.transports.network s.now).Sim
          (Task.spawn S.transports.network t.now)
        rw [h.now]
        exact .refl _
  | _ => exact .none

theorem timeout_rel (S : Session) (servers : ServerMap) {s t : SessionState} (h : s.Sim t) :
    Option.Rel SessionState.Sim (sessionNext P S s .timeout)
      (sessionNext P (S.withServers servers) t .timeout) := by
  have hdue : S.deadline ≤ s.now ↔ S.deadline ≤ t.now := by rw [h.now]
  simp only [sessionNext, h.phase, hdue]
  cases t.phase with
  | responded response => exact .none
  | _ =>
    change Option.Rel _ (if S.deadline ≤ t.now then _ else _)
      (if S.deadline ≤ t.now then _ else _)
    split_ifs
    · exact .some (h.setPhase _)
    · exact .none

/-- One step of the session over two maps that give the received thing the same
verdict. -/
theorem sessionNext_rel (S : Session) (servers : ServerMap) {s t : SessionState} (h : s.Sim t)
    {e : Event} (hsame : ∀ k received env, e = .taskReceive k received env →
      SameVerdict (P := P) S.params servers received) :
    Option.Rel SessionState.Sim (sessionNext P S s e)
      (sessionNext P (S.withServers servers) t e) := by
  have htasks : ∀ k, (s.task k).Sim (t.task k) := h.task
  cases e with
  | tick elapsed =>
    exact .some ⟨congrArg (· + elapsed) h.now, h.phase, h.bleTransport, h.task⟩
  | bleInitialized ok =>
    simp only [sessionNext, h.phase]
    cases t.phase with
    | initializing => exact .some ⟨h.now, rfl, rfl, h.task⟩
    | _ => exact .none
  | registered env => exact registered_rel S servers h env
  | taskTop k sent =>
    simp only [sessionNext, h.now]
    exact h.map_setTask k ((htasks k).atTop t.now sent)
  | taskReceive k received env =>
    exact h.map_setTask k ((htasks k).receive env (hsame k received env rfl))
  | taskPanic k => exact h.map_setTask k (htasks k).panic
  | joined k => exact h.join S k
  | cancelled =>
    simp only [sessionNext, h.phase]
    cases t.phase with
    | selecting failed => exact .some (h.setPhase _)
    | _ => exact .none
  | closed =>
    simp only [sessionNext, h.phase]
    cases t.phase with
    | closing result => exact .some (h.setPhase _)
    | _ => exact .none
  | cancellationDone =>
    simp only [sessionNext, h.phase]
    cases t.phase with
    | cancelling =>
      exact .some ((((h.setTask .ble (htasks .ble).abort).setTask .udp
        (htasks .udp).abort)).setPhase _)
    | _ => exact .none
  | timeout => exact timeout_rel S servers h

/-! ## Independence of the other servers -/

def AuthSession.withServers (S : AuthSession) (servers : ServerMap) : AuthSession :=
  { S with state := { S.state with pairedServers := servers } }

/-- Before its first wait a session looks at the servers only to see whether one
is allowed for the user. -/
theorem beginAuthenticate_withServers (S : AuthSession) {m₁ m₂ : ServerMap}
    (h₁ : allowedServers m₁ S.username ≠ []) (h₂ : allowedServers m₂ S.username ≠ []) :
    beginAuthenticate P (S.withServers m₂) =
      match beginAuthenticate P (S.withServers m₁) with
      | .responded response => .responded response
      | .running running => .running (running.withServers m₂) := by
  have hentries : ∀ {m : ServerMap}, allowedServers m S.username ≠ [] → m.entries ≠ [] := by
    intro m hm hnil
    exact hm (by simp [allowedServers, ServerMap.values, hnil])
  unfold beginAuthenticate
  by_cases hany : S.transports.any = true
  case neg => simp [AuthSession.withServers, hany]
  simp only [AuthSession.withServers, hany, hentries h₁, hentries h₂, h₁, h₂, not_true_eq_false,
    if_false]
  rcases S.state.keypair with - | keypair
  · rfl
  rcases S.state.csk with - | csk
  · rfl
  dsimp only
  cases createAuthRequestWithChallenge S.env.unixSeconds S.username S.state.hostname
      S.challenge.bytes with
  | error e => rfl
  | ok request =>
    dsimp only
    cases createEncryptedPacketWithCskNonce P S.env csk
        (signWrapperMessage P (wrapAuthRequest request) keypair) with
    | error e => rfl
    | ok packet =>
      dsimp only
      cases generateCurrentTemporalIdentifierBle P S.env.unixSeconds csk with
      | error e => rfl
      | ok identifier => rfl

/-- What a running session takes over from its request. -/
theorem beginAuthenticate_eq_running {S : AuthSession} {running : Session}
    (h : beginAuthenticate P S = .running running) :
    S.state.csk = some running.params.csk ∧ running.params.challenge = S.challenge ∧
      running.params.pairedServers = S.state.pairedServers ∧ running.username = S.username := by
  unfold beginAuthenticate at h
  dsimp only at h
  split_ifs at h
  repeat' split at h
  all_goals cases h
  exact ⟨by assumption, rfl, rfl, rfl⟩

variable (P)

/-- **Independence of the other servers, where it holds.**  Two sessions for one
user over maps that agree on the servers allowed for that user respond alike, on
the same events, if no delivered packet is decided only by a server that is not
allowed. -/
theorem handleAuthenticate_eq_of_agree (S : AuthSession) (m₁ m₂ : ServerMap)
    (events : List Event) (hagree : AgreeOn S.username m₁ m₂)
    (hallowed : allowedServers m₁ S.username ≠ [])
    (hdecided : ∀ csk, S.state.csk = some csk → ∀ packet ∈ deliveredPackets events,
      ¬ DecidedByOthers P csk S.challenge m₁ S.username packet ∧
      ¬ DecidedByOthers P csk S.challenge m₂ S.username packet) :
    handleAuthenticate P (S.withServers m₁) events =
      handleAuthenticate P (S.withServers m₂) events := by
  have hallowed₂ : allowedServers m₂ S.username ≠ [] := by
    obtain ⟨server, hmem⟩ := List.exists_mem_of_ne_nil _ hallowed
    exact List.ne_nil_of_mem ((hagree.mem_allowedServers_iff server).mp hmem)
  unfold handleAuthenticate
  rw [beginAuthenticate_withServers S hallowed hallowed₂]
  cases hbegin : beginAuthenticate P (S.withServers m₁) with
  | responded response => rfl
  | running running =>
    obtain ⟨hcsk, hchallenge, hservers, -⟩ := beginAuthenticate_eq_running hbegin
    have hsame : ∀ e ∈ events, ∀ k received env, e = .taskReceive k received env →
        SameVerdict (P := P) running.params m₂ received := by
      rintro e he k received env rfl packet addr wrapper rfl hdec
      have hmem : packet ∈ deliveredPackets events := List.mem_filterMap.mpr ⟨_, he, rfl⟩
      obtain ⟨h₁, h₂⟩ := hdecided running.params.csk hcsk packet hmem
      rw [hservers, hchallenge]
      exact hagree.verdictOf_eq P h₁ h₂ hdec
    have hsim : ((session P running).feed (.start S.startedAt) events).Sim
        ((session P (running.withServers m₂)).feed (.start S.startedAt) events) :=
      (session P running).feed_rel (session P (running.withServers m₂))
        (fun _ _ _ hst hC ↦ sessionNext_rel running m₂ hst hC) (.refl _) hsame
    exact congrArg (Option.map Except.ok) hsim.response?_eq

end

/-! ## Concrete sessions for alice

Alice's phone is phone 5.  The second map also holds phone 6, which may
authenticate bob only. -/

namespace Sample

def ownServers : ServerMap := AList.singleton "5" (server 5 ["alice"])

def moreServers : ServerMap := ownServers.insert "6" (server 6 ["bob"])

def aliceSession : AuthSession where
  state := ⟨ownServers, some desktop, some csk, "desktop", none⟩
  username := "alice"
  challenge := challenge
  transports := ⟨true, false⟩
  timeoutSeconds := none
  startedAt := 0
  env := env

/-- The UDP task receives a packet; what follows happens if it is possible. -/
def delivery (packet : EncryptedPacket) : List Event :=
  [.bleInitialized false, .registered env, .taskTop .udp (.ok ()),
    .taskReceive .udp (.ok (.response packet addr)) env, .joined .udp, .closed,
    .tick 30000, .timeout]

theorem agreeOn_moreServers : AgreeOn "alice" ownServers moreServers :=
  agreeOn_insert (by decide +kernel) (by decide +kernel)

end Sample

open Sample

/-- Bob's phone answers alice's request with a grant: without bob's phone among
the stored servers the session times out, with it alice is authenticated. -/
theorem handleAuthenticate_depends_on_others :
    AgreeOn "alice" ownServers moreServers ∧
    allowedServers ownServers "alice" ≠ [] ∧
    handleAuthenticate primitives (aliceSession.withServers ownServers)
        (delivery (grant 6)) =
      some (.ok ⟨.timeout, "Authentication timeout", challenge.bytes⟩) ∧
    handleAuthenticate primitives (aliceSession.withServers moreServers)
        (delivery (grant 6)) =
      some (.ok ⟨.success, "Authenticated user alice successfully", challenge.bytes⟩) :=
  ⟨agreeOn_moreServers, by decide +kernel, by decide +kernel, by decide +kernel⟩

/-- Alice's own phone decides her session alike over both maps. -/
theorem handleAuthenticate_eq_of_agree_sample :
    handleAuthenticate primitives (aliceSession.withServers ownServers)
        (delivery (grant 5)) =
      some (.ok ⟨.success, "Authenticated user alice successfully", challenge.bytes⟩) ∧
    handleAuthenticate primitives (aliceSession.withServers ownServers)
        (delivery (grant 5)) =
      handleAuthenticate primitives (aliceSession.withServers moreServers)
        (delivery (grant 5)) := by
  refine ⟨by decide +kernel, handleAuthenticate_eq_of_agree primitives aliceSession
    ownServers moreServers (delivery (grant 5))
    agreeOn_moreServers (by decide +kernel) ?_⟩
  rintro csk ⟨⟩
  decide +kernel

end TapAuth.Daemon
