import TapAuth.Phone.RateLimiter
import TapAuth.Phone.RequestInterleaving

/-!
# The phone's gate: everything a request passes before the prompt

`handleAuthRequest` of both services with all that it keeps: the transport locks and the
challenges seen (`PhoneMemory`), the rate limiter, and for BLE the connection of every
challenge.  Only the UDP service asks the limiter.

`submissions_le` bounds how many requests of a desktop reach the prompt in a stretch of
time: as many as the limiter allows, and those that come over BLE.
-/

namespace TapAuth.Phone

open Shared

structure RequestGate where
  memory : PhoneMemory
  limiter : RequestRateLimiter
  /-- `activeConnectionsByChallenge`, with the handles of the connections. -/
  connections : HexMap Nat

def RequestGate.now (s : RequestGate) : Int64 := s.memory.elapsedRealtime

/-- How a request ends, where its serialization for the signature can fail too. -/
inductive GateEnd where
  | ended (result : HandlerEnd)
  | unserializable
  deriving DecidableEq

/-- The client a packet is from, as the limiter knows it. -/
def Incoming.client (incoming : Incoming) : String := hexEncode incoming.device.publicKey

section

variable (P : Primitives)

def Incoming.requestId (incoming : Incoming) : String :=
  hexEncode (P.sha256 incoming.wrapperMessage).bytes

/-- Once the challenge is claimed. -/
def checkSerializeAndSubmit (serialized : Bool) (s : PhoneMemory) (job : Job) :
    PhoneMemory × GateEnd :=
  replayThen .ended (fun s ↦ if !serialized then (s, .unserializable)
    else Prod.map id .ended (verifyAndSubmit P job s)) s job

/-- `handleAuthRequest` with the limiter's answer, and whether the serialization succeeds. -/
def handleRequest (s : PhoneMemory) (incoming : Incoming) (accepted serialized : Bool) :
    PhoneMemory × GateEnd :=
  claimThen P .ended (checkSerializeAndSubmit P serialized) s incoming accepted

/-- Where the serialization succeeds, this is the handler of `RequestHandlers`. -/
theorem handleRequest_serialized (s : PhoneMemory) (incoming : Incoming) (accepted : Bool) :
    handleRequest P s incoming accepted true =
      ((handleAuthRequest P s incoming accepted).1,
        .ended (handleAuthRequest P s incoming accepted).2) := by
  unfold handleRequest handleAuthRequest claimThen checkSerializeAndSubmit checkAndSubmit replayThen
    verifyAndSubmit
  cases precheck P incoming accepted with
  | error e => rfl
  | ok job =>
    simp only [Bool.not_true, Bool.false_eq_true, if_false]
    split
    · split
      · rfl
      · split <;> rfl
    · rfl

/-- What the limiter says of a packet. -/
def RequestGate.limit (s : RequestGate) (incoming : Incoming) : Bool × RequestRateLimiter :=
  match incoming.transport with
  | .udp => s.limiter.shouldAcceptRequest s.now incoming.client (some (incoming.requestId P))
  | .ble => (true, s.limiter)

/-- Only the BLE service has connections. -/
def enterConnection (connections : HexMap Nat) (incoming : Incoming) (gatt : Nat) : HexMap Nat :=
  match incoming.transport, incoming.job? P with
  | .ble, some job => Function.update connections job.key (some gatt)
  | _, _ => connections

/-- The connection is entered as soon as the challenge is claimed. -/
def trackConnection (connections : HexMap Nat) (incoming : Incoming) (gatt : Nat) :
    GateEnd → HexMap Nat
  | .unserializable | .ended .replay | .ended .invalidSignature | .ended .submitted =>
    enterConnection P connections incoming gatt
  | _ => connections

/-- A packet that has been decrypted. -/
def RequestGate.receive (s : RequestGate) (incoming : Incoming) (gatt : Nat) (serialized : Bool) :
    RequestGate × GateEnd :=
  let limited := s.limit P incoming
  let handled := handleRequest P s.memory incoming limited.1 serialized
  (⟨handled.1, limited.2, trackConnection P s.connections incoming gatt handled.2⟩, handled.2)

end

/-! ## Runs of the gate -/

inductive GateEvent where
  | receive (incoming : Incoming) (gatt : Nat) (serialized : Bool)
  | clocks (currentTimeMillis elapsedRealtime : Int64)
  /-- The limiter's periodic clean-up. -/
  | cleanup
  | resetClient (clientPublicKey : String)
  | releaseLock (key : String)
  | disconnected (gatt : Nat)

def gateNext (P : Primitives) (s : RequestGate) : GateEvent → Option RequestGate
  | .receive incoming gatt serialized => some (s.receive P incoming gatt serialized).1
  | .clocks currentTimeMillis elapsedRealtime =>
    -- the time since boot does not go back
    if s.now ≤ elapsedRealtime then
      some { s with memory := { s.memory with currentTimeMillis, elapsedRealtime } }
    else none
  | .cleanup => some { s with limiter := s.limiter.cleanup s.now s.now }
  | .resetClient clientPublicKey => some { s with limiter := s.limiter.resetClient clientPublicKey }
  | .releaseLock key => some { s with memory := s.memory.setLock key none }
  | .disconnected gatt =>
    some { s with connections := fun key ↦ (s.connections key).filter fun g ↦ g ≠ gatt }

def gate (P : Primitives) : Machine RequestGate GateEvent := ⟨gateNext P⟩

/-- The requests of a client that have reached the prompt. -/
def RequestGate.submissions (s : RequestGate) (client : String) : Nat :=
  s.memory.submitted.countP fun entry ↦ entry.1.incoming.client = client

/-- The identifiers of a client's requests over UDP. -/
def requestIds (P : Primitives) (client : String) (events : List GateEvent) : List String :=
  events.filterMap fun
    | .receive incoming _ _ =>
      if incoming.transport = .udp ∧ incoming.client = client then some (incoming.requestId P)
      else none
    | _ => none

/-- A request of the client over BLE. -/
def GateEvent.overBle (client : String) : GateEvent → Bool
  | .receive incoming _ _ => incoming.transport = .ble ∧ incoming.client = client
  | _ => false

/-! ## What a step does for one client -/

section

variable {P : Primitives} {client : String}

/-- The check enters the challenge, and all else it can do is to submit the request. -/
theorem checkSerializeAndSubmit_cases (s : PhoneMemory) (job : Job) (serialized : Bool) :
    ∃ challengeCache, challengeCache =
        (isReplay s.nowSeconds job.key job.request.timestampUnixSeconds s.challengeCache).2 ∧
      ((checkSerializeAndSubmit P serialized s job).1 = { s with challengeCache } ∨
        (checkSerializeAndSubmit P serialized s job).1 =
          { s with challengeCache }.submitRequest job) := by
  refine ⟨_, rfl, ?_⟩
  simp only [checkSerializeAndSubmit, replayThen, verifyAndSubmit]
  split
  · exact .inl rfl
  · split
    · exact .inl rfl
    · split
      · exact .inr rfl
      · exact .inl rfl

/-- Without the limiter's consent nothing is submitted over UDP. -/
theorem submitted_handleRequest (s : PhoneMemory) (incoming : Incoming)
    (accepted serialized : Bool) :
    (handleRequest P s incoming accepted serialized).1.submitted = s.submitted ∨
      ∃ job : Job, job.incoming = incoming ∧ (incoming.transport = .udp → accepted = true) ∧
        (handleRequest P s incoming accepted serialized).1.submitted =
          (job, s.nowSeconds) :: s.submitted := by
  unfold handleRequest claimThen
  cases hprecheck : precheck P incoming accepted with
  | error e => exact .inl rfl
  | ok job =>
    have hincoming := incoming_of_job? (job?_of_precheck hprecheck)
    have hudp : incoming.transport = .udp → accepted = true := by
      intro htransport
      cases accepted with
      | false => simp [precheck, htransport] at hprecheck
      | true => rfl
    simp only
    split
    · obtain ⟨cache, -, hquiet | hsubmitted⟩ := checkSerializeAndSubmit_cases
        { s with challengeLocks := _ } job serialized (P := P)
      · exact .inl (by rw [hquiet])
      · refine .inr ⟨job, hincoming, hudp, ?_⟩
        rw [hsubmitted]
        rfl
    · exact .inl rfl

theorem clocks_handleRequest (s : PhoneMemory) (incoming : Incoming) (accepted serialized : Bool) :
    (handleRequest P s incoming accepted serialized).1.elapsedRealtime = s.elapsedRealtime ∧
      (handleRequest P s incoming accepted serialized).1.nowSeconds = s.nowSeconds := by
  unfold handleRequest claimThen
  cases precheck P incoming accepted with
  | error e => exact ⟨rfl, rfl⟩
  | ok job =>
    simp only
    split
    · obtain ⟨cache, -, h | h⟩ := checkSerializeAndSubmit_cases
        { s with challengeLocks := _ } job serialized (P := P)
      · rw [h]
        exact ⟨rfl, rfl⟩
      · rw [h]
        exact ⟨rfl, rfl⟩
    · exact ⟨rfl, rfl⟩

@[simp] theorem now_receive (s : RequestGate) (incoming : Incoming) (gatt : Nat)
    (serialized : Bool) : (s.receive P incoming gatt serialized).1.now = s.now :=
  (clocks_handleRequest _ _ _ _).1

open RequestGate

theorem submissions_receive_of_ne {s : RequestGate} {incoming : Incoming} (gatt : Nat)
    (serialized : Bool) (h : incoming.client ≠ client) :
    (s.receive P incoming gatt serialized).1.submissions client = s.submissions client := by
  unfold submissions
  obtain hsame | ⟨job, hincoming, -, hmore⟩ :=
    submitted_handleRequest s.memory incoming (s.limit P incoming).1 serialized (P := P)
  · exact congrArg (List.countP _) hsame
  · rw [show (s.receive P incoming gatt serialized).1.memory.submitted = _ from hmore,
      List.countP_cons_of_neg (by simpa [hincoming] using h)]

theorem submissions_receive_le (s : RequestGate) (incoming : Incoming) (gatt : Nat)
    (serialized : Bool) :
    (s.receive P incoming gatt serialized).1.submissions client ≤ s.submissions client + 1 := by
  unfold submissions
  obtain hsame | ⟨job, -, -, hmore⟩ :=
    submitted_handleRequest s.memory incoming (s.limit P incoming).1 serialized (P := P)
  · exact (congrArg (List.countP _) hsame).trans_le (Nat.le_succ _)
  · rw [show (s.receive P incoming gatt serialized).1.memory.submitted = _ from hmore,
      List.countP_cons]
    split <;> omega

theorem submissions_receive_udp (s : RequestGate) {incoming : Incoming} (gatt : Nat)
    (serialized : Bool) (h : incoming.transport = .udp) :
    ((s.receive P incoming gatt serialized).1.submissions client : Int) ≤
      s.submissions client + accepts (s.limit P incoming).1 := by
  obtain hsame | ⟨job, -, hudp, -⟩ :=
    submitted_handleRequest s.memory incoming (s.limit P incoming).1 serialized (P := P)
  · have heq : (s.receive P incoming gatt serialized).1.submissions client =
        s.submissions client := congrArg (List.countP _) hsame
    rw [heq, accepts]
    split <;> omega
  · rw [hudp h, accepts_true]
    exact_mod_cast submissions_receive_le s incoming gatt serialized

/-- The client's state in the limiter. -/
def RequestGate.entry (s : RequestGate) (client : String) : Option BackoffState :=
  s.limiter.clientBackoffs client

/-- What a step can do for a client: to its state in the limiter, and to the number of its
requests that have reached the prompt. -/
inductive ClientStep (P : Primitives) (client : String) (s : RequestGate) (event : GateEvent)
    (t : RequestGate) : Prop
  | quiet (hentry : t.entry client = s.entry client)
      (hcount : t.submissions client = s.submissions client) (hnow : s.now ≤ t.now)
  | forgotten (state : BackoffState) (hold : s.entry client = some state)
      (hage : s.now - state.lastRequestTime > cleanupAgeMs) (hentry : t.entry client = none)
      (hcount : t.submissions client = s.submissions client) (hnow : t.now = s.now)
  | reset (hevent : event = .resetClient client) (hentry : t.entry client = none)
      (hnow : t.now = s.now)
  | judged (hentry : t.entry client = some (assess s.now (s.entry client)).2)
      (hcount : (t.submissions client : Int) ≤
        s.submissions client + accepts (assess s.now (s.entry client)).1)
      (hnow : t.now = s.now)
  | known (id : String) (hid : id ∈ requestIds P client [event])
      (hrecent : (s.limiter.recentRequests (client, id)).isSome)
      (hentry : t.entry client = s.entry client) (hnow : t.now = s.now)
  | ble (hevent : event.overBle client) (hentry : t.entry client = s.entry client)
      (hcount : t.submissions client ≤ s.submissions client + 1) (hnow : t.now = s.now)

theorem ClientStep.of_receive (s : RequestGate) (incoming : Incoming) (gatt : Nat)
    (serialized : Bool) :
    ClientStep P client s (.receive incoming gatt serialized)
      (s.receive P incoming gatt serialized).1 := by
  have hnow := now_receive s incoming gatt serialized (P := P)
  by_cases hclient : incoming.client = client
  · cases htransport : incoming.transport with
    | ble =>
      refine .ble ?_ ?_ (submissions_receive_le s incoming gatt serialized) hnow
      · simp [GateEvent.overBle, htransport, hclient]
      · simp [entry, receive, limit, htransport]
    | udp =>
      have hlimit : s.limit P incoming =
          s.limiter.shouldAcceptRequest s.now client (some (incoming.requestId P)) := by
        simp only [limit, htransport, hclient]
      have hentry : (s.receive P incoming gatt serialized).1.entry client =
          (s.limit P incoming).2.clientBackoffs client := rfl
      have hcount : ((s.receive P incoming gatt serialized).1.submissions client : Int) ≤
          s.submissions client + accepts (s.limit P incoming).1 :=
        submissions_receive_udp s gatt serialized htransport
      rw [hlimit] at hentry hcount
      obtain ⟨hrecent, hbackoffs⟩ | ⟨haccepted, hbackoffs⟩ :=
        s.limiter.shouldAcceptRequest_cases s.now client (incoming.requestId P)
      · refine .known (incoming.requestId P) ?_ hrecent ?_ hnow
        · simp [requestIds, htransport, hclient]
        · rw [hentry, hbackoffs, entry]
      · refine .judged ?_ ?_ hnow
        · rw [hentry, hbackoffs, Function.update_self, entry]
        · rw [haccepted] at hcount
          exact hcount
  · refine .quiet ?_ (submissions_receive_of_ne gatt serialized hclient)
      (by rw [hnow]; exact Int64.le_refl _)
    cases htransport : incoming.transport with
    | ble => simp [entry, receive, limit, htransport]
    | udp =>
      have hentry : (s.receive P incoming gatt serialized).1.entry client =
          (s.limiter.shouldAcceptRequest s.now incoming.client
            (some (incoming.requestId P))).2.clientBackoffs client := by
        simp [entry, receive, limit, htransport]
      rw [hentry]
      obtain ⟨-, hbackoffs⟩ | ⟨-, hbackoffs⟩ :=
        s.limiter.shouldAcceptRequest_cases s.now incoming.client (incoming.requestId P)
      · rw [hbackoffs, entry]
      · rw [hbackoffs, Function.update_of_ne (Ne.symm hclient), entry]

theorem ClientStep.of_cleanup (s : RequestGate) :
    ClientStep P client s .cleanup { s with limiter := s.limiter.cleanup s.now s.now } := by
  cases hold : s.entry client with
  | none =>
    refine .quiet ?_ rfl (Int64.le_refl _)
    simp_all [entry, Limiter.cleanup]
  | some state =>
    by_cases hage : s.now - state.lastRequestTime > cleanupAgeMs
    · refine .forgotten state hold hage ?_ rfl rfl
      simp_all [entry, Limiter.cleanup]
    · refine .quiet ?_ rfl (Int64.le_refl _)
      simp_all [entry, Limiter.cleanup]

variable {s t : RequestGate} {event : GateEvent} {events : List GateEvent}

theorem ClientStep.of_next (h : (gate P).next s event = some t) :
    ClientStep P client s event t := by
  cases event with
  | receive incoming gatt serialized =>
    cases h
    exact .of_receive s incoming gatt serialized
  | clocks currentTimeMillis elapsedRealtime =>
    obtain ⟨hle, ht⟩ := Option.ite_none_right_eq_some.mp h
    cases ht
    exact .quiet rfl rfl hle
  | cleanup =>
    cases h
    exact .of_cleanup s
  | resetClient clientPublicKey =>
    cases h
    by_cases hclient : clientPublicKey = client
    · refine .reset (congrArg _ hclient) ?_ rfl
      simp [entry, Limiter.resetClient, hclient]
    · refine .quiet ?_ rfl (Int64.le_refl _)
      exact Function.update_of_ne (Ne.symm hclient) _ _
  | releaseLock key =>
    cases h
    exact .quiet rfl rfl (Int64.le_refl _)
  | disconnected gatt =>
    cases h
    exact .quiet rfl rfl (Int64.le_refl _)

/-! ## The bound -/

/-- What is known of a client's state at every instant. -/
def RequestGate.Valid (client : String) (s : RequestGate) : Prop :=
  0 ≤ s.now ∧ ∀ state ∈ s.entry client, state.Valid s.now

theorem ClientStep.valid (h : ClientStep P client s event t) (hs : s.Valid client) :
    t.Valid client := by
  obtain ⟨hnonneg, hvalid⟩ := hs
  cases h with
  | quiet hentry _ hnow =>
    refine ⟨Int64.le_trans hnonneg hnow, ?_⟩
    rw [hentry]
    exact fun state hstate ↦ (hvalid state hstate).mono hnow
  | forgotten _ _ _ hentry _ hnow =>
    rw [Valid, hentry, hnow]
    exact ⟨hnonneg, fun _ h ↦ nomatch h⟩
  | reset _ hentry hnow =>
    rw [Valid, hentry, hnow]
    exact ⟨hnonneg, fun _ h ↦ nomatch h⟩
  | judged hentry _ hnow =>
    rw [Valid, hentry, hnow]
    refine ⟨hnonneg, fun state hstate ↦ ?_⟩
    cases hstate
    exact assess_valid hnonneg hvalid
  | known _ _ _ hentry hnow =>
    rw [Valid, hentry, hnow]
    exact ⟨hnonneg, hvalid⟩
  | ble _ hentry _ hnow =>
    rw [Valid, hentry, hnow]
    exact ⟨hnonneg, hvalid⟩

/-- The step neither resets the client's limit nor repeats a request the limiter still knows. -/
def RequestGate.Unforgiven (P : Primitives) (client : String) (s : RequestGate)
    (event : GateEvent) : Prop :=
  event ≠ .resetClient client ∧
    ∀ id ∈ requestIds P client [event], s.limiter.recentRequests (client, id) = none

/-- What a request over BLE adds, since nobody counts it. -/
def GateEvent.credit (client : String) (event : GateEvent) : Int := accepts (event.overBle client)

theorem GateEvent.credit_nonneg (client : String) (event : GateEvent) :
    0 ≤ event.credit client := by
  unfold credit accepts
  split <;> omega

/-- A request that reaches the prompt is paid for, or it came over BLE. -/
theorem ClientStep.paid (b : Int) (h : ClientStep P client s event t) (hs : s.Valid client)
    (hevent : s.Unforgiven P client event) :
    t.submissions client + t.limiter.potential t.now client b ≤
      s.submissions client + s.limiter.potential s.now client b + event.credit client := by
  have hcredit := event.credit_nonneg client
  cases h with
  | quiet hentry hcount hnow =>
    have := Limiter.potential_anti hentry hnow b
    omega
  | forgotten state hold hage hentry hcount hnow =>
    have := Limiter.potential_forgotten b hold (hs.2 state hold) hage hentry
    rw [hnow]
    omega
  | reset hreset => exact absurd hreset hevent.1
  | judged hentry hcount hnow =>
    have hpaid := Limiter.potential_assess b hs.2 hentry
    have hsame : s.entry client = s.limiter.clientBackoffs client := rfl
    rw [hsame] at hcount
    rw [hnow]
    omega
  | known id hid hrecent =>
    rw [hevent.2 id hid] at hrecent
    cases hrecent
  | ble hble hentry hcount hnow =>
    have := Limiter.potential_anti hentry (Int64.le_refl s.now) b
    rw [hnow, GateEvent.credit, hble, accepts_true]
    omega

/-- A request the limiter knows has come before. -/
theorem recentRequests_next {id : String} (h : (gate P).next s event = some t)
    (hs : s.limiter.recentRequests (client, id) = none) (hid : id ∉ requestIds P client [event]) :
    t.limiter.recentRequests (client, id) = none := by
  cases event with
  | receive incoming gatt serialized =>
    cases h
    cases htransport : incoming.transport with
    | ble => simpa [receive, limit, htransport] using hs
    | udp =>
      have hkey : (client, id) ≠ (incoming.client, incoming.requestId P) := by
        rintro heq
        cases heq
        simp [requestIds, htransport] at hid
      have hsame := s.limiter.recentRequests_shouldAcceptRequest s.now hkey
      simpa [receive, limit, htransport, hsame] using hs
  | clocks currentTimeMillis elapsedRealtime =>
    obtain ⟨-, ht⟩ := Option.ite_none_right_eq_some.mp h
    cases ht
    exact hs
  | cleanup =>
    cases h
    simp [Limiter.cleanup, hs]
  | resetClient clientPublicKey =>
    cases h
    exact hs
  | releaseLock key =>
    cases h
    exact hs
  | disconnected gatt =>
    cases h
    exact hs

/-- The client's requests to come differ from one another and from those the limiter knows. -/
structure RequestGate.Unseen (P : Primitives) (client : String) (s : RequestGate)
    (events : List GateEvent) : Prop where
  distinct : (requestIds P client events).Nodup
  unknown : ∀ id ∈ requestIds P client events, s.limiter.recentRequests (client, id) = none

theorem requestIds_cons (P : Primitives) (client : String) (event : GateEvent)
    (events : List GateEvent) :
    requestIds P client (event :: events) =
      requestIds P client [event] ++ requestIds P client events := by
  unfold requestIds
  rw [← List.filterMap_append, List.singleton_append]

theorem RequestGate.Unseen.next (h : s.Unseen P client (event :: events))
    (ht : (gate P).next s event = some t) :
    t.Unseen P client events := by
  obtain ⟨hdistinct, hunknown⟩ := h
  rw [requestIds_cons] at hdistinct hunknown
  refine ⟨hdistinct.of_append_right, fun id hid ↦ ?_⟩
  refine recentRequests_next ht (hunknown id (List.mem_append_right _ hid)) fun hfirst ↦ ?_
  exact hdistinct.disjoint hfirst hid

theorem RequestGate.Unseen.exec {before events : List GateEvent}
    (h : s.Unseen P client (before ++ events)) (ht : (gate P).exec s before = some t) :
    t.Unseen P client events := by
  induction before generalizing s with
  | nil =>
    cases ht
    exact h
  | cons event before ih =>
    obtain ⟨u, hu, hrun⟩ := (gate P).exec_cons_eq_some.mp ht
    exact ih (h.next hu) hrun

theorem RequestGate.Unseen.along {s : RequestGate} (h : s.Unseen P client events)
    (hreset : .resetClient client ∉ events) :
    (gate P).Along (Unforgiven P client) s events := by
  induction events generalizing s with
  | nil => trivial
  | cons event events ih =>
    have hfirst : event ≠ .resetClient client := by
      rintro rfl
      exact hreset List.mem_cons_self
    refine ⟨⟨hfirst, fun id hid ↦ h.unknown id ?_⟩, fun t ht ↦ ?_⟩
    · rw [requestIds_cons]
      exact List.mem_append_left _ hid
    · exact ih (h.next ht) fun hmem ↦ hreset (List.mem_cons_of_mem _ hmem)

theorem foldr_credit (client : String) (events : List GateEvent) :
    events.foldr (fun event total ↦ event.credit client + total) (0 : Int) =
      events.countP (GateEvent.overBle client) := by
  induction events with
  | nil => rfl
  | cons event events ih =>
    rw [List.foldr_cons, ih, List.countP_cons, GateEvent.credit, accepts]
    split <;> omega

/-- In a stretch of time, what reaches the prompt is what a fresh client is allowed, and what
came over BLE. -/
theorem submissions_le {length : Nat} (hs : s.Valid client) (hunseen : s.Unseen P client events)
    (hrun : (gate P).exec s events = some t) (hlength : t.now.toInt ≤ s.now.toInt + length)
    (hreset : .resetClient client ∉ events) :
    t.submissions client ≤ s.submissions client + 3 * (length / 1000 + 1) +
      events.countP (GateEvent.overBle client) := by
  let b : Int := s.now.toInt + length
  have halong := hunseen.along hreset
  have ht : t.Valid client :=
    (gate P).invariant (fun _ _ _ hs hnext ↦ (ClientStep.of_next hnext).valid hs) hs hrun
  have hpaid := (gate P).potential_along (I := Valid client)
    (fun s ↦ s.submissions client + s.limiter.potential s.now client b) (GateEvent.credit client)
    (fun s event t hs hevent hnext ↦
      have hstep : ClientStep P client s event t := .of_next hnext
      ⟨hstep.valid hs, hstep.paid b hs hevent⟩)
    hs hrun halong
  have hend : 0 ≤ t.limiter.potential t.now client b :=
    Limiter.potential_nonneg ht.2 hlength
  have hstart := s.limiter.potential_le_freshAllowance s.now client b
  have hfresh : freshAllowance s.now b = 3 * (length / 1000 + 1) := by
    simp only [freshAllowance, b]
    omega
  rw [foldr_credit] at hpaid
  omega

/-! ## Any run -/

/-- The contents of a client's requests, over both transports. -/
def requestContents (client : String) (events : List GateEvent) : List Bytes :=
  events.filterMap fun
    | .receive incoming _ _ =>
      if incoming.client = client then some incoming.wrapperMessage else none
    | _ => none

theorem requestIds_sublist (P : Primitives) (client : String) (events : List GateEvent) :
    (requestIds P client events).Sublist
      ((requestContents client events).map fun content ↦
        hexEncode (P.sha256 content).bytes) := by
  induction events with
  | nil => exact List.Sublist.refl _
  | cons event events ih =>
    cases event with
    | receive incoming gatt serialized =>
      by_cases hclient : incoming.client = client
      · by_cases hudp : incoming.transport = .udp
        · simpa [requestIds, requestContents, hclient, hudp, Incoming.requestId] using ih
        · simpa [requestIds, requestContents, hclient, hudp] using ih.cons _
      · simpa [requestIds, requestContents, hclient] using ih
    | _ => exact ih

/-- The requests have different contents, and SHA-256 tells them apart. -/
structure DistinctContents (P : Primitives) (client : String) (events : List GateEvent) :
    Prop where
  distinct : (requestContents client events).Nodup
  noCollision : ∀ a ∈ requestContents client events, ∀ b ∈ requestContents client events,
    P.sha256 a = P.sha256 b → a = b

instance DistinctContents.decidable (P : Primitives) (client : String)
    (events : List GateEvent) : Decidable (DistinctContents P client events) :=
  decidable_of_iff
    ((requestContents client events).Nodup ∧
      ∀ a ∈ requestContents client events, ∀ b ∈ requestContents client events,
        P.sha256 a = P.sha256 b → a = b)
    ⟨fun h ↦ ⟨h.1, h.2⟩, fun h ↦ ⟨h.1, h.2⟩⟩

theorem DistinctContents.unseen {s : RequestGate} (h : DistinctContents P client events)
    (hempty : s.limiter = .empty) :
    s.Unseen P client events where
  distinct := by
    refine (requestIds_sublist P client events).nodup (h.distinct.map_on fun a ha b hb hid ↦ ?_)
    exact h.noCollision a ha b hb (FixedBytes.bytes_injective (hexEncode_injective hid))
  unknown id _ := by
    rw [hempty]
    rfl

/-- In every interval of a run in which at most three requests of the client come over BLE. -/
theorem submissions_within_le {start s t : RequestGate} {before within : List GateEvent}
    {length : Nat} (hempty : start.limiter = .empty) (hboot : 0 ≤ start.now)
    (hbefore : (gate P).exec start before = some s) (hwithin : (gate P).exec s within = some t)
    (hlength : t.now.toInt ≤ s.now.toInt + length)
    (hdistinct : DistinctContents P client (before ++ within))
    (hreset : .resetClient client ∉ within)
    (hble : within.countP (GateEvent.overBle client) ≤ 3) :
    t.submissions client ≤ s.submissions client + 3 * (length / 1000 + 2) := by
  have hstart : start.Valid client := by
    refine ⟨hboot, fun state hstate ↦ ?_⟩
    rw [entry, hempty] at hstate
    cases hstate
  have hs : s.Valid client :=
    (gate P).invariant (fun _ _ _ hs hnext ↦ (ClientStep.of_next hnext).valid hs) hstart hbefore
  have hunseen := (hdistinct.unseen hempty).exec hbefore
  have := submissions_le hs hunseen hwithin hlength hreset
  omega

end

namespace GateSample

open RequestSample (primitives desktop device memory)

/-- The request with a challenge of its own. -/
def packet (transport : TransportType) (byte : UInt8) : Incoming where
  transport
  device
  wrapperMessage := primitives.wrapperFormat.encode
    (signWrapperMessage primitives
      (wrapAuthRequest ⟨List.replicate 32 byte, "alice", "desktop", 1000⟩) desktop)

def start : RequestGate := ⟨memory, .empty, fun _ ↦ none⟩

def client : String := hexEncode device.publicKey

/-- Requests over BLE, all at one instant. -/
def overBle (bytes : List UInt8) : List GateEvent :=
  bytes.map fun byte ↦ .receive (packet .ble byte) 1 true

/-- Two requests over UDP, and within the second a third and one over BLE. -/
def mixed : List GateEvent :=
  [.receive (packet .udp 1) 0 true, .receive (packet .udp 2) 0 true,
    .clocks 1000900 5900, .receive (packet .udp 3) 0 true, .receive (packet .ble 4) 1 true]

end GateSample

open GateSample

/-- Nobody counts the requests over BLE: seven reach the prompt at one instant. -/
theorem submissions_over_ble :
    ¬ ∀ (client : String) (start s t : RequestGate) (before within : List GateEvent)
        (length : Nat),
      start.limiter = .empty → 0 ≤ start.now →
      (gate RequestSample.primitives).exec start before = some s →
      (gate RequestSample.primitives).exec s within = some t →
      t.now.toInt ≤ s.now.toInt + length →
      DistinctContents RequestSample.primitives client (before ++ within) →
      .resetClient client ∉ within →
      t.submissions client ≤ s.submissions client + 3 * (length / 1000 + 2) := by
  intro h
  have hrun : ((gate RequestSample.primitives).exec start
      (overBle [1, 2, 3, 4, 5, 6, 7])).map (fun t ↦
        (t.now, t.submissions client)) = some (5000, 7) := by
    decide +kernel
  obtain ⟨t, ht, hend⟩ := Option.map_eq_some_iff.mp hrun
  obtain ⟨hnow, hcount⟩ := Prod.mk.inj hend
  have hreset : GateEvent.resetClient client ∉
      overBle [1, 2, 3, 4, 5, 6, 7] := by
    simp [overBle]
  have hle := h client start start t []
    (overBle [1, 2, 3, 4, 5, 6, 7]) 0 rfl (by decide) rfl ht (by rw [hnow]; decide)
    (by decide +kernel) hreset
  have hnone : start.submissions client = 0 := rfl
  omega

theorem submissions_within_le_sample :
    ∃ t, (gate RequestSample.primitives).exec start mixed = some t ∧
      t.now = 5900 ∧ t.submissions client = 4 ∧
      mixed.countP (GateEvent.overBle client) = 1 ∧
      t.submissions client ≤
        start.submissions client + 3 * (900 / 1000 + 2) := by
  have hrun : ((gate RequestSample.primitives).exec start mixed).map
      (fun t ↦ (t.now, t.submissions client)) = some (5900, 4) := by
    decide +kernel
  obtain ⟨t, ht, hend⟩ := Option.map_eq_some_iff.mp hrun
  obtain ⟨hnow, hcount⟩ := Prod.mk.inj hend
  have hble : mixed.countP (GateEvent.overBle client) = 1 := by
    decide +kernel
  have hreset : GateEvent.resetClient client ∉ mixed := by
    simp [mixed]
  have hbefore : (gate RequestSample.primitives).exec start [] =
      some start := rfl
  refine ⟨t, ht, hnow, hcount, hble, ?_⟩
  exact submissions_within_le rfl (by decide) hbefore ht (by rw [hnow]; decide)
    (by decide +kernel) hreset (by rw [hble]; decide)

end TapAuth.Phone
