import TapAuth.Daemon.Session
import TapAuth.Lib.Machine

/-!
# When an answer is confirmed

A phone repeats its answer until the daemon confirms it.  Over UDP the confirmation is sent
by `send_confirmation_background`, after the answer has been verified.  Over BLE it is put
where the phone can read it by the transport's own `receive_response`, which opens a packet
with the CSK, looks at the type of the message, and stores the confirmation before it hands
the packet to the loop that verifies it.

The machine has the loops of both transports of one session, the packets phones write to
the response characteristic, and what can be read from the confirmation characteristic.
`decided` is a ghost: the packets on which a loop ended with a grant or a denial.

The BLE transport's errors in building a confirmation only keep it from being stored.  The
advertising, the devices that are connected and the shutdown are not modelled.
-/

namespace TapAuth.Daemon

open Shared

/-- Where a transport's loop stands. -/
inductive LoopStage where
  | top (s : LoopState)
  | waiting (s : LoopState)
  /-- `receive_response` of BLE has a packet and sleeps before it returns it. -/
  | holding (s : LoopState) (packet : EncryptedPacket)
  | returned (result : Except AuthHandlerError Unit)
  | aborted
  deriving DecidableEq

def LoopStage.after : LoopState ⊕ Outcome → LoopStage
  | .inl s => .top s
  | .inr outcome => .returned outcome.result

structure ConfirmationState where
  udp : LoopStage
  ble : LoopStage
  /-- What phones have written to the response characteristic. -/
  responseQueue : List Bytes
  /-- What can be read from the confirmation characteristic. -/
  confirmationData : Option Bytes
  /-- The confirmations that are sent over UDP. -/
  sent : List EncryptedPacket
  decided : List EncryptedPacket
  deriving DecidableEq

def ConfirmationState.start : ConfirmationState :=
  ⟨.top .start, .top .start, [], none, [], []⟩

inductive ConfirmationEvent where
  | bleWrite (value : Bytes)
  | udpTop (elapsed : Nat) (sent : Except TransportError Unit)
  | bleTop (elapsed : Nat) (sent : Except TransportError Unit)
  /-- Whatever the socket gives. -/
  | udpReceive (received : Except TransportError ReceiveResult) (env : Ambient)
  /-- `receive_response` takes the first value of the queue. -/
  | blePop (env : Ambient)
  | bleReturn (env : Ambient)
  | bleTimeout (env : Ambient)
  | udpAbort
  | bleAbort

section

variable (P : Primitives) (A : AuthParams)

/-- `create_confirmation`: the packet has the identifier and the algorithm of the request. -/
def createConfirmation (env : Ambient) (request : EncryptedPacket) : Option Bytes := do
  let confirmation ← (createGrantConfirmation A.challenge.bytes).toOption
  let wrapper := signWrapperMessage P (wrapGrantConfirmation confirmation) A.keypair
  let ciphertext ←
    (encryptWithCskAndRandomNonce P A.csk env.nonce (P.wrapperFormat.encode wrapper)).toOption
  return P.packetFormat.encode ⟨request.temporalIdentifier, request.encryptionAlgorithm, ciphertext⟩

/-- What is stored first stays. -/
def storeConfirmation (env : Ambient) (request : EncryptedPacket) (data : Option Bytes) :
    Option Bytes :=
  match data with
  | some data => some data
  | none => createConfirmation P A env request

/-- A value from the queue, opened. -/
def openResponse (value : Bytes) : Option (EncryptedPacket × WrapperMessage) :=
  match P.packetFormat.decode value with
  | .error _ => none
  | .ok packet =>
    match decryptEncryptedPacketWithCskNonce P A.csk packet with
    | .error _ => none
    | .ok wrapper => some (packet, wrapper)

/-- The message type that makes BLE store a confirmation. -/
def isAnswer (wrapper : WrapperMessage) : Bool :=
  match wrapper.payload with
  | some (.authGrant _) => true
  | some (.authDenial _) => true
  | _ => false

/-- One turn of the wait of `receive_response` over BLE: another message is dropped, and the
wait goes on. -/
def takeResponse (request : EncryptedPacket) (s : ConfirmationState) (l : LoopState)
    (value : Bytes) (rest : List Bytes) (env : Ambient) : ConfirmationState :=
  match openResponse P A value with
  | none => { s with responseQueue := rest }
  | some (packet, wrapper) =>
    if isAnswer wrapper then
      { s with
        responseQueue := rest
        ble := .holding l packet
        confirmationData := storeConfirmation P A env request s.confirmationData }
    else { s with responseQueue := rest }

/-- The loop ended with a grant or a denial. -/
def isVerdict : Except AuthHandlerError Unit → Bool
  | .ok () => true
  | .error .explicitDenial => true
  | .error _ => false

/-- The packet a loop has decided on. -/
def decidedBy (received : Except TransportError ReceiveResult) :
    LoopState ⊕ Outcome → List EncryptedPacket
  | .inl _ => []
  | .inr outcome =>
    match received with
    | .ok (.response packet _) => if isVerdict outcome.result then [packet] else []
    | _ => []

/-- What a loop leaves to the background task. -/
def confirmationsOf : LoopState ⊕ Outcome → List EncryptedPacket
  | .inl _ => []
  | .inr outcome => outcome.confirmation.toList

def topStage (l : LoopState) (elapsed : Nat) (sent : Except TransportError Unit) : LoopStage :=
  match loopTop elapsed sent with
  | some outcome => .returned outcome.result
  | none => .waiting l

/-- BLE has no address. -/
def dummyAddr : SocketAddr := ⟨[0, 0, 0, 0], 0⟩

def confirmationNext (request : EncryptedPacket) (s : ConfirmationState) :
    ConfirmationEvent → Option ConfirmationState
  | .bleWrite value => some { s with responseQueue := s.responseQueue ++ [value] }
  | .udpTop elapsed sent =>
    match s.udp with
    | .top l => some { s with udp := topStage l elapsed sent }
    | _ => none
  | .bleTop elapsed sent =>
    match s.ble with
    | .top l => some { s with ble := topStage l elapsed sent }
    | _ => none
  | .udpReceive received env =>
    match s.udp with
    | .waiting l =>
      let next := loopReceive P A l received env
      some { s with
        udp := .after next
        sent := confirmationsOf next ++ s.sent
        decided := decidedBy received next ++ s.decided }
    | _ => none
  | .blePop env =>
    match s.ble, s.responseQueue with
    | .waiting l, value :: rest => some (takeResponse P A request s l value rest env)
    | _, _ => none
  | .bleReturn env =>
    match s.ble with
    | .holding l packet =>
      -- `send_confirmation` of BLE does nothing
      let received := .ok (.response packet dummyAddr)
      let next := loopReceive P A l received env
      some { s with ble := .after next, decided := decidedBy received next ++ s.decided }
    | _ => none
  | .bleTimeout env =>
    match s.ble with
    | .waiting l => some { s with ble := .after (loopReceive P A l (.ok .timeout) env) }
    | _ => none
  | .udpAbort => some { s with udp := .aborted }
  | .bleAbort => some { s with ble := .aborted }

def confirmations (request : EncryptedPacket) : Machine ConfirmationState ConfirmationEvent :=
  ⟨confirmationNext P A request⟩

/-! ## Verdicts -/

/-- The packet is a grant or a denial of the challenge by a paired server. -/
def Decides (packet : EncryptedPacket) : Prop :=
  ∃ wrapper result, decryptEncryptedPacketWithCskNonce P A.csk packet = .ok wrapper ∧
    verdictOf P (storedKeys A.pairedServers) A.challenge wrapper = some result

variable {P A}

theorem isVerdict_of_verdictOf {keys : List Bytes32} {challenge : Bytes32}
    {wrapper : WrapperMessage} {result : Except AuthHandlerError Unit}
    (h : verdictOf P keys challenge wrapper = some result) : isVerdict result := by
  obtain ⟨_, _, rfl, _⟩ | ⟨_, _, rfl, _⟩ := verdictOf_eq_some P h
  · rfl
  · rfl

/-- A loop ends with a grant or a denial, or leaves a confirmation, only on a packet that
decides. -/
theorem loopReceive_decides (l : LoopState) (received : Except TransportError ReceiveResult)
    (env : Ambient) :
    (∀ packet ∈ decidedBy received (loopReceive P A l received env), Decides P A packet) ∧
      (confirmationsOf (loopReceive P A l received env) ≠ [] →
        decidedBy received (loopReceive P A l received env) ≠ []) := by
  rcases received with e | (⟨packet, addr⟩ | -)
  · exact ⟨fun _ h ↦ (List.not_mem_nil h).elim, fun h ↦ absurd rfl h⟩
  · rw [loopReceive_response]
    split_ifs
    · exact ⟨fun _ h ↦ (List.not_mem_nil h).elim, fun h ↦ absurd rfl h⟩
    · cases hdecrypt : decryptEncryptedPacketWithCskNonce P A.csk packet with
      | error e => exact ⟨fun _ h ↦ (List.not_mem_nil h).elim, fun h ↦ absurd rfl h⟩
      | ok wrapper =>
        cases hverdict : verdictOf P (storedKeys A.pairedServers) A.challenge wrapper with
        | none =>
          simp only [hverdict]
          exact ⟨fun _ h ↦ (List.not_mem_nil h).elim, fun h ↦ absurd rfl h⟩
        | some result =>
          simp only [hverdict, decidedBy, isVerdict_of_verdictOf hverdict, if_true,
            List.mem_singleton, forall_eq, ne_eq, List.cons_ne_self, not_false_eq_true,
            implies_true, and_true]
          exact ⟨wrapper, result, hdecrypt, hverdict⟩
  · exact ⟨fun _ h ↦ (List.not_mem_nil h).elim, fun h ↦ absurd rfl h⟩

/-! ## What a step leaves -/

variable (P A) in
/-- The step takes a value from the response queue that opens under the CSK to a grant or a
denial, of whatever challenge and whoever signed it. -/
def popsAnswer (s : ConfirmationState) : ConfirmationEvent → Bool
  | .blePop _ =>
    match s.responseQueue with
    | [] => false
    | value :: _ => (openResponse P A value).any fun opened ↦ isAnswer opened.2
  | _ => false

variable (P A) in
/-- What a step does to what phones can learn. -/
structure Effect (s : ConfirmationState) (e : ConfirmationEvent) (t : ConfirmationState) :
    Prop where
  decided : ∃ new, t.decided = new ++ s.decided ∧ (∀ packet ∈ new, Decides P A packet) ∧
    (t.sent = s.sent ∨ new ≠ [])
  stored : t.confirmationData = s.confirmationData ∨ popsAnswer P A s e

variable {request : EncryptedPacket} {s t : ConfirmationState} {e : ConfirmationEvent}

theorem Effect.quiet (hdecided : t.decided = s.decided) (hsent : t.sent = s.sent)
    (hstored : t.confirmationData = s.confirmationData) : Effect P A s e t :=
  ⟨⟨[], hdecided, fun _ h ↦ (List.not_mem_nil h).elim, .inl hsent⟩, .inl hstored⟩

theorem Effect.of_takeResponse {l : LoopState} {value : Bytes} {rest : List Bytes} {env : Ambient}
    (hqueue : s.responseQueue = value :: rest) :
    Effect P A s (.blePop env) (takeResponse P A request s l value rest env) := by
  unfold takeResponse
  split
  · exact .quiet rfl rfl rfl
  next packet wrapper hopened =>
    split
    · next hanswer =>
        refine ⟨⟨[], rfl, fun _ h ↦ (List.not_mem_nil h).elim, .inl rfl⟩, .inr ?_⟩
        simp [popsAnswer, hqueue, hopened, hanswer]
    · exact .quiet rfl rfl rfl

theorem Effect.of_next (h : (confirmations P A request).next s e = some t) : Effect P A s e t := by
  cases e with
  | bleWrite | udpAbort | bleAbort =>
    cases h
    exact .quiet rfl rfl rfl
  | udpTop | bleTop | bleTimeout =>
    simp only [confirmations, confirmationNext] at h
    split at h
    · cases h
      exact .quiet rfl rfl rfl
    · cases h
  | udpReceive received env =>
    simp only [confirmations, confirmationNext] at h
    split at h
    next l _ =>
      cases h
      obtain ⟨hdecides, hconfirms⟩ := loopReceive_decides l received env (P := P) (A := A)
      refine ⟨⟨_, rfl, hdecides, ?_⟩, .inl rfl⟩
      by_cases hnone : confirmationsOf (loopReceive P A l received env) = []
      · exact .inl (by simp only [hnone, List.nil_append])
      · exact .inr (hconfirms hnone)
    · cases h
  | blePop env =>
    simp only [confirmations, confirmationNext] at h
    split at h
    next hqueue =>
      cases h
      exact .of_takeResponse hqueue
    · cases h
  | bleReturn env =>
    simp only [confirmations, confirmationNext] at h
    split at h
    next l packet _ =>
      cases h
      obtain ⟨hdecides, -⟩ := loopReceive_decides l (.ok (.response packet dummyAddr)) env
        (P := P) (A := A)
      exact ⟨⟨_, rfl, hdecides, .inl rfl⟩, .inl rfl⟩
    · cases h

/-! ## Confirmations come after verdicts -/

variable (P A) in
/-- Every recorded packet decides, and nothing is sent over UDP before there is one. -/
structure ConfirmationState.Sound (s : ConfirmationState) : Prop where
  decided : ∀ packet ∈ s.decided, Decides P A packet
  sent : s.sent ≠ [] → s.decided ≠ []

theorem Effect.sound (h : Effect P A s e t) (hs : s.Sound P A) : t.Sound P A := by
  obtain ⟨new, hdecided, hnew, hsent⟩ := h.decided
  constructor
  · intro packet hpacket
    rw [hdecided] at hpacket
    obtain hmem | hmem := List.mem_append.mp hpacket
    · exact hnew packet hmem
    · exact hs.decided packet hmem
  · intro hne
    rw [hdecided]
    obtain hsame | hmore := hsent
    · exact List.append_ne_nil_of_right_ne_nil _ (hs.sent (hsame ▸ hne))
    · exact List.append_ne_nil_of_left_ne_nil hmore _

variable (P A) in
/-- An answer is taken from the BLE queue only when some packet has been verified. -/
def PopsAfterVerdict (s : ConfirmationState) (e : ConfirmationEvent) : Prop :=
  popsAnswer P A s e → s.decided ≠ []

theorem Effect.readable (h : Effect P A s e t) (hG : PopsAfterVerdict P A s e)
    (hs : s.confirmationData ≠ none → s.decided ≠ []) :
    t.confirmationData ≠ none → t.decided ≠ [] := by
  obtain ⟨new, hdecided, -⟩ := h.decided
  intro hreadable
  rw [hdecided]
  refine List.append_ne_nil_of_right_ne_nil _ ?_
  obtain hsame | hpops := h.stored
  · exact hs (hsame ▸ hreadable)
  · exact hG hpops

/-- **Confirmations.**  In every run of a session's loops, whatever is received and written: a
confirmation is sent over UDP only after a packet was verified as a grant or denial of the
challenge by a paired server; and one can be read over BLE only after that, if every answer
taken from the response queue was taken after that. -/
theorem confirmed_after_verdict {events : List ConfirmationEvent}
    (hrun : (confirmations P A request).exec .start events = some t) :
    (t.sent ≠ [] → ∃ packet ∈ t.decided, Decides P A packet) ∧
      ((confirmations P A request).Along (PopsAfterVerdict P A) .start events →
        t.confirmationData ≠ none → ∃ packet ∈ t.decided, Decides P A packet) := by
  have hsound : t.Sound P A := by
    refine (confirmations P A request).invariant
      (fun _ _ _ hs hnext ↦ (Effect.of_next hnext).sound hs) ⟨?_, ?_⟩ hrun
    · exact fun _ h ↦ (List.not_mem_nil h).elim
    · exact fun h ↦ absurd rfl h
  have hexists : t.decided ≠ [] → ∃ packet ∈ t.decided, Decides P A packet := by
    intro hne
    obtain ⟨packet, hpacket⟩ := List.exists_mem_of_ne_nil _ hne
    exact ⟨packet, hpacket, hsound.decided packet hpacket⟩
  refine ⟨fun hsent ↦ hexists (hsound.sent hsent), fun halong hreadable ↦ hexists ?_⟩
  have hinv : t.confirmationData ≠ none → t.decided ≠ [] :=
    (confirmations P A request).invariant_along
      (I := fun s ↦ s.confirmationData ≠ none → s.decided ≠ [])
      (fun _ _ _ hs hG hnext ↦ (Effect.of_next hnext).readable hG hs)
      (fun h ↦ absurd rfl h) hrun halong
  exact hinv hreadable

end

instance (P : Primitives) (A : AuthParams) (s : ConfirmationState) (e : ConfirmationEvent) :
    Decidable (PopsAfterVerdict P A s e) :=
  inferInstanceAs (Decidable (_ → _))

open Sample

namespace ConfirmationSample

open Sample (primitives params env addr phone sealed)

def request : EncryptedPacket := ⟨List.replicate 16 6, symmetricAlgorithmAes256Gcm, []⟩

/-- The paired phone's grant of an earlier session. -/
def oldGrant : EncryptedPacket :=
  sealed 5 (.authGrant ⟨signEd25519 primitives (phone 5) (List.replicate 31 3 ++ [9])⟩)

/-- Somebody writes it to the response characteristic. -/
def replayed : List ConfirmationEvent :=
  [.bleTop 0 (.ok ()), .bleWrite (primitives.packetFormat.encode oldGrant), .blePop env,
    .bleReturn env]

/-- The grant comes over UDP, then over BLE. -/
def granted : List ConfirmationEvent :=
  [.udpTop 0 (.ok ()), .bleTop 0 (.ok ()),
    .udpReceive (.ok (.response (grant 5) addr)) env,
    .bleWrite (primitives.packetFormat.encode (grant 5)), .blePop env]

end ConfirmationSample

open ConfirmationSample

/-- A replayed grant makes the confirmation of this session's challenge readable, and the loop
then ignores it. -/
theorem confirmation_of_replayed :
    ((confirmations primitives params request).exec .start
      replayed).map (fun t ↦ (t.decided, t.ble,
        (t.confirmationData.bind (openResponse primitives params)).map
          (fun opened ↦ opened.2.payload))) =
      some ([], .top ⟨0, [nonceFingerprint oldGrant]⟩,
        some (some (.grantConfirmation ⟨params.challenge.bytes⟩))) := by
  decide +kernel

theorem confirmed_after_verdict_sample :
    ∃ t, (confirmations primitives params request).exec .start
        granted = some t ∧ t.sent ≠ [] ∧ t.confirmationData ≠ none ∧
      ∃ packet ∈ t.decided, Decides primitives params packet := by
  have hrun : ((confirmations primitives params request).exec
      .start granted).map (fun t ↦
        decide (t.sent ≠ [] ∧ t.confirmationData ≠ none)) = some true := by
    decide +kernel
  obtain ⟨t, ht, hfacts⟩ := Option.map_eq_some_iff.mp hrun
  obtain ⟨hsent, hreadable⟩ := of_decide_eq_true hfacts
  exact ⟨t, ht, hsent, hreadable,
    (confirmed_after_verdict ht).2 (by decide +kernel) hreadable⟩

end TapAuth.Daemon
