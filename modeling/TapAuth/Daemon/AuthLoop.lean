import TapAuth.Lib.Except
import TapAuth.Lib.Reactor
import TapAuth.Shared.Config
import TapAuth.Shared.Protocol
import TapAuth.Shared.Transparent

/-!
# One transport's authentication loop

`authenticate_with_transport` sends the request, waits for a packet, decides on
it and goes round again until a grant or a denial is accepted, the transport
fails or 120 seconds have passed.  The loop is generic in its transport, so its
inputs here are what a transport answers: a `Round` is the time at the top of the
loop, the result of `send_request` and the result of `receive_response`.

The two halves of the loop body are separate definitions (`loopTop` up to the
first wait, `loopReceive` after it), because a session interleaves two of these
loops and can stop between the halves.

Over the loop stands its purpose, `verdictOf`: what a set of trusted keys makes
of one decrypted message.  `loopReceive_response` says that the loop's handling
of a packet is that verdict, and every result about which packets can end a
session goes through it.
-/

namespace TapAuth.Daemon

open Shared

inductive NetworkError where
  | io (text : String)
  | protocol (error : ProtocolError)
  | decode (text : String)
  | noResponse
  | timeout
  deriving DecidableEq, Repr

inductive AuthHandlerError where
  | config (error : ConfigError)
  | network (error : NetworkError)
  | protocol (error : ProtocolError)
  | crypto (error : CryptoError)
  | timeout
  | denied
  | explicitDenial
  | noPairedDevices
  | transportDisabled
  | bleError (text : String)
  deriving DecidableEq, Repr

/-- The errors the two transports answer with: the UDP transport passes on what
the socket reports, the BLE transport describes its failure in a text. -/
inductive TransportError where
  | network (error : NetworkError)
  | bleError (text : String)
  deriving DecidableEq, Repr

def TransportError.toAuthHandlerError : TransportError → AuthHandlerError
  | .network error => .network error
  | .bleError text => .bleError text

/-- A socket address: the octets of an IPv4 or IPv6 address and a port. -/
structure SocketAddr where
  octets : Bytes
  port : UInt16
  deriving DecidableEq

inductive ReceiveResult where
  | response (packet : EncryptedPacket) (addr : SocketAddr)
  | timeout
  deriving DecidableEq

/-- The arguments of `authenticate_with_transport` besides the transport. -/
structure AuthParams where
  csk : ClientSymmetricKey
  keypair : Ed25519KeyPair
  challenge : Bytes32
  pairedServers : ServerMap

/-- `get_session_timeout`, in milliseconds. -/
def getSessionTimeout : Nat := 120000

/-- `get_client_retry_interval`, in milliseconds. -/
def getClientRetryInterval (attempt : Nat) : Nat := 200 * 2 ^ min attempt 5

/-- `ResponseError`: a message that is to be ignored. -/
inductive ResponseError where
  | invalidMessage
  deriving DecidableEq, Repr

section

variable (P : Primitives)

/-! ## Deciding on a message -/

def verifyResponseSignature (wrapper : WrapperMessage) (pairedServers : ServerMap) : Bool :=
  pairedServers.values.any fun server ↦
    match server.key with
    | some key => (verifyWrapperSignature P wrapper key).isOk
    | none => false

/-- The packet the spawned task sends up to three times before it finalizes the
transport; `none` if it could not be built. -/
def sendConfirmationBackground (env : Ambient) (A : AuthParams) : Option EncryptedPacket :=
  match createGrantConfirmation A.challenge.bytes with
  | .error _ => none
  | .ok confirmation =>
    let wrapper := signWrapperMessage P (wrapGrantConfirmation confirmation) A.keypair
    match createEncryptedPacketWithCskNonce P env A.csk wrapper with
    | .error _ => none
    | .ok packet => some packet

/-- What processing a message comes to: a result that ends the loop or
`invalidMessage`, and the confirmation that was handed to a background task. -/
structure Handled where
  result : Except ResponseError (Except AuthHandlerError Unit)
  confirmation : Option EncryptedPacket

def handleAuthGrant (A : AuthParams) (env : Ambient) (wrapper : WrapperMessage) : Handled :=
  let grantValid := A.pairedServers.values.any fun server ↦
    match server.key with
    | some key => (verifyAuthGrant P wrapper A.challenge.bytes key).isOk
    | none => false
  if grantValid then ⟨.ok (.ok ()), sendConfirmationBackground P env A⟩
  else ⟨.error .invalidMessage, none⟩

def handleAuthDenial (A : AuthParams) (env : Ambient) (wrapper : WrapperMessage) : Handled :=
  match wrapper.payload with
  | some (.authDenial denial) =>
    if denial.challenge ≠ A.challenge.bytes then ⟨.error .invalidMessage, none⟩
    else ⟨.ok (.error .explicitDenial), sendConfirmationBackground P env A⟩
  | _ => ⟨.error .invalidMessage, none⟩

def processAuthResponse (A : AuthParams) (env : Ambient) (wrapper : WrapperMessage) : Handled :=
  match wrapper.payload with
  | some (.authGrant _) => handleAuthGrant P A env wrapper
  | some (.authDenial _) => handleAuthDenial P A env wrapper
  | _ => ⟨.error .invalidMessage, none⟩

/-- What the loop remembers of a packet to recognise a replay. -/
def nonceFingerprint (packet : EncryptedPacket) : Bytes :=
  packet.temporalIdentifier ++ packet.ciphertext

/-- The wait for one packet and the checks before its message is processed, with
the new nonce cache. -/
def waitForResponse (A : AuthParams) (nonceCache : List Bytes)
    (received : Except TransportError ReceiveResult) :
    Except AuthHandlerError (Option (WrapperMessage × SocketAddr)) × List Bytes :=
  match received with
  | .error e => (.error e.toAuthHandlerError, nonceCache)
  | .ok .timeout => (.ok none, nonceCache)
  | .ok (.response packet addr) =>
    if nonceFingerprint packet ∈ nonceCache then (.ok none, nonceCache)
    else
      let nonceCache := nonceFingerprint packet :: nonceCache
      match decryptEncryptedPacketWithCskNonce P A.csk packet with
      | .error e => (.error (.protocol e), nonceCache)
      | .ok wrapper =>
        if verifyResponseSignature P wrapper A.pairedServers then
          (.ok (some (wrapper, addr)), nonceCache)
        else (.ok none, nonceCache)

/-! ## The loop -/

/-- The loop's local variables. -/
structure LoopState where
  attempt : Nat
  nonceCache : List Bytes
  deriving DecidableEq

def LoopState.start : LoopState := ⟨0, []⟩

/-- How the loop ended, and the confirmation it left to a background task.  On
every ending without one it has finalized the transport itself. -/
structure Outcome where
  result : Except AuthHandlerError Unit
  confirmation : Option EncryptedPacket
  deriving DecidableEq

/-- The top of the loop: the time check, then `send_request`. -/
def loopTop (elapsed : Nat) (sent : Except TransportError Unit) : Option Outcome :=
  if getSessionTimeout ≤ elapsed then some ⟨.error .timeout, none⟩
  else
    match sent with
    | .error e => some ⟨.error e.toAuthHandlerError, none⟩
    | .ok () => none

/-- The rest of the loop, on what `receive_response` answered. -/
def loopReceive (A : AuthParams) (s : LoopState)
    (received : Except TransportError ReceiveResult) (env : Ambient) : LoopState ⊕ Outcome :=
  match waitForResponse P A s.nonceCache received with
  | (.error e, _) => .inr ⟨.error e, none⟩
  | (.ok none, nonceCache) => .inl ⟨s.attempt + 1, nonceCache⟩
  | (.ok (some (wrapper, _)), nonceCache) =>
    let handled := processAuthResponse P A env wrapper
    match handled.result with
    | .ok result => .inr ⟨result, handled.confirmation⟩
    | .error .invalidMessage => .inl ⟨s.attempt, nonceCache⟩

/-- What one trip round the loop meets. -/
structure Round where
  elapsed : Nat
  sent : Except TransportError Unit
  received : Except TransportError ReceiveResult
  env : Ambient

/-- `authenticate_with_transport` as a loop over rounds. -/
def authLoop (A : AuthParams) : Reactor LoopState Round Outcome where
  turn s r :=
    match loopTop r.elapsed r.sent with
    | some outcome => .inr outcome
    | none => loopReceive P A s r.received r.env

/-- The outcome of the loop, `none` while it still waits. -/
def authenticateWithTransport (A : AuthParams) (rounds : List Round) : Option Outcome :=
  ((authLoop P A).run LoopState.start rounds).getRight?

/-- What the loop returns, `none` while it still waits. -/
def authResult (A : AuthParams) (rounds : List Round) : Option (Except AuthHandlerError Unit) :=
  (authenticateWithTransport P A rounds).map Outcome.result

/-- The packets of a sequence of rounds. -/
def receivedPackets (rounds : List Round) : List EncryptedPacket :=
  rounds.filterMap fun r ↦
    match r.received with
    | .ok (.response packet _) => some packet
    | _ => none

/-! ## Verdicts

What the loop is for: a grant counts if one trusted key verifies both the wrapper
and the signed challenge, a denial if it names the challenge and a trusted key
verifies the wrapper.  Nothing else ends the wait. -/

/-- The keys the daemon trusts: those of all stored servers. -/
def storedKeys (servers : ServerMap) : List Bytes32 := servers.values.filterMap PairedServer.key

/-- `key` verifies both signatures of a grant for `challenge`. -/
def GrantVerifies (challenge : Bytes32) (wrapper : WrapperMessage) (grant : AuthenticationGrant)
    (key : Bytes32) : Prop :=
  verifyWrapperSignature P wrapper key = .ok () ∧
    verifyEd25519 P key challenge.bytes grant.signedChallenge = .ok ()

instance (challenge : Bytes32) (wrapper : WrapperMessage) (grant : AuthenticationGrant)
    (key : Bytes32) : Decidable (GrantVerifies P challenge wrapper grant key) :=
  inferInstanceAs (Decidable (_ ∧ _))

/-- What the keys `keys` make of a message for `challenge`. -/
def verdictOf (keys : List Bytes32) (challenge : Bytes32) (wrapper : WrapperMessage) :
    Option (Except AuthHandlerError Unit) :=
  match wrapper.payload with
  | some (.authGrant grant) =>
    if ∃ key ∈ keys, GrantVerifies P challenge wrapper grant key then some (.ok ()) else none
  | some (.authDenial denial) =>
    if denial.challenge = challenge.bytes ∧
        ∃ key ∈ keys, verifyWrapperSignature P wrapper key = .ok () then
      some (.error .explicitDenial)
    else none
  | _ => none

variable {servers : ServerMap} {wrapper : WrapperMessage} {result : Except AuthHandlerError Unit}
  {challenge : Bytes32} {A : AuthParams} {keys : List Bytes32}

/-- A test of the stored servers by their decoded keys is a test of the stored
keys. -/
theorem any_key_eq_true {test : Bytes32 → Bool} :
    (servers.values.any fun server ↦
      match server.key with
      | some key => test key
      | none => false) = true ↔ ∃ key ∈ storedKeys servers, test key = true := by
  simp only [List.any_eq_true, storedKeys, List.mem_filterMap]
  constructor
  · rintro ⟨server, hmem, htest⟩
    cases hkey : server.key with
    | none => simp [hkey] at htest
    | some key => exact ⟨key, ⟨server, hmem, hkey⟩, by simpa [hkey] using htest⟩
  · rintro ⟨key, ⟨server, hmem, hkey⟩, htest⟩
    exact ⟨server, hmem, by simpa [hkey] using htest⟩

theorem verifyResponseSignature_eq_true :
    verifyResponseSignature P wrapper servers = true ↔
      ∃ key ∈ storedKeys servers, verifyWrapperSignature P wrapper key = .ok () := by
  simp only [verifyResponseSignature, any_key_eq_true, Except.isOk_iff]

/-- Processing a message whose wrapper signature was accepted gives the verdict
of the stored keys. -/
theorem processAuthResponse_eq {env : Ambient}
    (hsig : verifyResponseSignature P wrapper A.pairedServers = true) :
    processAuthResponse P A env wrapper =
      match verdictOf P (storedKeys A.pairedServers) A.challenge wrapper with
      | some result => ⟨.ok result, sendConfirmationBackground P env A⟩
      | none => ⟨.error .invalidMessage, none⟩ := by
  have hkey := (verifyResponseSignature_eq_true P).mp hsig
  unfold processAuthResponse verdictOf
  rcases hp : wrapper.payload with - | (request | grant | denial | confirmation | cancel)
  · rfl
  · rfl
  · have hgrant : ∀ key, (verifyAuthGrant P wrapper A.challenge.bytes key).isOk = true ↔
        GrantVerifies P A.challenge wrapper grant key := by
      intro key
      rw [Except.isOk_iff, verifyAuthGrant_eq_ok, hp]
      simp [GrantVerifies]
    simp only [handleAuthGrant, any_key_eq_true, hgrant]
    split_ifs <;> rfl
  · simp only [handleAuthDenial, hp, hkey, and_true, ite_not]
    split_ifs <;> rfl
  · rfl
  · rfl

/-- A verdict is a grant or a denial of the challenge, and one of the keys has signed it. -/
theorem verdictOf_eq_some (h : verdictOf P keys challenge wrapper = some result) :
    (∃ grant, wrapper.payload = some (.authGrant grant) ∧ result = .ok () ∧
        ∃ key ∈ keys, GrantVerifies P challenge wrapper grant key) ∨
      ∃ denial, wrapper.payload = some (.authDenial denial) ∧ result = .error .explicitDenial ∧
        denial.challenge = challenge.bytes ∧
        ∃ key ∈ keys, verifyWrapperSignature P wrapper key = .ok () := by
  unfold verdictOf at h
  rcases hp : wrapper.payload with - | (request | grant | denial | confirmation | cancel) <;>
    simp only [hp] at h
  case some.authGrant =>
    split_ifs at h with hv
    exact .inl ⟨grant, rfl, (Option.some.inj h).symm, hv⟩
  case some.authDenial =>
    split_ifs at h with hv
    exact .inr ⟨denial, rfl, (Option.some.inj h).symm, hv⟩
  all_goals cases h

/-- A verdict of the stored keys needs a wrapper signature by one of them. -/
theorem verifyResponseSignature_of_verdictOf
    (h : verdictOf P (storedKeys servers) challenge wrapper = some result) :
    verifyResponseSignature P wrapper servers = true := by
  rw [verifyResponseSignature_eq_true]
  obtain ⟨grant, -, -, key, hmem, hverifies⟩ | ⟨denial, -, -, -, hsigned⟩ := verdictOf_eq_some P h
  · exact ⟨key, hmem, hverifies.1⟩
  · exact hsigned

/-- **The loop decides by verdicts.**  What `loopReceive` does with a packet: a
replayed packet is skipped, one that does not open ends the loop with an error,
and a message ends it exactly if the stored keys have a verdict on it. -/
theorem loopReceive_response (A : AuthParams) (s : LoopState) (packet : EncryptedPacket)
    (addr : SocketAddr) (env : Ambient) :
    loopReceive P A s (.ok (.response packet addr)) env =
      if nonceFingerprint packet ∈ s.nonceCache then .inl ⟨s.attempt + 1, s.nonceCache⟩
      else
        match decryptEncryptedPacketWithCskNonce P A.csk packet with
        | .error e => .inr ⟨.error (.protocol e), none⟩
        | .ok wrapper =>
          match verdictOf P (storedKeys A.pairedServers) A.challenge wrapper with
          | some result => .inr ⟨result, sendConfirmationBackground P env A⟩
          | none => .inl
              ⟨if verifyResponseSignature P wrapper A.pairedServers then s.attempt
                else s.attempt + 1, nonceFingerprint packet :: s.nonceCache⟩ := by
  unfold loopReceive waitForResponse
  by_cases hreplay : nonceFingerprint packet ∈ s.nonceCache
  · simp [hreplay]
  cases hdec : decryptEncryptedPacketWithCskNonce P A.csk packet with
  | error e => simp [hreplay, hdec]
  | ok wrapper =>
    by_cases hsig : verifyResponseSignature P wrapper A.pairedServers = true
    · simp only [hreplay, hdec, if_false, hsig, if_true, processAuthResponse_eq P hsig]
      cases verdictOf P (storedKeys A.pairedServers) A.challenge wrapper <;> rfl
    · have hnone : verdictOf P (storedKeys A.pairedServers) A.challenge wrapper = none := by
        cases hv : verdictOf P (storedKeys A.pairedServers) A.challenge wrapper with
        | none => rfl
        | some result => exact absurd (verifyResponseSignature_of_verdictOf P hv) hsig
      simp [hreplay, hdec, hsig, hnone]

/-! ## What can end the loop with a grant or a denial -/

theorem verdictOf_eq_ok (h : verdictOf P keys challenge wrapper = some (.ok ())) :
    ∃ grant, wrapper.payload = some (.authGrant grant) ∧
      ∃ key ∈ keys, GrantVerifies P challenge wrapper grant key := by
  obtain ⟨grant, hpayload, -, hverifies⟩ | ⟨_, _, hresult, _⟩ := verdictOf_eq_some P h
  · exact ⟨grant, hpayload, hverifies⟩
  · cases hresult

theorem verdictOf_eq_explicitDenial
    (h : verdictOf P keys challenge wrapper = some (.error .explicitDenial)) :
    ∃ denial, wrapper.payload = some (.authDenial denial) ∧ denial.challenge = challenge.bytes ∧
      ∃ key ∈ keys, verifyWrapperSignature P wrapper key = .ok () := by
  obtain ⟨_, _, hresult, _⟩ | ⟨denial, hpayload, -, hsigned⟩ := verdictOf_eq_some P h
  · cases hresult
  · exact ⟨denial, hpayload, hsigned⟩

/-- A result that is neither a grant nor a denial by the user. -/
def IsFailure (result : Except AuthHandlerError Unit) : Prop :=
  ∃ e, result = .error e ∧ e ≠ .explicitDenial

theorem isFailure_toAuthHandlerError (e : TransportError) :
    IsFailure (.error e.toAuthHandlerError) := by
  refine ⟨e.toAuthHandlerError, rfl, ?_⟩
  cases e <;> simp [TransportError.toAuthHandlerError]

/-- A turn that ends the loop fails, or passes on the verdict of the stored keys
on the packet it received. -/
theorem turn_eq_inr {s : LoopState} {r : Round} {outcome : Outcome}
    (h : (authLoop P A).turn s r = .inr outcome) :
    IsFailure outcome.result ∨
      ∃ packet addr wrapper, r.received = .ok (.response packet addr) ∧
        decryptEncryptedPacketWithCskNonce P A.csk packet = .ok wrapper ∧
        verdictOf P (storedKeys A.pairedServers) A.challenge wrapper = some outcome.result := by
  simp only [authLoop] at h
  cases htop : loopTop r.elapsed r.sent with
  | some early =>
    left
    rw [htop] at h
    cases h
    unfold loopTop at htop
    split_ifs at htop with hlate
    · cases htop
      exact ⟨.timeout, rfl, by simp⟩
    · cases hs : r.sent with
      | ok u => simp [hs] at htop
      | error e =>
        rw [hs] at htop
        cases htop
        exact isFailure_toAuthHandlerError e
  | none =>
    rw [htop] at h
    change loopReceive P A s r.received r.env = .inr outcome at h
    rcases hr : r.received with e | (⟨packet, addr⟩ | -)
    · rw [hr] at h
      cases h
      exact .inl (isFailure_toAuthHandlerError e)
    · rw [hr, loopReceive_response] at h
      split_ifs at h
      cases hdec : decryptEncryptedPacketWithCskNonce P A.csk packet with
      | error e =>
        rw [hdec] at h
        cases h
        exact .inl ⟨.protocol e, rfl, by simp⟩
      | ok wrapper =>
        cases hv : verdictOf P (storedKeys A.pairedServers) A.challenge wrapper with
        | none => simp [hdec, hv] at h
        | some result =>
          simp only [hdec, hv] at h
          cases h
          exact .inr ⟨packet, addr, wrapper, rfl, hdec, hv⟩
    · rw [hr] at h
      cases h

theorem mem_receivedPackets {rounds : List Round} {r : Round} {packet : EncryptedPacket}
    {addr : SocketAddr} (hmem : r ∈ rounds) (hr : r.received = .ok (.response packet addr)) :
    packet ∈ receivedPackets rounds :=
  List.mem_filterMap.mpr ⟨r, hmem, by rw [hr]⟩

/-- A result of the loop is a failure or the verdict of the stored keys on one of
the packets received. -/
theorem authResult_eq_some {rounds : List Round} (h : authResult P A rounds = some result) :
    IsFailure result ∨
      ∃ packet ∈ receivedPackets rounds, ∃ wrapper,
        decryptEncryptedPacketWithCskNonce P A.csk packet = .ok wrapper ∧
        verdictOf P (storedKeys A.pairedServers) A.challenge wrapper = some result := by
  obtain ⟨outcome, hout, rfl⟩ := Option.map_eq_some_iff.mp h
  have hrun : (authLoop P A).run LoopState.start rounds = .inr outcome := by
    simpa [authenticateWithTransport] using hout
  obtain ⟨s, r, hmem, -, hturn⟩ :=
    (authLoop P A).exists_turn_of_run (I := fun _ ↦ True) (fun _ _ _ _ _ ↦ trivial) trivial hrun
  rcases turn_eq_inr P hturn with hfail | ⟨packet, addr, wrapper, hr, hdec, hv⟩
  · exact .inl hfail
  · exact .inr ⟨packet, mem_receivedPackets hmem hr, wrapper, hdec, hv⟩

/-- **Grants and denials are real.**  Whatever a transport delivers, the loop
returns success only on a received packet that opens under the CSK to a grant
both of whose signatures verify under one stored key, and an explicit denial only
on a received denial of this very challenge signed by a stored key. -/
theorem authResult_sound (A : AuthParams) (rounds : List Round) :
    (authResult P A rounds = some (.ok ()) →
      ∃ packet ∈ receivedPackets rounds, ∃ wrapper grant,
        decryptEncryptedPacketWithCskNonce P A.csk packet = .ok wrapper ∧
        wrapper.payload = some (.authGrant grant) ∧
        ∃ key ∈ storedKeys A.pairedServers,
          verifyWrapperSignature P wrapper key = .ok () ∧
          verifyEd25519 P key A.challenge.bytes grant.signedChallenge = .ok ()) ∧
    (authResult P A rounds = some (.error .explicitDenial) →
      ∃ packet ∈ receivedPackets rounds, ∃ wrapper denial,
        decryptEncryptedPacketWithCskNonce P A.csk packet = .ok wrapper ∧
        wrapper.payload = some (.authDenial denial) ∧
        denial.challenge = A.challenge.bytes ∧
        ∃ key ∈ storedKeys A.pairedServers, verifyWrapperSignature P wrapper key = .ok ()) := by
  constructor
  · intro h
    rcases authResult_eq_some P h with ⟨e, he, -⟩ | ⟨packet, hmem, wrapper, hdec, hv⟩
    · cases he
    · obtain ⟨grant, hp, hkey⟩ := verdictOf_eq_ok P hv
      exact ⟨packet, hmem, wrapper, grant, hdec, hp, hkey⟩
  · intro h
    rcases authResult_eq_some P h with ⟨e, he, hne⟩ | ⟨packet, hmem, wrapper, hdec, hv⟩
    · cases he
      exact absurd rfl hne
    · obtain ⟨denial, hp, hch, hkey⟩ := verdictOf_eq_explicitDenial P hv
      exact ⟨packet, hmem, wrapper, denial, hdec, hp, hch, hkey⟩

end

/-! ## A concrete phone

A phone answers a request over the transparent primitives. -/

namespace Sample

def primitives : Primitives := Transparent.primitives

def csk : ClientSymmetricKey := FixedBytes.fill 32 1

def desktop : Ed25519KeyPair := ⟨FixedBytes.fill 32 2⟩

def challenge : Bytes32 := FixedBytes.fill 32 3

def env : Ambient := ⟨some 60, some (FixedBytes.fill 12 4)⟩

def addr : SocketAddr := ⟨[192, 168, 0, 7], 36692⟩

/-- A phone's key pair. -/
def phone (n : UInt8) : Ed25519KeyPair := ⟨FixedBytes.fill 32 n⟩

/-- The entry of a phone that may authenticate `users`. -/
def server (n : UInt8) (users : List String) : PairedServer :=
  ⟨"phone", hexEncode ((phone n).verifyingKeyBytes primitives).bytes, users, 0⟩

/-- A message signed by a phone and sealed under the CSK. -/
def sealed (n : UInt8) (payload : Payload) : EncryptedPacket :=
  ((createEncryptedPacketWithCskNonce primitives env csk
    (signWrapperMessage primitives (wrapPayload payload) (phone n))).toOption).getD ⟨[], 0, []⟩

def grant (n : UInt8) : EncryptedPacket :=
  sealed n (.authGrant ⟨signEd25519 primitives (phone n) challenge.bytes⟩)

def denial (n : UInt8) : EncryptedPacket := sealed n (.authDenial ⟨challenge.bytes⟩)

/-- One phone, paired for one user. -/
def params : AuthParams := ⟨csk, desktop, challenge, AList.singleton "5" (server 5 ["alice"])⟩

/-- A round in which a packet arrives. -/
def arrival (packet : EncryptedPacket) : Round := ⟨0, .ok (), .ok (.response packet addr), env⟩

end Sample

open Sample

/-- The stored phone's grant ends the loop with success, its denial with an
explicit denial, and both are found among the packets received. -/
theorem authResult_sound_sample :
    (authResult primitives params [arrival (grant 5)] =
        some (.ok ()) ∧
      ∃ packet ∈ receivedPackets [arrival (grant 5)], ∃ wrapper grant,
        decryptEncryptedPacketWithCskNonce primitives csk packet = .ok wrapper ∧
        wrapper.payload = some (.authGrant grant) ∧
        ∃ key ∈ storedKeys params.pairedServers,
          verifyWrapperSignature primitives wrapper key = .ok () ∧
          verifyEd25519 primitives key challenge.bytes grant.signedChallenge =
            .ok ()) ∧
    (authResult primitives params [arrival (denial 5)] =
        some (.error .explicitDenial) ∧
      ∃ packet ∈ receivedPackets [arrival (denial 5)], ∃ wrapper denial,
        decryptEncryptedPacketWithCskNonce primitives csk packet = .ok wrapper ∧
        wrapper.payload = some (.authDenial denial) ∧
        denial.challenge = challenge.bytes ∧
        ∃ key ∈ storedKeys params.pairedServers,
          verifyWrapperSignature primitives wrapper key = .ok ()) := by
  have hgrant : authResult primitives params [arrival (grant 5)] =
      some (.ok ()) := by decide +kernel
  have hdenial : authResult primitives params [arrival (denial 5)] =
      some (.error .explicitDenial) := by decide +kernel
  exact ⟨⟨hgrant, (authResult_sound primitives params _).1 hgrant⟩,
    ⟨hdenial, (authResult_sound primitives params _).2 hdenial⟩⟩

end TapAuth.Daemon
