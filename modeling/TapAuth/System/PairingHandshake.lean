import TapAuth.Lib.Framing
import TapAuth.Lib.Machine
import TapAuth.Shared.ServerPairing
import TapAuth.Shared.Transparent

/-!
# The handshake of the two sessions of the shared crate

`ClientPairingSession` on the desktop against `ServerPairingSession::complete_pairing`
over one connection.  The connection carries frames as bytes, in order, and delivers them
in any portions; the two sides run at their own pace, and the desktop may send the CSK
before the phone has read the response.

`Phase` is the handshake as it is meant to go: seven steps from the first hello to the last
confirmation, with one place where the sides can overtake each other.  Every run of the two
sessions follows it (`at_of_exec`), and from every state of a run the handshake can be
brought to its end (`handshake_completes`).

Nobody interferes with the connection here, and the user confirms the code.
-/

namespace TapAuth.System

open Shared Framing ByteChannel FixedBytes

/-- The two sides, with the random numbers they will draw. -/
structure HandshakeSetup where
  clientX25519 : X25519KeyPair
  clientEd25519 : Ed25519KeyPair
  clientName : String
  csk : ClientSymmetricKey
  username : String
  cskNonce : FixedBytes 12
  serverX25519 : X25519KeyPair
  serverEd25519 : Bytes32
  serverName : String
  completeNonce : FixedBytes 12

/-- The desktop.  Its user sees the code in `showingSas`. -/
inductive HandshakeClient where
  | awaitingHello
  | showingSas (initiated : ClientPairingSession.Initiated)
  | awaitingComplete (initiated : ClientPairingSession.Initiated)
  | paired (initiated : ClientPairingSession.Initiated)
  | failed (error : ProtocolError)
  deriving DecidableEq

/-- The phone. -/
inductive HandshakeServer where
  | starting
  | awaitingResponse
  | awaitingCsk (session : ServerPairingSession) (response : PairingResponse) (sas : String)
  | paired (completed : ServerPairingSession.Completed)
  | failed (error : ProtocolError)

structure Handshake where
  client : HandshakeClient
  server : HandshakeServer
  toClient : ByteChannel
  toServer : ByteChannel

inductive HandshakeLabel where
  | client
  | server
  /-- So many bytes arrive at the desktop. -/
  | toClient (n : Nat)
  | toServer (n : Nat)

/-- A side that reads a frame from what has arrived: it waits for the frame, refuses a length
that is too long, or goes on with the payload. -/
def withFrame {α : Type} (input : ByteChannel) (refused : ProtocolError → α)
    (k : Bytes → ByteChannel → α) : Option α :=
  match read maxMessageSize input.arrived with
  | .incomplete => none
  | .tooLong => some (refused .invalidMessageFormat)
  | .frame payload rest => some (k payload { input with arrived := rest })

namespace HandshakeSetup

variable (P : Primitives) (S : HandshakeSetup)

def clientSession : ClientPairingSession :=
  ClientPairingSession.new S.clientX25519 S.clientEd25519

def serverSession : ServerPairingSession :=
  ServerPairingSession.new S.serverX25519 S.serverEd25519

/-- One step of the desktop: its next state, what is left of its input and what it sends.  What
a side still sends when it fails is left out. -/
def clientStep (input : ByteChannel) :
    HandshakeClient → Option (HandshakeClient × ByteChannel × Bytes)
  | .awaitingHello =>
    withFrame input (fun e ↦ (.failed e, input, [])) fun payload input ↦
      match S.clientSession.initiatePairing P (.ok payload) S.clientName with
      | .ok initiated => (.showingSas initiated, input, encode initiated.response)
      | .error e => (.failed e, input, [])
  | .showingSas initiated =>
    match initiated.session.cskMessage P (some S.cskNonce) S.csk S.username with
    | .ok message =>
      some (.awaitingComplete initiated, input, encode (P.cskFormat.encode message))
    | .error e => some (.failed e, input, [])
  | .awaitingComplete initiated =>
    withFrame input (fun e ↦ (.failed e, input, [])) fun payload input ↦
      match initiated.session.receivePairingComplete P (.ok payload) S.csk with
      | .ok () => (.paired initiated, input, [])
      | .error e => (.failed e, input, [])
  | _ => none

/-- One step of the phone. -/
def serverStep (input : ByteChannel) :
    HandshakeServer → Option (HandshakeServer × ByteChannel × Bytes)
  | .starting =>
    some (.awaitingResponse, input, encode
      (P.helloFormat.encode (S.serverSession.pairingHello P S.serverName)))
  | .awaitingResponse =>
    withFrame input (fun e ↦ (.failed e, input, [])) fun payload input ↦
      match S.serverSession.awaitResponse P (.ok payload) with
      | .ok (session, response, sas) => (.awaitingCsk session response sas, input, [])
      | .error e => (.failed e, input, [])
  | .awaitingCsk session response sas =>
    withFrame input (fun e ↦ (.failed e, input, [])) fun payload input ↦
      match session.awaitCsk P (some S.completeNonce) (.ok payload) with
      | .ok (csk, complete) =>
        match ClientPairingSession.keyField response.ed25519PublicKey with
        | .ok key =>
          (.paired ⟨csk, key, response.deviceName, sas⟩, input, encode complete)
        | .error e => (.failed e, input, encode complete)
      | .error e => (.failed e, input, [])
  | _ => none

/-- The two sides and the connection between them. -/
def handshake : Machine Handshake HandshakeLabel where
  next q
    | .client =>
      (S.clientStep P q.toClient q.client).map fun (client, toClient, sent) ↦
        { q with client, toClient, toServer := q.toServer.send sent }
    | .server =>
      (S.serverStep P q.toServer q.server).map fun (server, toServer, sent) ↦
        { q with server, toServer, toClient := q.toClient.send sent }
    | .toClient n => some { q with toClient := q.toClient.deliver n }
    | .toServer n => some { q with toServer := q.toServer.deliver n }

/-- A connection that has just been made. -/
def connected : Handshake := ⟨.awaitingHello, .starting, .empty, .empty⟩

end HandshakeSetup

/-! ## What the two sides compute -/

/-- The primitives do not refuse what the handshake asks of them: HKDF has limits only on the
length of its output, AES-GCM on that of its input. -/
structure Works (P : Primitives) : Prop where
  derives : ∀ ikm info, (P.hkdf ikm info 32).isSome = true
  codes : ∀ ikm info, (P.hkdf ikm info 8).isSome = true
  encrypts : ∀ key nonce (message : Bytes32),
    (P.aesGcmEncrypt key nonce message.bytes []).isSome = true

/-- The values that go into the four messages. -/
structure Agreed (P : Primitives) (S : HandshakeSetup) where
  psk : PairingSymmetricKey
  sas : String
  encryptedCsk : Bytes
  encryptedHash : Bytes
  psk_eq : derivePskFromX25519 P
    (S.clientX25519.diffieHellman P (S.serverX25519.publicKeyBytes P)) = .ok psk
  sas_eq : deriveSas P psk (S.clientX25519.publicKeyBytes P) (S.serverX25519.publicKeyBytes P) =
    .ok sas
  csk_eq : encryptWithPsk P psk (some S.cskNonce) S.csk.bytes = .ok encryptedCsk
  hash_eq : encryptWithPsk P psk (some S.completeNonce) (P.sha256 S.csk.bytes).bytes =
    .ok encryptedHash

theorem Works.exists_encryptWithPsk {P : Primitives} (h : Works P) (psk : PairingSymmetricKey)
    (nonce : FixedBytes 12) (data : Bytes32) :
    ∃ ciphertext, encryptWithPsk P psk (some nonce) data.bytes = .ok ciphertext := by
  obtain ⟨body, hbody⟩ := Option.isSome_iff_exists.mp (h.encrypts psk nonce data)
  exact ⟨nonce.bytes ++ body, by simp [encryptWithPsk, encryptWithNonce, encryptAesGcm, hbody, bind,
    Except.bind, pure, Except.pure]⟩

theorem Works.nonempty_agreed {P : Primitives} (h : Works P) (S : HandshakeSetup) :
    Nonempty (Agreed P S) := by
  obtain ⟨psk, hpsk⟩ : ∃ psk, derivePskFromX25519 P
      (S.clientX25519.diffieHellman P (S.serverX25519.publicKeyBytes P)) = .ok psk := by
    obtain ⟨psk, hpsk⟩ := Option.isSome_iff_exists.mp (h.derives
      (S.clientX25519.diffieHellman P (S.serverX25519.publicKeyBytes P)).bytes
      (ascii "tapauth-pairing-key"))
    exact ⟨psk, by rw [derivePskFromX25519, hpsk]⟩
  obtain ⟨sas, hsas⟩ : ∃ sas, deriveSas P psk (S.clientX25519.publicKeyBytes P)
      (S.serverX25519.publicKeyBytes P) = .ok sas := by
    obtain ⟨output, houtput⟩ := Option.isSome_iff_exists.mp (h.codes psk.bytes
      (ascii "tapauth-sas" ++ (S.clientX25519.publicKeyBytes P).bytes ++
        (S.serverX25519.publicKeyBytes P).bytes))
    exact ⟨_, by rw [deriveSas, houtput]⟩
  obtain ⟨encryptedCsk, hcsk⟩ := h.exists_encryptWithPsk psk S.cskNonce S.csk
  obtain ⟨encryptedHash, hhash⟩ :=
    h.exists_encryptWithPsk psk S.completeNonce (P.sha256 S.csk.bytes)
  exact ⟨⟨psk, sas, encryptedCsk, encryptedHash, hpsk, hsas, hcsk, hhash⟩⟩

namespace Agreed

variable {P : Primitives} {S : HandshakeSetup} (A : Agreed P S)

/-- The desktop's session after its first phase. -/
def clientSession : ClientPairingSession :=
  { S.clientSession with
    serverX25519Public := some (S.serverX25519.publicKeyBytes P)
    psk := some A.psk
    sas := some A.sas
    serverSupportedSymmetric := [symmetricAlgorithmAes256Gcm]
    serverSupportedHash := [hashAlgorithmSha256]
    serverSupportedSignature := [signatureAlgorithmEd25519] }

/-- The phone's session after the response. -/
def serverSession : ServerPairingSession :=
  { S.serverSession with
    clientX25519Public := some (S.clientX25519.publicKeyBytes P)
    psk := some A.psk
    sas := some A.sas }

def responseMessage : PairingResponse := A.clientSession.pairingResponse P S.clientName

/-! ### The four payloads -/

def hello (_ : Agreed P S) : Bytes :=
  P.helloFormat.encode (S.serverSession.pairingHello P S.serverName)

def response : Bytes := P.responseFormat.encode A.responseMessage

def cskMessage : Bytes := P.cskFormat.encode ⟨A.encryptedCsk, S.username⟩

def complete : Bytes := P.completeFormat.encode ⟨true, hashAlgorithmSha256, A.encryptedHash⟩

/-- Each frame stays within `MAX_MESSAGE_SIZE`. -/
structure Fits : Prop where
  hello : A.hello.length ≤ maxMessageSize
  response : A.response.length ≤ maxMessageSize
  cskMessage : A.cskMessage.length ≤ maxMessageSize
  complete : A.complete.length ≤ maxMessageSize

/-- What the desktop holds when it shows the code. -/
def initiated : ClientPairingSession.Initiated :=
  ⟨A.clientSession, A.response, S.serverEd25519, S.serverName, A.sas⟩

/-- What the phone returns. -/
def completed : ServerPairingSession.Completed :=
  ⟨S.csk, S.clientEd25519.verifyingKeyBytes P, S.clientName, A.sas⟩

/-- X25519 commutes, so the phone derives the same PSK. -/
theorem server_psk_eq : derivePskFromX25519 P
    (S.serverX25519.diffieHellman P (S.clientX25519.publicKeyBytes P)) = .ok A.psk := by
  have hcomm : S.serverX25519.diffieHellman P (S.clientX25519.publicKeyBytes P) =
      S.clientX25519.diffieHellman P (S.serverX25519.publicKeyBytes P) := P.x25519_comm _ _
  rw [hcomm, A.psk_eq]

variable {A}

theorem readFrame_ok {payload : Bytes} (h : payload.length ≤ maxMessageSize) :
    readFrame (.ok payload) = .ok payload := if_neg (Nat.not_lt.mpr h)

theorem keyField_bytes (key : Bytes32) : ClientPairingSession.keyField key.bytes = .ok key :=
  ClientPairingSession.keyField_eq_ok.mpr (ofBytes_bytes key)

theorem initiatePairing_hello (h : A.Fits) :
    S.clientSession.initiatePairing P (.ok A.hello) S.clientName = .ok A.initiated := by
  have hread : ClientPairingSession.receivePairingHello P (.ok A.hello) =
      .ok (S.serverSession.pairingHello P S.serverName) := by
    simp only [ClientPairingSession.receivePairingHello, Except.bind_eq_ok_iff]
    refine ⟨A.hello, readFrame_ok h.hello, _,
      ClientPairingSession.decodeFrame_eq_ok.mpr (P.helloFormat.decode_encode _), rfl⟩
  simp only [ClientPairingSession.initiatePairing, Except.bind_eq_ok_iff]
  exact ⟨_, hread, _, keyField_bytes _, A.psk, Except.mapError_eq_ok_iff.mpr A.psk_eq, A.sas,
    Except.mapError_eq_ok_iff.mpr A.sas_eq, S.serverEd25519, keyField_bytes _, rfl⟩

theorem cskMessage_initiated :
    A.initiated.session.cskMessage P (some S.cskNonce) S.csk S.username =
      .ok ⟨A.encryptedCsk, S.username⟩ := by
  have hpsk : A.initiated.session.psk = some A.psk := rfl
  simp only [ClientPairingSession.cskMessage, hpsk, Except.bind_eq_ok_iff]
  exact ⟨_, Except.mapError_eq_ok_iff.mpr A.csk_eq, rfl⟩

theorem awaitResponse_response (h : A.Fits) :
    S.serverSession.awaitResponse P (.ok A.response) =
      .ok (A.serverSession, A.responseMessage, A.sas) := by
  have hread : ServerPairingSession.receivePairingResponse P (.ok A.response) =
      .ok A.responseMessage := by
    simp only [ServerPairingSession.receivePairingResponse, Except.bind_eq_ok_iff]
    exact ⟨A.response, readFrame_ok h.response, _,
      ClientPairingSession.decodeFrame_eq_ok.mpr (P.responseFormat.decode_encode _), rfl⟩
  simp only [ServerPairingSession.awaitResponse, Except.bind_eq_ok_iff]
  exact ⟨_, hread, _, keyField_bytes _, A.psk, Except.mapError_eq_ok_iff.mpr A.server_psk_eq,
    A.sas, Except.mapError_eq_ok_iff.mpr A.sas_eq, rfl⟩

theorem receiveCskMessage_cskMessage (h : A.Fits) :
    A.serverSession.receiveCskMessage P (.ok A.cskMessage) =
      .ok (S.csk, P.sha256 S.csk.bytes) := by
  simp only [ServerPairingSession.receiveCskMessage, Except.bind_eq_ok_iff]
  exact ⟨A.cskMessage, readFrame_ok h.cskMessage, _,
    ClientPairingSession.decodeFrame_eq_ok.mpr (P.cskFormat.decode_encode _), A.psk, rfl,
    S.csk.bytes, Except.mapError_eq_ok_iff.mpr (decryptWithNonce_of_encryptWithNonce P A.csk_eq),
    S.csk, keyField_bytes _, rfl⟩

theorem awaitCsk_cskMessage (h : A.Fits) :
    A.serverSession.awaitCsk P (some S.completeNonce) (.ok A.cskMessage) =
      .ok (S.csk, A.complete) := by
  have hcomplete : A.serverSession.pairingComplete P (some S.completeNonce)
      (P.sha256 S.csk.bytes) = .ok ⟨true, hashAlgorithmSha256, A.encryptedHash⟩ := by
    simp only [ServerPairingSession.pairingComplete, Except.bind_eq_ok_iff]
    exact ⟨A.psk, rfl, _, Except.mapError_eq_ok_iff.mpr A.hash_eq, rfl⟩
  simp only [ServerPairingSession.awaitCsk, Except.bind_eq_ok_iff]
  exact ⟨_, receiveCskMessage_cskMessage h, _, hcomplete, rfl⟩

theorem receivePairingComplete_complete (h : A.Fits) :
    A.initiated.session.receivePairingComplete P (.ok A.complete) S.csk = .ok () := by
  have hpsk : A.initiated.session.psk = some A.psk := rfl
  simp only [ClientPairingSession.receivePairingComplete, hpsk, Except.bind_eq_ok_iff]
  refine ⟨A.complete, readFrame_ok h.complete, _,
    ClientPairingSession.decodeFrame_eq_ok.mpr (P.completeFormat.decode_encode _), ?_⟩
  simp only [Bool.not_true, Bool.false_eq_true, if_false, Except.bind_eq_ok_iff]
  exact ⟨_, Except.mapError_eq_ok_iff.mpr (decryptWithNonce_of_encryptWithNonce P A.hash_eq),
    if_neg (fun hne ↦ hne rfl)⟩

/-- The pieces together: the desktop's second phase. -/
theorem finishPairing_complete (h : A.Fits) :
    A.initiated.session.finishPairing P (some S.cskNonce) S.csk S.username (.ok A.complete) =
      .ok () := by
  simp only [ClientPairingSession.finishPairing, Except.bind_eq_ok_iff]
  exact ⟨_, cskMessage_initiated, receivePairingComplete_complete h⟩

/-- And the phone's whole function. -/
theorem completePairing_frames (h : A.Fits) :
    S.serverSession.completePairing P (some S.completeNonce) (.ok A.response) (.ok A.cskMessage) =
      .ok A.completed := by
  simp only [ServerPairingSession.completePairing, Except.bind_eq_ok_iff]
  exact ⟨_, awaitResponse_response h, _, awaitCsk_cskMessage h, _, keyField_bytes _, rfl⟩

end Agreed

/-! ## The phases -/

/-- Where an undisturbed handshake stands. -/
inductive Phase where
  | connected
  | greeted
  | answered
  /-- The desktop has sent the CSK before the phone has read the response. -/
  | hurried
  | codesShown
  | keySent
  | confirmed
  | done

namespace Phase

variable {P : Primitives} {S : HandshakeSetup} (A : Agreed P S)

def client : Phase → HandshakeClient
  | .connected | .greeted => .awaitingHello
  | .answered | .codesShown => .showingSas A.initiated
  | .hurried | .keySent | .confirmed => .awaitingComplete A.initiated
  | .done => .paired A.initiated

def server : Phase → HandshakeServer
  | .connected => .starting
  | .greeted | .answered | .hurried => .awaitingResponse
  | .codesShown | .keySent => .awaitingCsk A.serverSession A.responseMessage A.sas
  | .confirmed | .done => .paired A.completed

/-- What is on the way to the desktop, or has arrived and is not yet read. -/
def toClient : Phase → Bytes
  | .greeted => encode A.hello
  | .confirmed => encode A.complete
  | _ => []

def toServer : Phase → Bytes
  | .answered => encode A.response
  | .hurried => encode A.response ++ encode A.cskMessage
  | .keySent => encode A.cskMessage
  | _ => []

/-- How many steps of the two sides are left. -/
def left : Phase → Nat
  | .connected => 6
  | .greeted => 5
  | .answered => 4
  | .hurried | .codesShown => 3
  | .keySent => 2
  | .confirmed => 1
  | .done => 0

end Phase

/-- The handshake is in a phase, however much of the bytes on the way has arrived. -/
structure At {P : Primitives} {S : HandshakeSetup} (A : Agreed P S) (phase : Phase)
    (q : Handshake) : Prop where
  client : q.client = phase.client A
  server : q.server = phase.server A
  toClient : q.toClient.content = phase.toClient A
  toServer : q.toServer.content = phase.toServer A

theorem maxMessageSize_lt : maxMessageSize < 4294967296 := by decide

section

variable {α : Type} {input : ByteChannel} {refused : ProtocolError → α}
  {k : Bytes → ByteChannel → α} {payload rest : Bytes}

/-- A side that waits for a frame goes on with the one at the head of its input. -/
theorem eq_of_withFrame {result : α} (h : payload.length ≤ maxMessageSize)
    (hcontent : input.content = encode payload ++ rest)
    (hread : withFrame input refused k = some result) :
    ∃ input', result = k payload input' ∧ input'.content = rest := by
  unfold withFrame at hread
  obtain hnone | ⟨more, hsome, hmore⟩ := read_of_content h maxMessageSize_lt hcontent
  · rw [hnone] at hread
    cases hread
  · rw [hsome] at hread
    cases hread
    exact ⟨{ input with arrived := more }, rfl, hmore⟩

/-- When everything has arrived, it can go on. -/
theorem isSome_withFrame_deliver (h : payload.length ≤ maxMessageSize)
    (hcontent : input.content = encode payload ++ rest) :
    (withFrame (input.deliver input.onTheWay.length) refused k).isSome = true := by
  rw [withFrame, arrived_deliver_all, hcontent,
    read_encode h maxMessageSize_lt rest]
  rfl

/-- A side that waits without anything on the way goes on waiting. -/
theorem withFrame_of_content_nil (hcontent : input.content = []) :
    withFrame input refused k = none := by
  have harrived : input.arrived = [] := (List.append_eq_nil_iff.mp hcontent).1
  rw [withFrame, harrived]
  rfl

end

section

variable {P : Primitives} {S : HandshakeSetup} {A : Agreed P S} {phase : Phase} {q r : Handshake}

/-- A step of the desktop leads to a later phase. -/
theorem At.client_next (hfits : A.Fits) (h : At A phase q)
    (hnext : (S.handshake P).next q .client = some r) :
    ∃ phase', phase'.left < phase.left ∧ At A phase' r := by
  obtain ⟨⟨client, toClient, sent⟩, hstep, rfl⟩ := Option.map_eq_some_iff.mp hnext
  rw [h.client] at hstep
  cases phase with
  | connected =>
    rw [Phase.client, HandshakeSetup.clientStep, withFrame_of_content_nil h.toClient] at hstep
    cases hstep
  | greeted =>
    have hcontent := h.toClient.trans (List.append_nil (encode A.hello)).symm
    simp only [Phase.client, HandshakeSetup.clientStep] at hstep
    obtain ⟨input, hmoved, hinput⟩ := eq_of_withFrame hfits.hello hcontent hstep
    rw [Agreed.initiatePairing_hello hfits] at hmoved
    cases hmoved
    refine ⟨.answered, by decide, rfl, h.server, hinput, ?_⟩
    rw [content_send, h.toServer]
    rfl
  | answered =>
    simp only [Phase.client, HandshakeSetup.clientStep, Agreed.cskMessage_initiated] at hstep
    cases hstep
    refine ⟨.hurried, by decide, rfl, h.server, h.toClient, ?_⟩
    rw [content_send, h.toServer]
    rfl
  | codesShown =>
    simp only [Phase.client, HandshakeSetup.clientStep, Agreed.cskMessage_initiated] at hstep
    cases hstep
    refine ⟨.keySent, by decide, rfl, h.server, h.toClient, ?_⟩
    rw [content_send, h.toServer]
    rfl
  | hurried =>
    rw [Phase.client, HandshakeSetup.clientStep, withFrame_of_content_nil h.toClient] at hstep
    cases hstep
  | keySent =>
    rw [Phase.client, HandshakeSetup.clientStep, withFrame_of_content_nil h.toClient] at hstep
    cases hstep
  | confirmed =>
    have hcontent := h.toClient.trans (List.append_nil (encode A.complete)).symm
    simp only [Phase.client, HandshakeSetup.clientStep] at hstep
    obtain ⟨input, hmoved, hinput⟩ := eq_of_withFrame hfits.complete hcontent hstep
    rw [Agreed.receivePairingComplete_complete hfits] at hmoved
    cases hmoved
    refine ⟨.done, by decide, rfl, h.server, hinput, ?_⟩
    rw [content_send, h.toServer]
    rfl
  | done => cases hstep

/-- A step of the phone leads to a later phase. -/
theorem At.server_next (hfits : A.Fits) (h : At A phase q)
    (hnext : (S.handshake P).next q .server = some r) :
    ∃ phase', phase'.left < phase.left ∧ At A phase' r := by
  obtain ⟨⟨server, toServer, sent⟩, hstep, rfl⟩ := Option.map_eq_some_iff.mp hnext
  rw [h.server] at hstep
  cases phase with
  | connected =>
    cases hstep
    refine ⟨.greeted, by decide, h.client, rfl, ?_, h.toServer⟩
    rw [content_send, h.toClient]
    rfl
  | greeted =>
    rw [Phase.server, HandshakeSetup.serverStep, withFrame_of_content_nil h.toServer] at hstep
    cases hstep
  | answered =>
    have hcontent := h.toServer.trans (List.append_nil (encode A.response)).symm
    simp only [Phase.server, HandshakeSetup.serverStep] at hstep
    obtain ⟨input, hmoved, hinput⟩ := eq_of_withFrame hfits.response hcontent hstep
    rw [Agreed.awaitResponse_response hfits] at hmoved
    cases hmoved
    refine ⟨.codesShown, by decide, h.client, rfl, ?_, hinput⟩
    rw [content_send, h.toClient]
    rfl
  | hurried =>
    simp only [Phase.server, HandshakeSetup.serverStep] at hstep
    obtain ⟨input, hmoved, hinput⟩ := eq_of_withFrame hfits.response h.toServer hstep
    rw [Agreed.awaitResponse_response hfits] at hmoved
    cases hmoved
    refine ⟨.keySent, by decide, h.client, rfl, ?_, hinput⟩
    rw [content_send, h.toClient]
    rfl
  | codesShown =>
    rw [Phase.server, HandshakeSetup.serverStep, withFrame_of_content_nil h.toServer] at hstep
    cases hstep
  | keySent =>
    have hcontent := h.toServer.trans (List.append_nil (encode A.cskMessage)).symm
    have hkey : ClientPairingSession.keyField A.responseMessage.ed25519PublicKey =
        .ok (S.clientEd25519.verifyingKeyBytes P) := Agreed.keyField_bytes _
    simp only [Phase.server, HandshakeSetup.serverStep] at hstep
    obtain ⟨input, hmoved, hinput⟩ := eq_of_withFrame hfits.cskMessage hcontent hstep
    rw [Agreed.awaitCsk_cskMessage hfits, hkey] at hmoved
    cases hmoved
    refine ⟨.confirmed, by decide, h.client, rfl, ?_, hinput⟩
    rw [content_send, h.toClient]
    rfl
  | confirmed => cases hstep
  | done => cases hstep

theorem At.toClient_deliver (h : At A phase q) (n : Nat) :
    At A phase { q with toClient := q.toClient.deliver n } :=
  ⟨h.client, h.server, (q.toClient.content_deliver n).trans h.toClient, h.toServer⟩

theorem At.toServer_deliver (h : At A phase q) (n : Nat) :
    At A phase { q with toServer := q.toServer.deliver n } :=
  ⟨h.client, h.server, h.toClient, (q.toServer.content_deliver n).trans h.toServer⟩

theorem At.connected : At A .connected HandshakeSetup.connected := ⟨rfl, rfl, rfl, rfl⟩

/-- Every run stays in the phases of the handshake. -/
theorem at_of_exec (hfits : A.Fits) {labels : List HandshakeLabel} (hq : At A phase q)
    (hrun : (S.handshake P).exec q labels = some r) : ∃ phase', At A phase' r := by
  refine (S.handshake P).invariant (I := fun q ↦ ∃ phase, At A phase q) ?_ ⟨phase, hq⟩ hrun
  rintro q label r ⟨phase, h⟩ hnext
  cases label with
  | client =>
    obtain ⟨phase', -, hr⟩ := h.client_next hfits hnext
    exact ⟨phase', hr⟩
  | server =>
    obtain ⟨phase', -, hr⟩ := h.server_next hfits hnext
    exact ⟨phase', hr⟩
  | toClient n =>
    cases hnext
    exact ⟨phase, h.toClient_deliver n⟩
  | toServer n =>
    cases hnext
    exact ⟨phase, h.toServer_deliver n⟩

/-! ## The end of the handshake -/

/-- The handshake can be brought to a later phase. -/
def CanAdvance (A : Agreed P S) (phase : Phase) (q : Handshake) : Prop :=
  ∃ labels r phase', (S.handshake P).exec q labels = some r ∧ phase'.left < phase.left ∧
    At A phase' r

theorem At.canAdvance_of_client (hfits : A.Fits) (h : At A phase q)
    (hstep : (S.clientStep P (q.toClient.deliver q.toClient.onTheWay.length) q.client).isSome =
      true) : CanAdvance A phase q := by
  obtain ⟨moved, hmoved⟩ := Option.isSome_iff_exists.mp hstep
  have hnext := congrArg (Option.map fun moved : HandshakeClient × ByteChannel × Bytes ↦
    (⟨moved.1, q.server, moved.2.1, q.toServer.send moved.2.2⟩ : Handshake)) hmoved
  obtain ⟨phase', hlt, hr⟩ := (h.toClient_deliver _).client_next hfits hnext
  exact ⟨[.toClient _, .client], _, phase', (S.handshake P).exec_cons_eq_some.mpr
    ⟨_, rfl, (S.handshake P).exec_cons_eq_some.mpr ⟨_, hnext, rfl⟩⟩, hlt, hr⟩

theorem At.canAdvance_of_server (hfits : A.Fits) (h : At A phase q)
    (hstep : (S.serverStep P (q.toServer.deliver q.toServer.onTheWay.length) q.server).isSome =
      true) : CanAdvance A phase q := by
  obtain ⟨moved, hmoved⟩ := Option.isSome_iff_exists.mp hstep
  have hnext := congrArg (Option.map fun moved : HandshakeServer × ByteChannel × Bytes ↦
    (⟨q.client, moved.1, q.toClient.send moved.2.2, moved.2.1⟩ : Handshake)) hmoved
  obtain ⟨phase', hlt, hr⟩ := (h.toServer_deliver _).server_next hfits hnext
  exact ⟨[.toServer _, .server], _, phase', (S.handshake P).exec_cons_eq_some.mpr
    ⟨_, rfl, (S.handshake P).exec_cons_eq_some.mpr ⟨_, hnext, rfl⟩⟩, hlt, hr⟩

/-- Before its end the handshake can always go on: a side whose frame has arrived reads it, and
the desktop's user confirms the code. -/
theorem At.canAdvance (hfits : A.Fits) (h : At A phase q) (hleft : phase.left ≠ 0) :
    CanAdvance A phase q := by
  have hserver := h.toServer
  have hclient := h.toClient
  cases phase with
  | connected =>
    refine h.canAdvance_of_server hfits ?_
    rw [h.server]
    rfl
  | greeted =>
    refine h.canAdvance_of_client hfits ?_
    rw [h.client, Phase.client, HandshakeSetup.clientStep]
    exact isSome_withFrame_deliver hfits.hello (hclient.trans (List.append_nil _).symm)
  | answered =>
    refine h.canAdvance_of_server hfits ?_
    rw [h.server, Phase.server, HandshakeSetup.serverStep]
    exact isSome_withFrame_deliver hfits.response (hserver.trans (List.append_nil _).symm)
  | hurried =>
    refine h.canAdvance_of_server hfits ?_
    rw [h.server, Phase.server, HandshakeSetup.serverStep]
    exact isSome_withFrame_deliver hfits.response hserver
  | codesShown =>
    refine h.canAdvance_of_client hfits ?_
    rw [h.client]
    simp only [Phase.client, HandshakeSetup.clientStep, Agreed.cskMessage_initiated,
      Option.isSome_some]
  | keySent =>
    refine h.canAdvance_of_server hfits ?_
    rw [h.server, Phase.server, HandshakeSetup.serverStep]
    exact isSome_withFrame_deliver hfits.cskMessage (hserver.trans (List.append_nil _).symm)
  | confirmed =>
    refine h.canAdvance_of_client hfits ?_
    rw [h.client, Phase.client, HandshakeSetup.clientStep]
    exact isSome_withFrame_deliver hfits.complete (hclient.trans (List.append_nil _).symm)
  | done => exact absurd rfl hleft

theorem At.exists_done (hfits : A.Fits) (h : At A phase q) :
    ∃ labels r, (S.handshake P).exec q labels = some r ∧ At A .done r := by
  -- by the number of steps that are left
  induction hn : phase.left using Nat.strong_induction_on generalizing phase q with
  | _ n ih =>
    by_cases hleft : phase.left = 0
    · cases phase with
      | done => exact ⟨[], q, rfl, h⟩
      | _ => cases hleft
    · obtain ⟨labels, r, phase', hrun, hlt, hr⟩ := h.canAdvance hfits hleft
      obtain ⟨labels', t, hrun', ht⟩ := ih phase'.left (hn ▸ hlt) hr rfl
      exact ⟨labels ++ labels', t, ((S.handshake P).exec_append hrun labels').trans hrun', ht⟩

end

/-- Both sides have paired, with the same code and the same CSK, and each has the other's key
and name. -/
structure Paired (P : Primitives) (S : HandshakeSetup) (q : Handshake)
    (initiated : ClientPairingSession.Initiated) (completed : ServerPairingSession.Completed) :
    Prop where
  client : q.client = .paired initiated
  server : q.server = .paired completed
  sas : initiated.sas = completed.sas
  csk : completed.csk = S.csk
  serverKey : initiated.serverEd25519Public = S.serverEd25519
  serverName : initiated.serverDeviceName = S.serverName
  clientKey : completed.clientEd25519Public = S.clientEd25519.verifyingKeyBytes P
  clientName : completed.clientDeviceName = S.clientName
  finished : ∃ complete, initiated.session.finishPairing P (some S.cskNonce) S.csk S.username
    (.ok complete) = .ok ()
  returned : ∃ response csk, S.serverSession.completePairing P (some S.completeNonce) (.ok response)
    (.ok csk) = .ok completed

/-- **An undisturbed pairing succeeds.**  For all keys, names and users and every CSK whose
frames stay within the limit: in no state of any run has a side failed, and every run can be
continued to one in which both sides have paired and agree. -/
theorem handshake_completes {P : Primitives} (hworks : Works P) (S : HandshakeSetup)
    (hfits : ∀ A : Agreed P S, A.Fits) {labels : List HandshakeLabel} {q : Handshake}
    (hrun : (S.handshake P).exec HandshakeSetup.connected labels = some q) :
    (∀ e, q.client ≠ .failed e ∧ q.server ≠ .failed e) ∧
    ∃ more r initiated completed, (S.handshake P).exec q more = some r ∧
      Paired P S r initiated completed := by
  obtain ⟨A⟩ := hworks.nonempty_agreed S
  obtain ⟨phase, hq⟩ := at_of_exec (hfits A) At.connected hrun
  constructor
  · intro e
    rw [hq.client, hq.server]
    cases phase <;> exact ⟨nofun, nofun⟩
  · obtain ⟨more, r, hmore, hr⟩ := hq.exists_done (hfits A)
    exact ⟨more, r, A.initiated, A.completed, hmore, hr.client, hr.server, rfl, rfl, rfl, rfl, rfl,
      rfl, ⟨_, Agreed.finishPairing_complete (hfits A)⟩,
      _, _, Agreed.completePairing_frames (hfits A)⟩

open Transparent

namespace HandshakeSample

def setup : HandshakeSetup where
  clientX25519 := ⟨fill 32 7⟩
  clientEd25519 := ⟨fill 32 2⟩
  clientName := "desktop"
  csk := fill 32 1
  username := "alice"
  cskNonce := fill 12 4
  serverX25519 := ⟨fill 32 9⟩
  serverEd25519 := fill 32 5
  serverName := "phone"
  completeNonce := fill 12 6

/-- The hello arrives in two portions. -/
def labels : List HandshakeLabel := [.server, .toClient 3, .toClient 1000, .client, .client]

theorem works : Works primitives :=
  ⟨fun _ _ ↦ rfl, fun _ _ ↦ rfl, fun _ _ _ ↦ rfl⟩

/-- The desktop's response. -/
def answer : PairingResponse where
  version := pairingVersion
  x25519PublicKey := (setup.clientX25519.publicKeyBytes primitives).bytes
  ed25519PublicKey := (setup.clientEd25519.verifyingKeyBytes primitives).bytes
  deviceName := "desktop"
  selectedSymmetricAlgorithm := symmetricAlgorithmAes256Gcm
  selectedHashAlgorithm := hashAlgorithmSha256
  selectedSignatureAlgorithm := signatureAlgorithmEd25519

theorem length_bytes_encode (b : Bytes) : (Codec.bytes.encode b).length = 2 * b.length + 1 := by
  induction b with
  | nil => rfl
  | cons x b ih =>
    change (Codec.bytes.encode b).length + 1 + 1 = _
    rw [ih, List.length_cons]
    omega

theorem length_encryptWithPsk {psk : PairingSymmetricKey} {nonce : FixedBytes 12} {data : Bytes32}
    {ciphertext : Bytes}
    (h : encryptWithPsk primitives psk (some nonce) data.bytes = .ok ciphertext) :
    ciphertext.length = 76 := by
  have hvalue : nonce.bytes ++ (psk.bytes ++ data.bytes) = ciphertext := Except.ok.inj h
  rw [← hvalue]
  simp

theorem fits (A : Agreed primitives setup) : A.Fits where
  hello := by
    have hclosed : (primitives.helloFormat.encode
        (setup.serverSession.pairingHello primitives "phone")).length ≤
        maxMessageSize := by decide +kernel
    exact hclosed
  response := by
    have hmessage : A.responseMessage = answer := rfl
    rw [Agreed.response, hmessage]
    decide +kernel
  cskMessage := by
    change (Codec.bytes.encode A.encryptedCsk ++ Codec.string.encode "alice").length ≤ _
    rw [List.length_append, length_bytes_encode, length_encryptWithPsk A.csk_eq]
    decide +kernel
  complete := by
    change (Codec.bool.encode true ++ (Codec.int32.encode hashAlgorithmSha256 ++
      Codec.bytes.encode A.encryptedHash)).length ≤ _
    rw [List.length_append, List.length_append, length_bytes_encode,
      length_encryptWithPsk A.hash_eq]
    decide +kernel

end HandshakeSample

open HandshakeSample

/-- A handshake in which the desktop is ahead of the phone. -/
theorem handshake_completes_sample :
    ∃ q, (setup.handshake primitives).exec HandshakeSetup.connected
        labels = some q ∧
      ∃ more r initiated completed,
        (setup.handshake primitives).exec q more = some r ∧
          Paired primitives setup r initiated completed := by
  have hrun : ((setup.handshake primitives).exec
      HandshakeSetup.connected labels).isSome = true := by decide +kernel
  obtain ⟨q, hq⟩ := Option.isSome_iff_exists.mp hrun
  exact ⟨q, hq, (handshake_completes works setup
    fits hq).2⟩

end TapAuth.System
