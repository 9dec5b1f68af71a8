import TapAuth.Lib.Except
import TapAuth.Shared.Crypto

/-!
# Signing, wrapping and packing messages

The message layer of the shared crate: signatures over whole wrappers, the
constructors of the authentication messages and the packets that carry them.

Two facts are what the rest needs to know: what an accepted grant is
(`verifyAuthGrant_eq_ok`) and what a packet opens to
(`decryptEncryptedPacket_of_plaintext`), which for a packet that
`create_encrypted_packet_with_csk_nonce` made is what was put in
(`decryptEncryptedPacket_of_create`).
-/

namespace TapAuth.Shared

inductive ProtocolError where
  | serialization (text : String)
  | deserialization (text : String)
  | invalidSignature
  | crypto (error : CryptoError)
  | invalidMessageFormat
  | missingField (name : String)
  | io (text : String)
  deriving DecidableEq, Repr

def ProtocolError.display : ProtocolError → String
  | .serialization text => "Serialization error: " ++ text
  | .deserialization text => "Deserialization error: " ++ text
  | .invalidSignature => "Invalid signature"
  | .crypto error => "Crypto error: " ++ error.display
  | .invalidMessageFormat => "Invalid message format"
  | .missingField name => "Missing required field: " ++ name
  | .io text => "IO error: " ++ text

section

variable (P : Primitives)

/-! ## Signatures over wrappers -/

/-- The bytes a wrapper's signature is over. -/
def WrapperMessage.unsignedBytes (wrapper : WrapperMessage) : Bytes :=
  P.wrapperFormat.encode { wrapper with signature := [] }

def signWrapperMessage (wrapper : WrapperMessage) (keypair : Ed25519KeyPair) : WrapperMessage :=
  let wrapper := { wrapper with signatureAlgorithm := signatureAlgorithmEd25519, signature := [] }
  { wrapper with signature := signEd25519 P keypair (P.wrapperFormat.encode wrapper) }

def verifyWrapperSignature (wrapper : WrapperMessage) (publicKey : Bytes32) :
    Except ProtocolError Unit :=
  (verifyEd25519 P publicKey (wrapper.unsignedBytes P) wrapper.signature).mapError .crypto

/-- A signed wrapper verifies under the public key of its signer, if that key is accepted. -/
theorem verifyWrapperSignature_signWrapperMessage {keypair : Ed25519KeyPair}
    (hvalid : P.ed25519KeyValid (keypair.verifyingKeyBytes P) = true) (wrapper : WrapperMessage) :
    verifyWrapperSignature P (signWrapperMessage P wrapper keypair) (keypair.verifyingKeyBytes P) =
      .ok () :=
  Except.mapError_eq_ok_iff.mpr (verifyEd25519_signEd25519 P hvalid _)

/-! ## Message constructors -/

def createAuthRequestWithChallenge (unixSeconds : Option UInt64) (username hostname : String)
    (challenge : Bytes) : Except ProtocolError AuthenticationRequest :=
  if challenge.length ≠ 32 then .error .invalidMessageFormat
  else
    match unixSeconds with
    | none => .error (.crypto .systemTimeError)
    | some timestamp => .ok ⟨challenge, username, hostname, timestamp⟩

/-- The shape the other constructors share: a message that names the challenge, which has to be
32 bytes long. -/
def withChallenge {α : Type} (make : Bytes → α) (challenge : Bytes) : Except ProtocolError α :=
  if challenge.length ≠ 32 then .error .invalidMessageFormat else .ok (make challenge)

def createGrantConfirmation : Bytes → Except ProtocolError GrantConfirmation := withChallenge .mk

def createAuthCancel : Bytes → Except ProtocolError AuthenticationCancel := withChallenge .mk

/-- A 32-byte challenge is never refused. -/
@[simp] theorem withChallenge_bytes {α : Type} (make : Bytes → α) (challenge : Bytes32) :
    withChallenge make challenge.bytes = .ok (make challenge.bytes) := by
  simp [withChallenge]

/-- The shape of every `wrap_*` function: version 1, to be signed with Ed25519. -/
def wrapPayload (payload : Payload) : WrapperMessage :=
  ⟨1, signatureAlgorithmEd25519, [], some payload⟩

def wrapAuthRequest (request : AuthenticationRequest) : WrapperMessage :=
  wrapPayload (.authRequest request)

def wrapAuthGrant (grant : AuthenticationGrant) : WrapperMessage := wrapPayload (.authGrant grant)

def wrapAuthDenial (denial : AuthenticationDenial) : WrapperMessage :=
  wrapPayload (.authDenial denial)

def wrapGrantConfirmation (confirmation : GrantConfirmation) : WrapperMessage :=
  wrapPayload (.grantConfirmation confirmation)

def wrapAuthCancel (cancel : AuthenticationCancel) : WrapperMessage :=
  wrapPayload (.authCancel cancel)

/-! ## Grants -/

/-- The wrapper signature and the signed challenge, both under one key. -/
def verifyAuthGrant (wrapper : WrapperMessage) (challenge : Bytes) (serverPublicKey : Bytes32) :
    Except ProtocolError Unit :=
  if challenge.length ≠ 32 then .error .invalidMessageFormat
  else
    match verifyWrapperSignature P wrapper serverPublicKey with
    | .error e => .error e
    | .ok () =>
      match wrapper.payload with
      | some (.authGrant grant) =>
        (verifyEd25519 P serverPublicKey challenge grant.signedChallenge).mapError .crypto
      | _ => .error .invalidMessageFormat

variable {wrapper : WrapperMessage} {csk : ClientSymmetricKey} {packet : EncryptedPacket}

theorem verifyAuthGrant_eq_ok {challenge key : Bytes32} :
    verifyAuthGrant P wrapper challenge.bytes key = .ok () ↔
      verifyWrapperSignature P wrapper key = .ok () ∧
        ∃ grant, wrapper.payload = some (.authGrant grant) ∧
          verifyEd25519 P key challenge.bytes grant.signedChallenge = .ok () := by
  have hlen : ¬ challenge.bytes.length ≠ 32 := by simp
  rw [verifyAuthGrant, if_neg hlen]
  cases hsig : verifyWrapperSignature P wrapper key with
  | error e => simp
  | ok u =>
    rcases wrapper.payload with - | (request | grant | denial | confirmation | cancel) <;> simp
    exact Except.mapError_eq_ok_iff

/-! ## Packets -/

def createEncryptedPacketWithCskNonce (env : Ambient) (csk : ClientSymmetricKey)
    (wrapper : WrapperMessage) : Except ProtocolError EncryptedPacket := do
  let temporalIdentifier ←
    (generateCurrentTemporalIdentifier P env.unixSeconds csk).mapError ProtocolError.crypto
  let ciphertext ← (encryptWithCskAndRandomNonce P csk env.nonce
    (P.wrapperFormat.encode wrapper)).mapError ProtocolError.crypto
  return ⟨temporalIdentifier.bytes, symmetricAlgorithmAes256Gcm, ciphertext⟩

def decryptEncryptedPacketWithCskNonce (csk : ClientSymmetricKey) (packet : EncryptedPacket) :
    Except ProtocolError WrapperMessage :=
  match decryptWithCskAndPrependedNonce P csk packet.ciphertext with
  | .error e => .error (.crypto e)
  | .ok plaintext =>
    match P.wrapperFormat.decode plaintext with
    | .ok wrapper => .ok wrapper
    | .error text => .error (.deserialization text)

/-- A packet whose plaintext is an encoded message opens to that message. -/
theorem decryptEncryptedPacket_of_plaintext
    (h : decryptWithCskAndPrependedNonce P csk packet.ciphertext =
      .ok (P.wrapperFormat.encode wrapper)) :
    decryptEncryptedPacketWithCskNonce P csk packet = .ok wrapper := by
  simp only [decryptEncryptedPacketWithCskNonce, h, P.wrapperFormat.decode_encode]

/-- A packet that could be built carries the current identifier and holds the message. -/
theorem createEncryptedPacketWithCskNonce_eq_ok {env : Ambient}
    (h : createEncryptedPacketWithCskNonce P env csk wrapper = .ok packet) :
    (∃ identifier, generateCurrentTemporalIdentifier P env.unixSeconds csk = .ok identifier ∧
      packet.temporalIdentifier = identifier.bytes) ∧
    decryptWithCskAndPrependedNonce P csk packet.ciphertext =
      .ok (P.wrapperFormat.encode wrapper) := by
  unfold createEncryptedPacketWithCskNonce at h
  obtain ⟨identifier, hidentifier, h⟩ := Except.bind_eq_ok_iff.mp h
  obtain ⟨ciphertext, hciphertext, h⟩ := Except.bind_eq_ok_iff.mp h
  cases h
  exact ⟨⟨identifier, Except.mapError_eq_ok_iff.mp hidentifier, rfl⟩,
    decryptWithNonce_of_encryptWithNonce P (Except.mapError_eq_ok_iff.mp hciphertext)⟩

/-- A packet opens under the key that closed it. -/
theorem decryptEncryptedPacket_of_create {env : Ambient}
    (h : createEncryptedPacketWithCskNonce P env csk wrapper = .ok packet) :
    decryptEncryptedPacketWithCskNonce P csk packet = .ok wrapper :=
  decryptEncryptedPacket_of_plaintext P (createEncryptedPacketWithCskNonce_eq_ok P h).2

end

end TapAuth.Shared
