import TapAuth.Phone.PairingClient
import TapAuth.Shared.Protocol

/-!
# The phone's answers

The functions of the native library from which the two services build their answers to a
request: the signature over the challenge, the signed wrapper, the encrypted packet.  They
are not the functions the desktop builds its packets with (`createEncryptedPacket` draws its
nonce before it asks for the time), so what the packets hold is proved here on its own:
`grantBytes_eq_ok` and `denialBytes_eq_ok` say that an answer that could be built is the
encoding of a packet with a 16-byte identifier that opens under the CSK to the signed grant
or denial.
-/

namespace TapAuth.Phone

open Shared

/-- A signing key, or a full key pair of which the first half is the signing key. -/
def jbytearrayToEd25519Keypair (name : String) (bytes : Bytes) : Except String Ed25519KeyPair :=
  if bytes.length = 64 then
    match FixedBytes.ofBytes 32 (bytes.take 32) with
    | some key => .ok ⟨key⟩
    | none => .error "invalid key buffer length"
  else
    match FixedBytes.ofBytes 32 bytes with
    | some key => .ok ⟨key⟩
    | none => .error (name ++ " must be 32 bytes (signing key) or 64 bytes (full keypair)")

section

variable (P : Primitives)

def signData (privateKey message : Bytes) : Except String Bytes := do
  let key ← jbytearrayToFixed "private_key" privateKey
  return (P.ed25519Sign key message).bytes

/-- A signed wrapper of version 1, encoded: the common part of the two functions below. -/
def signedWrapperBytes (payload : Payload) (keypair : Ed25519KeyPair) : Bytes :=
  P.wrapperFormat.encode
    (signWrapperMessage P ⟨1, signatureAlgorithmEd25519, [], some payload⟩ keypair)

def createGrantWrapperMessage (signedChallenge privateKey : Bytes) : Except String Bytes := do
  let keypair ← jbytearrayToEd25519Keypair "private_key" privateKey
  return signedWrapperBytes P (.authGrant ⟨signedChallenge⟩) keypair

def createDenialWrapperMessage (challenge privateKey : Bytes) : Except String Bytes := do
  let challenge ← jbytearrayToFixed "challenge" challenge
  let keypair ← jbytearrayToEd25519Keypair "private_key" privateKey
  return signedWrapperBytes P (.authDenial ⟨challenge.bytes⟩) keypair

def createEncryptedPacket (env : Ambient) (csk wrapperMessageBytes : Bytes) :
    Except String Bytes := do
  let csk ← jbytearrayToFixed "csk" csk
  let nonce ← env.nonce.elim (.error "random generation failed") .ok
  let sealedBytes ← (encryptAesGcm P csk nonce wrapperMessageBytes []).mapError
    fun e ↦ "encryption failed: " ++ e.display
  let temporalId ← (generateCurrentTemporalIdentifier P env.unixSeconds csk).mapError
    fun e ↦ "temporal ID generation failed: " ++ e.display
  return P.packetFormat.encode
    ⟨temporalId.bytes, symmetricAlgorithmAes256Gcm, nonce.bytes ++ sealedBytes⟩

/-- What a service sends when the user has approved: `signData` in the activity, the rest in
the callback of the request. -/
def grantBytes (env : Ambient) (csk privateKey challenge : Bytes) : Except String Bytes := do
  let signedChallenge ← signData P privateKey challenge
  let wrapperMessage ← createGrantWrapperMessage P signedChallenge privateKey
  createEncryptedPacket P env csk wrapperMessage

/-- What a service sends when the user has denied. -/
def denialBytes (env : Ambient) (csk privateKey challenge : Bytes) : Except String Bytes := do
  let wrapperMessage ← createDenialWrapperMessage P challenge privateKey
  createEncryptedPacket P env csk wrapperMessage

variable {P} {env : Ambient} {csk : ClientSymmetricKey} {privateKey : Bytes}
  {phone : Ed25519KeyPair}

/-! ## What the packets hold -/

/-- A packet that could be built carries the current identifier and opens to what was put in. -/
theorem createEncryptedPacket_eq_ok {wrapperMessageBytes bytes : Bytes}
    (h : createEncryptedPacket P env csk.bytes wrapperMessageBytes = .ok bytes) :
    ∃ packet, bytes = P.packetFormat.encode packet ∧
      (∃ identifier, generateCurrentTemporalIdentifier P env.unixSeconds csk = .ok identifier ∧
        packet.temporalIdentifier = identifier.bytes) ∧
      decryptWithCskAndPrependedNonce P csk packet.ciphertext = .ok wrapperMessageBytes := by
  unfold createEncryptedPacket at h
  obtain ⟨csk', hcsk, h⟩ := Except.bind_eq_ok_iff.mp h
  obtain ⟨nonce, -, h⟩ := Except.bind_eq_ok_iff.mp h
  obtain ⟨sealedBytes, hsealed, h⟩ := Except.bind_eq_ok_iff.mp h
  obtain ⟨temporalId, htemporalId, h⟩ := Except.bind_eq_ok_iff.mp h
  cases h
  obtain rfl : csk = csk' := by
    rw [jbytearrayToFixed_eq_ok, FixedBytes.ofBytes_bytes, Option.some.injEq] at hcsk
    exact hcsk
  refine ⟨_, rfl, ⟨temporalId, Except.mapError_eq_ok_iff.mp htemporalId, rfl⟩, ?_⟩
  -- the packet is closed as the shared functions close theirs
  have hclosed : encryptWithNonce P csk (some nonce) wrapperMessageBytes =
      .ok (nonce.bytes ++ sealedBytes) := by
    rw [encryptWithNonce, Except.mapError_eq_ok_iff.mp hsealed]
    rfl
  exact decryptWithNonce_of_encryptWithNonce P hclosed

theorem jbytearrayToEd25519Keypair_bytes (name : String) (key : Bytes32) :
    jbytearrayToEd25519Keypair name key.bytes = .ok ⟨key⟩ := by
  simp [jbytearrayToEd25519Keypair]

/-- A grant that could be built. -/
theorem grantBytes_eq_ok (hphone : jbytearrayToEd25519Keypair "private_key" privateKey = .ok phone)
    {challenge bytes : Bytes} (h : grantBytes P env csk.bytes privateKey challenge = .ok bytes) :
    ∃ packet, P.packetFormat.decode bytes = .ok packet ∧ packet.temporalIdentifier.length = 16 ∧
      decryptEncryptedPacketWithCskNonce P csk packet =
        .ok (signWrapperMessage P (wrapAuthGrant ⟨signEd25519 P phone challenge⟩) phone) := by
  unfold grantBytes at h
  obtain ⟨signedChallenge, hsigned, h⟩ := Except.bind_eq_ok_iff.mp h
  obtain ⟨wrapperMessage, hwrapper, h⟩ := Except.bind_eq_ok_iff.mp h
  obtain ⟨packet, rfl, ⟨identifier, -, hidentifier⟩, hdecrypt⟩ := createEncryptedPacket_eq_ok h
  unfold signData at hsigned
  obtain ⟨key, hkey, hsigned⟩ := Except.bind_eq_ok_iff.mp hsigned
  cases hsigned
  -- `signData` takes a key of 32 bytes only
  rw [jbytearrayToFixed_eq_ok, FixedBytes.ofBytes_eq_some] at hkey
  subst hkey
  rw [jbytearrayToEd25519Keypair_bytes, Except.ok.injEq] at hphone
  subst hphone
  rw [createGrantWrapperMessage, jbytearrayToEd25519Keypair_bytes] at hwrapper
  cases hwrapper
  exact ⟨packet, P.packetFormat.decode_encode packet, hidentifier ▸ identifier.length_bytes,
    decryptEncryptedPacket_of_plaintext P hdecrypt⟩

/-- A denial that could be built. -/
theorem denialBytes_eq_ok
    (hphone : jbytearrayToEd25519Keypair "private_key" privateKey = .ok phone)
    {challenge : Bytes32} {bytes : Bytes}
    (h : denialBytes P env csk.bytes privateKey challenge.bytes = .ok bytes) :
    ∃ packet, P.packetFormat.decode bytes = .ok packet ∧ packet.temporalIdentifier.length = 16 ∧
      decryptEncryptedPacketWithCskNonce P csk packet =
        .ok (signWrapperMessage P (wrapAuthDenial ⟨challenge.bytes⟩) phone) := by
  unfold denialBytes at h
  obtain ⟨wrapperMessage, hwrapper, h⟩ := Except.bind_eq_ok_iff.mp h
  obtain ⟨packet, rfl, ⟨identifier, -, hidentifier⟩, hdecrypt⟩ := createEncryptedPacket_eq_ok h
  unfold createDenialWrapperMessage at hwrapper
  obtain ⟨challenge', hchallenge, hwrapper⟩ := Except.bind_eq_ok_iff.mp hwrapper
  rw [jbytearrayToFixed_eq_ok, FixedBytes.ofBytes_bytes, Option.some.injEq] at hchallenge
  subst hchallenge
  rw [hphone] at hwrapper
  cases hwrapper
  exact ⟨packet, P.packetFormat.decode_encode packet, hidentifier ▸ identifier.length_bytes,
    decryptEncryptedPacket_of_plaintext P hdecrypt⟩

end

end TapAuth.Phone
