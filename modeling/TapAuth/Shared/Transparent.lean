import TapAuth.Shared.Crypto

/-!
# Transparent primitives

An executable instance of `Primitives` in which nothing is hidden: a ciphertext
carries its key, a signature carries its public key and a checksum of what it
signs, and the public key of a secret is the secret.  Every law the structure
asks for holds, keys that differ do not open each other's ciphertexts and do not
verify each other's signatures, and all of it evaluates.  Runs of the protocol on
concrete inputs are runs over these primitives.
-/

namespace TapAuth.Shared.Transparent

open Codec

/-! ## Wire formats -/

def requestCodec : Codec AuthenticationRequest :=
  (bytes.prod (string.prod (string.prod uint64))).map
    (fun p ↦ ⟨p.1, p.2.1, p.2.2.1, p.2.2.2⟩)
    (fun m ↦ (m.challenge, m.username, m.hostname, m.timestampUnixSeconds)) fun _ ↦ rfl

/-- The alternatives of a payload as a sum; all but the request are one byte
string. -/
def payloadCodec : Codec Payload :=
  (requestCodec.sum (bytes.sum (bytes.sum (bytes.sum bytes)))).map
    (fun
      | .inl m => .authRequest m
      | .inr (.inl b) => .authGrant ⟨b⟩
      | .inr (.inr (.inl b)) => .authDenial ⟨b⟩
      | .inr (.inr (.inr (.inl b))) => .grantConfirmation ⟨b⟩
      | .inr (.inr (.inr (.inr b))) => .authCancel ⟨b⟩)
    (fun
      | .authRequest m => .inl m
      | .authGrant m => .inr (.inl m.signedChallenge)
      | .authDenial m => .inr (.inr (.inl m.challenge))
      | .grantConfirmation m => .inr (.inr (.inr (.inl m.challenge)))
      | .authCancel m => .inr (.inr (.inr (.inr m.challenge))))
    (fun p ↦ by cases p <;> rfl)

def wrapperCodec : Codec WrapperMessage :=
  (uint32.prod (int32.prod (bytes.prod payloadCodec.option))).map
    (fun p ↦ ⟨p.1, p.2.1, p.2.2.1, p.2.2.2⟩)
    (fun m ↦ (m.version, m.signatureAlgorithm, m.signature, m.payload)) fun _ ↦ rfl

def packetCodec : Codec EncryptedPacket :=
  (bytes.prod (int32.prod bytes)).map (fun p ↦ ⟨p.1, p.2.1, p.2.2⟩)
    (fun m ↦ (m.temporalIdentifier, m.encryptionAlgorithm, m.ciphertext)) fun _ ↦ rfl

def helloCodec : Codec PairingHello :=
  (uint32.prod (bytes.prod (bytes.prod (string.prod
    (int32.list.prod (int32.list.prod int32.list)))))).map
    (fun p ↦ ⟨p.1, p.2.1, p.2.2.1, p.2.2.2.1, p.2.2.2.2.1, p.2.2.2.2.2.1, p.2.2.2.2.2.2⟩)
    (fun m ↦ (m.version, m.x25519PublicKey, m.ed25519PublicKey, m.deviceName,
      m.supportedSymmetricAlgorithms, m.supportedHashAlgorithms,
      m.supportedSignatureAlgorithms)) fun _ ↦ rfl

def responseCodec : Codec PairingResponse :=
  (uint32.prod (bytes.prod (bytes.prod (string.prod
    (int32.prod (int32.prod int32)))))).map
    (fun p ↦ ⟨p.1, p.2.1, p.2.2.1, p.2.2.2.1, p.2.2.2.2.1, p.2.2.2.2.2.1, p.2.2.2.2.2.2⟩)
    (fun m ↦ (m.version, m.x25519PublicKey, m.ed25519PublicKey, m.deviceName,
      m.selectedSymmetricAlgorithm, m.selectedHashAlgorithm,
      m.selectedSignatureAlgorithm)) fun _ ↦ rfl

def cskCodec : Codec PairingCskMessage :=
  (bytes.prod string).map (fun p ↦ ⟨p.1, p.2⟩)
    (fun m ↦ (m.encryptedCsk, m.username)) fun _ ↦ rfl

def completeCodec : Codec PairingComplete :=
  (bool.prod (int32.prod bytes)).map (fun p ↦ ⟨p.1, p.2.1, p.2.2⟩)
    (fun m ↦ (m.success, m.hashAlgorithm, m.cskHash)) fun _ ↦ rfl

/-! ## Primitives -/

/-- A one-byte checksum that depends on the order of the bytes. -/
def checksum (b : Bytes) : UInt8 := UInt8.ofNat (b.foldl (fun acc x ↦ acc * 31 + x.toNat + 1) 7)

/-- Byte-wise sum. -/
def addBytes (a b : Bytes32) : Bytes32 :=
  ⟨List.zipWith (· + ·) a.bytes b.bytes, by simp [List.length_zipWith]⟩

theorem addBytes_comm (a b : Bytes32) : addBytes a b = addBytes b a := by
  apply FixedBytes.bytes_injective
  exact List.zipWith_comm_of_comm UInt8.add_comm

/-- The key itself, then a checksum of the message in every remaining byte. -/
def sign (secret : Bytes32) (message : Bytes) : FixedBytes 64 :=
  ⟨secret.bytes ++ List.replicate 32 (checksum message), by simp⟩

def primitives : Primitives where
  aesGcmEncrypt key _ message _ := some (key.bytes ++ message)
  aesGcmDecrypt key _ ciphertext _ :=
    if ciphertext.take 32 = key.bytes then some (ciphertext.drop 32) else none
  ed25519Public secret := secret
  ed25519Sign := sign
  ed25519KeyValid _ := true
  ed25519Verify key message signature := decide (signature = sign key message)
  x25519Public secret := secret
  x25519Shared := addBytes
  hkdf ikm info n := some (FixedBytes.fill n (checksum (ikm ++ info)))
  hmacSha256 key message := FixedBytes.fill 32 (checksum (key ++ message))
  sha256 message := FixedBytes.fill 32 (checksum message)
  wrapperFormat := wrapperCodec.format
  packetFormat := packetCodec.format
  helloFormat := helloCodec.format
  responseFormat := responseCodec.format
  cskFormat := cskCodec.format
  completeFormat := completeCodec.format
  aesGcm_decrypt_encrypt := by
    intro key nonce message aad ciphertext h
    cases h
    rw [List.take_left' key.length_bytes, List.drop_left' key.length_bytes, if_pos rfl]
  ed25519_verify_sign _ _ := decide_eq_true rfl
  x25519_comm := addBytes_comm

end TapAuth.Shared.Transparent
