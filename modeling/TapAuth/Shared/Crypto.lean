import TapAuth.Lib.Codec
import TapAuth.Shared.Messages

/-!
# Cryptography

The cryptographic layer of the shared crate over *given* primitives: AES-256-GCM,
Ed25519, X25519, HKDF, HMAC and SHA-256 are functions of a structure
`Primitives`, as are the wire formats `prost` generates.  The structure carries
the documented behaviour of those crates that the protocol relies on (decryption
undoes encryption, own signatures verify, key agreement agrees, a message that
was encoded decodes to itself); secrecy and unforgeability are *not* among its
fields and appear as hypotheses where a result needs them.

Randomness and the wall clock are arguments (`Ambient`): what `getrandom` and
`SystemTime::now` answer at the call.
-/

namespace TapAuth.Shared

open FixedBytes

/-- A key, a digest or a challenge: 32 bytes. -/
abbrev Bytes32 := FixedBytes 32

/-- The outside code the shared crate calls. -/
structure Primitives where
  /-- `Aes256Gcm::encrypt`: key, nonce, message, associated data. -/
  aesGcmEncrypt : Bytes32 → FixedBytes 12 → Bytes → Bytes → Option Bytes
  /-- `Aes256Gcm::decrypt`. -/
  aesGcmDecrypt : Bytes32 → FixedBytes 12 → Bytes → Bytes → Option Bytes
  /-- The Ed25519 public key of a signing key. -/
  ed25519Public : Bytes32 → Bytes32
  /-- `SigningKey::sign`. -/
  ed25519Sign : Bytes32 → Bytes → FixedBytes 64
  /-- Whether `VerifyingKey::from_bytes` accepts a public key. -/
  ed25519KeyValid : Bytes32 → Bool
  /-- `VerifyingKey::verify`. -/
  ed25519Verify : Bytes32 → Bytes → FixedBytes 64 → Bool
  /-- The X25519 public key of a secret. -/
  x25519Public : Bytes32 → Bytes32
  /-- `StaticSecret::diffie_hellman`: own secret, their public key. -/
  x25519Shared : Bytes32 → Bytes32 → Bytes32
  /-- HKDF-SHA256 without salt: input key, info, output length. -/
  hkdf : Bytes → Bytes → (n : Nat) → Option (FixedBytes n)
  hmacSha256 : Bytes → Bytes → Bytes32
  sha256 : Bytes → Bytes32
  wrapperFormat : Format WrapperMessage
  packetFormat : Format EncryptedPacket
  helloFormat : Format PairingHello
  responseFormat : Format PairingResponse
  cskFormat : Format PairingCskMessage
  completeFormat : Format PairingComplete
  aesGcm_decrypt_encrypt : ∀ {key nonce message aad ciphertext},
    aesGcmEncrypt key nonce message aad = some ciphertext →
      aesGcmDecrypt key nonce ciphertext aad = some message
  ed25519_verify_sign : ∀ secret message,
    ed25519Verify (ed25519Public secret) message (ed25519Sign secret message) = true
  x25519_comm : ∀ a b, x25519Shared a (x25519Public b) = x25519Shared b (x25519Public a)

inductive CryptoError where
  | invalidKeyLength
  | invalidSignature
  | encryptionFailed
  | decryptionFailed
  | keyDerivationFailed
  | randomGenerationFailed
  | systemTimeError
  deriving DecidableEq, Repr

def CryptoError.display : CryptoError → String
  | .invalidKeyLength => "Invalid key length"
  | .invalidSignature => "Invalid signature"
  | .encryptionFailed => "Encryption failed"
  | .decryptionFailed => "Decryption failed"
  | .keyDerivationFailed => "Key derivation failed"
  | .randomGenerationFailed => "Random number generation failed"
  | .systemTimeError => "System time error"

/-- What the operating system answers at a call. -/
structure Ambient where
  /-- Seconds since the epoch, `none` for a clock before it. -/
  unixSeconds : Option UInt64
  /-- The next 12 random bytes, `none` if the generator fails. -/
  nonce : Option (FixedBytes 12)

/-- A client symmetric key (CSK). -/
abbrev ClientSymmetricKey := Bytes32

/-- A pairing symmetric key (PSK). -/
abbrev PairingSymmetricKey := Bytes32

/-- An Ed25519 key pair, given by its signing key. -/
structure Ed25519KeyPair where
  signingKeyBytes : Bytes32
  deriving DecidableEq

/-- An X25519 key pair, given by its secret. -/
structure X25519KeyPair where
  secretBytes : Bytes32
  deriving DecidableEq

section

variable (P : Primitives)

def Ed25519KeyPair.verifyingKeyBytes (keypair : Ed25519KeyPair) : Bytes32 :=
  P.ed25519Public keypair.signingKeyBytes

def X25519KeyPair.publicKeyBytes (keypair : X25519KeyPair) : Bytes32 :=
  P.x25519Public keypair.secretBytes

def X25519KeyPair.diffieHellman (keypair : X25519KeyPair) (theirPublic : Bytes32) : Bytes32 :=
  P.x25519Shared keypair.secretBytes theirPublic

/-! ## Encryption -/

def encryptAesGcm (key : Bytes32) (nonce : FixedBytes 12) (plaintext aad : Bytes) :
    Except CryptoError Bytes :=
  match P.aesGcmEncrypt key nonce plaintext aad with
  | some ciphertext => .ok ciphertext
  | none => .error .encryptionFailed

def decryptAesGcm (key : Bytes32) (nonce : FixedBytes 12) (ciphertext aad : Bytes) :
    Except CryptoError Bytes :=
  match P.aesGcmDecrypt key nonce ciphertext aad with
  | some plaintext => .ok plaintext
  | none => .error .decryptionFailed

/-- Encrypt under a random nonce that goes in front of the ciphertext.  The
source has this body twice, for the CSK and for the PSK. -/
def encryptWithNonce (key : Bytes32) (nonce : Option (FixedBytes 12)) (plaintext : Bytes) :
    Except CryptoError Bytes :=
  match nonce with
  | none => .error .randomGenerationFailed
  | some nonce => do
      let ciphertext ← encryptAesGcm P key nonce plaintext []
      return nonce.bytes ++ ciphertext

/-- Decrypt with the nonce that stands in the first 12 bytes. -/
def decryptWithNonce (key : Bytes32) (ciphertextWithNonce : Bytes) : Except CryptoError Bytes :=
  match ofBytes 12 (ciphertextWithNonce.take 12) with
  | none => .error .decryptionFailed
  | some nonce => decryptAesGcm P key nonce (ciphertextWithNonce.drop 12) []

def encryptWithCskAndRandomNonce (csk : ClientSymmetricKey) (nonce : Option (FixedBytes 12))
    (plaintext : Bytes) : Except CryptoError Bytes :=
  encryptWithNonce P csk nonce plaintext

def decryptWithCskAndPrependedNonce (csk : ClientSymmetricKey) (ciphertextWithNonce : Bytes) :
    Except CryptoError Bytes :=
  decryptWithNonce P csk ciphertextWithNonce

def encryptWithPsk (psk : PairingSymmetricKey) (nonce : Option (FixedBytes 12))
    (plaintext : Bytes) : Except CryptoError Bytes :=
  encryptWithNonce P psk nonce plaintext

def decryptWithPsk (psk : PairingSymmetricKey) (ciphertextWithNonce : Bytes) :
    Except CryptoError Bytes :=
  decryptWithNonce P psk ciphertextWithNonce

/-- Decryption undoes encryption under the same key. -/
theorem decryptWithNonce_of_encryptWithNonce {key : Bytes32} {nonce : Option (FixedBytes 12)}
    {plaintext ciphertext : Bytes} (h : encryptWithNonce P key nonce plaintext = .ok ciphertext) :
    decryptWithNonce P key ciphertext = .ok plaintext := by
  cases nonce with
  | none => cases h
  | some nonce =>
    cases he : P.aesGcmEncrypt key nonce plaintext [] with
    | none => simp [encryptWithNonce, encryptAesGcm, he, bind, Except.bind] at h
    | some body =>
      have hc : nonce.bytes ++ body = ciphertext := by
        simpa [encryptWithNonce, encryptAesGcm, he, bind, Except.bind, pure, Except.pure]
          using h
      have htake : ciphertext.take 12 = nonce.bytes := by
        rw [← hc]; exact List.take_left' nonce.length_bytes
      have hdrop : ciphertext.drop 12 = body := by
        rw [← hc]; exact List.drop_left' nonce.length_bytes
      simp [decryptWithNonce, decryptAesGcm, htake, hdrop, P.aesGcm_decrypt_encrypt he]

/-! ## Signatures -/

def signEd25519 (keypair : Ed25519KeyPair) (data : Bytes) : Bytes :=
  (P.ed25519Sign keypair.signingKeyBytes data).bytes

def verifyEd25519 (publicKey : Bytes32) (data signature : Bytes) : Except CryptoError Unit :=
  if P.ed25519KeyValid publicKey then
    match ofBytes 64 signature with
    | none => .error .invalidSignature
    | some signature =>
      if P.ed25519Verify publicKey data signature then .ok () else .error .invalidSignature
  else .error .invalidSignature

theorem verifyEd25519_eq_ok_iff {publicKey : Bytes32} {data signature : Bytes} :
    verifyEd25519 P publicKey data signature = .ok () ↔
      P.ed25519KeyValid publicKey = true ∧ ∃ fixed : FixedBytes 64,
        fixed.bytes = signature ∧ P.ed25519Verify publicKey data fixed = true := by
  unfold verifyEd25519
  cases hfixed : ofBytes 64 signature with
  | none =>
    simp only [ite_self, reduceCtorEq, false_iff, not_and, not_exists]
    rintro - fixed rfl
    rw [ofBytes_bytes] at hfixed
    cases hfixed
  | some fixed =>
    have hbytes := ofBytes_eq_some.mp hfixed
    dsimp only
    constructor
    · intro h
      split_ifs at h with hvalid hverifies
      exact ⟨hvalid, fixed, hbytes.symm, hverifies⟩
    · rintro ⟨hvalid, other, rfl, hverifies⟩
      cases (ofBytes_bytes other).symm.trans hfixed
      simp only [hvalid, hverifies, if_true]

/-- A signature verifies under the public key of its signer, if that key is accepted. -/
theorem verifyEd25519_signEd25519 {keypair : Ed25519KeyPair}
    (hvalid : P.ed25519KeyValid (keypair.verifyingKeyBytes P) = true) (data : Bytes) :
    verifyEd25519 P (keypair.verifyingKeyBytes P) data (signEd25519 P keypair data) = .ok () := by
  have hverify := P.ed25519_verify_sign keypair.signingKeyBytes data
  rw [verifyEd25519, if_pos hvalid, signEd25519, ofBytes_bytes]
  exact if_pos hverify

/-! ## Key derivation -/

/-- An ASCII text as bytes, the source's `b"…"`. -/
def ascii (s : String) : Bytes := s.toList.map fun c ↦ UInt8.ofNat c.toNat

def derivePskFromX25519 (sharedSecret : Bytes32) : Except CryptoError PairingSymmetricKey :=
  match P.hkdf sharedSecret.bytes (ascii "tapauth-pairing-key") 32 with
  | some psk => .ok psk
  | none => .error .keyDerivationFailed

/-- A big-endian byte string as a number. -/
def fromBeBytes (b : Bytes) : Nat := b.foldl (fun acc x ↦ acc * 256 + x.toNat) 0

/-- The source's `{:06}`. -/
def formatSixDigits (n : Nat) : String :=
  String.ofList ((toString n).toList.leftpad 6 '0')

/-- The short authentication string both users compare: six digits derived from
the PSK and the two *X25519* keys. -/
def deriveSas (psk : PairingSymmetricKey) (clientPublic serverPublic : Bytes32) :
    Except CryptoError String :=
  match P.hkdf psk.bytes (ascii "tapauth-sas" ++ clientPublic.bytes ++ serverPublic.bytes) 8 with
  | some output => .ok (formatSixDigits (fromBeBytes output.bytes % 1000000))
  | none => .error .keyDerivationFailed

/-- The characters of the first `n` bytes and the others.  The source's slices panic where this
cuts inside a character; the codes are ASCII digits. -/
def splitAtByte : Nat → List Char → List Char × List Char
  | 0, cs => ([], cs)
  | _, [] => ([], [])
  | n + 1, c :: cs =>
    let (front, back) := splitAtByte (n + 1 - c.utf8Size) cs
    (c :: front, back)

/-- `format_sas`: how a code of six digits is shown. -/
def formatSas (sas : String) : String :=
  if sas.utf8ByteSize = 6 then
    let (front, back) := splitAtByte 3 sas.toList
    String.ofList front ++ "-" ++ String.ofList back
  else sas

/-! ## Temporal identifiers -/

/-- `TIME_WINDOW_SECONDS`. -/
def timeWindowSeconds : UInt64 := 60

def currentTimeWindow (unixSeconds : Option UInt64) : Except CryptoError UInt64 :=
  match unixSeconds with
  | none => .error .systemTimeError
  | some now => .ok (now / timeWindowSeconds)

/-- The source's `u64::to_be_bytes`. -/
def toBeBytes (x : UInt64) : Bytes :=
  (List.range 8).map fun i ↦ UInt8.ofNat (x.toNat / 256 ^ (7 - i))

/-- The first bytes of the HMAC of the time window under the CSK. -/
def temporalIdentifierOf (n : Nat) (csk : ClientSymmetricKey) (timeWindow : UInt64) :
    Except CryptoError (FixedBytes n) :=
  match ofBytes n ((P.hmacSha256 csk.bytes (toBeBytes timeWindow)).bytes.take n) with
  | some identifier => .ok identifier
  | none => .error .keyDerivationFailed

def generateTemporalIdentifier (csk : ClientSymmetricKey) (timeWindow : UInt64) :
    Except CryptoError (FixedBytes 16) :=
  temporalIdentifierOf P 16 csk timeWindow

def generateTemporalIdentifierBle (csk : ClientSymmetricKey) (timeWindow : UInt64) :
    Except CryptoError (FixedBytes 10) :=
  temporalIdentifierOf P 10 csk timeWindow

def generateCurrentTemporalIdentifier (unixSeconds : Option UInt64) (csk : ClientSymmetricKey) :
    Except CryptoError (FixedBytes 16) := do
  generateTemporalIdentifier P csk (← currentTimeWindow unixSeconds)

def generateCurrentTemporalIdentifierBle (unixSeconds : Option UInt64)
    (csk : ClientSymmetricKey) : Except CryptoError (FixedBytes 10) := do
  generateTemporalIdentifierBle P csk (← currentTimeWindow unixSeconds)

/-- An HMAC is long enough for either identifier. -/
theorem temporalIdentifierOf_isOk {n : Nat} (hn : n ≤ 32) (csk : ClientSymmetricKey)
    (timeWindow : UInt64) : (temporalIdentifierOf P n csk timeWindow).isOk = true := by
  unfold temporalIdentifierOf
  generalize P.hmacSha256 csk.bytes (toBeBytes timeWindow) = tag
  have hlength : (tag.bytes.take n).length = n := by
    rw [List.length_take, length_bytes, Nat.min_eq_left hn]
  have hsome : ofBytes n (tag.bytes.take n) = some ⟨tag.bytes.take n, hlength⟩ :=
    ofBytes_eq_some.mpr rfl
  rw [hsome]
  rfl

/-- Once there is a clock, the BLE identifier cannot fail. -/
theorem generateCurrentTemporalIdentifierBle_isOk {unixSeconds : Option UInt64} {window : UInt64}
    (h : currentTimeWindow unixSeconds = .ok window) (csk : ClientSymmetricKey) :
    (generateCurrentTemporalIdentifierBle P unixSeconds csk).isOk = true := by
  rw [generateCurrentTemporalIdentifierBle, h]
  exact temporalIdentifierOf_isOk P (by decide) csk window

end

end TapAuth.Shared
