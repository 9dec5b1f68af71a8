import TapAuth.Shared.Pairing

/-!
# The phone's side of pairing in the shared crate

`ServerPairingSession`, the Rust counterpart of the desktop's session: it sends the
`PairingHello`, agrees on PSK and SAS when the `PairingResponse` comes, opens the CSK
message under the PSK and confirms the key with its hash.  `complete_pairing` is one
function with two waits for the desktop; `awaitResponse` and `awaitCsk` are its pieces
between them.
-/

namespace TapAuth.Shared

structure ServerPairingSession where
  x25519Keypair : X25519KeyPair
  ed25519PublicKey : Bytes32
  clientX25519Public : Option Bytes32
  psk : Option PairingSymmetricKey
  sas : Option String
  deriving DecidableEq

namespace ServerPairingSession

open ClientPairingSession (keyField)

def new (x25519Keypair : X25519KeyPair) (ed25519PublicKey : Bytes32) : ServerPairingSession :=
  ⟨x25519Keypair, ed25519PublicKey, none, none, none⟩

/-- What `complete_pairing` returns. -/
structure Completed where
  csk : ClientSymmetricKey
  clientEd25519Public : Bytes32
  clientDeviceName : String
  sas : String
  deriving DecidableEq

section

variable (P : Primitives)

def pairingHello (s : ServerPairingSession) (serverDeviceName : String) : PairingHello where
  version := pairingVersion
  x25519PublicKey := (s.x25519Keypair.publicKeyBytes P).bytes
  ed25519PublicKey := s.ed25519PublicKey.bytes
  deviceName := serverDeviceName
  supportedSymmetricAlgorithms := [symmetricAlgorithmAes256Gcm]
  supportedHashAlgorithms := [hashAlgorithmSha256]
  supportedSignatureAlgorithms := [signatureAlgorithmEd25519]

def receivePairingResponse (frame : Frame) : Except ProtocolError PairingResponse := do
  let response ← decodeFrame P.responseFormat (← readFrame frame)
  if response.version ≠ pairingVersion then throw .invalidMessageFormat else return response

/-- From the desktop's response to the wait for the CSK. -/
def awaitResponse (s : ServerPairingSession) (frame : Frame) :
    Except ProtocolError (ServerPairingSession × PairingResponse × String) := do
  let response ← receivePairingResponse P frame
  let clientX25519Public ← keyField response.x25519PublicKey
  let sharedSecret := s.x25519Keypair.diffieHellman P clientX25519Public
  let psk ← (derivePskFromX25519 P sharedSecret).mapError ProtocolError.crypto
  let sas ← (deriveSas P psk clientX25519Public (s.x25519Keypair.publicKeyBytes P)).mapError
    ProtocolError.crypto
  return ({ s with
    clientX25519Public := some clientX25519Public, psk := some psk, sas := some sas },
    response, sas)

/-- The session's PSK. -/
def requirePsk (s : ServerPairingSession) : Except ProtocolError PairingSymmetricKey :=
  match s.psk with
  | some psk => .ok psk
  | none => .error (.missingField "psk")

/-- The CSK and its hash. -/
def receiveCskMessage (s : ServerPairingSession) (frame : Frame) :
    Except ProtocolError (ClientSymmetricKey × Bytes32) := do
  let message ← decodeFrame P.cskFormat (← readFrame frame)
  let psk ← s.requirePsk
  let plaintext ← (decryptWithPsk P psk message.encryptedCsk).mapError ProtocolError.crypto
  let csk ← keyField plaintext
  return (csk, P.sha256 csk.bytes)

def pairingComplete (s : ServerPairingSession) (nonce : Option (FixedBytes 12))
    (cskHash : Bytes32) : Except ProtocolError PairingComplete := do
  let psk ← s.requirePsk
  let encryptedHash ← (encryptWithPsk P psk nonce cskHash.bytes).mapError ProtocolError.crypto
  return ⟨true, hashAlgorithmSha256, encryptedHash⟩

/-- From the CSK message to the completion that is sent. -/
def awaitCsk (s : ServerPairingSession) (nonce : Option (FixedBytes 12)) (frame : Frame) :
    Except ProtocolError (ClientSymmetricKey × Bytes) := do
  let (csk, cskHash) ← s.receiveCskMessage P frame
  let complete ← s.pairingComplete P nonce cskHash
  return (csk, P.completeFormat.encode complete)

/-- `complete_pairing` with the two frames of the desktop.  The completion is sent before the
desktop's Ed25519 key is looked at. -/
def completePairing (s : ServerPairingSession) (nonce : Option (FixedBytes 12))
    (response csk : Frame) : Except ProtocolError Completed := do
  let (s, response, sas) ← s.awaitResponse P response
  let (csk, _) ← s.awaitCsk P nonce csk
  let clientEd25519Public ← keyField response.ed25519PublicKey
  return ⟨csk, clientEd25519Public, response.deviceName, sas⟩

end

end ServerPairingSession

end TapAuth.Shared
