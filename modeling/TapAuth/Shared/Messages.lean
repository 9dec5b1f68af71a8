import TapAuth.Lib.Bytes

/-!
# The protocol's messages

The messages of `auth_protocol.proto` as `prost` types them.  An enumeration
field of a message is the integer that came over the wire, so that values outside
the enumeration stay visible; the enumerations themselves are only used to write
messages.
-/

namespace TapAuth.Shared

/-- The value of `SignatureAlgorithm.ED25519`. -/
def signatureAlgorithmEd25519 : Int32 := 1

/-- The value of `SymmetricAlgorithm.AES_256_GCM`. -/
def symmetricAlgorithmAes256Gcm : Int32 := 1

/-- The value of `HashAlgorithm.SHA256`. -/
def hashAlgorithmSha256 : Int32 := 1

/-! ## Authentication -/

structure AuthenticationRequest where
  challenge : Bytes
  username : String
  hostname : String
  timestampUnixSeconds : UInt64
  deriving DecidableEq

structure AuthenticationGrant where
  signedChallenge : Bytes
  deriving DecidableEq

structure AuthenticationDenial where
  challenge : Bytes
  deriving DecidableEq

structure GrantConfirmation where
  challenge : Bytes
  deriving DecidableEq

structure AuthenticationCancel where
  challenge : Bytes
  deriving DecidableEq

/-- The `payload` alternatives of a `WrapperMessage`. -/
inductive Payload where
  | authRequest (request : AuthenticationRequest)
  | authGrant (grant : AuthenticationGrant)
  | authDenial (denial : AuthenticationDenial)
  | grantConfirmation (confirmation : GrantConfirmation)
  | authCancel (cancel : AuthenticationCancel)
  deriving DecidableEq

/-- The signed envelope of every message after pairing.  The signature is over
the encoding of the wrapper with an empty `signature` field. -/
structure WrapperMessage where
  version : UInt32
  signatureAlgorithm : Int32
  signature : Bytes
  payload : Option Payload
  deriving DecidableEq

/-- What goes over the network: a `WrapperMessage` under the client symmetric
key, behind a rotating identifier. -/
structure EncryptedPacket where
  temporalIdentifier : Bytes
  encryptionAlgorithm : Int32
  ciphertext : Bytes
  deriving DecidableEq

/-! ## Pairing -/

structure PairingHello where
  version : UInt32
  x25519PublicKey : Bytes
  ed25519PublicKey : Bytes
  deviceName : String
  supportedSymmetricAlgorithms : List Int32
  supportedHashAlgorithms : List Int32
  supportedSignatureAlgorithms : List Int32
  deriving DecidableEq

structure PairingResponse where
  version : UInt32
  x25519PublicKey : Bytes
  ed25519PublicKey : Bytes
  deviceName : String
  selectedSymmetricAlgorithm : Int32
  selectedHashAlgorithm : Int32
  selectedSignatureAlgorithm : Int32
  deriving DecidableEq

structure PairingCskMessage where
  encryptedCsk : Bytes
  username : String
  deriving DecidableEq

structure PairingComplete where
  success : Bool
  hashAlgorithm : Int32
  cskHash : Bytes
  deriving DecidableEq

/-! ## Between the daemon and the PAM module -/

/-- `PamOutcome`, in the order of its values on the wire, from 0. -/
inductive PamOutcome where
  | success
  | denied
  | timeout
  | ignore
  | error
  deriving DecidableEq, Repr

end TapAuth.Shared
