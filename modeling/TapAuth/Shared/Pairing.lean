import TapAuth.Lib.Except
import TapAuth.Shared.Protocol

/-!
# The desktop's side of pairing

`ClientPairingSession` of the shared crate: phase one receives the phone's
`PairingHello`, agrees on a pairing key (PSK) and a short authentication string
(SAS) and answers with a `PairingResponse`; phase two, after the users have
compared the SAS, sends the client symmetric key under the PSK and waits for the
phone's `PairingComplete`.

A frame is the payload of one length-prefixed message; reading one can fail with
the text of an input/output error.
-/

namespace TapAuth.Shared

/-- What a read from the pairing connection gives. -/
abbrev Frame := Except String Bytes

/-- `MAX_MESSAGE_SIZE`. -/
def maxMessageSize : Nat := 16 * 1024

/-- `PAIRING_VERSION`. -/
def pairingVersion : UInt32 := 1

/-- Read a frame and refuse one that announces too many bytes. -/
def readFrame : Frame → Except ProtocolError Bytes
  | .error text => .error (.io text)
  | .ok bytes => if maxMessageSize < bytes.length then .error .invalidMessageFormat else .ok bytes

/-- Decode the payload of a frame. -/
def decodeFrame {α : Type} (format : Format α) (bytes : Bytes) : Except ProtocolError α :=
  (format.decode bytes).mapError .deserialization

structure ClientPairingSession where
  x25519Keypair : X25519KeyPair
  ed25519Keypair : Ed25519KeyPair
  serverX25519Public : Option Bytes32
  psk : Option PairingSymmetricKey
  sas : Option String
  serverSupportedSymmetric : List Int32
  serverSupportedHash : List Int32
  serverSupportedSignature : List Int32
  deriving DecidableEq

namespace ClientPairingSession

/-- A session before phase one. -/
def new (x25519Keypair : X25519KeyPair) (ed25519Keypair : Ed25519KeyPair) :
    ClientPairingSession :=
  ⟨x25519Keypair, ed25519Keypair, none, none, none, [], [], []⟩

/-- What phase one ends with. -/
structure Initiated where
  session : ClientPairingSession
  /-- The `PairingResponse` that was sent. -/
  response : Bytes
  serverEd25519Public : Bytes32
  serverDeviceName : String
  sas : String
  deriving DecidableEq

section

variable (P : Primitives)

def receivePairingHello (frame : Frame) : Except ProtocolError PairingHello := do
  let hello ← decodeFrame P.helloFormat (← readFrame frame)
  if hello.version ≠ pairingVersion then throw .invalidMessageFormat else return hello

/-- The first algorithm of the server's lists, or the default. -/
def pairingResponse (s : ClientPairingSession) (clientDeviceName : String) : PairingResponse where
  version := pairingVersion
  x25519PublicKey := (s.x25519Keypair.publicKeyBytes P).bytes
  ed25519PublicKey := (s.ed25519Keypair.verifyingKeyBytes P).bytes
  deviceName := clientDeviceName
  selectedSymmetricAlgorithm := s.serverSupportedSymmetric.head?.getD symmetricAlgorithmAes256Gcm
  selectedHashAlgorithm := s.serverSupportedHash.head?.getD hashAlgorithmSha256
  selectedSignatureAlgorithm := s.serverSupportedSignature.head?.getD signatureAlgorithmEd25519

/-- A key field of a message, which has to be 32 bytes long. -/
def keyField (bytes : Bytes) : Except ProtocolError Bytes32 :=
  match FixedBytes.ofBytes 32 bytes with
  | some key => .ok key
  | none => .error .invalidMessageFormat

/-- Phase one.  The response is sent before the phone's Ed25519 key is looked at. -/
def initiatePairing (s : ClientPairingSession) (frame : Frame) (clientDeviceName : String) :
    Except ProtocolError Initiated := do
  let hello ← receivePairingHello P frame
  let serverX25519Public ← keyField hello.x25519PublicKey
  let sharedSecret := s.x25519Keypair.diffieHellman P serverX25519Public
  let psk ← (derivePskFromX25519 P sharedSecret).mapError ProtocolError.crypto
  let sas ← (deriveSas P psk (s.x25519Keypair.publicKeyBytes P) serverX25519Public).mapError
    ProtocolError.crypto
  let session : ClientPairingSession :=
    { s with
      serverX25519Public := some serverX25519Public
      psk := some psk
      sas := some sas
      serverSupportedSymmetric := hello.supportedSymmetricAlgorithms
      serverSupportedHash := hello.supportedHashAlgorithms
      serverSupportedSignature := hello.supportedSignatureAlgorithms }
  let response := P.responseFormat.encode (session.pairingResponse P clientDeviceName)
  let serverEd25519Public ← keyField hello.ed25519PublicKey
  return ⟨session, response, serverEd25519Public, hello.deviceName, sas⟩

/-- The `PairingCskMessage` that phase two sends: the CSK under the PSK, the
username next to it in the clear. -/
def cskMessage (s : ClientPairingSession) (nonce : Option (FixedBytes 12))
    (csk : ClientSymmetricKey) (username : String) : Except ProtocolError PairingCskMessage := do
  match s.psk with
  | none => throw (.missingField "psk")
  | some psk =>
    let encryptedCsk ← (encryptWithPsk P psk nonce csk.bytes).mapError ProtocolError.crypto
    return ⟨encryptedCsk, username⟩

def receivePairingComplete (s : ClientPairingSession) (frame : Frame) (csk : ClientSymmetricKey) :
    Except ProtocolError Unit := do
  let complete ← decodeFrame P.completeFormat (← readFrame frame)
  if !complete.success then throw .invalidMessageFormat
  else
    match s.psk with
    | none => throw (.missingField "psk")
    | some psk =>
      let decryptedHash ← (decryptWithPsk P psk complete.cskHash).mapError ProtocolError.crypto
      if decryptedHash ≠ (P.sha256 csk.bytes).bytes then throw .invalidMessageFormat
      else return ()

/-- Phase two: the CSK message goes out, then the answer is awaited. -/
def finishPairing (s : ClientPairingSession) (nonce : Option (FixedBytes 12))
    (csk : ClientSymmetricKey) (username : String) (complete : Frame) :
    Except ProtocolError Unit := do
  let _ ← s.cskMessage P nonce csk username
  s.receivePairingComplete P complete csk

end

/-! ## What success says -/

section

variable {P : Primitives} {s : ClientPairingSession} {frame : Frame}

theorem decodeFrame_eq_ok {α : Type} {format : Format α} {bytes : Bytes} {message : α} :
    decodeFrame format bytes = .ok message ↔ format.decode bytes = .ok message :=
  Except.mapError_eq_ok_iff

theorem readFrame_eq_ok {bytes : Bytes} (h : readFrame frame = .ok bytes) : frame = .ok bytes := by
  cases frame with
  | error text => cases h
  | ok payload =>
    simp only [readFrame] at h
    split at h
    · cases h
    · cases h
      rfl

theorem keyField_eq_ok {bytes : Bytes} {key : Bytes32} :
    keyField bytes = .ok key ↔ FixedBytes.ofBytes 32 bytes = some key := by
  unfold keyField
  cases FixedBytes.ofBytes 32 bytes with
  | none => simp
  | some key' => simp

theorem receivePairingHello_eq_ok {hello : PairingHello}
    (h : receivePairingHello P frame = .ok hello) :
    ∃ bytes, frame = .ok bytes ∧ P.helloFormat.decode bytes = .ok hello := by
  simp only [receivePairingHello, Except.bind_eq_ok_iff] at h
  obtain ⟨bytes, hframe, hello', hhello, h⟩ := h
  split at h
  · cases h
  · cases h
    exact ⟨bytes, readFrame_eq_ok hframe, decodeFrame_eq_ok.mp hhello⟩

/-- What the desktop knows when it shows a SAS. -/
structure InitiatedFrom (P : Primitives) (s : ClientPairingSession) (frame : Frame)
    (clientDeviceName : String) (i : Initiated) (hello : PairingHello) (key : Bytes32)
    (psk : PairingSymmetricKey) : Prop where
  received : ∃ bytes, frame = .ok bytes ∧ P.helloFormat.decode bytes = .ok hello
  x25519Public : FixedBytes.ofBytes 32 hello.x25519PublicKey = some key
  derived : derivePskFromX25519 P (s.x25519Keypair.diffieHellman P key) = .ok psk
  session_psk : i.session.psk = some psk
  session_x25519 : i.session.x25519Keypair = s.x25519Keypair
  session_ed25519 : i.session.ed25519Keypair = s.ed25519Keypair
  serverEd25519Public : FixedBytes.ofBytes 32 hello.ed25519PublicKey = some i.serverEd25519Public
  response : i.response = P.responseFormat.encode (i.session.pairingResponse P clientDeviceName)

theorem initiatePairing_eq_ok {clientDeviceName : String} {i : Initiated}
    (h : s.initiatePairing P frame clientDeviceName = .ok i) :
    ∃ hello key psk, InitiatedFrom P s frame clientDeviceName i hello key psk := by
  simp only [initiatePairing, Except.bind_eq_ok_iff] at h
  obtain ⟨hello, hhello, key, hkey, psk, hpsk, sas, -, ed25519, hed25519, h⟩ := h
  cases h
  exact ⟨hello, key, psk, receivePairingHello_eq_ok hhello, keyField_eq_ok.mp hkey,
    Except.mapError_eq_ok_iff.mp hpsk, rfl, rfl, rfl, keyField_eq_ok.mp hed25519, rfl⟩

theorem cskMessage_eq_ok {nonce : Option (FixedBytes 12)} {csk : ClientSymmetricKey}
    {username : String} {message : PairingCskMessage} {psk : PairingSymmetricKey}
    (hpsk : s.psk = some psk) (h : s.cskMessage P nonce csk username = .ok message) :
    encryptWithPsk P psk nonce csk.bytes = .ok message.encryptedCsk ∧
      message.username = username := by
  simp only [cskMessage, hpsk, Except.bind_eq_ok_iff] at h
  obtain ⟨encryptedCsk, hencrypted, h⟩ := h
  cases h
  exact ⟨Except.mapError_eq_ok_iff.mp hencrypted, rfl⟩

end

end ClientPairingSession

end TapAuth.Shared
