import TapAuth.Phone.Packets
import TapAuth.Phone.Responses
import TapAuth.Shared.Transparent

/-!
# The two packet codecs

The desktop and the phone each have their own functions to close a packet and to open one.
The desktop's work on messages; the phone's are functions of the native library that work on byte
arrays, cut the nonce off by themselves and report errors as the texts of exceptions.  Here
the phone's decoder is written out as the library has it (`nativeDecryptEncryptedPacket`)
and shown to be the function the phone's services are modelled with.

A packet of either side opens on both sides to what was put in.
-/

namespace TapAuth.System

open Shared Phone FixedBytes

section

variable (P : Primitives)

/-- The native `decryptEncryptedPacket`: the bytes of the message, or the exception. -/
def nativeDecryptEncryptedPacket (csk encryptedPacketBytes : Bytes) : Except String Bytes := do
  let csk ← jbytearrayToFixed "csk" csk
  let packet ← decodeMessage P.packetFormat encryptedPacketBytes
  if packet.ciphertext.length < 12 then .error "ciphertext too short - missing nonce"
  else
    match ofBytes 12 (packet.ciphertext.take 12) with
    | none => .error "failed to extract nonce"
    | some nonce =>
      (decryptAesGcm P csk nonce (packet.ciphertext.drop 12) []).mapError
        fun _ ↦ "decryption failed"

/-- The packet carries the identifier of the window the sender's clock is in. -/
def CarriesCurrentIdentifier (env : Ambient) (csk : ClientSymmetricKey) (packet : EncryptedPacket) :
    Prop :=
  packet.temporalIdentifier.length = 16 ∧ ∃ now, env.unixSeconds = some now ∧
    ∃ identifier, generateTemporalIdentifier P csk (now / timeWindowSeconds) = .ok identifier ∧
      packet.temporalIdentifier = identifier.bytes

variable {P} {csk : ClientSymmetricKey}

variable {packet : EncryptedPacket}

theorem carriesCurrentIdentifier {env : Ambient}
    (h : ∃ identifier, generateCurrentTemporalIdentifier P env.unixSeconds csk = .ok identifier ∧
      packet.temporalIdentifier = identifier.bytes) :
    CarriesCurrentIdentifier P env csk packet := by
  obtain ⟨identifier, hcurrent, hidentifier⟩ := h
  obtain ⟨window, hwindow, hgenerated⟩ := Except.bind_eq_ok_iff.mp hcurrent
  cases hnow : env.unixSeconds with
  | none =>
    rw [hnow] at hwindow
    cases hwindow
  | some now =>
    rw [hnow] at hwindow
    cases hwindow
    exact ⟨hidentifier ▸ identifier.length_bytes, now, hnow, identifier, hgenerated, hidentifier⟩

/-! ## The phone's decoder -/

theorem decryptWithCskAndPrependedNonce_of_short {ciphertext : Bytes}
    (h : ciphertext.length < 12) :
    decryptWithCskAndPrependedNonce P csk ciphertext = .error .decryptionFailed := by
  have hnone : ofBytes 12 (ciphertext.take 12) = none :=
    dif_neg (by rw [List.length_take]; omega)
  simp only [decryptWithCskAndPrependedNonce, decryptWithNonce, hnone]

/-- Of a packet it can parse, with a key of the right length. -/
theorem nativeDecryptEncryptedPacket_of_decode {bytes : Bytes}
    (h : P.packetFormat.decode bytes = .ok packet) :
    nativeDecryptEncryptedPacket P csk.bytes bytes =
      if packet.ciphertext.length < 12 then .error "ciphertext too short - missing nonce"
      else (decryptWithCskAndPrependedNonce P csk packet.ciphertext).mapError
        fun _ ↦ "decryption failed" := by
  have hcsk : jbytearrayToFixed "csk" csk.bytes = .ok csk :=
    jbytearrayToFixed_eq_ok.mpr (ofBytes_bytes csk)
  have hdecoded : decodeMessage P.packetFormat bytes = .ok packet :=
    Except.mapError_eq_ok_iff.mpr h
  simp only [nativeDecryptEncryptedPacket, hcsk, hdecoded, bind, Except.bind]
  split_ifs with hshort
  · rfl
  · have hlength : (packet.ciphertext.take 12).length = 12 := by
      rw [List.length_take]
      omega
    have hnonce : ofBytes 12 (packet.ciphertext.take 12) =
        some ⟨packet.ciphertext.take 12, hlength⟩ := ofBytes_eq_some.mpr rfl
    simp only [decryptWithCskAndPrependedNonce, decryptWithNonce, hnonce]

/-- The services are modelled with this decoder. -/
theorem decryptEncryptedPacket_eq (csk : ClientSymmetricKey) (bytes : Bytes) :
    decryptEncryptedPacket P csk.bytes bytes =
      (nativeDecryptEncryptedPacket P csk.bytes bytes).toOption := by
  cases hdecoded : P.packetFormat.decode bytes with
  | error text =>
    have hcsk : jbytearrayToFixed "csk" csk.bytes = .ok csk :=
      jbytearrayToFixed_eq_ok.mpr (ofBytes_bytes csk)
    simp only [decryptEncryptedPacket, ofBytes_bytes, hdecoded,
      nativeDecryptEncryptedPacket, hcsk, decodeMessage, bind, Except.bind]
    rfl
  | ok packet =>
    rw [nativeDecryptEncryptedPacket_of_decode hdecoded]
    simp only [decryptEncryptedPacket, ofBytes_bytes, hdecoded]
    split_ifs with hshort
    · rw [decryptWithCskAndPrependedNonce_of_short hshort]
      rfl
    · cases decryptWithCskAndPrependedNonce P csk packet.ciphertext <;> rfl

theorem nativeDecryptEncryptedPacket_of_plaintext {bytes message : Bytes}
    (hdecoded : P.packetFormat.decode bytes = .ok packet)
    (h : decryptWithCskAndPrependedNonce P csk packet.ciphertext = .ok message) :
    nativeDecryptEncryptedPacket P csk.bytes bytes = .ok message := by
  rw [nativeDecryptEncryptedPacket_of_decode hdecoded, h]
  split_ifs with hshort
  · rw [decryptWithCskAndPrependedNonce_of_short hshort] at h
    cases h
  · rfl

end

/-- A packet that the desktop or the phone has built, written and parsed: both sides open it to
the message that was put in, and it carries the sender's current identifier.  A
ciphertext without room for a nonce is refused by both. -/
theorem packet_codecs_agree (P : Primitives) (csk : ClientSymmetricKey) :
    (∀ wrapper env packet, createEncryptedPacketWithCskNonce P env csk wrapper = .ok packet →
      P.packetFormat.decode (P.packetFormat.encode packet) = .ok packet ∧
      CarriesCurrentIdentifier P env csk packet ∧
      decryptEncryptedPacketWithCskNonce P csk packet = .ok wrapper ∧
      nativeDecryptEncryptedPacket P csk.bytes (P.packetFormat.encode packet) =
        .ok (P.wrapperFormat.encode wrapper)) ∧
    (∀ wrapper env bytes,
      createEncryptedPacket P env csk.bytes (P.wrapperFormat.encode wrapper) = .ok bytes →
      ∃ packet, P.packetFormat.decode bytes = .ok packet ∧
        CarriesCurrentIdentifier P env csk packet ∧
        decryptEncryptedPacketWithCskNonce P csk packet = .ok wrapper ∧
        nativeDecryptEncryptedPacket P csk.bytes bytes = .ok (P.wrapperFormat.encode wrapper)) ∧
    (∀ packet : EncryptedPacket, packet.ciphertext.length < 12 →
      decryptEncryptedPacketWithCskNonce P csk packet = .error (.crypto .decryptionFailed) ∧
      ∀ bytes, P.packetFormat.decode bytes = .ok packet →
        nativeDecryptEncryptedPacket P csk.bytes bytes =
          .error "ciphertext too short - missing nonce") := by
  refine ⟨?_, ?_, ?_⟩
  · intro wrapper env packet h
    obtain ⟨hidentifier, hdecrypt⟩ := createEncryptedPacketWithCskNonce_eq_ok P h
    have hdecoded := P.packetFormat.decode_encode packet
    exact ⟨hdecoded, carriesCurrentIdentifier hidentifier, decryptEncryptedPacket_of_create P h,
      nativeDecryptEncryptedPacket_of_plaintext hdecoded hdecrypt⟩
  · intro wrapper env bytes h
    obtain ⟨packet, rfl, hidentifier, hdecrypt⟩ := createEncryptedPacket_eq_ok h
    have hdecoded := P.packetFormat.decode_encode packet
    exact ⟨packet, hdecoded, carriesCurrentIdentifier hidentifier,
      decryptEncryptedPacket_of_plaintext P hdecrypt,
      nativeDecryptEncryptedPacket_of_plaintext hdecoded hdecrypt⟩
  · intro packet hshort
    refine ⟨?_, fun bytes hdecoded ↦ ?_⟩
    · rw [decryptEncryptedPacketWithCskNonce, decryptWithCskAndPrependedNonce_of_short hshort]
    · rw [nativeDecryptEncryptedPacket_of_decode hdecoded, if_pos hshort]

namespace PacketSample

def csk : ClientSymmetricKey := fill 32 5

def env : Ambient := ⟨some 1200, some (fill 12 9)⟩

def wrapper : WrapperMessage := wrapAuthCancel ⟨[1, 2, 3]⟩

end PacketSample

open PacketSample Transparent

/-- Both sides build a packet of the message, and both open both packets. -/
theorem packet_codecs_agree_sample :
    (∃ packet, createEncryptedPacketWithCskNonce primitives env csk wrapper = .ok packet ∧
      decryptEncryptedPacketWithCskNonce primitives csk packet = .ok wrapper ∧
      nativeDecryptEncryptedPacket primitives csk.bytes (primitives.packetFormat.encode packet) =
        .ok (primitives.wrapperFormat.encode wrapper)) ∧
    (∃ bytes packet, createEncryptedPacket primitives env csk.bytes
        (primitives.wrapperFormat.encode wrapper) = .ok bytes ∧
      primitives.packetFormat.decode bytes = .ok packet ∧
      decryptEncryptedPacketWithCskNonce primitives csk packet = .ok wrapper ∧
      nativeDecryptEncryptedPacket primitives csk.bytes bytes =
        .ok (primitives.wrapperFormat.encode wrapper)) ∧
    decryptEncryptedPacketWithCskNonce primitives csk ⟨[], 1, [1, 2]⟩ =
      .error (.crypto .decryptionFailed) := by
  obtain ⟨hdesktop, hphone, hshort⟩ := packet_codecs_agree primitives csk
  have hpacket : (createEncryptedPacketWithCskNonce primitives env csk wrapper).toOption.isSome =
      true := by
    decide +kernel
  have hbytes : (createEncryptedPacket primitives env csk.bytes
      (primitives.wrapperFormat.encode wrapper)).toOption.isSome = true := by
    decide +kernel
  obtain ⟨packet, hpacket⟩ := Option.isSome_iff_exists.mp hpacket
  obtain ⟨bytes, hbytes⟩ := Option.isSome_iff_exists.mp hbytes
  obtain ⟨-, -, hopened⟩ := hdesktop _ _ _ (Except.toOption_eq_some_iff.mp hpacket)
  obtain ⟨sent, hdecoded, -, hreopened⟩ := hphone _ _ _ (Except.toOption_eq_some_iff.mp hbytes)
  exact ⟨⟨packet, Except.toOption_eq_some_iff.mp hpacket, hopened⟩,
    ⟨bytes, sent, Except.toOption_eq_some_iff.mp hbytes, hdecoded, hreopened⟩,
    (hshort ⟨[], 1, [1, 2]⟩ (by decide)).1⟩

end TapAuth.System
