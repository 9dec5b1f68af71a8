import TapAuth.Lib.Proto3
import TapAuth.Shared.Messages

/-!
# The wire format of wrappers

`WrapperMessage` and the messages it carries in the canonical proto3 encoding, with the field
numbers of `auth_protocol.proto`.  `wrapperWireFormat` reads what it writes, so different
wrappers have different encodings.

The texts of a message are UTF-8.  Where a field that carries a message occurs more than
once the last one counts; merging is not covered.
-/

namespace TapAuth.Shared

open Proto3

/-! ## Values -/

def utf8 (text : String) : Bytes := text.toUTF8.data.toList

def utf8Decode? (data : Bytes) : Option String := String.fromUTF8? ⟨data.toArray⟩

@[simp] theorem utf8Decode?_utf8 (text : String) : utf8Decode? (utf8 text) = some text := by
  simp only [utf8Decode?, utf8, Array.toArray_toList, String.fromUTF8?]
  exact dif_pos text.isValidUTF8

/-- An enumeration on the wire: its sign is extended to 64 bits. -/
def enumNumber (value : Int32) : Nat := value.toInt64.toUInt64.toNat

def enumOfNumber (n : Nat) : Int32 := (UInt64.ofNat n).toInt64.toInt32

@[simp] theorem enumOfNumber_enumNumber (value : Int32) :
    enumOfNumber (enumNumber value) = value := by
  simp [enumOfNumber, enumNumber]

/-! ## Messages -/

def requestFields (request : AuthenticationRequest) : List Field :=
  bytesField 1 request.challenge ++ bytesField 2 (utf8 request.username) ++
    bytesField 3 (utf8 request.hostname) ++ uintField 4 request.timestampUnixSeconds.toNat

def payloadFields : Payload → List Field
  | .authRequest request => messageField 4 (requestFields request)
  | .authGrant grant => messageField 5 (bytesField 1 grant.signedChallenge)
  | .authDenial denial => messageField 6 (bytesField 1 denial.challenge)
  | .grantConfirmation confirmation => messageField 7 (bytesField 1 confirmation.challenge)
  | .authCancel cancel => messageField 8 (bytesField 1 cancel.challenge)

def wrapperFields (wrapper : WrapperMessage) : List Field :=
  uintField 1 wrapper.version.toNat ++ uintField 2 (enumNumber wrapper.signatureAlgorithm) ++
    bytesField 3 wrapper.signature ++ wrapper.payload.elim [] payloadFields

def readRequest (fs : List Field) : Option AuthenticationRequest := do
  let challenge ← bytesAt 1 fs
  let username ← (bytesAt 2 fs).bind utf8Decode?
  let hostname ← (bytesAt 3 fs).bind utf8Decode?
  let timestamp ← uintAt 4 fs
  return ⟨challenge, username, hostname, UInt64.ofNat timestamp⟩

/-- A field of the alternative. -/
def readPayload : Field → Option Payload
  | ⟨_, .varint _⟩ => none
  | ⟨number, .delimited data⟩ => do
      let fs ← (Proto3.fields.decode data).toOption
      match number with
      | 4 => (readRequest fs).map .authRequest
      | 5 => (bytesAt 1 fs).map fun data ↦ .authGrant ⟨data⟩
      | 6 => (bytesAt 1 fs).map fun data ↦ .authDenial ⟨data⟩
      | 7 => (bytesAt 1 fs).map fun data ↦ .grantConfirmation ⟨data⟩
      | 8 => (bytesAt 1 fs).map fun data ↦ .authCancel ⟨data⟩
      | _ => none

/-- The last field of the alternative, if there is one. -/
def payloadAt (fs : List Field) : Option (Option Payload) :=
  match lastField (fun number ↦ 4 ≤ number && number ≤ 8) fs with
  | none => some none
  | some field => (readPayload field).map some

def readWrapper (fs : List Field) : Option WrapperMessage := do
  let version ← uintAt 1 fs
  let signatureAlgorithm ← uintAt 2 fs
  let signature ← bytesAt 3 fs
  let payload ← payloadAt fs
  return ⟨UInt32.ofNat version, enumOfNumber signatureAlgorithm, signature, payload⟩

/-! ## What is written is read -/

theorem readRequest_requestFields (request : AuthenticationRequest) :
    readRequest (requestFields request) = some request := by
  have hchallenge : bytesAt 1 (requestFields request) = some request.challenge :=
    bytesAt_of_lastField (by
      simp [requestFields, lastField_append, lastField_bytesField, lastField_uintField])
  have husername : bytesAt 2 (requestFields request) = some (utf8 request.username) :=
    bytesAt_of_lastField (by
      simp [requestFields, lastField_append, lastField_bytesField, lastField_uintField])
  have hhostname : bytesAt 3 (requestFields request) = some (utf8 request.hostname) :=
    bytesAt_of_lastField (by
      simp [requestFields, lastField_append, lastField_bytesField, lastField_uintField])
  have htimestamp :
      uintAt 4 (requestFields request) = some request.timestampUnixSeconds.toNat :=
    uintAt_of_lastField (by
      simp [requestFields, lastField_append, lastField_bytesField, lastField_uintField])
  simp [readRequest, hchallenge, husername, hhostname, htimestamp]

theorem bytesAt_bytesField (number : Nat) (data : Bytes) :
    bytesAt number (bytesField number data) = some data :=
  bytesAt_of_lastField rfl

/-- A payload is one field, from which it is read. -/
theorem exists_payloadFields_eq (payload : Payload) :
    ∃ field, payloadFields payload = [field] ∧ 4 ≤ field.number ∧ field.number ≤ 8 ∧
      readPayload field = some payload := by
  cases payload with
  | authRequest request =>
    refine ⟨_, rfl, by simp, by simp, ?_⟩
    simp [readPayload, readRequest_requestFields, Except.toOption]
  | authGrant grant =>
    refine ⟨_, rfl, by simp, by simp, ?_⟩
    simp [readPayload, bytesAt_bytesField, Except.toOption]
  | authDenial denial =>
    refine ⟨_, rfl, by simp, by simp, ?_⟩
    simp [readPayload, bytesAt_bytesField, Except.toOption]
  | grantConfirmation confirmation =>
    refine ⟨_, rfl, by simp, by simp, ?_⟩
    simp [readPayload, bytesAt_bytesField, Except.toOption]
  | authCancel cancel =>
    refine ⟨_, rfl, by simp, by simp, ?_⟩
    simp [readPayload, bytesAt_bytesField, Except.toOption]

theorem lastField_wrapperFields (asked : Nat → Bool) (wrapper : WrapperMessage) :
    lastField asked (wrapperFields wrapper) =
      (lastField asked (wrapper.payload.elim [] payloadFields)).or
        ((lastField asked (bytesField 3 wrapper.signature)).or
          ((lastField asked (uintField 2 (enumNumber wrapper.signatureAlgorithm))).or
            (lastField asked (uintField 1 wrapper.version.toNat)))) := by
  rw [wrapperFields, lastField_append, lastField_append, lastField_append]

/-- The numbers of the alternative are above those of the other fields. -/
theorem lastField_payload_eq_none {number : Nat} (h : number < 4) (payload : Option Payload) :
    lastField (· = number) (payload.elim [] payloadFields) = none := by
  cases payload with
  | none => rfl
  | some payload =>
    obtain ⟨field, hfields, hlow, -⟩ := exists_payloadFields_eq payload
    have hne : field.number ≠ number := by omega
    simp [hfields, lastField, hne]

theorem payloadAt_wrapperFields (wrapper : WrapperMessage) :
    payloadAt (wrapperFields wrapper) = some wrapper.payload := by
  rw [payloadAt, lastField_wrapperFields]
  cases wrapper.payload with
  | none => simp [lastField_bytesField, lastField_uintField]
  | some payload =>
    obtain ⟨field, hfields, hlow, hhigh, hread⟩ := exists_payloadFields_eq payload
    simp [hfields, lastField, hlow, hhigh, hread]

theorem readWrapper_wrapperFields (wrapper : WrapperMessage) :
    readWrapper (wrapperFields wrapper) = some wrapper := by
  have hversion : uintAt 1 (wrapperFields wrapper) = some wrapper.version.toNat :=
    uintAt_of_lastField (by
      rw [lastField_wrapperFields, lastField_payload_eq_none (by decide)]
      simp [lastField_bytesField, lastField_uintField])
  have halgorithm :
      uintAt 2 (wrapperFields wrapper) = some (enumNumber wrapper.signatureAlgorithm) :=
    uintAt_of_lastField (by
      rw [lastField_wrapperFields, lastField_payload_eq_none (by decide)]
      simp [lastField_bytesField, lastField_uintField])
  have hsignature : bytesAt 3 (wrapperFields wrapper) = some wrapper.signature :=
    bytesAt_of_lastField (by
      rw [lastField_wrapperFields, lastField_payload_eq_none (by decide)]
      simp [lastField_bytesField, lastField_uintField])
  simp [readWrapper, hversion, halgorithm, hsignature, payloadAt_wrapperFields]

/-- Wrappers in the canonical proto3 encoding. -/
def wrapperWireFormat : Format WrapperMessage where
  encode wrapper := Proto3.encodeFields (wrapperFields wrapper)
  decode data := (Proto3.fields.decode data).bind fun fs ↦
    (readWrapper fs).elim (.error "malformed message") .ok
  decode_encode wrapper := by
    rw [Proto3.fields_decode_encodeFields]
    simp only [Except.bind, readWrapper_wrapperFields, Option.elim_some]

/-- Different wrappers have different encodings. -/
theorem wrapperWireFormat_encode_injective : Function.Injective wrapperWireFormat.encode := by
  intro v w h
  have hdecode := congrArg wrapperWireFormat.decode h
  rw [wrapperWireFormat.decode_encode, wrapperWireFormat.decode_encode] at hdecode
  exact Except.ok.inj hdecode

end TapAuth.Shared
