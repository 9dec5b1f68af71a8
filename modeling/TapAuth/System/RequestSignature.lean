import TapAuth.Phone.RequestHandlers
import TapAuth.Shared.Transparent
import TapAuth.Shared.WireFormat

/-!
# What the signature of a request is over

The desktop signs the encoding of a wrapper whose signature is empty.  The phone does not keep
the bytes it received: it parses them, hands the parts to Kotlin and encodes a wrapper of
its own from them, over which it verifies the signature.  In between the timestamp is a
`Long`.

With the canonical encoding the two wrappers have the same bytes, and no others do: what the
phone has parsed is what the desktop signed.  That no signature is accepted over data
the desktop did not sign is an assumption about what is brought before the check
(`Unforgeable`).
-/

namespace TapAuth.System

open Shared Phone

section

variable (P : Primitives)

/-- `prost` writes wrappers in the canonical proto3 encoding. -/
def Canonical : Prop := P.wrapperFormat.encode = wrapperWireFormat.encode

/-- The bytes that `sign_wrapper_message` signs. -/
def dataToSign (wrapper : WrapperMessage) : Bytes :=
  P.wrapperFormat.encode
    { wrapper with signatureAlgorithm := signatureAlgorithmEd25519, signature := [] }

/-- Of the data and signatures brought before the check, none verifies that is not over the
data of a wrapper the desktop has signed. -/
def Unforgeable (publicKey : Bytes32) (signed : WrapperMessage → Prop)
    (presented : Bytes → Bytes → Prop) : Prop :=
  ∀ data (signature : FixedBytes 64), presented data signature.bytes →
    P.ed25519KeyValid publicKey = true → P.ed25519Verify publicKey data signature = true →
    ∃ wrapper, signed wrapper ∧ data = dataToSign P wrapper

theorem signature_signWrapperMessage (wrapper : WrapperMessage) (keypair : Ed25519KeyPair) :
    (signWrapperMessage P wrapper keypair).signature =
      signEd25519 P keypair (dataToSign P wrapper) := rfl

/-- The phone's reading of a request the desktop has signed. -/
def parsedRequest (request : AuthenticationRequest) (keypair : Ed25519KeyPair) : ParsedRequest where
  challenge := request.challenge
  username := request.username
  hostname := request.hostname
  timestampUnixSeconds := request.timestampUnixSeconds.toInt64
  signatureAlgorithm := signatureAlgorithmEd25519
  signature := signEd25519 P keypair (dataToSign P (wrapAuthRequest request))

theorem parseAuthRequest_signWrapperMessage (request : AuthenticationRequest)
    (keypair : Ed25519KeyPair) :
    parseAuthRequest P
        (P.wrapperFormat.encode (signWrapperMessage P (wrapAuthRequest request) keypair)) =
      some (parsedRequest P request keypair) := by
  unfold parseAuthRequest
  rw [P.wrapperFormat.decode_encode]
  rfl

/-- The timestamp goes through a `Long` and comes back. -/
theorem serialize_parsedRequest (request : AuthenticationRequest) (keypair : Ed25519KeyPair) :
    serializeAuthRequestForVerification P (parsedRequest P request keypair) =
      dataToSign P (wrapAuthRequest request) := by
  simp only [serializeAuthRequestForVerification, parsedRequest, UInt64.toUInt64_toInt64]
  rfl

theorem verifySignature_signEd25519 {keypair : Ed25519KeyPair}
    (hvalid : P.ed25519KeyValid (keypair.verifyingKeyBytes P) = true) (data : Bytes) :
    verifySignature P (keypair.verifyingKeyBytes P).bytes data (signEd25519 P keypair data) =
      true := by
  rw [verifySignature, FixedBytes.ofBytes_bytes]
  simp only [verifyEd25519_signEd25519 P hvalid]
  rfl

end

variable {P : Primitives}

/-- So the phone accepts no other signature. -/
theorem Unforgeable.exists_signed {publicKey : Bytes32} {signed : WrapperMessage → Prop}
    {presented : Bytes → Bytes → Prop} (h : Unforgeable P publicKey signed presented)
    {data signature : Bytes} (hpresented : presented data signature)
    (hverifies : verifySignature P publicKey.bytes data signature = true) :
    ∃ wrapper, signed wrapper ∧ data = dataToSign P wrapper := by
  rw [verifySignature, FixedBytes.ofBytes_bytes] at hverifies
  obtain ⟨hvalid, fixed, rfl, hfixed⟩ :=
    (verifyEd25519_eq_ok_iff P).mp (Except.isOk_iff.mp hverifies)
  exact h data fixed hpresented hvalid hfixed

/-- Wrappers with the same data to sign are alike but for their algorithm and signature. -/
theorem eq_of_dataToSign_eq (hcanonical : Canonical P) {wrapper : WrapperMessage}
    {parsed : ParsedRequest}
    (h : serializeAuthRequestForVerification P parsed = dataToSign P wrapper) :
    wrapper.version = 1 ∧
      wrapper.payload = some (.authRequest ⟨parsed.challenge, parsed.username, parsed.hostname,
        parsed.timestampUnixSeconds.toUInt64⟩) := by
  unfold serializeAuthRequestForVerification dataToSign at h
  rw [hcanonical] at h
  have hwrapper := wrapperWireFormat_encode_injective h
  exact ⟨(congrArg WrapperMessage.version hwrapper).symm,
    (congrArg WrapperMessage.payload hwrapper).symm⟩

/-- The phone rebuilds the bytes the desktop signed, and accepts the request.  A request that it
accepts is one the desktop has signed, with the parts the phone has parsed. -/
theorem rebuilt_request_is_signed_request (hcanonical : Canonical P) (keypair : Ed25519KeyPair)
    (hvalid : P.ed25519KeyValid (keypair.verifyingKeyBytes P) = true)
    (signed : WrapperMessage → Prop) (presented : Bytes → Bytes → Prop)
    (hunforgeable : Unforgeable P (keypair.verifyingKeyBytes P) signed presented) :
    (∀ challenge username hostname timestamp, ∃ parsed,
      parseAuthRequest P (P.wrapperFormat.encode (signWrapperMessage P
        (wrapAuthRequest ⟨challenge, username, hostname, timestamp⟩) keypair)) = some parsed ∧
      serializeAuthRequestForVerification P parsed =
        dataToSign P (wrapAuthRequest ⟨challenge, username, hostname, timestamp⟩) ∧
      (signWrapperMessage P (wrapAuthRequest ⟨challenge, username, hostname, timestamp⟩)
        keypair).signature = signEd25519 P keypair
          (dataToSign P (wrapAuthRequest ⟨challenge, username, hostname, timestamp⟩)) ∧
      verifySignature P (keypair.verifyingKeyBytes P).bytes
        (serializeAuthRequestForVerification P parsed) parsed.signature = true) ∧
    (∀ received parsed, parseAuthRequest P received = some parsed →
      presented (serializeAuthRequestForVerification P parsed) parsed.signature →
      verifySignature P (keypair.verifyingKeyBytes P).bytes
        (serializeAuthRequestForVerification P parsed) parsed.signature = true →
      ∃ wrapper request, signed wrapper ∧ wrapper.version = 1 ∧
        wrapper.payload = some (.authRequest request) ∧
        request.challenge = parsed.challenge ∧ request.username = parsed.username ∧
        request.hostname = parsed.hostname ∧
        request.timestampUnixSeconds.toInt64 = parsed.timestampUnixSeconds) := by
  constructor
  · intro challenge username hostname timestamp
    refine ⟨_, parseAuthRequest_signWrapperMessage P _ keypair, serialize_parsedRequest P _ keypair,
      signature_signWrapperMessage P _ keypair, ?_⟩
    rw [serialize_parsedRequest]
    exact verifySignature_signEd25519 P hvalid _
  · intro received parsed _ hpresented haccepted
    obtain ⟨wrapper, hsigned, hdata⟩ := hunforgeable.exists_signed hpresented haccepted
    obtain ⟨hversion, hpayload⟩ := eq_of_dataToSign_eq hcanonical hdata
    exact ⟨wrapper, _, hsigned, hversion, hpayload, rfl, rfl, rfl, Int64.toInt64_toUInt64 _⟩

namespace SignatureSample

/-- Primitives that write wrappers canonically. -/
def primitives : Primitives := { Transparent.primitives with wrapperFormat := wrapperWireFormat }

def keypair : Ed25519KeyPair := ⟨FixedBytes.fill 32 1⟩

/-- A request whose host name and timestamp are defaults, which are not written. -/
def request : AuthenticationRequest := ⟨[7, 7], "jdoe", "", 0⟩

def wrapper : WrapperMessage := wrapAuthRequest request

def presented (data signature : Bytes) : Prop :=
  data = dataToSign primitives wrapper ∧
    signature = signEd25519 primitives keypair (dataToSign primitives wrapper)

end SignatureSample

section

open SignatureSample

theorem rebuilt_request_is_signed_request_sample :
    dataToSign primitives wrapper = [8, 1, 16, 1, 34, 10, 10, 2, 7, 7, 18, 4, 106, 100, 111, 101] ∧
      ∃ wrapper' request', wrapper' = wrapper ∧ wrapper'.version = 1 ∧
        wrapper'.payload = some (.authRequest request') ∧ request'.challenge = [7, 7] ∧
        request'.username = "jdoe" ∧ request'.hostname = "" ∧
        request'.timestampUnixSeconds.toInt64 = 0 := by
  have hunforgeable : Unforgeable primitives (keypair.verifyingKeyBytes primitives)
      (· = wrapper) presented := by
    rintro data signature ⟨rfl, -⟩ - -
    exact ⟨wrapper, rfl, rfl⟩
  obtain ⟨hrebuilt, hsigned⟩ := rebuilt_request_is_signed_request (P := primitives) rfl keypair rfl
    (· = wrapper) presented hunforgeable
  refine ⟨by decide +kernel, ?_⟩
  have hparse := parseAuthRequest_signWrapperMessage primitives request keypair
  have hserialize := serialize_parsedRequest primitives request keypair
  refine hsigned _ _ hparse ⟨hserialize, rfl⟩ ?_
  rw [hserialize]
  exact verifySignature_signEd25519 primitives rfl _

end

end TapAuth.System
