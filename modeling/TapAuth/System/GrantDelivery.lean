import TapAuth.Daemon.AuthLoop
import TapAuth.Phone.Responses

/-!
# The phone's answer reaches the daemon

A transport's loop that has received any number of packets it has to ignore, and then the
answer of a paired phone, ends with that answer (`authResult_of_answer`).

What could go wrong is the cache of fingerprints: the loop skips a packet whose fingerprint
it has seen.  A fingerprint is the identifier followed by the ciphertext without a mark
between them, so it is only for identifiers of one length that it tells two packets apart;
then a packet with the fingerprint of the answer has its ciphertext too, and was not to be
ignored.
-/

namespace TapAuth.System

open Shared Daemon Phone

/-- The round begins before the session times out, and its request is sent. -/
def InTime (r : Round) : Prop := r.elapsed < getSessionTimeout ∧ r.sent = .ok ()

section

variable (P : Primitives) (A : AuthParams)

/-- The packet has a 16-byte identifier and opens under the CSK to a message that is
neither a valid grant nor a valid denial of the challenge. -/
def NotDecisive (packet : EncryptedPacket) : Prop :=
  packet.temporalIdentifier.length = 16 ∧
    ∃ wrapper, decryptEncryptedPacketWithCskNonce P A.csk packet = .ok wrapper ∧
      verdictOf P (storedKeys A.pairedServers) A.challenge wrapper = none

/-- What the transport answers is such a packet, or that nothing came. -/
def Ignorable (received : Except TransportError ReceiveResult) : Prop :=
  match received with
  | .ok (.response packet _) => NotDecisive P A packet
  | .ok .timeout => True
  | .error _ => False

/-- Only packets that were to be ignored are in the cache. -/
def CacheOk (s : LoopState) : Prop :=
  ∀ f ∈ s.nonceCache, ∃ packet, NotDecisive P A packet ∧ f = nonceFingerprint packet

variable {P A} {s : LoopState} {r : Round} {packet : EncryptedPacket}

/-- A round in time is what the loop makes of what it receives. -/
theorem turn_of_inTime (hr : InTime r) (s : LoopState) :
    (authLoop P A).turn s r = loopReceive P A s r.received r.env := by
  have htop : loopTop r.elapsed r.sent = none := by
    simp only [loopTop, hr.2]
    exact if_neg (Nat.not_le.mpr hr.1)
  simp only [authLoop, htop]

/-- The loop goes round again on what it has to ignore. -/
theorem turn_of_ignorable (hs : CacheOk P A s) (hr : InTime r)
    (hignorable : Ignorable P A r.received) :
    ∃ t, (authLoop P A).turn s r = .inl t ∧ CacheOk P A t := by
  rw [turn_of_inTime hr]
  rcases hreceived : r.received with e | (⟨packet, addr⟩ | -)
  · rw [hreceived] at hignorable
    exact hignorable.elim
  · rw [hreceived] at hignorable
    rw [loopReceive_response]
    split_ifs
    · exact ⟨_, rfl, hs⟩
    · obtain ⟨wrapper, hdecrypt, hverdict⟩ := hignorable.2
      rw [hdecrypt]
      dsimp only
      rw [hverdict]
      refine ⟨_, rfl, fun f hf ↦ ?_⟩
      rcases List.mem_cons.mp hf with rfl | hf
      · exact ⟨packet, hignorable, rfl⟩
      · exact hs f hf
  · exact ⟨_, rfl, hs⟩

variable {wrapper : WrapperMessage} {phone : Ed25519KeyPair}

/-- A packet that is decided on is not taken for one that was to be ignored. -/
theorem fingerprint_not_mem (hs : CacheOk P A s) (hlength : packet.temporalIdentifier.length = 16)
    (hdecrypt : decryptEncryptedPacketWithCskNonce P A.csk packet = .ok wrapper)
    (hverdict : verdictOf P (storedKeys A.pairedServers) A.challenge wrapper ≠ none) :
    nonceFingerprint packet ∉ s.nonceCache := by
  intro hmem
  obtain ⟨other, ⟨hother, wrapper', hdecrypt', hnone⟩, hsame⟩ := hs _ hmem
  -- identifiers of one length: the ciphertexts are the same, and so are the messages
  have hciphertext : packet.ciphertext = other.ciphertext :=
    (List.append_inj hsame (hlength.trans hother.symm)).2
  have hopen : decryptEncryptedPacketWithCskNonce P A.csk packet = .ok wrapper' := by
    rw [← hdecrypt']
    simp only [decryptEncryptedPacketWithCskNonce, hciphertext]
  rw [hdecrypt, Except.ok.injEq] at hopen
  rw [hopen] at hverdict
  exact hverdict hnone

/-- After any packets it had to ignore, the loop ends with the verdict on a decisive one. -/
theorem authResult_of_verdict {rounds : List Round}
    (hrounds : ∀ r ∈ rounds, InTime r ∧ Ignorable P A r.received) (hr : InTime r)
    {addr : SocketAddr} (hreceived : r.received = .ok (.response packet addr))
    (hlength : packet.temporalIdentifier.length = 16)
    (hdecrypt : decryptEncryptedPacketWithCskNonce P A.csk packet = .ok wrapper)
    {result : Except AuthHandlerError Unit}
    (hverdict : verdictOf P (storedKeys A.pairedServers) A.challenge wrapper = some result)
    (later : List Round) : authResult P A (rounds ++ r :: later) = some result := by
  obtain ⟨s, hrun, hs⟩ : ∃ s, (authLoop P A).run .start rounds = .inl s ∧ CacheOk P A s :=
    (authLoop P A).exists_run_eq_inl
      (fun _ hs r hr ↦ turn_of_ignorable hs (hrounds r hr).1 (hrounds r hr).2)
      (fun _ hf ↦ by cases hf)
  have hnew : nonceFingerprint packet ∉ s.nonceCache :=
    fingerprint_not_mem hs hlength hdecrypt (by rw [hverdict]; nofun)
  have hturn : (authLoop P A).turn s r = .inr ⟨result, sendConfirmationBackground P r.env A⟩ := by
    rw [turn_of_inTime hr, hreceived, loopReceive_response, if_neg hnew, hdecrypt]
    dsimp only
    rw [hverdict]
  rw [authResult, authenticateWithTransport, (authLoop P A).run_append hrun,
    (authLoop P A).run_cons_of_inr hturn]
  rfl

/-- The phone's grant is a grant to the desktop. -/
theorem verdictOf_grant (hpaired : phone.verifyingKeyBytes P ∈ storedKeys A.pairedServers)
    (hvalid : P.ed25519KeyValid (phone.verifyingKeyBytes P) = true) :
    verdictOf P (storedKeys A.pairedServers) A.challenge
      (signWrapperMessage P (wrapAuthGrant ⟨signEd25519 P phone A.challenge.bytes⟩) phone) =
        some (.ok ()) := by
  simp only [verdictOf]
  exact if_pos ⟨_, hpaired, verifyWrapperSignature_signWrapperMessage P hvalid _,
    verifyEd25519_signEd25519 P hvalid _⟩

/-- The phone's denial is a denial to the desktop. -/
theorem verdictOf_denial (hpaired : phone.verifyingKeyBytes P ∈ storedKeys A.pairedServers)
    (hvalid : P.ed25519KeyValid (phone.verifyingKeyBytes P) = true) :
    verdictOf P (storedKeys A.pairedServers) A.challenge
      (signWrapperMessage P (wrapAuthDenial ⟨A.challenge.bytes⟩) phone) =
        some (.error .explicitDenial) := by
  simp only [verdictOf]
  exact if_pos ⟨rfl, _, hpaired, verifyWrapperSignature_signWrapperMessage P hvalid _⟩

variable (P A)

/-- **A paired phone's answer is heard.**  The loop receives any packets that it has to
ignore, each with a 16-byte identifier, and then, before the session times out, the bytes
that the phone builds for the challenge: if they are its grant the loop returns success, if
they are its denial an explicit denial. -/
theorem authResult_of_answer {privateKey : Bytes} {phone : Ed25519KeyPair}
    (hphone : jbytearrayToEd25519Keypair "private_key" privateKey = .ok phone)
    (hpaired : phone.verifyingKeyBytes P ∈ storedKeys A.pairedServers)
    (hvalid : P.ed25519KeyValid (phone.verifyingKeyBytes P) = true)
    {rounds : List Round} (hrounds : ∀ r ∈ rounds, InTime r ∧ Ignorable P A r.received)
    {r : Round} (hr : InTime r) {bytes : Bytes} {packet : EncryptedPacket} {addr : SocketAddr}
    (hdecode : P.packetFormat.decode bytes = .ok packet)
    (hreceived : r.received = .ok (.response packet addr)) (env : Ambient) (later : List Round) :
    (grantBytes P env A.csk.bytes privateKey A.challenge.bytes = .ok bytes →
      authResult P A (rounds ++ r :: later) = some (.ok ())) ∧
    (denialBytes P env A.csk.bytes privateKey A.challenge.bytes = .ok bytes →
      authResult P A (rounds ++ r :: later) = some (.error .explicitDenial)) := by
  constructor
  · intro hgrant
    obtain ⟨packet', hdecode', hlength, hdecrypt⟩ := grantBytes_eq_ok hphone hgrant
    rw [hdecode, Except.ok.injEq] at hdecode'
    subst hdecode'
    exact authResult_of_verdict hrounds hr hreceived hlength hdecrypt
      (verdictOf_grant hpaired hvalid) later
  · intro hdenial
    obtain ⟨packet', hdecode', hlength, hdecrypt⟩ := denialBytes_eq_ok hphone hdenial
    rw [hdecode, Except.ok.injEq] at hdecode'
    subst hdecode'
    exact authResult_of_verdict hrounds hr hreceived hlength hdecrypt
      (verdictOf_denial hpaired hvalid) later

end

namespace DeliverySample

open Daemon.Sample

/-- A grant of a phone that is not paired comes, comes again, then nothing comes for a
while. -/
def runUp : List Round :=
  [arrival (grant 6), arrival (grant 6), ⟨5000, .ok (), .ok .timeout, env⟩]

/-- The signing key of phone 5, which is paired. -/
def key : Bytes32 := (phone 5).signingKeyBytes

theorem inTime_arrival (packet : EncryptedPacket) : InTime (arrival packet) := by
  simp [InTime, arrival, getSessionTimeout]

theorem ignorable_runUp :
    ∀ r ∈ runUp, InTime r ∧ Ignorable primitives params r.received := by
  have hgrant : NotDecisive primitives params (grant 6) := by
    refine ⟨by decide +kernel, ?_⟩
    cases hdecrypt : decryptEncryptedPacketWithCskNonce primitives params.csk (grant 6) with
    | error e =>
      have hok : (decryptEncryptedPacketWithCskNonce primitives params.csk (grant 6)).isOk =
          true := by decide +kernel
      rw [hdecrypt] at hok
      cases hok
    | ok wrapper =>
      refine ⟨wrapper, rfl, ?_⟩
      have hnone : (decryptEncryptedPacketWithCskNonce primitives params.csk
          (grant 6)).toOption.bind
            (verdictOf primitives (storedKeys params.pairedServers) params.challenge) = none := by
        decide +kernel
      rw [hdecrypt] at hnone
      exact hnone
  intro r hr
  simp only [runUp, List.mem_cons, List.not_mem_nil, or_false] at hr
  rcases hr with rfl | rfl | rfl
  · exact ⟨inTime_arrival _, hgrant⟩
  · exact ⟨inTime_arrival _, hgrant⟩
  · exact ⟨⟨by decide, rfl⟩, trivial⟩

end DeliverySample

open DeliverySample

open Sample

/-- Phone 5 answers after another phone's packets: its grant and its denial are heard. -/
theorem authResult_of_answer_after_others :
    (∃ bytes packet, grantBytes primitives env params.csk.bytes
        key.bytes params.challenge.bytes = .ok bytes ∧
      primitives.packetFormat.decode bytes = .ok packet ∧
      authResult primitives params
        (runUp ++ [arrival packet]) = some (.ok ())) ∧
    ∃ bytes packet, denialBytes primitives env params.csk.bytes
        key.bytes params.challenge.bytes = .ok bytes ∧
      primitives.packetFormat.decode bytes = .ok packet ∧
      authResult primitives params
        (runUp ++ [arrival packet]) = some (.error .explicitDenial) := by
  have hphone := jbytearrayToEd25519Keypair_bytes "private_key" key
  have hpaired : (Ed25519KeyPair.mk key).verifyingKeyBytes primitives ∈
      storedKeys params.pairedServers := by decide +kernel
  constructor
  · obtain ⟨bytes, hbytes⟩ : ∃ bytes, (grantBytes primitives env
        params.csk.bytes key.bytes
        params.challenge.bytes).toOption = some bytes :=
      Option.isSome_iff_exists.mp (by decide +kernel)
    rw [Except.toOption_eq_some_iff] at hbytes
    obtain ⟨packet, hdecode, -⟩ := grantBytes_eq_ok hphone hbytes
    exact ⟨bytes, packet, hbytes, hdecode,
      (authResult_of_answer primitives params hphone hpaired rfl
        ignorable_runUp (inTime_arrival packet) hdecode rfl
        env []).1 hbytes⟩
  · obtain ⟨bytes, hbytes⟩ : ∃ bytes, (denialBytes primitives env
        params.csk.bytes key.bytes
        params.challenge.bytes).toOption = some bytes :=
      Option.isSome_iff_exists.mp (by decide +kernel)
    rw [Except.toOption_eq_some_iff] at hbytes
    obtain ⟨packet, hdecode, -⟩ := denialBytes_eq_ok hphone hbytes
    exact ⟨bytes, packet, hbytes, hdecode,
      (authResult_of_answer primitives params hphone hpaired rfl
        ignorable_runUp (inTime_arrival packet) hdecode rfl
        env []).2 hbytes⟩

end TapAuth.System
