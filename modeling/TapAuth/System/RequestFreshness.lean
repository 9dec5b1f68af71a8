import TapAuth.Daemon.Authorization
import TapAuth.Lib.Long
import TapAuth.Phone.TemporalIds

/-!
# How long a request stays good

The daemon builds the packet of a request once and transmits it for up to two minutes.
The packet carries the identifier of the minute it was built in and the second it was
built in.  The phone knows the identifiers of its minute and of the one before, and takes
a timestamp that is at most sixty seconds off.

`transmissions` are the instants at which a run of a session hands the packet to a
transport; `accepts_iff` says when a phone with the same clock still takes it.  The phone
has not seen the request, and one paired desktop is the sender.
-/

namespace TapAuth.System

open Shared Daemon Phone

/-! ## Transmissions -/

/-- The task is about to call `send_request`. -/
def transmits (now : Nat) : Task → Bool
  | .running start .top _ => now - start < getSessionTimeout
  | _ => false

/-- The transport that an event hands the packet to, and when. -/
def transmission? (s : SessionState) : Event → Option (TransportKind × Nat)
  | .taskTop k _ => if transmits s.now (s.task k) then some (k, s.now) else none
  | _ => none

def transmissions (P : Primitives) (S : Session) :
    SessionState → List Event → List (TransportKind × Nat)
  | _, [] => []
  | s, e :: events =>
    match sessionNext P S s e with
    | none => []
    | some t => (transmission? s e).toList ++ transmissions P S t events

section

variable {P : Primitives}

theorem now_le_of_sessionStep {S : Session} {s t : SessionState} {e : Event}
    (h : SessionStep P S s e t) : s.now ≤ t.now := by
  cases h with
  | tick elapsed => exact Nat.le_add_right _ _
  | task k hstep => cases k <;> exact le_rfl
  | joinedTerminal k => cases k <;> exact le_rfl
  | joinedFailed k =>
    unfold SessionState.fail
    split <;> exact le_rfl
  | _ => exact le_rfl

/-- No transmission is before the start. -/
theorem now_le_of_mem_transmissions {S : Session} {s : SessionState} {events : List Event}
    {k : TransportKind} {now : Nat} (h : (k, now) ∈ transmissions P S s events) :
    s.now ≤ now := by
  induction events generalizing s with
  | nil => cases h
  | cons e events ih =>
    unfold transmissions at h
    split at h
    · cases h
    next t hnext =>
      obtain hfirst | hrest := List.mem_append.mp h
      · rw [Option.mem_toList] at hfirst
        cases e with
        | taskTop k' sent =>
          obtain ⟨-, heq⟩ := Option.ite_none_right_eq_some.mp hfirst
          cases heq
          exact le_rfl
        | _ => cases hfirst
      · exact (now_le_of_sessionStep (sessionNext_eq_some hnext)).trans (ih hrest)

/-! ## What the daemon has built -/

/-- The request in the packet of a session. -/
def requestOf (S : AuthSession) (timestamp : UInt64) : AuthenticationRequest :=
  ⟨S.challenge.bytes, S.username, S.state.hostname, timestamp⟩

variable {running : Session} {S : AuthSession} {phone : PhoneView}

theorem packet_of_begin (h : beginAuthenticate P S = .running running) :
    ∃ timestamp keypair, S.env.unixSeconds = some timestamp ∧
      createEncryptedPacketWithCskNonce P S.env running.params.csk
        (signWrapperMessage P (wrapAuthRequest (requestOf S timestamp)) keypair) =
          .ok running.packet := by
  unfold beginAuthenticate at h
  dsimp only at h
  split_ifs at h
  · split at h <;> cases h
  · split at h
    next keypair csk _ _ =>
      split at h
      · cases h
      · next request hrequest =>
          split at h
          · cases h
          · next packet hpacket =>
              split at h
              · cases h
              · cases h
                unfold createAuthRequestWithChallenge at hrequest
                split_ifs at hrequest
                split at hrequest
                · cases hrequest
                · next timestamp htimestamp =>
                    cases hrequest
                    exact ⟨timestamp, keypair, htimestamp, hpacket⟩
    · cases h

theorem parseAuthRequest_signed (request : AuthenticationRequest) (keypair : Ed25519KeyPair) :
    ∃ parsed, parseAuthRequest P (P.wrapperFormat.encode
        (signWrapperMessage P (wrapAuthRequest request) keypair)) = some parsed ∧
      parsed.challenge = request.challenge ∧
      parsed.timestampUnixSeconds = request.timestampUnixSeconds.toInt64 := by
  unfold parseAuthRequest
  rw [P.wrapperFormat.decode_encode]
  exact ⟨_, rfl, rfl, rfl⟩

/-- What the phone makes of it: the desktop's identifier, and the request. -/
theorem opened_of_create {env : Ambient} {csk : ClientSymmetricKey} {keypair : Ed25519KeyPair}
    {request : AuthenticationRequest} {packet : EncryptedPacket}
    (h : createEncryptedPacketWithCskNonce P env csk
      (signWrapperMessage P (wrapAuthRequest request) keypair) = .ok packet) :
    (∃ identifier, generateCurrentTemporalIdentifier P env.unixSeconds csk = .ok identifier ∧
      packet.temporalIdentifier = identifier.bytes) ∧
    ∃ message parsed, decryptEncryptedPacket P csk.bytes (P.packetFormat.encode packet) =
        some message ∧
      parseAuthRequest P message = some parsed ∧ parsed.challenge = request.challenge ∧
      parsed.timestampUnixSeconds = request.timestampUnixSeconds.toInt64 := by
  obtain ⟨hidentifier, hdecrypt⟩ := createEncryptedPacketWithCskNonce_eq_ok P h
  refine ⟨hidentifier, ?_⟩
  obtain ⟨parsed, hparsed, hrequest⟩ := parseAuthRequest_signed request keypair (P := P)
  refine ⟨_, parsed, ?_, hparsed, hrequest⟩
  simp only [decryptEncryptedPacket, FixedBytes.ofBytes_bytes, P.packetFormat.decode_encode,
    hdecrypt]

/-! ## The phone's two checks -/

/-- What the phone knows when a packet arrives. -/
structure PhoneView where
  stored : DeviceList
  cache : TemporalIdCache
  /-- The challenges seen. -/
  seen : HexMap Int64

/-- The identifier belongs to a paired desktop and to this minute or the last.  UDP asks the
cache, BLE computes. -/
def PhoneView.knows (P : Primitives) (phone : PhoneView) (now : Int64) :
    TransportKind → Bytes → Bool
  | .udp, id => ((phone.cache.ensureCacheIsCurrent P phone.stored now).isValidTemporalId id).isSome
  | .ble, id => (matchDevice P (now / 1000) id phone.stored.devices).isSome

/-- The phone takes the packet at the instant `now`: it knows the identifier, and what it reads
with the desktop's key is not a replay. -/
structure PhoneView.Accepts (P : Primitives) (phone : PhoneView) (csk : Bytes) (now : Int64)
    (k : TransportKind) (packet : EncryptedPacket) : Prop where
  knows : phone.knows P now k packet.temporalIdentifier
  fresh : ∃ message parsed,
    decryptEncryptedPacket P csk (P.packetFormat.encode packet) = some message ∧
      parseAuthRequest P message = some parsed ∧
      (isReplay (now / 1000) (hexEncode parsed.challenge) parsed.timestampUnixSeconds
        phone.seen).1 = false

/-- The phone is paired with the desktop, and has not seen the session's request. -/
structure PhoneView.Awaits (P : Primitives) (phone : PhoneView) (S : Session) : Prop where
  paired : ∃ device ∈ phone.stored, device.csk = S.params.csk.bytes
  csks : ∀ device ∈ phone.stored, device.csk.length = 32
  cache : phone.cache.Consistent P phone.stored
  unseen : phone.seen (hexEncode S.params.challenge.bytes) = none

/-- A challenge that has not been seen is judged by its timestamp. -/
theorem isReplay_of_unseen {seen : HexMap Int64} {key : String} (h : seen key = none)
    (nowSeconds timestamp : Int64) :
    (isReplay nowSeconds key timestamp seen).1 = stale nowSeconds timestamp := by
  unfold isReplay
  split
  next hstale => exact hstale.symm
  next hfresh =>
    rw [h, Bool.eq_false_iff.mpr hfresh]
    rfl

theorem stale_ofNat_iff {now created : Nat} (hnow : now < 2 ^ 62) (hcreated : created < 2 ^ 62) :
    stale (Int64.ofNat now) (Int64.ofNat created) = false ↔
      now ≤ created + 60 ∧ created ≤ now + 60 := by
  have hsub : (Int64.ofNat now - Int64.ofNat created).toInt = (now : Int) - created := by
    rw [Int64.toInt_sub, Int64.toInt_ofNat_of_lt (by omega), Int64.toInt_ofNat_of_lt (by omega)]
    exact Int.bmod_eq_of_le (by omega) (by omega)
  have hvalidity : timestampValiditySeconds.toInt = 60 := rfl
  unfold stale
  rw [decide_eq_false_iff_not, gt_iff_lt, Int64.lt_iff_toInt_lt, Int64.toInt_abs_eq, hsub,
    if_neg (by omega), hvalidity, not_lt, abs_le]
  omega

/-- The seconds for which the phone computes identifiers at an instant. -/
def instants (now : Int64) : TransportKind → List Int64
  | .udp =>
    [now / timeWindowMs * timeWindowMs / 1000, (now / timeWindowMs - 1) * timeWindowMs / 1000]
  | .ble => [now / 1000, now / 1000 - 60]

/-- The phone knows the identifiers of these seconds, of every paired desktop. -/
theorem PhoneView.Awaits.knows_iff {S : Session} (h : phone.Awaits P S) {now : Int64}
    {k : TransportKind} {id : Bytes} :
    phone.knows P now k id ↔ ∃ device ∈ phone.stored, ∃ second ∈ instants now k,
      generateTemporalId P device.csk second = some id := by
  cases k with
  | ble =>
    simp only [PhoneView.knows, isSome_matchDevice_iff h.csks, instants, List.mem_cons,
      List.not_mem_nil, or_false, exists_eq_or_imp, exists_eq_left]
    rfl
  | udp =>
    simp only [PhoneView.knows, TemporalIdCache.isValidTemporalId, h.cache.validIds_eq, instants,
      List.mem_cons, List.not_mem_nil, or_false, exists_eq_or_imp, exists_eq_left]
    constructor
    · intro hknown
      split_ifs at hknown
      · obtain ⟨cached, hmem, hid⟩ := isSome_computeValidIds_iff.mp hknown
        obtain ⟨device, hdevice, rfl⟩ := List.mem_map.mp hmem
        exact ⟨device, hdevice, hid⟩
      · cases hknown
    · rintro ⟨device, hdevice, hid⟩
      rw [if_pos (HasId.length hid)]
      exact isSome_computeValidIds_iff.mpr ⟨_, List.mem_map_of_mem hdevice, hid⟩

/-- The second of the clock, as the transports use it. -/
def secondOf (now : Nat) : TransportKind → Int
  | .udp => now / 60000 * 60
  | .ble => now / 1000

theorem secondOf_div (now : Nat) (k : TransportKind) : secondOf now k / 60 = now / 60000 := by
  cases k <;> simp only [secondOf] <;> omega

theorem instants_ofNat {now : Nat} (hnow : now < 2 ^ 63) (k : TransportKind) :
    instants (Int64.ofNat now) k =
      [Int64.ofInt (secondOf now k), Int64.ofInt (secondOf now k - 60)] := by
  cases k with
  | udp =>
    have hwindow : Int64.ofNat now / timeWindowMs = Int64.ofInt (now / 60000 : Nat) := by
      rw [Int64.ofInt_eq_ofNat, Int64.ofNat_div hnow (by decide)]
      rfl
    have hprevious : Int64.ofInt (now / 60000 : Nat) - 1 =
        Int64.ofInt ((now / 60000 : Nat) - 1 : Int) := (Int64.ofInt_sub _ 1).symm
    have hsecond : ((now / 60000 : Nat) - 1 : Int) * 60 = secondOf now .udp - 60 := by
      simp only [secondOf]
      omega
    simp only [instants, hwindow, hprevious]
    rw [windowStart_ofInt (by omega) (by omega), windowStart_ofInt (by omega) (by omega), hsecond]
    rfl
  | ble =>
    have hseconds : Int64.ofNat now / 1000 = Int64.ofInt (now / 1000 : Nat) := by
      rw [Int64.ofInt_eq_ofNat, Int64.ofNat_div hnow (by decide)]
      rfl
    simp only [instants, hseconds, secondOf, Int64.ofInt_sub]
    rfl

/-- The phone knows the identifier of its minute and of the one before. -/
theorem knows_of_minute {S : Session} {created now : Nat} {identifier : FixedBytes 16}
    (hphone : phone.Awaits P S) (hnow : now < 2 ^ 63)
    (hminute : created / 60 = now / 60000 ∨ created / 60 + 1 = now / 60000)
    (hid : generateCurrentTemporalIdentifier P (some (UInt64.ofNat created)) S.params.csk =
      .ok identifier) (k : TransportKind) :
    phone.knows P (Int64.ofNat now) k identifier.bytes := by
  obtain ⟨device, hmem, hcsk⟩ := hphone.paired
  have hcreated : generateTemporalId P device.csk (Int64.ofInt created) =
      some identifier.bytes := by
    rw [hcsk, Int64.ofInt_eq_ofNat]
    exact generateTemporalId_of_window (by omega) (by omega) rfl hid
  have hsame : ∀ z : Int, 0 ≤ z → z < 2 ^ 63 → z / 60 = created / 60 →
      generateTemporalId P device.csk (Int64.ofInt z) = some identifier.bytes := by
    intro z hlow hhigh hz
    rw [← hcreated]
    rw [generateTemporalId_eq, generateTemporalId_eq]
    refine temporalIdOf_congr (UInt64.toNat_inj.mp ?_)
    rw [toNat_minuteOf, toNat_minuteOf, Int.emod_eq_of_lt hlow (by omega),
      Int.emod_eq_of_lt (by omega) (by omega)]
    omega
  have hdiv := secondOf_div now k
  rw [hphone.knows_iff, instants_ofNat hnow]
  obtain hthis | hlast := hminute
  · exact ⟨device, hmem, _, List.mem_cons_self, hsame _ (by omega) (by omega) (by omega)⟩
  · exact ⟨device, hmem, _, List.mem_cons_of_mem _ List.mem_cons_self,
      hsame _ (by omega) (by omega) (by omega)⟩

/-- The clocks agree: the desktop's milliseconds at the instant `now` of a session that read
the clock when it showed `wall`. -/
def wallAt (S : AuthSession) (wall now : Nat) : Nat := wall + (now - S.startedAt)

/-- The replay check takes the request that the desktop built when its clock showed `wall`, if
the phone's shows at most sixty seconds more or less. -/
theorem fresh_iff {wall now : Nat} (hbegin : beginAuthenticate P S = .running running)
    (hwall : S.env.unixSeconds = some (UInt64.ofNat (wall / 1000)))
    (hphone : phone.Awaits P running) (hnow : now < 2 ^ 63) (hrange : wall / 1000 < 2 ^ 62) :
    (∃ message parsed, decryptEncryptedPacket P running.params.csk.bytes
        (P.packetFormat.encode running.packet) = some message ∧
      parseAuthRequest P message = some parsed ∧
      (isReplay (Int64.ofNat now / 1000) (hexEncode parsed.challenge)
        parsed.timestampUnixSeconds phone.seen).1 = false) ↔
      now / 1000 ≤ wall / 1000 + 60 ∧ wall / 1000 ≤ now / 1000 + 60 := by
  obtain ⟨timestamp, keypair, htimestamp, hpacket⟩ := packet_of_begin hbegin
  obtain ⟨-, hchallenge, -⟩ := beginAuthenticate_eq_running hbegin
  cases htimestamp.symm.trans hwall
  obtain ⟨-, message, parsed, hmessage, hparsed, hsame, htime⟩ := opened_of_create hpacket
  have hunseen : phone.seen (hexEncode parsed.challenge) = none := by
    have hkey := hphone.unseen
    rwa [hchallenge, ← show parsed.challenge = S.challenge.bytes from hsame] at hkey
  have hreplay : (isReplay (Int64.ofNat now / 1000) (hexEncode parsed.challenge)
      parsed.timestampUnixSeconds phone.seen).1 = false ↔
        now / 1000 ≤ wall / 1000 + 60 ∧ wall / 1000 ≤ now / 1000 + 60 := by
    have hseconds : Int64.ofNat now / 1000 = Int64.ofNat (now / 1000) :=
      (Int64.ofNat_div hnow (by decide)).symm
    rw [isReplay_of_unseen hunseen, htime, hseconds]
    change stale _ (UInt64.ofNat (wall / 1000)).toInt64 = false ↔ _
    rw [UInt64.toInt64_ofNat', stale_ofNat_iff (by omega) hrange]
  constructor
  · rintro ⟨other, otherParsed, hother, hotherParsed, hfresh⟩
    cases hother.symm.trans hmessage
    cases hotherParsed.symm.trans hparsed
    exact hreplay.mp hfresh
  · intro hwithin
    exact ⟨message, parsed, hmessage, hparsed, hreplay.mpr hwithin⟩

/-- The identifier in the packet is that of the minute it was built in. -/
theorem identifier_of_begin {wall : Nat} (hbegin : beginAuthenticate P S = .running running)
    (hwall : S.env.unixSeconds = some (UInt64.ofNat (wall / 1000))) :
    ∃ identifier, generateCurrentTemporalIdentifier P (some (UInt64.ofNat (wall / 1000)))
        running.params.csk = .ok identifier ∧
      running.packet.temporalIdentifier = identifier.bytes := by
  obtain ⟨timestamp, keypair, -, hpacket⟩ := packet_of_begin hbegin
  rw [← hwall]
  exact (opened_of_create hpacket).1

/-- A phone with the same clock takes the packet for sixty seconds. -/
theorem accepts_iff {wall now : Nat} (hbegin : beginAuthenticate P S = .running running)
    (hwall : S.env.unixSeconds = some (UInt64.ofNat (wall / 1000)))
    (hphone : phone.Awaits P running) (hrange : wallAt S wall now < 2 ^ 63) (k : TransportKind) :
    phone.Accepts P running.params.csk.bytes (Int64.ofNat (wallAt S wall now)) k
        running.packet ↔
      wallAt S wall now / 1000 ≤ wall / 1000 + 60 := by
  have hle : wall ≤ wallAt S wall now := Nat.le_add_right _ _
  have hfresh := fresh_iff hbegin hwall hphone hrange (by omega)
  constructor
  · rintro ⟨-, htaken⟩
    exact (hfresh.mp htaken).1
  · intro hwithin
    obtain ⟨identifier, hid, hbytes⟩ := identifier_of_begin hbegin hwall
    refine ⟨?_, hfresh.mpr ⟨hwithin, by omega⟩⟩
    rw [hbytes]
    exact knows_of_minute hphone hrange (by omega) hid k

/-- **Every transmission of every run.**  A phone that has not seen the request and whose clock
is the desktop's takes a transmission exactly for the sixty seconds after the request was
built. -/
theorem transmission_accepted_iff {S : AuthSession} {running : Session} {phone : PhoneView}
    {wall now : Nat} {k : TransportKind} {events : List Event}
    (hbegin : beginAuthenticate P S = .running running)
    (hwall : S.env.unixSeconds = some (UInt64.ofNat (wall / 1000)))
    (hphone : phone.Awaits P running)
    (hmem : (k, now) ∈ transmissions P running (.start S.startedAt) events)
    (hrange : wallAt S wall now < 2 ^ 63) :
    S.startedAt ≤ now ∧
      (phone.Accepts P running.params.csk.bytes (Int64.ofNat (wallAt S wall now)) k
          running.packet ↔
        wallAt S wall now / 1000 ≤ wall / 1000 + 60) :=
  ⟨now_le_of_mem_transmissions hmem, accepts_iff hbegin hwall hphone hrange k⟩

end

namespace FreshnessSample

open Sample (primitives csk env)

/-- Two minutes, as the PAM module asks for by default. -/
def request : AuthSession := { Sample.aliceSession with timeoutSeconds := some 120 }

def running : Session := ((beginAuthenticate primitives request).session?).get (by decide +kernel)

theorem begin_request : beginAuthenticate primitives request = .running running := by
  have hsession : (beginAuthenticate primitives request).session? = some running :=
    (Option.some_get _).symm
  cases hbegin : beginAuthenticate primitives request with
  | responded response =>
    rw [hbegin] at hsession
    cases hsession
  | running session =>
    rw [hbegin] at hsession
    cases hsession
    rfl

/-- No phone answers: the packet is sent again after each retry interval. -/
def unanswered (attempts : Nat) : List Event :=
  .bleInitialized false :: .registered env :: (List.range attempts).flatMap fun attempt ↦
    [.taskTop .udp (.ok ()), .tick (getClientRetryInterval attempt),
      .taskReceive .udp (.ok .timeout) env]

def desktop : PairedDevice where
  deviceId := "d"
  publicKey := (Sample.desktop.verifyingKeyBytes primitives).bytes
  csk := csk.bytes
  displayName := "desktop"
  pairedAt := 0
  allowedUsers := ["alice"]

def phone : PhoneView := ⟨⟨[desktop], List.nodup_singleton _⟩, .stopped, fun _ ↦ none⟩

theorem phone_awaits : phone.Awaits primitives running where
  paired := ⟨desktop, List.mem_singleton.mpr rfl, by decide +kernel⟩
  csks device hdevice := by
    rw [List.mem_singleton.mp hdevice]
    rfl
  cache h := by cases h
  unseen := rfl

end FreshnessSample

open FreshnessSample

/-- The phone comes into reach in the second minute: it does not take the transmission after
63.8 seconds, which the daemon still makes. -/
theorem late_transmission_refused :
    phone.Awaits Sample.primitives running ∧
      (.udp, 63800) ∈ transmissions Sample.primitives running
        (.start request.startedAt) (unanswered 15) ∧
      ¬ phone.Accepts Sample.primitives running.params.csk.bytes
        (Int64.ofNat (wallAt request 60000 63800)) .udp
        running.packet := by
  refine ⟨phone_awaits, by decide +kernel, ?_⟩
  rw [accepts_iff begin_request rfl phone_awaits (by decide)]
  decide

/-- The transmission after 12.6 seconds is taken. -/
theorem transmission_accepted_iff_sample :
    (.udp, 12600) ∈ transmissions Sample.primitives running
        (.start request.startedAt) (unanswered 15) ∧
      phone.Accepts Sample.primitives running.params.csk.bytes
        (Int64.ofNat (wallAt request 60000 12600)) .udp
        running.packet := by
  have hmem : (.udp, 12600) ∈ transmissions Sample.primitives running
      (.start request.startedAt) (unanswered 15) := by
    decide +kernel
  exact ⟨hmem, (transmission_accepted_iff begin_request rfl
    phone_awaits hmem (by decide)).2.mpr (by decide)⟩

end TapAuth.System
