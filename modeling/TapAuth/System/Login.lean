import TapAuth.System.Agreement

/-!
# A login

The way of a request to the user of a phone and of the answer back, when nothing disturbs it.

* `request_reaches_user`: a packet that the desktop has built is opened by a phone that is
  paired with it and whose clock is at most a minute ahead, and the handler submits the
  session's request to the user.
* `answer_ends_session`: in a session whose task still waits, and that was brought only packets
  to be ignored, the phone's answer to the request ends the session with success or with
  `denied`.

Both hold for either transport.
-/

namespace TapAuth.System

open Shared Daemon Phone

/-! ## The phone opens the packet -/

/-- What a phone has stored, its cache of identifiers and the memory of its handlers. -/
structure Receiver where
  stored : DeviceList
  cache : TemporalIdCache
  memory : PhoneMemory

namespace Receiver

def view (phone : Receiver) : PhoneView :=
  ⟨phone.stored, phone.cache, phone.memory.challengeCache⟩

/-- How the service of a transport opens what it has received. -/
def openPacket (P : Primitives) (phone : Receiver) : TransportKind → Bytes → Option Opened
  | .udp, data => openUdpPacket P phone.stored
      (phone.cache.ensureCacheIsCurrent P phone.stored phone.memory.currentTimeMillis) data
  | .ble, data => openBleMessage P phone.stored phone.memory.nowSeconds data

end Receiver

def transportType : TransportKind → TransportType
  | .udp => .udp
  | .ble => .ble

section

variable {P : Primitives}

/-- The device that is found has the identifier. -/
theorem hasId_of_matchDevice {currentTimestamp : Int64} {id : Bytes} {devices : List PairedDevice}
    {device : PairedDevice} (h : matchDevice P currentTimestamp id devices = some device) :
    generateTemporalId P device.csk currentTimestamp = some id ∨
      generateTemporalId P device.csk (currentTimestamp - 60) = some id := by
  induction devices with
  | nil => cases h
  | cons first devices ih =>
    unfold matchDevice at h
    split at h
    next current previous hcurrent hprevious =>
      split_ifs at h with hid
      · cases h
        rw [hcurrent, hprevious]
        exact hid.imp (fun h ↦ congrArg some (hexEncode_injective h).symm)
          fun h ↦ congrArg some (hexEncode_injective h).symm
      · exact ih h
    · cases h

/-- The stored identifiers are unique. -/
theorem getPairedDevice_of_mem {stored : DeviceList} {device : PairedDevice}
    (h : device ∈ stored) : stored.getPairedDevice device.deviceId = some device := by
  obtain ⟨found, hfound⟩ : ∃ found, stored.getPairedDevice device.deviceId = some found :=
    Option.isSome_iff_exists.mp (List.find?_isSome.mpr ⟨device, h, by simp⟩)
  have hid : found.deviceId = device.deviceId := by
    simpa using List.find?_some hfound
  rw [hfound, List.inj_on_of_nodup_map stored.nodup (List.mem_of_find?_eq_some hfound) h hid]

/-- The phone is paired with the desktop of the session for its user, knows the desktop by its
identifier, and has heard nothing of the session. -/
structure Receiver.Ready (P : Primitives) (S : AuthSession) (running : Session)
    (k : TransportKind) (phone : Receiver) (device : PairedDevice) : Prop where
  stored : device ∈ phone.stored
  csk : device.csk = running.params.csk.bytes
  publicKey : device.publicKey = (running.params.keypair.verifyingKeyBytes P).bytes
  allowed : device.isUserAllowed S.username = true
  awaits : phone.view.Awaits P running
  /-- No other device has the identifier of the packet. -/
  unique : ∀ other ∈ phone.stored, ∀ second ∈ instants phone.memory.currentTimeMillis k,
    generateTemporalId P other.csk second = some running.packet.temporalIdentifier →
      other = device
  /-- The other transport has not claimed the challenge. -/
  unclaimed : ∀ lock, phone.memory.challengeLocks (hexEncode S.challenge.bytes) = some lock →
    lock.expired phone.memory.elapsedRealtime = true ∨ lock.transport = transportType k

variable {S : AuthSession} {running : Session} {k : TransportKind} {phone : Receiver}
  {device : PairedDevice}

/-- A phone that knows the identifier opens the packet for the desktop. -/
theorem openPacket_of_knows (hready : phone.Ready P S running k device)
    (hknows : phone.view.knows P phone.memory.currentTimeMillis k
      running.packet.temporalIdentifier)
    (hidentifier : running.packet.temporalIdentifier.length = 16)
    (hlength : 16 ≤ (P.packetFormat.encode running.packet).length) :
    phone.openPacket P k (P.packetFormat.encode running.packet) =
      device.open? P (P.packetFormat.encode running.packet) := by
  cases k with
  | ble =>
    obtain ⟨found, hfound⟩ := Option.isSome_iff_exists.mp hknows
    have hmember := mem_of_matchDevice hfound
    have hdevice : found = device := by
      rcases hasId_of_matchDevice hfound with hid | hid
      · exact hready.unique found hmember _ List.mem_cons_self hid
      · exact hready.unique found hmember _
          (List.mem_cons_of_mem _ List.mem_cons_self) hid
    have hmatch : matchDevice P phone.memory.nowSeconds running.packet.temporalIdentifier
        phone.stored.devices = some device := hdevice ▸ hfound
    simp only [Receiver.openPacket, openBleMessage, P.packetFormat.decode_encode, hmatch,
      Option.bind_some]
  | udp =>
    obtain ⟨deviceId, hdeviceId⟩ := Option.isSome_iff_exists.mp hknows
    have hvalid : (phone.cache.ensureCacheIsCurrent P phone.stored
        phone.memory.currentTimeMillis).isValidTemporalId running.packet.temporalIdentifier =
          some deviceId := hdeviceId
    have hentered := hdeviceId
    rw [TemporalIdCache.isValidTemporalId, if_pos hidentifier,
      hready.awaits.cache.validIds_eq, computeValidIds_eq] at hentered
    obtain ⟨cached, hcached, hsame, hid⟩ :=
      mem_entries.mp ((Entries.mem_of_enter hentered).resolve_right fun hempty ↦ by cases hempty)
    obtain ⟨found, hmember, rfl⟩ := List.mem_map.mp hcached
    have hdevice : found = device := by
      rcases hid with hid | hid
      · exact hready.unique found hmember _ List.mem_cons_self hid
      · exact hready.unique found hmember _
          (List.mem_cons_of_mem _ List.mem_cons_self) hid
    subst hdevice
    subst hsame
    have hfound : phone.stored.getPairedDevice found.cached.deviceId = some found :=
      getPairedDevice_of_mem hmember
    simp only [Receiver.openPacket, openUdpPacket, extractTemporalIdentifier,
      P.packetFormat.decode_encode, hidentifier, if_true, hvalid, hfound, hlength, guard_true,
      Option.bind_eq_bind, Option.bind_some]
    rfl

/-! ## The handler submits the request -/

/-- The packet of a session is signed and sealed with the keys the session goes on with. -/
theorem sealed_of_begin (h : beginAuthenticate P S = .running running) :
    ∃ timestamp, S.env.unixSeconds = some timestamp ∧
      createEncryptedPacketWithCskNonce P S.env running.params.csk
        (signWrapperMessage P (wrapAuthRequest (requestOf S timestamp)) running.params.keypair) =
          .ok running.packet := by
  unfold beginAuthenticate at h
  dsimp only at h
  split at h
  · cases h
  split at h
  · cases h
  split at h
  · split at h
    · cases h
    split at h
    · cases h
    next request hrequest =>
      split at h
      · cases h
      next packet hpacket =>
        split at h
        · cases h
        · cases h
          unfold createAuthRequestWithChallenge at hrequest
          split_ifs at hrequest
          split at hrequest
          · cases hrequest
          next timestamp htimestamp =>
            cases hrequest
            exact ⟨timestamp, htimestamp, hpacket⟩
  · cases h

/-- A challenge that is free, or claimed by the same transport, is claimed. -/
theorem tryClaimTransport_of_unclaimed {now : Int64} {transport : TransportType} {key : String}
    {locks : HexMap TransportLock}
    (h : ∀ lock, locks key = some lock → lock.expired now = true ∨ lock.transport = transport) :
    (tryClaimTransport now transport key locks).1 = true := by
  unfold tryClaimTransport
  dsimp only
  split
  · rfl
  next existing hexisting =>
    obtain ⟨hlock, hvalid⟩ := Option.filter_eq_some_iff.mp hexisting
    have hexpired : existing.expired now = false := by simpa using hvalid
    rw [hexpired, if_neg Bool.false_ne_true]
    rcases h existing hlock with hlate | hsame
    · rw [hexpired] at hlate
      cases hlate
    · exact decide_eq_true hsame

/-- A handler that gets a request it has no reason to refuse submits it. -/
theorem handleAuthRequest_submits {s : PhoneMemory} (incoming : Incoming) (job : Job)
    (hjob : incoming.job? P = some job)
    (hallowed : job.incoming.device.isUserAllowed job.request.username = true)
    (hclaim : (tryClaimTransport s.elapsedRealtime incoming.transport job.key
      s.challengeLocks).1 = true)
    (hfresh : (isReplay s.nowSeconds job.key job.request.timestampUnixSeconds
      s.challengeCache).1 = false)
    (hverifies : job.verifies P = true) :
    ∃ t, handleAuthRequest P s incoming true = (t, .submitted) ∧
      t.submitted = (job, s.nowSeconds) :: s.submitted := by
  have hprecheck : precheck P incoming true = .ok job := by
    unfold precheck
    rw [if_neg (by simp), hjob]
    exact if_pos hallowed
  have hfresh' : (isReplay ({ s with
      challengeLocks := (tryClaimTransport s.elapsedRealtime incoming.transport job.key
        s.challengeLocks).2 } : PhoneMemory).nowSeconds job.key
      job.request.timestampUnixSeconds s.challengeCache).1 = false := hfresh
  simp only [handleAuthRequest, claimThen, hprecheck, hclaim, if_true, checkAndSubmit, replayThen,
    hfresh', Bool.false_eq_true, if_false, verifyAndSubmit, hverifies]
  exact ⟨_, rfl, rfl⟩

/-- **The request reaches the user.**  The desktop has begun a session when its clock showed
`wall`.  A phone that is ready for it and whose clock shows `now`, at most sixty seconds later,
opens the packet for that desktop and, if its rate limiter accepts, submits the session's
request. -/
theorem request_reaches_user (wall now : Nat) (hbegin : beginAuthenticate P S = .running running)
    (hwall : S.env.unixSeconds = some (UInt64.ofNat (wall / 1000)))
    (hready : phone.Ready P S running k device)
    (hvalid : P.ed25519KeyValid (running.params.keypair.verifyingKeyBytes P) = true)
    (hnow : phone.memory.currentTimeMillis = Int64.ofNat now) (hrange : now < 2 ^ 63)
    (hclock : wall / 1000 ≤ now / 1000 ∧ now / 1000 ≤ wall / 1000 + 60)
    (hlength : 16 ≤ (P.packetFormat.encode running.packet).length) :
    ∃ message job t,
      phone.openPacket P k (P.packetFormat.encode running.packet) = some ⟨device, message⟩ ∧
      handleAuthRequest P phone.memory ⟨transportType k, device, message⟩ true =
        (t, .submitted) ∧
      t.submitted = (job, phone.memory.nowSeconds) :: phone.memory.submitted ∧
      job.incoming = ⟨transportType k, device, message⟩ ∧ Asks S job := by
  obtain ⟨timestamp, htimestamp, hpacket⟩ := sealed_of_begin hbegin
  obtain ⟨-, hchallenge, -⟩ := beginAuthenticate_eq_running hbegin
  cases htimestamp.symm.trans hwall
  obtain ⟨⟨identifier, hid, hbytes⟩, hplain⟩ := createEncryptedPacketWithCskNonce_eq_ok P hpacket
  -- the desktop's identifier is one of those the phone computes
  have hknows : phone.view.knows P phone.memory.currentTimeMillis k
      running.packet.temporalIdentifier := by
    rw [hnow, hbytes]
    exact knows_of_minute hready.awaits hrange (by omega) (hwall ▸ hid) k
  have hopen : phone.openPacket P k (P.packetFormat.encode running.packet) =
      some ⟨device, P.wrapperFormat.encode (signWrapperMessage P (wrapAuthRequest (requestOf S
        (UInt64.ofNat (wall / 1000)))) running.params.keypair)⟩ := by
    rw [openPacket_of_knows hready hknows (hbytes ▸ identifier.length_bytes) hlength]
    simp only [PairedDevice.open?, decryptEncryptedPacket, hready.csk, FixedBytes.ofBytes_bytes,
      P.packetFormat.decode_encode, hplain, Option.map_some]
  have hjob := parseAuthRequest_signWrapperMessage P (requestOf S (UInt64.ofNat (wall / 1000)))
    running.params.keypair
  have hverifies : verifySignature P device.publicKey (serializeAuthRequestForVerification P
      (parsedRequest P (requestOf S (UInt64.ofNat (wall / 1000))) running.params.keypair))
      (parsedRequest P (requestOf S (UInt64.ofNat (wall / 1000)))
        running.params.keypair).signature = true := by
    rw [serialize_parsedRequest, hready.publicKey]
    exact verifySignature_signEd25519 P hvalid _
  have hunseen : phone.memory.challengeCache (hexEncode S.challenge.bytes) = none :=
    hchallenge ▸ hready.awaits.unseen
  have hseconds : phone.memory.nowSeconds = Int64.ofNat (now / 1000) := by
    rw [PhoneMemory.nowSeconds, hnow]
    exact (Int64.ofNat_div hrange (by decide)).symm
  have hfresh : (isReplay phone.memory.nowSeconds (hexEncode S.challenge.bytes)
      (UInt64.ofNat (wall / 1000)).toInt64 phone.memory.challengeCache).1 = false := by
    rw [isReplay_of_unseen hunseen, hseconds, UInt64.toInt64_ofNat']
    exact (stale_ofNat_iff (by omega) (by omega)).mpr (by omega)
  obtain ⟨t, hhandled, hsubmitted⟩ := handleAuthRequest_submits
    ⟨transportType k, device, _⟩ ⟨_, _⟩
    (Option.map_eq_some_iff.mpr ⟨_, hjob, rfl⟩) hready.allowed
    (tryClaimTransport_of_unclaimed hready.unclaimed) hfresh hverifies
  exact ⟨_, _, t, hopen, hhandled, hsubmitted, rfl, rfl, rfl, rfl, hready.allowed⟩

end

namespace LoginSample

open Sample (primitives env)
open FreshnessSample (request running)

/-- The desktop's only phone, a minute after the request was built. -/
def phone : Receiver where
  stored := FreshnessSample.phone.stored
  cache := .stopped
  memory := ⟨120000, 0, fun _ ↦ none, fun _ ↦ none, []⟩

theorem phone_ready (k : TransportKind) :
    phone.Ready primitives request running k FreshnessSample.desktop where
  stored := List.mem_singleton.mpr rfl
  csk := by decide +kernel
  publicKey := by decide +kernel
  allowed := by decide
  awaits := FreshnessSample.phone_awaits
  unique other hother _ _ _ := List.mem_singleton.mp hother
  unclaimed _ hlock := by cases hlock

end LoginSample

open Sample

theorem request_reaches_user_after_a_minute :
    ∃ message job t,
      LoginSample.phone.openPacket primitives .udp
          (primitives.packetFormat.encode FreshnessSample.running.packet) =
        some ⟨FreshnessSample.desktop, message⟩ ∧
      handleAuthRequest primitives LoginSample.phone.memory
          ⟨transportType .udp, FreshnessSample.desktop, message⟩ true = (t, .submitted) ∧
      t.submitted = (job, LoginSample.phone.memory.nowSeconds) ::
        LoginSample.phone.memory.submitted ∧
      job.incoming = ⟨transportType .udp, FreshnessSample.desktop, message⟩ ∧
      Asks FreshnessSample.request job :=
  request_reaches_user 60000 120000 FreshnessSample.begin_request rfl
    (LoginSample.phone_ready .udp) rfl rfl (by decide) (by decide) (by decide +kernel)

/-! ## The answer ends the session -/

section

variable {P : Primitives} {S : Session} {s t : SessionState} {e : Event}

/-- Where a task runs, only packets that were to be ignored are in its cache. -/
def CachesOk (P : Primitives) (S : Session) (s : SessionState) : Prop :=
  ∀ k start point locals, s.task k = .running start point locals → CacheOk P S.params locals

/-- The event brings no packet that would have to be decided on. -/
def Undecided (P : Primitives) (S : Session) (e : Event) : Prop :=
  ∀ packet ∈ deliveredPackets [e], NotDecisive P S.params packet

theorem CachesOk.setTask (h : CachesOk P S s) (k : TransportKind) {task : Task}
    (htask : ∀ start point locals, task = .running start point locals →
      CacheOk P S.params locals) : CachesOk P S (s.setTask k task) := by
  cases k with
  | ble => exact fun | .ble => htask | .udp => h .udp
  | udp => exact fun | .ble => h .ble | .udp => htask

theorem CachesOk.abort (h : CachesOk P S s) (k : TransportKind) :
    CachesOk P S (s.setTask k (s.task k).abort) := by
  refine h.setTask k fun start point locals habort ↦ ?_
  cases htask : s.task k with
  | running => rw [htask] at habort; cases habort
  | _ => rw [htask] at habort; cases habort

theorem cacheOk_start (A : AuthParams) : CacheOk P A .start := fun _ hf ↦ by cases hf

variable {locals : LoopState}

theorem cacheOk_of_spawn {enabled : Bool} {now start : Nat} {point : LoopPoint} (A : AuthParams)
    (h : Daemon.Task.spawn enabled now = .running start point locals) : CacheOk P A locals := by
  unfold Daemon.Task.spawn at h
  split_ifs at h
  cases h
  exact cacheOk_start A

/-- The step of a task. -/
theorem cacheOk_of_taskStep {now : Nat} {k : TransportKind} {task task' : Task}
    (hstep : TaskStep P S.params now k task e task') (hundecided : Undecided P S e)
    (htask : ∀ start point locals, task = .running start point locals →
      CacheOk P S.params locals) {start : Nat} {point : LoopPoint}
    (hrunning : task' = .running start point locals) : CacheOk P S.params locals := by
  cases hstep with
  | expired htop => cases hrunning
  | sent htop =>
    cases hrunning
    exact htask _ _ _ rfl
  | decided hreceive => cases hrunning
  | @again _ received env before _ hreceive =>
    cases hrunning
    have hr : InTime ⟨0, .ok (), received, env⟩ :=
      ⟨(by decide : 0 < getSessionTimeout), rfl⟩
    rcases hreceived : received with error | (⟨packet, addr⟩ | -)
    · rw [hreceived] at hreceive
      cases hreceive
    · have hignorable : Ignorable P S.params received := by
        rw [hreceived]
        exact hundecided packet (by rw [hreceived]; exact List.mem_singleton_self packet)
      obtain ⟨after, hturn, hafter⟩ := turn_of_ignorable (htask _ _ _ rfl) hr hignorable
      rw [turn_of_inTime hr] at hturn
      cases hturn.symm.trans hreceive
      exact hafter
    · rw [hreceived] at hreceive
      cases hreceive
      exact fun f hf ↦ htask _ _ _ rfl f hf
  | panic => cases hrunning

theorem CachesOk.step (h : CachesOk P S s) (hundecided : Undecided P S e)
    (hnext : sessionNext P S s e = some t) : CachesOk P S t := by
  cases sessionNext_eq_some hnext with
  | tick elapsed => exact fun | .ble => h .ble | .udp => h .udp
  | bleInitialized ok hphase => exact fun | .ble => h .ble | .udp => h .udp
  | registerFailed env error hphase => exact fun | .ble => h .ble | .udp => h .udp
  | spawned env hphase =>
    exact fun | .ble, _, _, _, hrunning => cacheOk_of_spawn _ hrunning
              | .udp, _, _, _, hrunning => cacheOk_of_spawn _ hrunning
  | task k hstep =>
    exact h.setTask k fun _ _ _ hrunning ↦ cacheOk_of_taskStep hstep hundecided (h k) hrunning
  | joinedTerminal k hphase hjoin =>
    have habort := h.abort k.other
    exact fun | .ble => habort .ble | .udp => habort .udp
  | joinedFailed k hphase hjoin =>
    unfold SessionState.fail
    split_ifs
    · exact fun | .ble => h .ble | .udp => h .udp
    · exact fun | .ble => h .ble | .udp => h .udp
  | cancelled hphase => exact fun | .ble => h .ble | .udp => h .udp
  | closed hphase => exact fun | .ble => h .ble | .udp => h .udp
  | cancellationDone hphase =>
    have habort := (h.abort .ble).abort .udp
    exact fun | .ble => habort .ble | .udp => habort .udp
  | timeout hbefore hdue => exact fun | .ble => h .ble | .udp => h .udp

theorem cachesOk_of_exec {now : Nat} {events : List Event}
    (hrun : (session P S).exec (.start now) events = some s)
    (hundecided : ∀ packet ∈ deliveredPackets events, NotDecisive P S.params packet) :
    CachesOk P S s := by
  refine (session P S).invariant_along (G := fun _ e ↦ Undecided P S e)
    (fun _ _ _ hs hG hnext ↦ hs.step hG hnext) ?_ hrun ?_
  · exact fun | .ble, _, _, _, hrunning => by cases hrunning
              | .udp, _, _, _, hrunning => by cases hrunning
  · refine (session P S).along_of_mem (fun e he _ packet hpacket ↦ hundecided packet ?_) _
    obtain ⟨e', he', hdelivers⟩ := List.mem_filterMap.mp hpacket
    rw [List.mem_singleton] at he'
    subst he'
    exact List.mem_filterMap.mpr ⟨e', he, hdelivers⟩

/-- A decisive packet at a task that waits: the session responds with the verdict. -/
theorem response_of_verdict {failed : Failed} {k : TransportKind} {start : Nat}
    (hphase : s.phase = .selecting failed) (hfailed : failed.get k = false)
    (hwaiting : s.task k = .running start .waiting locals) (hcache : CacheOk P S.params locals)
    {packet : EncryptedPacket} (hlength : packet.temporalIdentifier.length = 16)
    {wrapper : WrapperMessage}
    (hdecrypt : decryptEncryptedPacketWithCskNonce P S.params.csk packet = .ok wrapper)
    {result : Except AuthHandlerError Unit}
    (hverdict : verdictOf P (storedKeys S.params.pairedServers) S.params.challenge wrapper =
      some result) (addr : SocketAddr) (env : Ambient) :
    ∃ t, (session P S).exec s
        [.taskReceive k (.ok (.response packet addr)) env, .joined k, .closed] = some t ∧
      t.response? = some (respond S result) := by
  have hnew : nonceFingerprint packet ∉ locals.nonceCache :=
    fingerprint_not_mem hcache hlength hdecrypt (by rw [hverdict]; nofun)
  have hreceive : loopReceive P S.params locals (.ok (.response packet addr)) env =
      .inr ⟨result, sendConfirmationBackground P env S.params⟩ := by
    rw [loopReceive_response, if_neg hnew, hdecrypt]
    dsimp only
    rw [hverdict]
  have hreturned : (session P S).next s (.taskReceive k (.ok (.response packet addr)) env) =
      some (s.setTask k (.returned result)) := by
    simp only [session, sessionNext, hwaiting, Task.receive, hreceive, Option.map_some]
  have hjoin : (Daemon.Task.returned result).joinResult = some (.terminal result) := by
    obtain ⟨-, -, rfl, -⟩ | ⟨-, -, rfl, -⟩ := verdictOf_eq_some P hverdict
    · rfl
    · rfl
  have hjoined : (session P S).next (s.setTask k (.returned result)) (.joined k) =
      some ((s.setTask k (.returned result)).close k result) := by
    cases k with
    | ble =>
      simp only [session, sessionNext, join, SessionState.setTask, SessionState.task, hphase,
        hfailed, hjoin]
      rfl
    | udp =>
      simp only [session, sessionNext, join, SessionState.setTask, SessionState.task, hphase,
        hfailed, hjoin]
      rfl
  refine ⟨{ (s.setTask k (.returned result)).close k result with
    phase := .responded (respond S result) }, ?_, rfl⟩
  rewrite [Machine.exec_cons, hreturned, Option.bind_some, Machine.exec_cons, hjoined,
    Option.bind_some]
  rfl

/-- **The answer ends the session.**  Whatever else has happened in a session that waits for a
transport, as long as the packets it was brought were to be ignored: when the transport brings
what a paired phone builds in answer to a request with the session's challenge, the session
responds success to a grant and `denied` to a denial. -/
theorem answer_ends_session {now : Nat} {events : List Event}
    (hrun : (session P S).exec (.start now) events = some s)
    (hundecided : ∀ packet ∈ deliveredPackets events, NotDecisive P S.params packet)
    {failed : Failed} {k : TransportKind} (hphase : s.phase = .selecting failed)
    (hfailed : failed.get k = false) {start : Nat} {locals : LoopState}
    (hwaiting : s.task k = .running start .waiting locals)
    {privateKey : Bytes} {phone : Ed25519KeyPair}
    (hphone : jbytearrayToEd25519Keypair "private_key" privateKey = .ok phone)
    (hpaired : phone.verifyingKeyBytes P ∈ storedKeys S.params.pairedServers)
    (hvalid : P.ed25519KeyValid (phone.verifyingKeyBytes P) = true)
    {job : Job} (hcsk : job.incoming.device.csk = S.params.csk.bytes)
    (hchallenge : job.request.challenge = S.params.challenge.bytes)
    {bytes : Bytes} {packet : EncryptedPacket} (hdecode : P.packetFormat.decode bytes = .ok packet)
    (answerEnv env : Ambient) (addr : SocketAddr) :
    (grantBytes P answerEnv job.incoming.device.csk privateKey job.request.challenge = .ok bytes →
      ∃ t, (session P S).exec s
          [.taskReceive k (.ok (.response packet addr)) env, .joined k, .closed] = some t ∧
        t.response? = some ⟨.success, "Authenticated user " ++ S.username ++ " successfully",
          S.params.challenge.bytes⟩) ∧
    (denialBytes P answerEnv job.incoming.device.csk privateKey job.request.challenge = .ok bytes →
      ∃ t, (session P S).exec s
          [.taskReceive k (.ok (.response packet addr)) env, .joined k, .closed] = some t ∧
        t.response? = some ⟨.denied, "Authentication explicitly denied by user",
          S.params.challenge.bytes⟩) := by
  have hcache := cachesOk_of_exec hrun hundecided k _ _ _ hwaiting
  rw [hcsk, hchallenge]
  constructor
  · intro hgrant
    obtain ⟨packet', hdecode', hlength, hdecrypt⟩ := grantBytes_eq_ok hphone hgrant
    cases hdecode.symm.trans hdecode'
    exact response_of_verdict hphase hfailed hwaiting hcache hlength hdecrypt
      (verdictOf_grant hpaired hvalid) addr env
  · intro hdenial
    obtain ⟨packet', hdecode', hlength, hdecrypt⟩ := denialBytes_eq_ok hphone hdenial
    cases hdecode.symm.trans hdecode'
    exact response_of_verdict hphase hfailed hwaiting hcache hlength hdecrypt
      (verdictOf_denial hpaired hvalid) addr env

end

namespace LoginSample

open Sample (primitives env)
open FreshnessSample (running)

/-- The UDP task has received the grant of a phone that is not paired, and waits again. -/
def waiting : List Event :=
  [.bleInitialized false, .registered env, .taskTop .udp (.ok ()),
    .taskReceive .udp (.ok (.response (grant 6) addr)) env, .tick 1500,
    .taskTop .udp (.ok ())]

def waits : SessionState :=
  ((session primitives running).exec (.start 0) waiting).get (by decide +kernel)

theorem exec_waiting : (session primitives running).exec (.start 0) waiting = some waits :=
  (Option.some_get _).symm

theorem notDecisive_waiting :
    ∀ packet ∈ deliveredPackets waiting, NotDecisive primitives running.params packet := by
  intro packet hpacket
  have hparams : running.params.csk = params.csk ∧
      storedKeys running.params.pairedServers = storedKeys params.pairedServers ∧
      running.params.challenge = params.challenge := by decide +kernel
  have hgrant : NotDecisive primitives params (grant 6) :=
    (DeliverySample.ignorable_runUp _ List.mem_cons_self).2
  rw [List.mem_singleton.mp hpacket, NotDecisive, hparams.1, hparams.2.1, hparams.2.2]
  exact hgrant

/-- A request with the session's challenge. -/
def job : Job :=
  ⟨⟨.udp, FreshnessSample.desktop, []⟩, ⟨running.params.challenge.bytes, "alice", "desktop", 60,
    signatureAlgorithmEd25519, []⟩⟩

end LoginSample

open LoginSample in
theorem answer_ends_session_after_others :
    ∃ bytes packet, grantBytes primitives env job.incoming.device.csk
        DeliverySample.key.bytes job.request.challenge = .ok bytes ∧
      primitives.packetFormat.decode bytes = .ok packet ∧
      ∃ t, (session primitives FreshnessSample.running).exec waits
          [.taskReceive .udp (.ok (.response packet addr)) env, .joined .udp,
            .closed] = some t ∧
        t.response? = some ⟨.success, "Authenticated user alice successfully",
          FreshnessSample.running.params.challenge.bytes⟩ := by
  obtain ⟨bytes, hbytes⟩ : ∃ bytes, (grantBytes primitives env
      job.incoming.device.csk DeliverySample.key.bytes job.request.challenge).toOption =
        some bytes := Option.isSome_iff_exists.mp (by decide +kernel)
  rw [Except.toOption_eq_some_iff] at hbytes
  have hphone := jbytearrayToEd25519Keypair_bytes "private_key" DeliverySample.key
  have hcsk : job.incoming.device.csk = FreshnessSample.running.params.csk.bytes := by
    decide +kernel
  obtain ⟨packet, hdecode, -⟩ := grantBytes_eq_ok hphone (hcsk ▸ hbytes)
  have hphase : waits.phase = .selecting ⟨false, false⟩ := by decide +kernel
  have hwaiting : waits.task .udp =
      .running 0 .waiting ⟨1, [nonceFingerprint (grant 6)]⟩ := by decide +kernel
  obtain ⟨t, hrun, hresponse⟩ := (answer_ends_session exec_waiting notDecisive_waiting hphase rfl
    hwaiting hphone (by decide +kernel) rfl hcsk rfl hdecode env env
    addr).1 hbytes
  exact ⟨bytes, packet, hbytes, hdecode, t, hrun, hresponse⟩

end TapAuth.System
