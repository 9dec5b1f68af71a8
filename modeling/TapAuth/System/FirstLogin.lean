import TapAuth.System.Login
import TapAuth.System.PairingRun

/-!
# The first login after a pairing

What a pairing leaves on the two sides is what a login rests on.  `login_after_pairing`: once
the daemon has loaded its directory it begins a session for the user of the pairing, trusts the
phone's key in it, and the phone that has saved the pairing is ready for the request.
-/

namespace TapAuth.System

open Shared Daemon Phone

/-- The daemon holds the desktop's keypair and what the pairing left in its directory. -/
structure Loaded (S : PairingSetup) (o : Outcome) (state : DaemonState) : Prop where
  keypair : state.keypair = some S.desktopEd25519
  csk : state.csk = o.disk.csk
  pairedServers : state.pairedServers = o.disk.pairedServers

/-- The phone has heard nothing of the session, and takes its packet for no other desktop's. -/
structure Receiver.Unaware (P : Primitives) (A : AuthSession) (running : Session)
    (k : TransportKind) (phone : Receiver) (device : PairedDevice) : Prop where
  csks : ∀ other ∈ phone.stored, other.csk.length = 32
  cache : phone.cache.Consistent P phone.stored
  unseen : phone.memory.challengeCache (hexEncode A.challenge.bytes) = none
  unclaimed : phone.memory.challengeLocks (hexEncode A.challenge.bytes) = none
  unique : ∀ other ∈ phone.stored, ∀ second ∈ instants phone.memory.currentTimeMillis k,
    generateTemporalId P other.csk second = some running.packet.temporalIdentifier →
      other = device

section

variable {P : Primitives} {S : PairingSetup} {w : Wire} {o : Outcome} {A : AuthSession}

/-- A daemon with its keys and a server for the user answers at once only if it cannot build
the packet. -/
theorem beginAuthenticate_of_allowed {keypair : Ed25519KeyPair} {csk : ClientSymmetricKey}
    (htransports : A.transports.any = true) (hkeypair : A.state.keypair = some keypair)
    (hcsk : A.state.csk = some csk)
    (hallowed : allowedServers A.state.pairedServers A.username ≠ []) :
    (∃ e, beginAuthenticate P A = .responded (.error (.protocol e))) ∨
      ∃ running, beginAuthenticate P A = .running running ∧
        running.params = ⟨csk, keypair, A.challenge, A.state.pairedServers⟩ := by
  have hentries : A.state.pairedServers.entries ≠ [] := by
    intro hnil
    rw [allowedServers, ServerMap.values, hnil] at hallowed
    exact hallowed rfl
  unfold beginAuthenticate
  dsimp only
  rw [if_neg (by rw [htransports]; simp), if_neg hentries, hkeypair, hcsk]
  dsimp only
  rw [if_neg hallowed]
  split
  · exact .inl ⟨_, rfl⟩
  split
  · exact .inl ⟨_, rfl⟩
  next request hrequest packet hpacket =>
    -- the packet already needed the clock that the identifier for BLE needs
    obtain ⟨⟨identifier, hidentifier, -⟩, -⟩ := createEncryptedPacketWithCskNonce_eq_ok P hpacket
    obtain ⟨window, hwindow, -⟩ := Except.bind_eq_ok_iff.mp hidentifier
    split
    next e hble =>
      have hok := generateCurrentTemporalIdentifierBle_isOk P hwindow csk
      rw [hble] at hok
      cases hok
    · exact .inr ⟨_, rfl, rfl⟩

/-- The desktop got the phone's own key. -/
theorem Unmodified.phoneKey_eq (hw : Unmodified P S w o) (h : Ran P S w o) :
    o.initiated.serverEd25519Public = S.phoneKey P := by
  obtain ⟨hello, hhello, hkey⟩ := h.helloMessage
  simp only [Wire.helloMessage, hw.hello, PairingSetup.hello, Except.toOption, Option.bind_some,
    P.helloFormat.decode_encode, Option.some.injEq] at hhello
  subst hhello
  exact FixedBytes.bytes_injective hkey.symm

/-- The phone is stored for the user, with its key. -/
theorem Unmodified.server_mem (hw : Unmodified P S w o) (h : Ran P S w o) :
    ∃ server ∈ allowedServers o.disk.pairedServers S.username,
      server.key = some (S.phoneKey P) := by
  have hserver : (newPairedServer (S.active o.initiated) S.username S.completionIo.now) ∈
      ServerMap.values o.disk.pairedServers := by
    rw [h.disk_eq]
    exact ServerMap.mem_values.mpr ⟨_, AList.lookup_insert _⟩
  refine ⟨_, List.mem_filter.mpr ⟨hserver, ?_⟩, ?_⟩
  · exact PairedServer.isUserAllowed_eq_true.mpr (List.mem_singleton_self _)
  · rw [← hw.phoneKey_eq h]
    simp only [PairedServer.key, newPairedServer, PairingSetup.active, hexDecode_hexEncode,
      Option.bind_some, FixedBytes.ofBytes_bytes]

/-- **The first login.**  After a pairing over an unmodified connection by a phone that did not
know the desktop under another CSK, a request for the user of the pairing, with a transport
enabled, fails only where its packet cannot be built.  Otherwise the session trusts the phone's
key, and the phone that has saved the pairing is ready for it. -/
theorem login_after_pairing (hrun : S.run P w = some o) (hw : Unmodified P S w o)
    (hcsk : ∀ d, S.devices.findByPublicKey (S.desktopKey P).bytes = some d →
      some d.csk = S.cskBytes)
    (hloaded : Loaded S o A.state) (huser : A.username = S.username)
    (htransports : A.transports.any = true) :
    (∃ e, beginAuthenticate P A = .responded (.error (.protocol e))) ∨
      ∃ running, beginAuthenticate P A = .running running ∧
        S.phoneKey P ∈ storedKeys running.params.pairedServers ∧
        ∀ k (phone : Receiver), phone.stored = o.devices S →
          phone.Unaware P A running k o.device → phone.Ready P A running k o.device := by
  have h := ran_of_run hrun
  obtain ⟨server, hserver, hkey⟩ := hw.server_mem h
  rw [← hloaded.pairedServers, ← huser] at hserver
  rcases beginAuthenticate_of_allowed (P := P) htransports hloaded.keypair
    (hloaded.csk.trans h.csk_disk) (List.ne_nil_of_mem hserver) with hfailed | hbegun
  · exact .inl hfailed
  obtain ⟨running, hbegin, hparams⟩ := hbegun
  refine .inr ⟨running, hbegin, ?_, fun k phone hstored hunaware ↦ ?_⟩
  · rw [hparams]
    exact List.mem_filterMap.mpr ⟨server, (List.mem_filter.mp hserver).1, hkey⟩
  have hdevice := hw.device_eq h
  have hmem : o.device ∈ phone.stored :=
    hstored ▸ DeviceList.mem_savePairedDevice.mpr (.inr rfl)
  have hdeviceCsk : o.device.csk = running.params.csk.bytes := by
    rw [hparams, hdevice]
    exact csk_pairedDevice_iff.mpr fun d hd ↦
      Option.some.inj ((hcsk d hd).trans h.cskBytes_eq)
  refine ⟨hmem, hdeviceCsk, ?_, ?_,
    ⟨⟨_, hmem, hdeviceCsk⟩, hunaware.csks, hunaware.cache, ?_⟩, hunaware.unique, ?_⟩
  · rw [hparams, hdevice]
    exact publicKey_pairedDevice
  · rw [huser, hdevice]
    exact List.contains_iff_mem.mpr (mem_allowedUsers_pairedDevice.mpr (.inl rfl))
  · rw [hparams]
    exact hunaware.unseen
  · intro lock hlock
    rw [hunaware.unclaimed] at hlock
    cases hlock

end

namespace FirstLoginSample

open PairingRunSample (primitives)

def setup : PairingSetup := PairingRunSample.setup .empty

/-- Alice logs in at the desktop that has just been paired. -/
def login (o : Outcome) : AuthSession :=
  { Sample.aliceSession with
    state := ⟨o.disk.pairedServers, some setup.desktopEd25519, o.disk.csk, "desktop", none⟩ }

def phone (o : Outcome) : Receiver := ⟨o.devices setup, .stopped, LoginSample.phone.memory⟩

theorem eq_of_mem_stored {o : Outcome} {d : PairedDevice} (h : d ∈ (phone o).stored) :
    d = o.device :=
  (DeviceList.mem_savePairedDevice.mp h).resolve_left fun hold ↦ by cases hold.1

theorem phone_unaware {o : Outcome} (hcsk : o.device.csk.length = 32) (running : Session)
    (k : TransportKind) : (phone o).Unaware primitives (login o) running k o.device where
  csks _ hother := eq_of_mem_stored hother ▸ hcsk
  cache h := by cases h
  unseen := rfl
  unclaimed := rfl
  unique _ hother _ _ _ := eq_of_mem_stored hother

end FirstLoginSample

open FirstLoginSample in
theorem login_after_first_pairing :
    ∃ w o running, setup.run PairingRunSample.primitives w = some o ∧
      beginAuthenticate PairingRunSample.primitives (login o) = .running running ∧
      setup.phoneKey PairingRunSample.primitives ∈ storedKeys running.params.pairedServers ∧
      (phone o).Ready PairingRunSample.primitives (login o) running .ble o.device := by
  have hsome : (PairingRunSample.undisturbed setup).map (fun p ↦ (p.2.device.csk.length,
      (beginAuthenticate PairingRunSample.primitives (login p.2)).session?.isSome)) =
        some (32, true) := by decide +kernel
  obtain ⟨⟨w, o⟩, h, hfields⟩ := Option.map_eq_some_iff.mp hsome
  obtain ⟨hlength, hsession⟩ := Prod.mk.inj hfields
  obtain ⟨hrun, hw⟩ := PairingRunSample.undisturbed_eq_some h
  rcases login_after_pairing hrun hw (fun d hd ↦ by cases hd) (A := login o) ⟨rfl, rfl, rfl⟩ rfl
    rfl with ⟨e, hfailed⟩ | ⟨running, hbegin, hkey, hready⟩
  · simp only [hfailed, Begin.session?] at hsession
    cases hsession
  · exact ⟨w, o, running, hrun, hbegin, hkey,
      hready .ble (phone o) rfl (phone_unaware hlength running .ble)⟩

end TapAuth.System
