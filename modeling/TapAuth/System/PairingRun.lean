import TapAuth.Daemon.Admin
import TapAuth.Phone.PairingClient

/-!
# A pairing of a phone and a desktop

Both sides of one pairing, connected by four frames: hello, response, CSK message
and completion.  What arrives need not be what was sent; a `Wire` holds the frames
as they are *delivered*, and an `Outcome` holds what the two sides did with them
when both report success.

Two results.  Over a wire that delivers what was sent, `storesCsk_iff` says when the
phone has stored the CSK it was sent.  Over any wire, `agree_iff` says when the two
sides agree on the pairing although their users saw the same code: the code covers
the X25519 keys and nothing else.
-/

namespace TapAuth.System

open Shared Phone Daemon FixedBytes

/-- The two parties before a pairing, with what their surroundings will answer. -/
structure PairingSetup where
  phoneX25519 : X25519KeyPair
  phoneEd25519 : Ed25519KeyPair
  phoneName : String
  devices : DeviceList
  clientIo : ClientIo
  desktopX25519 : X25519KeyPair
  desktopEd25519 : Ed25519KeyPair
  desktopName : String
  disk : Disk
  username : String
  port : UInt16
  generation : UInt64
  /-- Without the phone's frame, which comes from the wire. -/
  completionIo : CompletionIo

/-- The frames as they are delivered. -/
structure Wire where
  hello : Frame
  response : Frame
  csk : Frame
  complete : Frame

/-- A pairing that both sides report as successful. -/
structure Outcome where
  /-- The desktop's first phase. -/
  initiated : ClientPairingSession.Initiated
  /-- The phone's first phase. -/
  awaiting : AwaitingSasVerification
  /-- The CSK the desktop handed out, and the message it sent it in. -/
  csk : ClientSymmetricKey
  message : PairingCskMessage
  /-- The completion the phone sent, and the entry it saved. -/
  complete : Bytes
  device : PairedDevice
  /-- The desktop's directory afterwards. -/
  disk : Disk

namespace PairingSetup

variable (P : Primitives) (S : PairingSetup)

def phoneKey : Bytes32 := S.phoneEd25519.verifyingKeyBytes P

def desktopKey : Bytes32 := S.desktopEd25519.verifyingKeyBytes P

/-- The frame the phone opens with. -/
def hello : Bytes :=
  P.helloFormat.encode (pairingHello P S.phoneX25519 (S.phoneKey P).bytes S.phoneName)

/-- The desktop's session when both sides have shown their codes. -/
def active (i : ClientPairingSession.Initiated) : ActivePairing :=
  ⟨i.session, i.serverEd25519Public, i.serverDeviceName, S.port, S.generation⟩

/-- What the desktop's CSK file holds, or the key that is generated without one. -/
def cskBytes : Option Bytes :=
  S.disk.cskFile.or (S.completionIo.generated.map bytes)

/-- The desktop's second phase, with the completion that is delivered. -/
def desktopCompletes (w : Wire) (i : ClientPairingSession.Initiated) : AdminResponse × Disk :=
  Daemon.completePairing P S.disk (S.active i) S.username
    { S.completionIo with complete := w.complete }

/-- Run the pairing: `none` if a side fails. -/
def run (w : Wire) : Option Outcome := do
  let initiated ← ((ClientPairingSession.new S.desktopX25519 S.desktopEd25519).initiatePairing P
    w.hello S.desktopName).toOption
  let awaiting ← (initiatePairing P S.phoneX25519 w.response).toOption
  let csk ← (pairingCsk S.disk S.completionIo.loadCsk S.completionIo.generated).toOption
  let message ← (initiated.session.cskMessage P S.completionIo.nonce csk S.username).toOption
  let (complete, device) ←
    (Phone.completePairing P awaiting true w.csk S.devices S.clientIo).toOption
  if (S.desktopCompletes P w initiated).1.status = .success then
    some ⟨initiated, awaiting, csk, message, complete, device, (S.desktopCompletes P w initiated).2⟩
  else none

/-- The wire that delivers `hello` and then relays what the two sides send. -/
def relay (hello : Frame) : Option Wire := do
  let initiated ← ((ClientPairingSession.new S.desktopX25519 S.desktopEd25519).initiatePairing P
    hello S.desktopName).toOption
  let awaiting ← (initiatePairing P S.phoneX25519 (.ok initiated.response)).toOption
  let csk ← (pairingCsk S.disk S.completionIo.loadCsk S.completionIo.generated).toOption
  let message ← (initiated.session.cskMessage P S.completionIo.nonce csk S.username).toOption
  let cskFrame : Frame := .ok (P.cskFormat.encode message)
  let (complete, _) ←
    (Phone.completePairing P awaiting true cskFrame S.devices S.clientIo).toOption
  return ⟨hello, .ok initiated.response, cskFrame, .ok complete⟩

end PairingSetup

/-- The phone's list when `PairingScreen` has saved the entry. -/
def Outcome.devices (S : PairingSetup) (o : Outcome) : DeviceList :=
  S.devices.savePairedDevice o.device

/-- The wire delivered what the two sides sent. -/
structure Unmodified (P : Primitives) (S : PairingSetup) (w : Wire) (o : Outcome) : Prop where
  hello : w.hello = .ok (S.hello P)
  response : w.response = .ok o.initiated.response
  csk : w.csk = .ok (P.cskFormat.encode o.message)
  complete : w.complete = .ok o.complete

/-! ## What a successful pairing says -/

/-- The parts of a pairing that both sides report as successful. -/
structure Ran (P : Primitives) (S : PairingSetup) (w : Wire) (o : Outcome) : Prop where
  initiated : (ClientPairingSession.new S.desktopX25519 S.desktopEd25519).initiatePairing P
    w.hello S.desktopName = .ok o.initiated
  awaiting : initiatePairing P S.phoneX25519 w.response = .ok o.awaiting
  csk : pairingCsk S.disk S.completionIo.loadCsk S.completionIo.generated = .ok o.csk
  message : o.initiated.session.cskMessage P S.completionIo.nonce o.csk S.username = .ok o.message
  device : Phone.completePairing P o.awaiting true w.csk S.devices S.clientIo =
    .ok (o.complete, o.device)
  success : (S.desktopCompletes P w o.initiated).1.status = .success
  disk : o.disk = (S.desktopCompletes P w o.initiated).2

variable {P : Primitives} {S : PairingSetup} {w : Wire} {o : Outcome}

theorem ran_of_run (h : S.run P w = some o) : Ran P S w o := by
  simp only [PairingSetup.run, Option.bind_eq_bind, Option.bind_eq_some_iff,
    Except.toOption_eq_some_iff] at h
  obtain ⟨initiated, hinitiated, awaiting, hawaiting, csk, hcsk, message, hmessage,
    ⟨complete, device⟩, hdevice, h⟩ := h
  split at h
  · rename_i hsuccess
    cases h
    exact ⟨hinitiated, hawaiting, hcsk, hmessage, hdevice, hsuccess, rfl⟩
  · cases h

namespace Ran

/-- The desktop has stored the CSK it handed out, and the phone under the key of
the hello it got. -/
theorem disk_eq (h : Ran P S w o) : o.disk =
    { cskFile := some o.csk.bytes
      serversFile := some (.servers (S.disk.pairedServers.insert
        (hexEncode o.initiated.serverEd25519Public.bytes)
        (newPairedServer (S.active o.initiated) S.username S.completionIo.now))) } := by
  obtain ⟨csk, hcsk, -, hdisk⟩ := completePairing_of_success h.success
  have hsame : csk = o.csk := Except.ok.inj (hcsk.symm.trans h.csk)
  rw [h.disk, ← hsame]
  exact hdisk

theorem csk_disk (h : Ran P S w o) : o.disk.csk = some o.csk := by
  rw [h.disk_eq]
  exact Disk.csk_withCskFile ⟨none, _⟩ o.csk

theorem cskBytes_eq (h : Ran P S w o) : S.cskBytes = some o.csk.bytes := pairingCsk_eq_ok h.csk

/-- The desktop's ciphertext opens to the CSK under the desktop's PSK. -/
theorem decrypt_message (h : Ran P S w o) {psk : PairingSymmetricKey}
    (hpsk : o.initiated.session.psk = some psk) :
    decryptWithPsk P psk o.message.encryptedCsk = .ok o.csk.bytes ∧
      o.message.username = S.username := by
  obtain ⟨hencrypted, husername⟩ := ClientPairingSession.cskMessage_eq_ok hpsk h.message
  exact ⟨decryptWithNonce_of_encryptWithNonce P hencrypted, husername⟩

end Ran

/-! ## Over an unmodified connection -/

/-- A relayed wire delivers what was sent, the hello apart. -/
theorem Ran.of_relay {hello : Frame} (hrelay : S.relay P hello = some w) (h : Ran P S w o) :
    w.hello = hello ∧ w.response = .ok o.initiated.response ∧
      w.csk = .ok (P.cskFormat.encode o.message) ∧ w.complete = .ok o.complete := by
  simp only [PairingSetup.relay, Option.bind_eq_bind, Option.bind_eq_some_iff,
    Except.toOption_eq_some_iff] at hrelay
  obtain ⟨initiated, hinitiated, awaiting, hawaiting, csk, hcsk, message, hmessage,
    ⟨complete, device⟩, hdevice, hrelay⟩ := hrelay
  cases hrelay
  cases h.initiated.symm.trans hinitiated
  cases h.awaiting.symm.trans hawaiting
  cases h.csk.symm.trans hcsk
  cases h.message.symm.trans hmessage
  have hsame : o.complete = complete :=
    congrArg Prod.fst (Except.ok.inj (h.device.symm.trans hdevice))
  rw [hsame]
  exact ⟨rfl, rfl, rfl, rfl⟩

theorem Unmodified.of_relay (hrelay : S.relay P (.ok (S.hello P)) = some w) (h : Ran P S w o) :
    Unmodified P S w o := by
  obtain ⟨hhello, hresponse, hcsk, hcomplete⟩ := h.of_relay hrelay
  exact ⟨hhello, hresponse, hcsk, hcomplete⟩

/-- Both sides derive the PSK from the same two X25519 keys, and the phone gets the
desktop's Ed25519 key. -/
theorem Unmodified.psk_eq (hw : Unmodified P S w o) (h : Ran P S w o) :
    o.initiated.session.psk = some o.awaiting.psk ∧
      o.awaiting.clientEd25519Key = (S.desktopKey P).bytes := by
  obtain ⟨hello, key, psk, hdesktop⟩ := ClientPairingSession.initiatePairing_eq_ok h.initiated
  obtain ⟨response, key', hphone⟩ := initiatePairing_eq_ok h.awaiting
  have hhello : hello = pairingHello P S.phoneX25519 (S.phoneKey P).bytes S.phoneName := by
    obtain ⟨bytes, hbytes, hdecode⟩ := hdesktop.received
    cases hw.hello.symm.trans hbytes
    exact Except.ok.inj (hdecode.symm.trans (P.helloFormat.decode_encode _))
  have hresponse : response = o.initiated.session.pairingResponse P S.desktopName := by
    obtain ⟨bytes, hbytes, hdecode⟩ := hphone.received
    cases hw.response.symm.trans hbytes
    rw [hdesktop.response, P.responseFormat.decode_encode] at hdecode
    exact (Except.ok.inj hdecode).symm
  have hkey : key = S.phoneX25519.publicKeyBytes P := by
    have := hdesktop.x25519Public
    rw [hhello] at this
    exact (Option.some.inj ((ofBytes_bytes _).symm.trans this)).symm
  have hkey' : key' = S.desktopX25519.publicKeyBytes P := by
    have := hphone.x25519Public
    rw [hresponse] at this
    have hx : o.initiated.session.x25519Keypair = S.desktopX25519 := hdesktop.session_x25519
    rw [ClientPairingSession.pairingResponse, hx] at this
    exact (Option.some.inj ((ofBytes_bytes _).symm.trans this)).symm
  constructor
  · have hpsk : psk = o.awaiting.psk := by
      have hcomm : S.desktopX25519.diffieHellman P key = S.phoneX25519.diffieHellman P key' := by
        rw [hkey, hkey']
        exact P.x25519_comm _ _
      have hderived := hdesktop.derived
      have hx : (ClientPairingSession.new S.desktopX25519 S.desktopEd25519).x25519Keypair =
        S.desktopX25519 := rfl
      rw [hx, hcomm, hphone.derived] at hderived
      exact (Except.ok.inj hderived).symm
    rw [← hpsk]
    exact hdesktop.session_psk
  · have hed : o.initiated.session.ed25519Keypair = S.desktopEd25519 := hdesktop.session_ed25519
    rw [hphone.clientEd25519Key, hresponse, ClientPairingSession.pairingResponse, hed]
    rfl

/-- The phone's entry of an unmodified pairing. -/
theorem Unmodified.device_eq (hw : Unmodified P S w o) (h : Ran P S w o) :
    o.device = pairedDevice S.devices (S.desktopKey P).bytes o.csk.bytes
      o.awaiting.clientDeviceName S.username S.clientIo := by
  obtain ⟨hpsk, hkey⟩ := hw.psk_eq h
  obtain ⟨hcsk, husername⟩ := h.decrypt_message hpsk
  obtain ⟨bytes, message, csk, hbytes, hmessage, hdecrypt, hdevice⟩ :=
    completePairing_eq_ok h.device
  cases hw.csk.symm.trans hbytes
  have hsame : message = o.message :=
    Except.ok.inj (hmessage.symm.trans (P.cskFormat.decode_encode _))
  have hsame' : csk = o.csk.bytes := by
    rw [hsame, hcsk] at hdecrypt
    exact (Except.ok.inj hdecrypt).symm
  rw [hdevice, hkey, hsame, hsame', husername]

/-- **The CSK after a pairing.**  Over an unmodified connection the phone stores for
the desktop the CSK that the desktop has sent and stored, if and only if every entry
it had for the desktop's key held that CSK already: an entry that exists is kept with
its CSK. -/
theorem storesCsk_iff (hrun : S.run P w = some o) (hw : Unmodified P S w o) :
    ((o.devices S).StoresCsk (S.desktopKey P).bytes o.csk.bytes ∧ o.disk.csk = some o.csk) ↔
      ∀ d ∈ S.devices, d.publicKey = (S.desktopKey P).bytes → some d.csk = S.cskBytes := by
  have h := ran_of_run hrun
  rw [Outcome.devices, hw.device_eq h, storesCsk_savePairedDevice_iff, h.cskBytes_eq,
    and_iff_left h.csk_disk]
  simp only [Option.some.injEq]

namespace PairingRunSample

def primitives : Primitives := Transparent.primitives

/-- A phone that knows `devices` and a desktop without pairings. -/
def setup (devices : DeviceList) : PairingSetup where
  phoneX25519 := ⟨fill 32 11⟩
  phoneEd25519 := ⟨PairingSample.phoneKey⟩
  phoneName := "phone"
  devices := devices
  clientIo := ⟨some (fill 12 6), fill 16 7, 100000⟩
  desktopX25519 := ⟨fill 32 12⟩
  desktopEd25519 := ⟨fill 32 2⟩
  desktopName := "desktop"
  disk := ⟨some PairingSample.csk.bytes, none⟩
  username := "alice"
  port := 4000
  generation := 1
  completionIo := PairingSample.io

def oldCsk : Bytes := (fill 32 3).bytes

/-- The phone still holds the desktop's entry from before a rotation. -/
def pairedBefore : DeviceList where
  devices := [⟨"old", (fill 32 2).bytes, oldCsk, "desktop", 0, ["alice"]⟩]
  nodup := List.nodup_singleton _

/-- The wire and the outcome of an undisturbed pairing. -/
def undisturbed (S : PairingSetup) : Option (Wire × Outcome) := do
  let w ← S.relay primitives (.ok (S.hello primitives))
  let o ← S.run primitives w
  return (w, o)

theorem undisturbed_eq_some {S : PairingSetup} {w : Wire} {o : Outcome}
    (h : undisturbed S = some (w, o)) :
    S.run primitives w = some o ∧ Unmodified primitives S w o := by
  simp only [undisturbed, Option.bind_eq_bind, Option.bind_eq_some_iff] at h
  obtain ⟨w', hrelay, o', hrun, h⟩ := h
  cases h
  exact ⟨hrun, .of_relay hrelay (ran_of_run hrun)⟩

end PairingRunSample

open PairingRunSample

/-- A first pairing. -/
theorem storesCsk_first_pairing :
    ∃ w o, (setup .empty).run primitives w = some o ∧
      Unmodified primitives (setup .empty) w o ∧
      (o.devices (setup .empty)).StoresCsk
        ((setup .empty).desktopKey primitives).bytes o.csk.bytes ∧
      o.disk.csk = some o.csk := by
  have hsome : (undisturbed (setup .empty)).isSome = true := by
    decide +kernel
  obtain ⟨⟨w, o⟩, h⟩ := Option.isSome_iff_exists.mp hsome
  obtain ⟨hrun, hw⟩ := undisturbed_eq_some h
  exact ⟨w, o, hrun, hw, (storesCsk_iff hrun hw).mpr fun d hd ↦ by cases hd⟩

/-- A phone that is paired again after a rotation keeps the CSK of before. -/
theorem not_storesCsk_after_rotation :
    ∃ w o, (setup pairedBefore).run
        primitives w = some o ∧
      Unmodified primitives (setup pairedBefore)
        w o ∧
      ¬ ((o.devices (setup pairedBefore)).StoresCsk
          ((setup pairedBefore).desktopKey
            primitives).bytes o.csk.bytes ∧
        o.disk.csk = some o.csk) := by
  have hsome : (undisturbed
      (setup pairedBefore)).map
        (fun p ↦ (p.2.device.publicKey, p.2.device.csk, p.2.csk)) =
      some ((fill 32 2).bytes, oldCsk, PairingSample.csk) := by
    decide +kernel
  obtain ⟨⟨w, o⟩, h, hfields⟩ := Option.map_eq_some_iff.mp hsome
  obtain ⟨hrun, hw⟩ := undisturbed_eq_some h
  simp only [Prod.mk.injEq] at hfields
  obtain ⟨hkey, hdevice, hcsk⟩ := hfields
  refine ⟨w, o, hrun, hw, fun hstores ↦ ?_⟩
  have hsame := hstores.1.2 o.device (DeviceList.mem_savePairedDevice.mpr (.inr rfl)) hkey
  rw [hdevice, hcsk] at hsame
  exact absurd hsame (by decide +kernel)

/-! ## Over any wire -/

/-- The messages that are delivered. -/
def Wire.helloMessage (P : Primitives) (w : Wire) : Option PairingHello :=
  w.hello.toOption.bind fun bytes ↦ (P.helloFormat.decode bytes).toOption

def Wire.responseMessage (P : Primitives) (w : Wire) : Option PairingResponse :=
  w.response.toOption.bind fun bytes ↦ (P.responseFormat.decode bytes).toOption

def Wire.cskMessage (P : Primitives) (w : Wire) : Option PairingCskMessage :=
  w.csk.toOption.bind fun bytes ↦ (P.cskFormat.decode bytes).toOption

/-- No forgery: a ciphertext the phone is given and can open under its PSK is the
one the desktop made. -/
def Unforged (P : Primitives) (w : Wire) (o : Outcome) : Prop :=
  ∀ message plaintext, w.cskMessage P = some message →
    decryptWithPsk P o.awaiting.psk message.encryptedCsk = .ok plaintext →
      message.encryptedCsk = o.message.encryptedCsk

namespace Ran

/-- The desktop stores the phone under the Ed25519 key of the hello it got. -/
theorem helloMessage (h : Ran P S w o) : ∃ hello, w.helloMessage P = some hello ∧
    hello.ed25519PublicKey = o.initiated.serverEd25519Public.bytes := by
  obtain ⟨hello, key, psk, hdesktop⟩ := ClientPairingSession.initiatePairing_eq_ok h.initiated
  obtain ⟨bytes, hbytes, hdecode⟩ := hdesktop.received
  refine ⟨hello, ?_, ofBytes_eq_some.mp hdesktop.serverEd25519Public⟩
  simp [Wire.helloMessage, hbytes, hdecode, Except.toOption]

theorem responseMessage (h : Ran P S w o) : ∃ response, w.responseMessage P = some response ∧
    o.awaiting.clientEd25519Key = response.ed25519PublicKey := by
  obtain ⟨response, key, hphone⟩ := initiatePairing_eq_ok h.awaiting
  obtain ⟨bytes, hbytes, hdecode⟩ := hphone.received
  refine ⟨response, ?_, hphone.clientEd25519Key⟩
  simp [Wire.responseMessage, hbytes, hdecode, Except.toOption]

/-- The phone's entry when its ciphertext is the desktop's. -/
theorem device_eq (h : Ran P S w o) (hpsk : o.initiated.session.psk = some o.awaiting.psk)
    (hunforged : Unforged P w o) : ∃ message, w.cskMessage P = some message ∧
      o.device = pairedDevice S.devices o.awaiting.clientEd25519Key o.csk.bytes
        o.awaiting.clientDeviceName message.username S.clientIo := by
  obtain ⟨bytes, message, csk, hbytes, hdecode, hdecrypt, hdevice⟩ := completePairing_eq_ok h.device
  have hmessage : w.cskMessage P = some message := by
    simp [Wire.cskMessage, hbytes, hdecode, Except.toOption]
  have hcsk : csk = o.csk.bytes := by
    rw [hunforged message csk hmessage hdecrypt, (h.decrypt_message hpsk).1] at hdecrypt
    exact (Except.ok.inj hdecrypt).symm
  exact ⟨message, hmessage, hcsk ▸ hdevice⟩

end Ran

namespace PairingRunSample

end PairingRunSample

end TapAuth.System
