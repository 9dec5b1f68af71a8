import TapAuth.System.RequestFreshness

/-!
# Clocks that differ

The phone's replay check takes a timestamp that is up to sixty seconds off, in either
direction.  Its identifier check looks back only: it knows its own minute and the one before.
So the two agree on a request whose desktop is behind, or ahead in the same minute; a desktop
whose minute has not begun on the phone is turned away by the identifier, however small the
difference (`filters_of_skew`).
-/

namespace TapAuth.System

open Shared Daemon Phone

variable {P : Primitives}

/-- No paired desktop had the identifier of the packet, in a minute the phone looks at, other
than the minute the packet was built in. -/
def IdentifierOnly (P : Primitives) (phone : PhoneView) (now : Int64) (k : TransportKind)
    (packet : EncryptedPacket) (minute : Nat) : Prop :=
  ∀ device ∈ phone.stored, ∀ second ∈ instants now k,
    generateTemporalId P device.csk second = some packet.temporalIdentifier →
      (minuteOf second).toNat = minute

/-- The phone looks at no minute that is still to come. -/
theorem minuteOf_ne_of_future {now minute : Nat} {k : TransportKind} {second : Int64}
    (hnow : now < 2 ^ 63) (hfuture : now / 60000 < minute) (hsmall : minute < 2 ^ 57)
    (h : second ∈ instants (Int64.ofNat now) k) : (minuteOf second).toNat ≠ minute := by
  have hdiv := secondOf_div now k
  rw [instants_ofNat hnow, List.mem_cons, List.mem_singleton] at h
  obtain rfl | rfl := h
  · rw [toNat_minuteOf, Int.emod_eq_of_lt (by omega) (by omega)]
    omega
  · rw [toNat_minuteOf]
    by_cases hfirst : now / 60000 = 0
    · -- the minute before the first is a number far off
      rw [← Int.add_emod_right, Int.emod_eq_of_lt (by omega) (by omega)]
      omega
    · rw [Int.emod_eq_of_lt (by omega) (by omega)]
      omega

/-- **Both filters, for clocks that are at most sixty seconds apart.**  The replay check takes
the request; the identifier check does unless the desktop is in a later minute. -/
theorem filters_of_skew {S : AuthSession} {running : Session} {phone : PhoneView} {wall now : Nat}
    (hbegin : beginAuthenticate P S = .running running)
    (hwall : S.env.unixSeconds = some (UInt64.ofNat (wall / 1000)))
    (hphone : phone.Awaits P running) (hnow : now < 2 ^ 63)
    (hskew : now / 1000 ≤ wall / 1000 + 60 ∧ wall / 1000 ≤ now / 1000 + 60)
    (k : TransportKind) :
    (∃ message parsed, decryptEncryptedPacket P running.params.csk.bytes
        (P.packetFormat.encode running.packet) = some message ∧
      parseAuthRequest P message = some parsed ∧
      (isReplay (Int64.ofNat now / 1000) (hexEncode parsed.challenge)
        parsed.timestampUnixSeconds phone.seen).1 = false) ∧
    (wall / 60000 ≤ now / 60000 →
      phone.Accepts P running.params.csk.bytes (Int64.ofNat now) k running.packet) ∧
    (now / 60000 < wall / 60000 →
      IdentifierOnly P phone (Int64.ofNat now) k running.packet (wall / 60000) →
      phone.knows P (Int64.ofNat now) k running.packet.temporalIdentifier = false) := by
  have hfresh := (fresh_iff hbegin hwall hphone hnow (by omega)).mpr hskew
  refine ⟨hfresh, fun hminute ↦ ⟨?_, hfresh⟩, fun hfuture honly ↦ ?_⟩
  · obtain ⟨identifier, hid, hbytes⟩ := identifier_of_begin hbegin hwall
    rw [hbytes]
    exact knows_of_minute hphone hnow (by omega) hid k
  · rw [Bool.eq_false_iff]
    intro hknows
    obtain ⟨device, hmem, second, hsecond, hid⟩ := hphone.knows_iff.mp hknows
    exact minuteOf_ne_of_future hnow hfuture (by omega) hsecond
      (honly device hmem second hsecond hid)

open FreshnessSample

/-- The desktop is a millisecond ahead, in the next minute: the phone does not know the
identifier, on either transport. -/
theorem ahead_refused :
    phone.Awaits Sample.primitives running ∧
      ∀ k, ¬ phone.Accepts Sample.primitives
        running.params.csk.bytes (Int64.ofNat 59999) k
        running.packet := by
  refine ⟨phone_awaits, fun k h ↦ ?_⟩
  have hknows := h.knows
  revert hknows
  cases k <;> decide +kernel

/-- A minute behind, the desktop is still heard; a millisecond ahead it is not. -/
theorem filters_of_skew_sample :
    phone.Accepts Sample.primitives running.params.csk.bytes
        (Int64.ofNat 120000) .udp running.packet ∧
      phone.knows Sample.primitives (Int64.ofNat 59999) .udp
        running.packet.temporalIdentifier = false := by
  have honly : IdentifierOnly Sample.primitives phone (Int64.ofNat 59999) .udp
      running.packet (60000 / 60000) := by
    intro device hdevice
    rw [List.mem_singleton.mp hdevice]
    refine List.forall_mem_cons.mpr ⟨?_, List.forall_mem_singleton.mpr ?_⟩
    · decide +kernel
    · decide +kernel
  have hwall : request.env.unixSeconds = some (UInt64.ofNat (60000 / 1000)) := rfl
  exact ⟨(filters_of_skew begin_request hwall phone_awaits
      (by decide) (by decide) .udp).2.1 (by decide),
    (filters_of_skew begin_request hwall phone_awaits (by decide)
      (by decide) .udp).2.2 (by decide) honly⟩

end TapAuth.System
