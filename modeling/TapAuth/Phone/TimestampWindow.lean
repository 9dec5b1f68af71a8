import TapAuth.Phone.ReplayCache

/-!
# The window of the timestamp check

The timestamp of a request is an unsigned field that the phone reads as a `Long`, and
`isReplay` takes the absolute value of a difference that wraps.  Under a clock between 0
and `2 ^ 40` seconds the difference is the exact one or `2 ^ 64` less, and the check
passes what is within the window and one more timestamp: the one `2 ^ 63` seconds away,
whose difference is the least `Long`, which `abs` leaves negative.

As an unsigned number the field is another instant from `2 ^ 63` on.  Such a timestamp
passes only as a negative one, in the first minute of the epoch.
-/

namespace TapAuth.Phone

open Shared

/-- The exact distance of two instants. -/
def distance (now timestamp : Int) : Int := |now - timestamp|

theorem distance_le_iff {now timestamp w : Int} :
    distance now timestamp ≤ w ↔ -w ≤ now - timestamp ∧ now - timestamp ≤ w := abs_le

section

variable {now : Int64} (hnow : 0 ≤ now.toInt ∧ now.toInt ≤ 2 ^ 40)

include hnow

/-- The difference is exact unless it leaves the range of `Long` at the top. -/
theorem toInt_now_sub (timestamp : Int64) :
    (now - timestamp).toInt = now.toInt - timestamp.toInt ∧
        now.toInt - timestamp.toInt < 2 ^ 63 ∨
      (now - timestamp).toInt = now.toInt - timestamp.toInt - 2 ^ 64 ∧
        2 ^ 63 ≤ now.toInt - timestamp.toInt := by
  have hle := timestamp.le_toInt
  have hlt := timestamp.toInt_lt
  rw [Int64.toInt_sub, Int.bmod_def]
  split_ifs <;> omega

/-- What passes the check of the timestamp. -/
theorem stale_eq_false_iff (timestamp : Int64) :
    stale now timestamp = false ↔
      distance now.toInt timestamp.toInt ≤ 60 ∨ timestamp.toInt = now.toInt - 2 ^ 63 := by
  have hle := timestamp.le_toInt
  have hlt := timestamp.toInt_lt
  have hwindow : timestampValiditySeconds.toInt = 60 := rfl
  rw [stale, decide_eq_false_iff_not, gt_iff_lt, Int64.lt_iff_toInt_lt, hwindow, not_lt,
    Int64.toInt_abs_eq, distance_le_iff]
  rcases toInt_now_sub hnow timestamp with ⟨hsub, hfits⟩ | ⟨hsub, hwraps⟩
  · rw [hsub, if_neg (by omega), abs_le]
    omega
  · rw [hsub]
    split_ifs with hleast
    · omega
    · rw [abs_le]
      omega

end

/-- The number in the field, if the phone reads `timestamp`. -/
theorem toNat_eq_of_toInt64 (timestamp : UInt64) :
    (timestamp.toNat : Int) = timestamp.toInt64.toInt ∨
      (timestamp.toNat : Int) = timestamp.toInt64.toInt + 2 ^ 64 ∧ timestamp.toInt64.toInt < 0 := by
  have hlt : timestamp.toNat < 2 ^ 64 := timestamp.toNat_lt
  have hread : timestamp.toInt64.toInt = (timestamp.toNat : Int).bmod (2 ^ 64) :=
    BitVec.toInt_eq_toNat_bmod timestamp.toBitVec
  rw [hread, Int.bmod_def]
  split_ifs <;> omega

theorem ReplayCall.isReplay_eq_false_iff (call : ReplayCall) (cache : HexMap Int64) :
    (call.isReplay cache).1 = false ↔
      stale call.nowSeconds call.timestampUnixSeconds = false ∧ cache call.key = none := by
  obtain ⟨hrefused, heq⟩ | ⟨hstale, hnew, heq⟩ := call.isReplay_cases cache
  · rw [heq]
    simp only [Bool.true_eq_false, false_iff, not_and]
    intro hstale hnew
    simp [hstale, hnew] at hrefused
  · simp [heq, hstale, hnew]

/-- **The window.**  That a request passes only within 60 seconds of the clock is so exactly if
its challenge is known, or its timestamp is not the one `2 ^ 63` seconds away.  For the number
in the field it must also not be one that the phone reads as a time before 1970 and within the
window. -/
theorem distance_le_of_isReplay_iff (call : ReplayCall) (cache : HexMap Int64)
    (timestamp : UInt64) (hread : call.timestampUnixSeconds = timestamp.toInt64)
    (hclock : 0 ≤ call.nowSeconds.toInt ∧ call.nowSeconds.toInt ≤ 2 ^ 40) :
    (((call.isReplay cache).1 = false →
        distance call.nowSeconds.toInt timestamp.toInt64.toInt ≤ 60) ↔
      (cache call.key).isSome ∨ (timestamp.toNat : Int) ≠ call.nowSeconds.toInt + 2 ^ 63) ∧
    (((call.isReplay cache).1 = false → distance call.nowSeconds.toInt timestamp.toNat ≤ 60) ↔
      (cache call.key).isSome ∨ (timestamp.toNat : Int) ≠ call.nowSeconds.toInt + 2 ^ 63 ∧
        (timestamp.toNat : Int) < call.nowSeconds.toInt + 2 ^ 64 - 60) := by
  have hvalue := toNat_eq_of_toInt64 timestamp
  have hle := timestamp.toInt64.le_toInt
  have hlt := timestamp.toInt64.toInt_lt
  rw [call.isReplay_eq_false_iff cache, hread, stale_eq_false_iff hclock]
  cases hcache : cache call.key with
  | some expiryTime => simp
  | none =>
    simp only [distance_le_iff, Option.isSome_none, Bool.false_eq_true, false_or, and_true]
    omega

/-- A request of half a minute ago. -/
theorem distance_le_of_isReplay_recent :
    ((⟨[7], 1700000000, 1700000030, 1700000030⟩ : ReplayCall).isReplay fun _ ↦ none).1 = false ∧
      distance 1700000030 1700000000 ≤ 60 :=
  have hiff := (distance_le_of_isReplay_iff ⟨[7], 1700000000, 1700000030, 1700000030⟩
    (fun _ ↦ none) 1700000000 rfl (by decide)).1
  ⟨by decide +kernel, hiff.mpr (.inr (by decide)) (by decide +kernel)⟩

/-- The timestamp `2 ^ 63` seconds ahead of the clock passes, whichever way it is read. -/
theorem isReplay_eq_false_far :
    ∃ (call : ReplayCall) (timestamp : UInt64),
      call.timestampUnixSeconds = timestamp.toInt64 ∧
      0 ≤ call.nowSeconds.toInt ∧ call.nowSeconds.toInt ≤ 2 ^ 40 ∧
      (call.isReplay fun _ ↦ none).1 = false ∧
      distance call.nowSeconds.toInt timestamp.toInt64.toInt = 2 ^ 63 ∧
      distance call.nowSeconds.toInt timestamp.toNat = 2 ^ 63 :=
  ⟨⟨[7], 1700000000 - 2 ^ 63, 1700000000, 1700000000⟩, 1700000000 + 2 ^ 63,
    by decide +kernel, by decide, by decide, by decide +kernel, by decide +kernel,
    by decide +kernel⟩

end TapAuth.Phone
