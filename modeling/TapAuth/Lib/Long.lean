import Mathlib.Algebra.Order.Group.Int
import Mathlib.Algebra.Order.Group.Abs

/-!
# Windows around a 64-bit instant

Facts about signed 64-bit arithmetic with wrap-around, in terms of the integers.  A
difference wraps and `abs` leaves the least value as it is, so that `|n - t| ≤ w` can
hold of an `n` that is far from `t`.  Among instants from a range that is not too
large the window is still no wider than it should be
(`Int64.toInt_le_add_of_abs_sub_le`).
-/

namespace Int64

theorem toInt_abs_eq (x : Int64) :
    x.abs.toInt = if x.toInt = -2 ^ 63 then x.toInt else |x.toInt| := by
  have hle := x.le_toInt
  have hlt := x.toInt_lt
  have habs : x.abs.toInt = x.toBitVec.abs.toInt := rfl
  have hx : x.toBitVec.toInt = x.toInt := rfl
  rw [habs, BitVec.abs_eq, BitVec.msb_eq_toInt]
  by_cases hneg : x.toInt < 0
  · simp only [hx, hneg, decide_true, if_true, BitVec.toInt_neg, Int.bmod_def]
    rw [abs_of_neg hneg]
    split_ifs <;> omega
  · rw [abs_of_nonneg (by omega)]
    simp [hx, hneg]

/-- A value whose absolute value is small is small, or is the least value. -/
theorem toInt_of_abs_le {x : Int64} {w : Int} (h : x.abs.toInt ≤ w) :
    x.toInt = -2 ^ 63 ∨ -w ≤ x.toInt ∧ x.toInt ≤ w := by
  rw [toInt_abs_eq] at h
  split_ifs at h with hmin
  · exact .inl hmin
  · exact .inr (abs_le.mp h)

/-- Two instants of a range of at most `b` on both sides of zero that are within `w`
of `t` are within `2 * w` of each other. -/
theorem toInt_le_add_of_abs_sub_le {n m t : Int64} {b w : Int} (hn : -b ≤ n.toInt ∧ n.toInt ≤ b)
    (hm : -b ≤ m.toInt ∧ m.toInt ≤ b) (hw : 0 ≤ w) (hb : 2 * b + w < 2 ^ 63)
    (hnt : (n - t).abs.toInt ≤ w) (hmt : (m - t).abs.toInt ≤ w) :
    m.toInt ≤ n.toInt + 2 * w := by
  have hn' := toInt_of_abs_le hnt
  have hm' := toInt_of_abs_le hmt
  rw [toInt_sub] at hn' hm'
  -- each difference is the wrapped one up to a multiple of `2 ^ 64`
  have hn'' := Int.bmod_add_bdiv (n.toInt - t.toInt) (2 ^ 64)
  have hm'' := Int.bmod_add_bdiv (m.toInt - t.toInt) (2 ^ 64)
  rcases lt_trichotomy ((n.toInt - t.toInt).bdiv (2 ^ 64)) ((m.toInt - t.toInt).bdiv (2 ^ 64))
    with hlt | heq | hgt <;> omega

/-- Division by a positive number is monotone. -/
theorem toInt_div_le_toInt_div {n m d : Int64} (hd : 0 < d.toInt) (h : n.toInt ≤ m.toInt) :
    (n / d).toInt ≤ (m / d).toInt := by
  have hne : d ≠ -1 := by
    rintro rfl
    exact absurd hd (by decide)
  rw [toInt_div_of_ne_right n d hne, toInt_div_of_ne_right m d hne]
  exact Int.tdiv_le_tdiv hd h

end Int64
