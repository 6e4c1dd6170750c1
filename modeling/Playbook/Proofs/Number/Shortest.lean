import Playbook.Proofs.Number.Decimal

/-!
# Playbook.Proofs.Number.Shortest

The decimal that is written for a number is read as this number
(`toFloat_shortest`).  A neighbour on a grid was read back before it was taken, and
zeros moved into the exponent do not change its value; the exact value, written
where no grid has such a neighbour, is where the number lies.
-/

namespace Playbook.Number

open Float.Model Float.Model.UnpackedFloat

namespace Decimal

/-- Zeros at the end are put into the exponent. -/
theorem value_strip (fuel : Nat) (d : Decimal) : (d.strip fuel).value = d.value := by
  induction fuel generalizing d with
  | zero => rfl
  | succ fuel ih =>
      rw [strip]
      split
      · next h =>
        obtain ⟨-, hmod⟩ := h
        have hcoefficient : (d.coefficient : ℚ) = 10 * (d.coefficient / 10 : ℕ) := by
          exact_mod_cast (Nat.mul_div_cancel' (Nat.dvd_of_mod_eq_zero hmod)).symm
        rw [ih, value, value, zpow_add_one₀ (by decide), hcoefficient]
        ring
      · rfl

/-- A decimal that is read as a number other than zero has digits. -/
theorem coefficient_pos {d : Decimal} (h : place (parts d.toFloat) ≠ 0) : 0 < d.coefficient := by
  refine Nat.pos_of_ne_zero fun hzero => h ?_
  obtain ⟨-, hplace⟩ := d.place_toFloat
  rw [hplace, value, hzero, Nat.cast_zero, zero_mul, cut_nearest_of_lt le_rfl (by positivity)]

end Decimal

namespace Exact

/-- A candidate is read back. -/
theorem toFloat_of_candidate {v : Exact} {tie : Tie} {x : Float} {g : ℤ} {d : Decimal}
    (h : v.candidate tie x g = some d) : d.toFloat = x := by
  simp only [candidate] at h
  split_ifs at h
  all_goals
    obtain rfl := Option.some.inj h
    exact Float.toBits_inj.mp ‹_›

/-- The exact value as a decimal: each half is five tenths. -/
theorem value_exactDecimal (v : Exact) :
    Decimal.value ⟨v.numerator * Nat.pow 5 (-v.exponent).toNat, min 0 v.exponent⟩ =
      v.mantissa * 2 ^ v.exponent := by
  obtain ⟨negative, m, e⟩ := v
  rw [Decimal.value, numerator, Nat.shiftLeft_eq]
  dsimp only
  rw [Nat.cast_mul, Nat.cast_mul, Nat.pow_eq, Nat.cast_pow, Nat.cast_pow]
  obtain ⟨k, rfl | rfl⟩ := e.eq_nat_or_neg
  · rw [min_eq_left (by omega), Int.toNat_natCast, Int.toNat_neg_natCast, zpow_natCast, zpow_zero,
      pow_zero, mul_one, mul_one]
    rfl
  · have hten : (10 : ℚ) ^ (-k : ℤ) = (5 ^ k)⁻¹ * 2 ^ (-k : ℤ) := by
      rw [zpow_neg, zpow_neg, zpow_natCast, zpow_natCast, ← mul_inv, ← mul_pow]
      norm_num
    rw [min_eq_right (by omega), Int.toNat_neg_natCast, neg_neg, Int.toNat_natCast, pow_zero,
      mul_one, hten]
    push_cast
    field_simp

end Exact

/-- **The shortest decimal of a number is read as this number.** -/
theorem toFloat_shortest (tie : Tie) {v : Exact} {x : Float} (hx : x.isFinite = true)
    (hplace : place (parts x) = v.mantissa * 2 ^ v.exponent) (hzero : place (parts x) ≠ 0) :
    (shortest tie v x).toFloat = x := by
  unfold shortest
  dsimp only
  split
  · next d hd =>
    obtain ⟨n, -, hcandidate⟩ := List.exists_of_findSome?_eq_some hd
    rw [Decimal.toFloat_eq_iff hx hzero, Decimal.value_strip, ← Decimal.toFloat_eq_iff hx hzero]
    exact Exact.toFloat_of_candidate hcandidate
  · rw [Decimal.toFloat_eq_iff hx hzero, v.value_exactDecimal, ← hplace, cut_nearest_place hx]

end Playbook.Number
