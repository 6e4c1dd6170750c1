import Playbook.Proofs.Number.Order

/-!
# Playbook.Proofs.Number.Error

How far a rounded result is from the exact one, and when it is finite.

A result is finite exactly if the exact one is below `overflow`, half a unit above
the largest number (`isFinite_iff_lt_overflow`).  And unless it is very small, it
differs from the exact one by a factor of at most `2 ^ 53 / (2 ^ 53 - 1)`
(`within_nearest`); `Within k` counts such factors through sums, products and
quotients.
-/

namespace Playbook.Number

open Float.Model Float.Model.UnpackedFloat

theorem nearest_nonneg {q : ℚ} (hq : 0 ≤ q) : 0 ≤ nearest q :=
  (nearest_of_nonneg hq).symm ▸ nearestMagnitude_nonneg hq

/-! ## overflow -/

/-- The least magnitude that is rounded to infinity. -/
def overflow : ℚ := (2 ^ 53 - 1 / 2) * 2 ^ (971 : ℤ)

theorem overflow_lt_limit : overflow < limit := by
  rw [overflow, limit_eq]
  gcongr
  norm_num

/-- The bound of overflow is the middle between the largest number and the next power of two. -/
theorem two_zpow_le_overflow : 2 ^ (1023 : ℤ) ≤ overflow := by
  have h : (2 : ℚ) ^ (1023 : ℤ) = 2 ^ 52 * 2 ^ (971 : ℤ) := by
    rw [← zpow_natCast, ← zpow_add₀ (by decide)]
    rfl
  rw [overflow, h]
  gcongr
  norm_num

theorem overflow_pos : 0 < overflow := lt_of_lt_of_le (by positivity) two_zpow_le_overflow

/-- The last place of the bound is that of the largest number. -/
theorem lastPlace_overflow : lastPlace overflow = 971 := by
  have hlow : (2 : ℕ) ^ (1023 : ℤ) ≤ overflow := by exact_mod_cast two_zpow_le_overflow
  have hhigh : overflow < (2 : ℕ) ^ (1024 : ℤ) := by
    rw [Nat.cast_ofNat]
    exact overflow_lt_limit
  have hlow' := (Int.zpow_le_iff_le_log (by decide : 1 < 2) overflow_pos).mp hlow
  have hhigh' := (Int.lt_zpow_iff_log_lt (by decide : 1 < 2) overflow_pos).mp hhigh
  unfold lastPlace
  omega

/-- A tie goes to the power of two, which is even; so the bound itself overflows. -/
theorem nearest_overflow : nearest overflow = limit := by
  have hquot : overflow / 2 ^ (971 : ℤ) = 2 ^ 53 - 1 / 2 := by
    rw [overflow, mul_div_cancel_right₀ _ (by positivity)]
  have hround : halfEven (2 ^ 53 - 1 / 2) = 2 ^ 53 := by
    norm_num [halfEven, Int.fract]
  rw [nearest_of_nonneg overflow_pos.le, nearestMagnitude, lastPlace_overflow, hquot, hround,
    limit_eq, Int.cast_pow, Int.cast_ofNat]

/-- Below the overflow, the whole number of units is at most the largest one. -/
theorem halfEven_lt {q : ℚ} {n : ℤ} (h : q < n - 1 / 2) : halfEven q ≤ n - 1 := by
  have hround := floor_le_halfEven q
  have hfloor : ⌊q⌋ ≤ n - 1 := by
    have : ⌊q⌋ < n := Int.floor_lt.mpr (by linarith)
    omega
  obtain hlt | heq := hfloor.lt_or_eq
  · omega
  · have hfract : Int.fract q < 1 / 2 := by
      have hcast : (⌊q⌋ : ℚ) = n - 1 := by exact_mod_cast heq
      rw [Int.fract, hcast]
      linarith
    rw [halfEven, if_pos hfract, heq]

/-- What is below the overflow is rounded to a number below the limit. -/
theorem nearest_lt_limit_iff {q : ℚ} (hq : 0 ≤ q) : nearest q < limit ↔ q < overflow := by
  constructor
  · intro h
    by_contra hle
    exact absurd h (not_lt.mpr (nearest_overflow ▸ nearest_mono (not_lt.mp hle)))
  · intro h
    rw [nearest_of_nonneg hq, nearestMagnitude]
    obtain rfl | hpos := hq.eq_or_lt
    · exact (nearestMagnitude_zero.trans_lt limit_pos)
    obtain hlast | hlast := (lastPlace_overflow ▸ lastPlace_mono hpos h.le).lt_or_eq
    · calc (halfEven (q / 2 ^ lastPlace q) * 2 ^ lastPlace q : ℚ)
          ≤ 2 ^ 53 * 2 ^ (970 : ℤ) := by
            gcongr
            · exact_mod_cast halfEven_div_lastPlace_le q
            · decide
            · omega
        _ < limit := by
            rw [limit_eq]
            gcongr
            · decide
            · decide
    · have hunits : q / 2 ^ (971 : ℤ) < ((2 ^ 53 : ℤ) : ℚ) - 1 / 2 := by
        rw [div_lt_iff₀ (by positivity), Int.cast_pow, Int.cast_ofNat]
        exact h
      have hround := halfEven_lt hunits
      rw [hlast, limit_eq]
      gcongr
      exact_mod_cast (by omega : halfEven (q / 2 ^ (971 : ℤ)) < 2 ^ 53)

section numbers

variable {x y : Float}

/-- **Finite results**: a rounded result is finite exactly if the exact one is below the
overflow. -/
theorem isFinite_iff_lt_overflow {q : ℚ} (hne : parts x ≠ .notANumber)
    (hplace : place (parts x) = cut (nearest q)) (hq : 0 ≤ q) :
    x.isFinite = true ↔ q < overflow := by
  have hnearest := nearest_nonneg hq
  have hcut : cut (nearest q) < limit ↔ nearest q < limit := by
    rw [cut, max_lt_iff, min_lt_iff, lt_self_iff_false, or_false]
    exact and_iff_right (by linarith [limit_pos])
  rw [← nearest_lt_limit_iff hq, ← hcut, ← hplace]
  constructor
  · intro h
    exact lt_of_abs_lt (abs_place_lt h)
  · intro h
    refine isFinite_of_place hne ?_
    rwa [abs_of_nonneg (hplace ▸ cut_nearest_nonneg hq)]

/-- A product overflows exactly if the exact product reaches the bound. -/
theorem isFinite_mul_iff (hx : x.isFinite = true) (hx0 : 0.0 ≤ x) (hy : y.isFinite = true)
    (hy0 : 0.0 ≤ y) : (x * y).isFinite = true ↔ place (parts x) * place (parts y) < overflow := by
  obtain ⟨hne, hplace⟩ := place_mul hx hy
  exact isFinite_iff_lt_overflow hne hplace
    (mul_nonneg (nonneg_iff.mp hx0).2 (nonneg_iff.mp hy0).2)

/-- Only a finite dividend has a finite quotient. -/
theorem isFinite_div_iff (hx : 0.0 ≤ x) (hy : 0.0 < y) :
    (x / y).isFinite = true ↔
      x.isFinite = true ∧ place (parts x) < overflow * place (parts y) := by
  obtain ⟨-, hx0⟩ := nonneg_iff.mp hx
  obtain ⟨-, hy0⟩ := pos_iff.mp hy
  by_cases hyfin : y.isFinite = true
  · by_cases hxfin : x.isFinite = true
    · obtain ⟨hne, hplace⟩ := place_div hxfin hyfin hy0.ne'
      rw [isFinite_iff_lt_overflow hne hplace (div_nonneg hx0 hy0.le), div_lt_iff₀ hy0,
        and_iff_right hxfin]
    · have hquot := (rounds_div hy hyfin).infinite (parts_eq_infinity hx hxfin)
      rw [isFinite_eq, hquot]
      exact iff_of_false Bool.false_ne_true fun h => hxfin h.1
  · have hyparts := parts_eq_infinity (le_of_lt_number hy) hyfin
    by_cases hxfin : x.isFinite = true
    · -- a quotient by infinity is zero
      have hquot : ∃ s, parts (x / y) = .zero s := by
        rw [isFinite_eq] at hxfin
        rw [div_eq, hyparts]
        cases hparts : parts x with
        | notANumber => exact (by rw [hparts] at hxfin; contradiction)
        | infinity s => exact (by rw [hparts] at hxfin; contradiction)
        | _ => exact ⟨_, parts_ofParts (u := .zero _) trivial trivial⟩
      obtain ⟨s, hquot⟩ := hquot
      rw [isFinite_eq, hquot, hyparts, place, apply_positive, Int.cast_one, one_mul]
      refine iff_of_true rfl ⟨hxfin, ?_⟩
      have hone : 1 ≤ overflow := le_trans (one_le_zpow₀ (by decide) (by decide))
        two_zpow_le_overflow
      calc place (parts x) < limit := lt_of_abs_lt (abs_place_lt hxfin)
        _ ≤ overflow * limit := le_mul_of_one_le_left limit_pos.le hone
    · have hquot : parts (x / y) = .notANumber := by
        rw [div_eq, parts_eq_infinity hx hxfin, hyparts]
        exact parts_ofParts (u := .notANumber) trivial trivial
      rw [isFinite_eq, hquot]
      exact iff_of_false Bool.false_ne_true fun h => hxfin h.1

end numbers

/-- A natural number is read like a decimal without an exponent. -/
theorem isFinite_ofNat {n : Nat} (h : (n : ℚ) < overflow) : (Float.ofNat n).isFinite = true := by
  have hvalue : (⟨n, 0⟩ : Decimal).value = n := by
    rw [Decimal.value, zpow_zero, mul_one]
  obtain ⟨hne, hplace⟩ := Decimal.place_toFloat ⟨n, 0⟩
  rw [hvalue] at hplace
  exact (isFinite_iff_lt_overflow hne hplace n.cast_nonneg).mpr h

/-- An integer below the bound is a finite number. -/
theorem isFinite_ofInt {n : ℤ} (h : (n.natAbs : ℚ) < overflow) :
    (Float.ofInt n).isFinite = true := by
  cases n with
  | ofNat n => exact isFinite_ofNat h
  | negSucc n => exact (isFinite_neg _).trans (isFinite_ofNat h)

/-! ## relative errors -/

/-- The most that rounding once can change a number that is not very small, as a factor. -/
def factor : ℚ := 2 ^ 53 / (2 ^ 53 - 1)

theorem one_lt_factor : 1 < factor := by norm_num [factor]

theorem factor_pos : 0 < factor := zero_lt_one.trans one_lt_factor

/-- The least number of full width. -/
def leastNormal : ℚ := 2 ^ (-1022 : ℤ)

theorem leastNormal_pos : 0 < leastNormal := zpow_pos (by decide) _

/-- One is at most `k` factors larger than the other. -/
def Within (k : ℕ) (p q : ℚ) : Prop := p ≤ q * factor ^ k ∧ q ≤ p * factor ^ k

namespace Within

variable {j k : ℕ} {p q r p' q' : ℚ}

/-- Errors of one step and the next one add up. -/
theorem trans (h : Within j p q) (h' : Within k q r) : Within (j + k) p r := by
  have hpos : ∀ n, 0 < factor ^ n := fun n => pow_pos factor_pos n
  constructor
  · calc p ≤ q * factor ^ j := h.1
      _ ≤ r * factor ^ k * factor ^ j := mul_le_mul_of_nonneg_right h'.1 (hpos j).le
      _ = r * factor ^ (j + k) := by rw [mul_assoc, ← pow_add, add_comm]
  · calc r ≤ q * factor ^ k := h'.2
      _ ≤ p * factor ^ j * factor ^ k := mul_le_mul_of_nonneg_right h.2 (hpos k).le
      _ = p * factor ^ (j + k) := by rw [mul_assoc, ← pow_add]

/-- A factor keeps a relative error as it is. -/
theorem mul_right (h : Within k p q) (hr : 0 ≤ r) : Within k (p * r) (q * r) := by
  constructor
  · rw [mul_right_comm]
    exact mul_le_mul_of_nonneg_right h.1 hr
  · rw [mul_right_comm]
    exact mul_le_mul_of_nonneg_right h.2 hr

theorem div_right (h : Within k p q) (hr : 0 ≤ r) : Within k (p / r) (q / r) := by
  rw [div_eq_mul_inv, div_eq_mul_inv]
  exact h.mul_right (inv_nonneg.mpr hr)

end Within

/-- Rounding to a whole number changes a half at most. -/
theorem abs_halfEven_sub_le (q : ℚ) : |halfEven q - q| ≤ 1 / 2 := by
  have hq := Int.self_sub_floor q
  have hnonneg := Int.fract_nonneg q
  have hlt := Int.fract_lt_one q
  unfold halfEven
  rw [abs_le]
  split_ifs with hdown hup
  · constructor <;> linarith
  · push_cast
    constructor <;> linarith
  · -- a half goes to one of its neighbours
    have hparity : (⌊q⌋ % 2 : ℤ) = 0 ∨ (⌊q⌋ % 2 : ℤ) = 1 := Int.emod_two_eq_zero_or_one _
    obtain h | h := hparity <;> rw [h] <;> push_cast <;> constructor <;> linarith

/-- A number of full width is rounded by one factor at most. -/
theorem within_halfEven {q : ℚ} (hq : 2 ^ 52 ≤ q) : Within 1 q (halfEven q) := by
  obtain ⟨hlow, hhigh⟩ := abs_le.mp (abs_halfEven_sub_le q)
  have hpos : (0 : ℚ) < 2 ^ 53 - 1 := by norm_num
  constructor
  · rw [pow_one, factor, ← mul_div_assoc, le_div_iff₀ hpos]
    linarith
  · rw [pow_one, factor, ← mul_div_assoc, le_div_iff₀ hpos]
    linarith

/-- **One rounding** changes a number by one factor, unless it is very small. -/
theorem within_nearest {q : ℚ} (hq : leastNormal ≤ q) : Within 1 q (nearest q) := by
  have hpos : 0 < q := leastNormal_pos.trans_le hq
  have hwide : 2 ^ 52 ≤ q / 2 ^ lastPlace q := by
    by_cases hlast : lastPlace q = -1074
    · rw [hlast, le_div_iff₀ (by positivity)]
      calc (2 : ℚ) ^ 52 * 2 ^ (-1074 : ℤ) = leastNormal := by
            rw [leastNormal, ← zpow_natCast, ← zpow_add₀ (by decide)]
            rfl
        _ ≤ q := hq
    · exact le_div_lastPlace hpos hlast
  have hscale : (0 : ℚ) < 2 ^ lastPlace q := by positivity
  have h := (within_halfEven hwide).mul_right hscale.le
  rwa [div_mul_cancel₀ _ hscale.ne', ← nearestMagnitude, ← nearest_of_nonneg hpos.le] at h

/-- A result is at most one factor too large, infinite or not. -/
theorem cut_nearest_le {q : ℚ} (hq : leastNormal ≤ q) : cut (nearest q) ≤ q * factor := by
  have hpos : 0 ≤ q := leastNormal_pos.le.trans hq
  calc cut (nearest q) ≤ nearest q := by
        have hnearest := nearest_nonneg hpos
        exact max_le (by linarith [limit_pos]) (min_le_left _ _)
    _ ≤ q * factor := by
        have h := (within_nearest hq).2
        rwa [pow_one] at h

/-- A finite result is within one factor. -/
theorem within_of_isFinite {x : Float} {q : ℚ} (hx : x.isFinite = true)
    (hplace : place (parts x) = cut (nearest q)) (hq : leastNormal ≤ q) :
    Within 1 q (place (parts x)) := by
  have hpos : 0 ≤ q := leastNormal_pos.le.trans hq
  have hlt := (nearest_lt_limit_iff hpos).mpr
    ((isFinite_iff_lt_overflow (isFinite_ne hx) hplace hpos).mp hx)
  have hnearest := nearest_nonneg hpos
  rw [hplace, cut_of_abs_le (by rw [abs_of_nonneg hnearest]; exact hlt.le)]
  exact within_nearest hq

/-- The least number with a full mantissa is exact. -/
theorem cut_nearest_leastNormal : cut (nearest leastNormal) = leastNormal := by
  have h := cut_nearest_mul_zpow (n := 1) (e := -1022) (by decide) (by decide) (by decide)
  rwa [Nat.cast_one, one_mul] at h

/-- So is a finite result that is not very small itself. -/
theorem within_of_leastNormal_lt {x : Float} {q : ℚ} (hx : x.isFinite = true)
    (hplace : place (parts x) = cut (nearest q)) (h : leastNormal < place (parts x)) :
    Within 1 q (place (parts x)) := by
  refine within_of_isFinite hx hplace ?_
  by_contra hlt
  have hle := cut_nearest_mono (not_le.mp hlt).le
  rw [cut_nearest_leastNormal, ← hplace] at hle
  exact absurd h (not_lt.mpr hle)

end Playbook.Number
