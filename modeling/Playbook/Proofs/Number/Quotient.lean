import Playbook.Proofs.Number.Rounding

/-!
# Playbook.Proofs.Number.Quotient

Quotients of numbers are rounded, like sums and products: the quotient of two
numbers is the number nearest to the quotient of the places, cut at the limit
(`place_div`).

The operation divides mantissas of natural numbers and keeps what the remainder
tells about the fraction (`tells_fraction`).
-/

namespace Playbook.Number

open Float.Model Float.Model.UnpackedFloat

/-! ## remainders -/

/-- The remainder of a division tells on which side of a half the fraction lies. -/
theorem tells_fraction (n : Nat) {d : Nat} (hd : 0 < d) :
    Tells (.ofMantissaAndAccuracy (n / d) (accuracyOfFraction (n % d) d)) (n / d) := by
  have hd' : (0 : ℚ) < d := Nat.cast_pos.mpr hd
  have hdiv : (n : ℚ) / d = (n / d : ℕ) + (n % d : ℕ) / d := by
    have : (n : ℚ) = d * (n / d : ℕ) + (n % d : ℕ) := by exact_mod_cast (Nat.div_add_mod n d).symm
    field_simp
    linarith
  have hlt : n % d < d := Nat.mod_lt n hd
  rw [hdiv]
  generalize n / d = m
  generalize n % d = r at hlt
  unfold accuracyOfFraction
  split
  · next hr => simp [Tells, ExtendedMantissa.ofMantissaAndAccuracy, hr]
  · next hr =>
    have hr' : (0 : ℚ) < r / d := div_pos (Nat.cast_pos.mpr (Nat.pos_of_ne_zero hr)) hd'
    obtain hcmp | hcmp | hcmp := Nat.lt_trichotomy (2 * r) d
    · have hhalf : (r : ℚ) / d < 1 / 2 := by
        rw [div_lt_div_iff₀ hd' (by decide)]
        exact_mod_cast (by omega : r * 2 < 1 * d)
      rw [Nat.compare_eq_lt.mpr hcmp]
      change (m : ℚ) < _ ∧ _ < (m : ℚ) + 1 / 2
      exact ⟨by linarith, by linarith⟩
    · have hhalf : (r : ℚ) / d = 1 / 2 := by
        rw [div_eq_div_iff hd'.ne' (by decide)]
        exact_mod_cast (by omega : r * 2 = 1 * d)
      rw [Nat.compare_eq_eq.mpr hcmp, hhalf]
      rfl
    · have hhalf : 1 / 2 < (r : ℚ) / d := by
        rw [div_lt_div_iff₀ (by decide) hd']
        exact_mod_cast (by omega : 1 * d < r * 2)
      have hone : (r : ℚ) / d < 1 := (div_lt_one hd').mpr (Nat.cast_lt.mpr hlt)
      rw [Nat.compare_eq_gt.mpr hcmp]
      change (m : ℚ) + 1 / 2 < _ ∧ _ < (m : ℚ) + 1
      exact ⟨by linarith, by linarith⟩

/-! ## quotients -/

/-- The places of a quotient are those of its operands, but for one. -/
theorem le_log_div {m n : Nat} (hm : 0 < m) (hn : 0 < n) (e : ℤ) :
    m.log2 - n.log2 - 1 + e ≤ Int.log 2 (m / n * 2 ^ e : ℚ) := by
  have hm' : (0 : ℚ) < m := Nat.cast_pos.mpr hm
  have hn' : (0 : ℚ) < n := Nat.cast_pos.mpr hn
  rw [← Int.zpow_le_iff_le_log (by decide : 1 < 2) (by positivity), zpow_add₀ (by decide),
    sub_sub, zpow_sub₀ (by decide)]
  have hlow : ((2 : ℕ) : ℚ) ^ (m.log2 : ℤ) ≤ m := by
    exact_mod_cast Nat.log2_self_le hm.ne'
  have hhigh : (n : ℚ) ≤ ((2 : ℕ) : ℚ) ^ (n.log2 + 1 : ℤ) := by
    exact_mod_cast Nat.lt_log2_self.le
  push_cast at hlow hhigh ⊢
  gcongr

/-- The sign of a quotient is the quotient of the signs. -/
theorem apply_div (s t : Sign) : ((s / t).apply 1 : ℚ) = s.apply 1 / t.apply 1 := by
  have hsign : s / t = s * t := by cases s <;> cases t <;> rfl
  rw [hsign, apply_mul, Int.cast_mul]
  cases t with
  | positive => rw [apply_positive, Int.cast_one, mul_one, div_one]
  | negative => rw [apply_negative, Int.cast_neg, Int.cast_one, mul_neg_one, div_neg, div_one]

/-- A quotient is the exact one, rounded to nearest. -/
theorem isNearest_div {u v : UnpackedFloat} (hu : u.isFinite = true) (hv : v.isFinite = true)
    (hzero : place v ≠ 0) : IsNearest (.div Format.binary64 u v) (place u / place v) := by
  cases v with
  | notANumber => contradiction
  | infinity t => contradiction
  | zero t => exact absurd rfl hzero
  | finite t n f hn =>
      cases u with
      | notANumber => contradiction
      | infinity s => contradiction
      | zero s =>
          rw [place, zero_div]
          exact isNearest_self (u := .zero (s / t)) trivial rfl
      | finite s m e hm =>
          have hm' : (0 : ℚ) < m := Nat.cast_pos.mpr hm
          have hn' : (0 : ℚ) < n := Nat.cast_pos.mpr hn
          have hvalue : place (.finite s m e hm) / place (.finite t n f hn) =
              (s / t).apply 1 * (m / n * 2 ^ (e - f)) := by
            rw [place_finite, place_finite, apply_div, zpow_sub₀ (by decide)]
            ring
          rw [hvalue]
          generalize htarget : min (e - f)
            (Format.binary64.targetExponent (totalExponent m e - totalExponent n f)) = target
          have hdiv : UnpackedFloat.div Format.binary64 (.finite s m e hm) (.finite t n f hn) =
              roundWithAccuracy Format.binary64 (s / t)
                ((m <<< (e - f - target).toNat) / n) target
                (accuracyOfFraction ((m <<< (e - f - target).toNat) % n) n) := by
            rw [← htarget]
            rfl
          rw [hdiv]
          have hle : target ≤ e - f := htarget ▸ min_le_left _ _
          refine isNearest_roundWithAccuracy _ (by positivity) ?_ ?_
          · have htells := tells_fraction (m <<< (e - f - target).toNat) hn
            have hshift : (m <<< (e - f - target).toNat : ℕ) / n =
                (m / n * 2 ^ (e - f) / 2 ^ target : ℚ) := by
              rw [Nat.shiftLeft_eq, mul_div_assoc, ← zpow_sub₀ (by decide)]
              push_cast
              rw [← zpow_natCast, Int.toNat_of_nonneg (by omega)]
              ring
            rwa [hshift] at htells
          · have hlog := le_log_div hm hn (e - f)
            have hmin : Format.binary64.minExponent = -1074 := rfl
            have hbits : Format.binary64.mantissaBits = 53 := rfl
            rw [Format.targetExponent, totalExponent, totalExponent, hmin, hbits] at htarget
            unfold lastPlace
            push_cast at htarget
            omega

/-- **Quotients are rounded**: the quotient of two numbers is the number nearest to
the quotient of their places, cut at the limits. -/
theorem place_div {x y : Float} (hx : x.isFinite = true) (hy : y.isFinite = true)
    (hzero : place (parts y) ≠ 0) :
    parts (x / y) ≠ .notANumber ∧
      place (parts (x / y)) = cut (nearest (place (parts x) / place (parts y))) :=
  (isNearest_div hx hy hzero).place_ofParts

end Playbook.Number
