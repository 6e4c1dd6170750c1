import Playbook.Proofs.Number.Parts

/-!
# Playbook.Proofs.Number.Value

The rational numbers that binary64 numbers stand for.

`natural?` answers with a natural number exactly if the number stands for it
(`natural?_eq_some_iff`), and natural numbers below `2 ^ 53` are not rounded
(`isValue_ofNat`).
-/

namespace Playbook.Number

open Float.Model Float.Model.UnpackedFloat

/-! ## values -/

/-- The rational number that a finite number stands for. -/
def Exact.value (v : Exact) : ℚ := (if v.negative then -1 else 1) * v.mantissa * 2 ^ v.exponent

/-- A binary64 number is finite and stands for a rational number. -/
def IsValue (x : Float) (q : ℚ) : Prop := ∃ v, Exact.ofFloat? x = some v ∧ v.value = q

/-- The exact value by the parts of a number. -/
theorem ofFloat?_eq (x : Float) :
    Exact.ofFloat? x =
      match parts x with
      | .zero s => some ⟨s == .negative, 0, 0⟩
      | .finite s m e _ => some ⟨s == .negative, m, e⟩
      | .infinity _ => none
      | .notANumber => none := rfl

/-- Only a finite number stands for a rational number. -/
theorem IsValue.isFinite {x : Float} {q : ℚ} (h : IsValue x q) : x.isFinite = true := by
  obtain ⟨v, hv, -⟩ := h
  rw [ofFloat?_eq] at hv
  rw [isFinite_eq]
  cases hparts : parts x with
  | zero s => rfl
  | finite s m e hm => rfl
  | infinity s =>
      rw [hparts] at hv
      contradiction
  | notANumber =>
      rw [hparts] at hv
      contradiction

namespace Exact

/-- Exact values are fractions, so they are values. -/
theorem denominator_pos (v : Exact) : 0 < v.denominator := by
  rw [denominator, Nat.one_shiftLeft]
  exact Nat.two_pow_pos _

/-- The value as a fraction with a sign. -/
theorem value_eq (v : Exact) :
    v.value = (if v.negative then -1 else 1) * (v.numerator / v.denominator : ℚ) := by
  have hpow : (2 : ℚ) ^ v.exponent = 2 ^ v.exponent.toNat / 2 ^ (-v.exponent).toNat := by
    rw [← zpow_natCast, ← zpow_natCast, ← zpow_sub₀ (by decide : (2 : ℚ) ≠ 0)]
    congr 1
    omega
  rw [value, hpow, numerator, denominator, Nat.shiftLeft_eq, Nat.one_shiftLeft, mul_assoc]
  push_cast
  rw [mul_div_assoc]

/-- A value is a natural number if the fraction is whole and has no minus sign;
negative zero has none. -/
theorem value_eq_natCast_iff (v : Exact) (n : Nat) :
    v.value = n ↔ (v.negative = true → v.mantissa = 0) ∧ v.numerator = n * v.denominator := by
  have hden : (0 : ℚ) < v.denominator := Nat.cast_pos.mpr v.denominator_pos
  have hnum : v.numerator = 0 ↔ v.mantissa = 0 := by
    rw [numerator, Nat.shiftLeft_eq_zero_iff]
  have hfraction : (v.numerator / v.denominator : ℚ) = n ↔ v.numerator = n * v.denominator := by
    rw [div_eq_iff hden.ne']
    exact_mod_cast Iff.rfl
  rw [value_eq]
  by_cases hneg : v.negative = true
  · rw [if_pos hneg, neg_one_mul]
    constructor
    · intro h
      have hle : (0 : ℚ) ≤ v.numerator / v.denominator := by positivity
      have hzero : (n : ℚ) = 0 := le_antisymm (by rw [← h]; exact neg_nonpos.mpr hle) n.cast_nonneg
      have hfrac : (v.numerator / v.denominator : ℚ) = n := by
        rw [hzero, neg_eq_zero] at h
        rw [h, hzero]
      have hnumerator := hfraction.mp hfrac
      refine ⟨fun _ => hnum.mp ?_, hnumerator⟩
      rw [hnumerator, Nat.cast_eq_zero.mp hzero, Nat.zero_mul]
    · intro h
      obtain ⟨hmantissa, h⟩ := h
      have hzero : v.numerator = 0 := hnum.mpr (hmantissa hneg)
      rw [hfraction.mpr h, neg_eq_iff_add_eq_zero]
      have hn : n = 0 := by
        rw [hzero] at h
        exact (Nat.mul_eq_zero.mp h.symm).resolve_right v.denominator_pos.ne'
      rw [hn, Nat.cast_zero, add_zero]
  · rw [if_neg hneg, one_mul, hfraction]
    exact ⟨fun h => ⟨fun h' => absurd h' hneg, h⟩, fun h => h.2⟩

/-- Rounding down finds the natural number that a value is. -/
theorem floor_eq_iff (v : Exact) (n : Nat) :
    (v.isWhole && (!v.negative || v.mantissa == 0)) = true ∧ v.floor = n ↔ v.value = n := by
  have hsign : (!v.negative || v.mantissa == 0) = true ↔ (v.negative = true → v.mantissa = 0) := by
    cases v.negative <;> simp
  rw [value_eq_natCast_iff, Bool.and_eq_true, hsign, isWhole, floor, beq_iff_eq]
  constructor
  · intro h
    obtain ⟨⟨hmod, hneg⟩, rfl⟩ := h
    exact ⟨hneg, (Nat.div_mul_cancel (Nat.dvd_of_mod_eq_zero hmod)).symm⟩
  · intro h
    obtain ⟨hneg, hnum⟩ := h
    rw [hnum, Nat.mul_mod_left, Nat.mul_div_cancel _ v.denominator_pos]
    exact ⟨⟨rfl, hneg⟩, rfl⟩

end Exact

/-- **Natural numbers among the binary64 numbers** are found by their value. -/
theorem natural?_eq_some_iff (x : Float) (n : Nat) : natural? x = some n ↔ IsValue x n := by
  unfold natural? IsValue
  cases Exact.ofFloat? x with
  | none => simp only [reduceCtorEq, false_and, exists_false]
  | some v =>
      simp only [Option.some.injEq, exists_eq_left', ← v.floor_eq_iff]
      by_cases h : (v.isWhole && (!v.negative || v.mantissa == 0)) = true
      · rw [if_pos h, Option.some.injEq, eq_true h, true_and]
      · rw [if_neg h, eq_false h, false_and]
        simp only [reduceCtorEq]

/-! ## exact rounding -/

/-- Zeros shifted out behind a mantissa leave no trace. -/
theorem shiftRight_mul_two_pow (m k : Nat) :
    (⟨m * 2 ^ k, false, false⟩ : ExtendedMantissa) >>> k = ⟨m, false, false⟩ := by
  change Nat.repeat ExtendedMantissa.shiftRightOne k ⟨m * 2 ^ k, false, false⟩ = _
  induction k generalizing m with
  | zero => rw [Nat.pow_zero, Nat.mul_one]; rfl
  | succ k ih =>
      rw [Nat.repeat, show m * 2 ^ (k + 1) = m * 2 * 2 ^ k by rw [Nat.pow_succ', Nat.mul_assoc],
        ih, ExtendedMantissa.shiftRightOne, Nat.mul_div_cancel _ (by decide), Nat.mul_mod_left]
      rfl

/-- The exponent that rounding aims at for a mantissa with full width. -/
theorem targetExponent_full {m : Nat} {e : Int} (k : Nat) (hm : 2 ^ 52 ≤ m) (hm' : m < 2 ^ 53)
    (he : -1074 ≤ e) :
    Format.binary64.targetExponent (totalExponent (m * 2 ^ k) (e - k)) = e := by
  have hlog : (m * 2 ^ k).log2 = 52 + k := by
    have hpos : 0 < 2 ^ k := Nat.two_pow_pos k
    refine (Nat.log2_eq_iff (Nat.mul_ne_zero (by omega) hpos.ne')).mpr ⟨?_, ?_⟩
    · rw [Nat.pow_add]
      exact Nat.mul_le_mul_right _ hm
    · rw [Nat.add_right_comm, Nat.pow_add]
      exact Nat.mul_lt_mul_of_pos_right hm' hpos
  have hmin : Format.binary64.minExponent = -1074 := rfl
  have hbits : Format.binary64.mantissaBits = 53 := rfl
  rw [Format.targetExponent, totalExponent, hlog, hmin, hbits]
  push_cast
  omega

/-- Zeros behind a mantissa with full width are shifted out. -/
theorem shiftToTargetExponent_full {m : Nat} {e : Int} (k : Nat) (hm : 2 ^ 52 ≤ m)
    (hm' : m < 2 ^ 53) (he : -1074 ≤ e) :
    shiftToTargetExponent Format.binary64 (m * 2 ^ k) (e - k) .exact =
      (⟨m, false, false⟩, e) := by
  rw [shiftToTargetExponent, targetExponent_full k hm hm' he, shiftToExponent]
  dsimp only [ExtendedMantissa.ofMantissaAndAccuracy]
  rw [Int.sub_sub_self, Int.toNat_natCast, shiftRight_mul_two_pow, Int.sub_add_cancel]

/-- A mantissa with full width is not rounded, whatever zeros stand behind it. -/
theorem roundWithAccuracy_full (s : Sign) {m : Nat} {e : Int} (k : Nat) (hm : 2 ^ 52 ≤ m)
    (hm' : m < 2 ^ 53) (he : -1074 ≤ e) :
    roundWithAccuracy Format.binary64 s (m * 2 ^ k) (e - k) .exact =
      .finite s m e (Nat.lt_of_lt_of_le (by decide) hm) := by
  have hshift := shiftToTargetExponent_full k hm hm' he
  have hshift' : shiftToTargetExponent Format.binary64 m e .exact = (⟨m, false, false⟩, e) := by
    simpa using shiftToTargetExponent_full 0 hm hm' he
  have hround : ExtendedMantissa.roundedMantissa ⟨m, false, false⟩ = m := rfl
  rw [roundWithAccuracy]
  simp only [hshift, hround, hshift']
  rw [dif_neg (by omega)]

/-! ## natural numbers -/

/-- How far a natural number is shifted to the left to fill a mantissa. -/
def shiftOf (n : Nat) : Nat := 52 - n.log2

/-- A number is shifted until its mantissa is full. -/
theorem full_shiftOf {n : Nat} (hn : 0 < n) (hn' : n < 2 ^ 53) :
    2 ^ 52 ≤ n * 2 ^ shiftOf n ∧ n * 2 ^ shiftOf n < 2 ^ 53 := by
  have hlog : n.log2 + shiftOf n = 52 := by
    have : n.log2 < 53 := (Nat.log2_lt hn.ne').mpr hn'
    unfold shiftOf
    omega
  have hpos : 0 < 2 ^ shiftOf n := Nat.two_pow_pos _
  constructor
  · rw [← hlog, Nat.pow_add]
    exact Nat.mul_le_mul_right _ (Nat.log2_self_le hn.ne')
  · rw [show 53 = n.log2 + 1 + shiftOf n by omega, Nat.pow_add]
    exact Nat.mul_lt_mul_of_pos_right Nat.lt_log2_self hpos

/-- The parts of a natural number that fits into a mantissa. -/
def natParts (n : Nat) (hn : 0 < n) : UnpackedFloat :=
  .finite .positive (n * 2 ^ shiftOf n) (-shiftOf n) (Nat.mul_pos hn (Nat.two_pow_pos _))

theorem parts_ofParts_natParts {n : Nat} (hn : 0 < n) (hn' : n < 2 ^ 53) :
    parts (ofParts (natParts n hn)) = natParts n hn := by
  obtain ⟨hm, hm'⟩ := full_shiftOf hn hn'
  have hshift : shiftOf n ≤ 52 := Nat.sub_le _ _
  rw [natParts, finite_eq_ofFields _ _ _ _ hm hm' (by omega) (by omega), parts_ofParts_ofFields]

theorem normalize_natCast {n : Nat} (hn : 0 < n) (hn' : n < 2 ^ 53) :
    UnpackedFloat.normalize Format.binary64 n 0 .positive = natParts n hn := by
  obtain ⟨hm, hm'⟩ := full_shiftOf hn hn'
  have hlog : n.log2 < 53 := (Nat.log2_lt hn.ne').mpr hn'
  have htarget : Format.binary64.targetExponent (totalExponent n 0) = -shiftOf n := by
    have hmin : Format.binary64.minExponent = -1074 := rfl
    have hbits : Format.binary64.mantissaBits = 53 := rfl
    rw [Format.targetExponent, totalExponent, hmin, hbits, shiftOf]
    omega
  have hround := roundWithAccuracy_full .positive 0 hm hm' (e := -shiftOf n)
    (by have : shiftOf n ≤ 52 := Nat.sub_le _ _; omega)
  rw [UnpackedFloat.normalize, Int.compare_eq_gt.mpr (by omega : (0 : Int) < n)]
  dsimp only
  rw [UnpackedFloat.round, Int.toNat_natCast, htarget, decreaseExponent]
  dsimp only
  rw [Int.zero_sub, Int.neg_neg, Int.toNat_natCast, Nat.shiftLeft_eq, natParts]
  simpa using hround

/-- Multiplication by one does not round. -/
theorem mul_one_natParts {n : Nat} (hn : 0 < n) (hn' : n < 2 ^ 53) :
    UnpackedFloat.mul Format.binary64 (natParts n hn) (parts (Float.ofBits 0x3FF0000000000000)) =
      natParts n hn := by
  obtain ⟨hm, hm'⟩ := full_shiftOf hn hn'
  have hone : parts (Float.ofBits 0x3FF0000000000000) =
      .finite .positive (2 ^ 52) (-52) (by decide) := by rfl
  have hround := roundWithAccuracy_full .positive 52 hm hm' (e := -shiftOf n)
    (by have : shiftOf n ≤ 52 := Nat.sub_le _ _; omega)
  rw [hone, natParts, UnpackedFloat.mul]
  exact hround

/-- A natural number becomes a binary64 number as a word times one. -/
theorem ofNat_eq {n : Nat} (hn : n < 2 ^ 53) :
    Float.ofNat n = ofParts (UnpackedFloat.normalize Format.binary64 n 0 .positive) *
      Float.ofBits 0x3FF0000000000000 := by
  have hword : n.toUInt64.toNat = n := Nat.mod_eq_of_lt (Nat.lt_trans hn (by decide))
  have hfloat : n.toUInt64.toFloat =
      ofParts (UnpackedFloat.normalize Format.binary64 n.toUInt64.toNat 0 .positive) := rfl
  change Float.ofScientific n false 0 = _
  rw [Float.ofScientific, dif_pos ⟨hn, by decide⟩, hfloat, hword]
  rfl

/-- So a small natural is a number without rounding. -/
theorem parts_ofNat {n : Nat} (hn : 0 < n) (hn' : n < 2 ^ 53) :
    parts (Float.ofNat n) = natParts n hn := by
  rw [ofNat_eq hn', normalize_natCast hn hn', mul_eq, parts_ofParts_natParts hn hn',
    mul_one_natParts hn hn', parts_ofParts_natParts hn hn']

/-- **Natural numbers that fit into a mantissa** are not rounded. -/
theorem isValue_ofNat {n : Nat} (hn : n < 2 ^ 53) : IsValue (Float.ofNat n) n := by
  by_cases hpos : 0 < n
  · refine ⟨⟨false, n * 2 ^ shiftOf n, -shiftOf n⟩, ?_, ?_⟩
    · rw [ofFloat?_eq, parts_ofNat hpos hn]
      rfl
    · rw [Exact.value, if_neg Bool.false_ne_true, one_mul, zpow_neg, zpow_natCast]
      push_cast
      rw [mul_inv_cancel_right₀ (by positivity)]
  · obtain rfl : n = 0 := by omega
    exact ⟨⟨false, 0, 0⟩, by rfl, by simp [Exact.value]⟩

end Playbook.Number
