import Playbook.Number.Shortest
import Playbook.Proofs.Number.Equality
import Playbook.Proofs.Number.Quotient

/-!
# Playbook.Proofs.Number.Decimal

The number that a decimal is read as is the number nearest to it, cut at the
limit (`Decimal.place_toFloat`).  So decimals with one value are read as one number,
however many zeros they have (`Decimal.toFloat_eq_iff`).

Reading is correct on all its paths: small powers of ten are numbers themselves, a
product or a quotient with other ones is rounded once, and an exponent that is out
of range is not even looked at.
-/

namespace Playbook.Number

open Float.Model Float.Model.UnpackedFloat

/-! ## places and values -/

/-- A number above the limit is cut there. -/
theorem cut_nearest_of_le {q : ℚ} (hq : limit ≤ q) : cut (nearest q) = limit := by
  have hlimit : nearest limit = limit := by
    have h : limit = (2 ^ 52 : ℕ) * 2 ^ (972 : ℤ) := by
      rw [limit, Nat.cast_pow, Nat.cast_ofNat, ← zpow_natCast, ← zpow_add₀ (by decide)]
      rfl
    rw [nearest_of_nonneg limit_pos.le, h,
      nearestMagnitude_eq_self (by decide) (by decide) (by decide)]
  have hle : limit ≤ nearest q := hlimit ▸ nearest_mono hq
  rw [cut, min_eq_right hle, max_eq_right (by linarith [limit_pos])]

/-- A number below half of the least one is rounded to zero. -/
theorem cut_nearest_of_lt {q : ℚ} (hq : 0 ≤ q) (hlt : q < 2 ^ (-1075 : ℤ)) :
    cut (nearest q) = 0 := by
  have hlast : lastPlace (2 ^ (-1075 : ℤ)) = -1074 := by
    have hlog : Int.log 2 (((2 : ℕ) : ℚ) ^ (-1075 : ℤ)) = -1075 := Int.log_zpow (by decide) _
    rw [Nat.cast_ofNat] at hlog
    rw [lastPlace, hlog]
    rfl
  have hhalf : nearestMagnitude (2 ^ (-1075 : ℤ)) = 0 := by
    have hquot : (2 : ℚ) ^ (-1075 : ℤ) / 2 ^ (-1074 : ℤ) = 1 / 2 := by
      rw [← zpow_sub₀ (by decide)]
      norm_num
    have hround : halfEven (1 / 2) = 0 := by
      norm_num [halfEven]
    rw [nearestMagnitude, hlast, hquot, hround, Int.cast_zero, zero_mul]
  have hzero : nearest q = 0 := by
    rw [nearest_of_nonneg hq]
    exact le_antisymm (hhalf ▸ nearestMagnitude_mono hq hlt.le) (nearestMagnitude_nonneg hq)
  rw [hzero, cut_of_abs_le (by rw [abs_zero]; exact limit_pos.le)]

/-- The place of a number is the rational number that it stands for. -/
theorem IsValue.place_eq {x : Float} {q : ℚ} (h : IsValue x q) : place (parts x) = q := by
  obtain ⟨v, hv, rfl⟩ := h
  rw [ofFloat?_eq] at hv
  cases hparts : parts x with
  | zero s =>
      rw [hparts] at hv
      obtain rfl := Option.some.inj hv
      simp [place, Exact.value]
  | finite s m e hm =>
      rw [hparts] at hv
      obtain rfl := Option.some.inj hv
      rw [place_finite, Exact.value]
      cases s <;> simp [Sign.apply]
  | infinity s =>
      rw [hparts] at hv
      contradiction
  | notANumber =>
      rw [hparts] at hv
      contradiction

/-- What lies below the limit is finite. -/
theorem isFinite_of_place {x : Float} (hne : parts x ≠ .notANumber)
    (hlt : |place (parts x)| < limit) : x.isFinite = true := by
  rw [isFinite_eq]
  cases hparts : parts x with
  | notANumber => exact absurd hparts hne
  | zero s => rfl
  | finite s m e hm => rfl
  | infinity s =>
      rw [hparts, place] at hlt
      cases s <;> simp [Sign.apply, abs_of_pos limit_pos] at hlt

/-! ## natural numbers and powers of ten -/

theorem abs_natCast_lt_limit {n : Nat} (hn : n < 2 ^ 53) : |(n : ℚ)| < limit := by
  rw [abs_of_nonneg n.cast_nonneg]
  calc (n : ℚ) < (2 ^ 53 : ℕ) := Nat.cast_lt.mpr hn
    _ ≤ limit := by
        rw [limit, Nat.cast_pow, Nat.cast_ofNat, ← zpow_natCast]
        exact zpow_le_zpow_right₀ (by decide) (by decide)

/-- Numbers with at most 53 bits are exact. -/
theorem cut_nearest_natCast {n : Nat} (hn : n < 2 ^ 53) : cut (nearest n) = n := by
  have h : nearest n = n := by
    obtain rfl | hpos := n.eq_zero_or_pos
    · rw [Nat.cast_zero, nearest_of_nonneg le_rfl, nearestMagnitude_zero]
    · have := nearestMagnitude_eq_self hpos hn (e := 0) (by decide)
      rwa [zpow_zero, mul_one, ← nearest_of_nonneg n.cast_nonneg] at this
  rw [h, cut_of_abs_le (abs_natCast_lt_limit hn).le]

/-- A word below `2 ^ 53` is a number. -/
theorem place_toFloat_toUInt64 {n : Nat} (hn : n < 2 ^ 53) :
    n.toUInt64.toFloat.isFinite = true ∧ place (parts n.toUInt64.toFloat) = n := by
  have hword : n.toUInt64.toNat = n := Nat.mod_eq_of_lt (Nat.lt_trans hn (by decide))
  have hfloat : n.toUInt64.toFloat =
      ofParts (UnpackedFloat.normalize Format.binary64 n.toUInt64.toNat 0 .positive) := rfl
  obtain ⟨hne, hplace⟩ := (isNearest_normalize n 0 .positive).place_ofParts
  rw [hword] at hfloat
  rw [zpow_zero, mul_one, Int.cast_natCast, cut_nearest_natCast hn, ← hfloat] at hplace
  rw [← hfloat] at hne
  exact ⟨isFinite_of_place hne (hplace ▸ abs_natCast_lt_limit hn), hplace⟩

/-- The powers of ten in the table are the exact ones. -/
theorem natural?_powersOfTen (e : Fin Float.exactlyRepresentablePowersOfTen.size) :
    natural? Float.exactlyRepresentablePowersOfTen[e] = some (10 ^ e.val) := by
  decide +kernel +revert

/-- The small powers of ten are numbers. -/
theorem isValue_powerOfTen {e : Nat} (he : e < Float.exactlyRepresentablePowersOfTen.size) :
    IsValue Float.exactlyRepresentablePowersOfTen[e] (10 ^ e) := by
  have hvalue := (natural?_eq_some_iff _ _).mp (natural?_powersOfTen ⟨e, he⟩)
  push_cast at hvalue
  exact hvalue

/-! ## reading decimals -/

section scientific

variable {m : Nat} {e : ℤ}

/-- A decimal with an exponent this large is beyond all numbers. -/
theorem limit_le_mul_ten_zpow (hm : 0 < m) (he : 2 ^ 11 < e) : limit ≤ m * 10 ^ e := by
  have hone : (1 : ℚ) ≤ m := Nat.one_le_cast.mpr hm
  obtain ⟨k, rfl⟩ := Int.eq_ofNat_of_zero_le (by omega : 0 ≤ e)
  calc limit ≤ 2 ^ (k : ℤ) := zpow_le_zpow_right₀ (by decide) (by omega)
    _ ≤ 10 ^ (k : ℤ) := by
        rw [zpow_natCast, zpow_natCast]
        gcongr
        decide
    _ ≤ m * 10 ^ (k : ℤ) := le_mul_of_one_le_left (by positivity) hone

/-- A decimal with an exponent this small is nearer to zero than to any other number. -/
theorem mul_ten_zpow_lt (he : e < -(2 ^ 11 + m.log2)) : (m * 10 ^ e : ℚ) < 2 ^ (-1075 : ℤ) := by
  obtain ⟨k, hk⟩ := Int.eq_ofNat_of_zero_le (by omega : 0 ≤ -e)
  obtain rfl : e = -k := by omega
  have hm : (m : ℚ) < 2 ^ (m.log2 + 1 : ℤ) := by exact_mod_cast Nat.lt_log2_self (n := m)
  calc (m * 10 ^ (-k : ℤ) : ℚ) ≤ m * 2 ^ (-k : ℤ) := by
        rw [zpow_neg, zpow_neg, zpow_natCast, zpow_natCast]
        gcongr
        decide
    _ < 2 ^ (m.log2 + 1 : ℤ) * 2 ^ (-k : ℤ) := by gcongr
    _ = 2 ^ (m.log2 + 1 + -k : ℤ) := (zpow_add₀ (by decide) _ _).symm
    _ ≤ 2 ^ (-1075 : ℤ) := zpow_le_zpow_right₀ (by decide) (by omega)

/-- The product of a mantissa and a power of ten is rounded once. -/
theorem isNearest_mul_power (hm : 0 < m <<< 53) (k : Nat) :
    IsNearest (.mul Format.binary64 (.finite .positive (m <<< 53) (-53) hm)
      (.finite .positive (10 ^ k) 0 (by positivity))) (m * 10 ^ k) := by
  have hvalue : ((m <<< 53 * 10 ^ k : ℕ) * 2 ^ (-53 + 0 : ℤ) : ℚ) = m * 10 ^ k := by
    have h := shiftLeft_mul m 53 0
    rw [zpow_zero, mul_one] at h
    rw [Nat.cast_mul, mul_right_comm, add_zero]
    exact congrArg₂ (· * ·) h (by push_cast; rfl)
  have hone : (1 : ℚ) ≤ m * 10 ^ k := by
    have : 1 ≤ m := Nat.pos_of_ne_zero fun h => by simp [h] at hm
    exact_mod_cast Nat.mul_le_mul this (Nat.one_le_pow k 10 (by decide))
  have hlast : -53 + 0 ≤ lastPlace (m * 10 ^ k) := by
    have hlog : 0 ≤ Int.log 2 (m * 10 ^ k : ℚ) := by
      rw [← Int.zpow_le_iff_le_log (by decide : 1 < 2) (by linarith), zpow_zero]
      exact hone
    unfold lastPlace
    omega
  have h := isNearest_roundExact .positive (m := m <<< 53 * 10 ^ k) (e := -53 + 0)
    (by positivity) (by rwa [hvalue])
  rwa [hvalue, apply_positive, Int.cast_one, one_mul] at h

/-- The quotient of a mantissa by a power of ten is rounded once. -/
theorem isNearest_div_power (hm : 0 < m) (k : Nat) :
    IsNearest (.div Format.binary64 (.finite .positive m 0 hm)
      (.finite .positive (10 ^ k) 0 (by positivity))) (m / 10 ^ k) := by
  have hplace {n : Nat} (hn : 0 < n) : place (.finite .positive n 0 hn) = n := by
    rw [place, zpow_zero, mul_one]
    rfl
  have h := isNearest_div (u := .finite .positive m 0 hm)
    (v := .finite .positive (10 ^ k) 0 (by positivity)) rfl rfl
    (by rw [hplace]; positivity)
  rw [hplace, hplace] at h
  push_cast at h
  exact h

/-- A decimal is rounded once, unless its exponent is out of range. -/
theorem place_ofScientific (m : Nat) (e : ℤ) :
    parts (ofParts (UnpackedFloat.ofScientific Format.binary64 m e)) ≠ .notANumber ∧
      place (parts (ofParts (UnpackedFloat.ofScientific Format.binary64 m e))) =
        cut (nearest (m * 10 ^ e)) := by
  have hbits : Format.binary64.exponentBits = 11 := rfl
  unfold UnpackedFloat.ofScientific
  rw [hbits]
  split
  · next hm =>
    rw [hm, Nat.cast_zero, zero_mul, cut_nearest_of_lt le_rfl (by positivity)]
    exact ⟨by rintro ⟨⟩, rfl⟩
  next hm =>
  have hm : 0 < m := Nat.pos_of_ne_zero hm
  split
  · next he =>
    have hparts : parts (ofParts (.infinity .positive)) = .infinity .positive :=
      parts_ofParts trivial trivial
    rw [cut_nearest_of_le (limit_le_mul_ten_zpow hm he), hparts, place, apply_positive,
      Int.cast_one, one_mul]
    exact ⟨by rintro ⟨⟩, rfl⟩
  split
  · next he =>
    rw [cut_nearest_of_lt (by positivity) (mul_ten_zpow_lt he)]
    exact ⟨by rintro ⟨⟩, rfl⟩
  split
  · next he =>
    have h := (isNearest_mul_power (m := m) (by rw [Nat.shiftLeft_eq]; positivity) e.toNat)
    have hpower : (10 : ℚ) ^ e = 10 ^ e.toNat := by
      rw [← zpow_natCast, Int.toNat_of_nonneg he]
    rw [hpower]
    exact h.place_ofParts
  · next he =>
    have h := isNearest_div_power hm (-e).toNat
    have hpower : (m * 10 ^ e : ℚ) = m / 10 ^ (-e).toNat := by
      rw [← zpow_natCast, Int.toNat_of_nonneg (by omega), zpow_neg, div_inv_eq_mul]
    rw [hpower]
    exact h.place_ofParts

end scientific

namespace Decimal

/-- The rational number that a decimal names. -/
def value (d : Decimal) : ℚ := d.coefficient * 10 ^ d.exponent

/-- **Decimals are rounded**: a decimal is read as the number nearest to it, cut at
the limit. -/
theorem place_toFloat (d : Decimal) :
    parts d.toFloat ≠ .notANumber ∧ place (parts d.toFloat) = cut (nearest d.value) := by
  obtain ⟨m, e⟩ := d
  have hnegative : decide (e < 0) = true ↔ e < 0 := decide_eq_true_iff
  rw [toFloat, Float.ofScientific, value]
  dsimp only
  split
  · next h =>
    -- both operands are numbers
    obtain ⟨hm, he⟩ := h
    obtain ⟨hfinite, hplace⟩ := place_toFloat_toUInt64 hm
    have hpower := isValue_powerOfTen (Nat.lt_of_le_of_lt he (by decide))
    split
    · next hneg =>
      rw [hnegative] at hneg
      have h := place_div hfinite hpower.isFinite (by rw [hpower.place_eq]; positivity)
      have hquot : (m * 10 ^ e : ℚ) = m / 10 ^ e.natAbs := by
        rw [← zpow_natCast, Int.ofNat_natAbs_of_nonpos hneg.le, zpow_neg, div_inv_eq_mul]
      rwa [hplace, hpower.place_eq, ← hquot] at h
    · next hneg =>
      rw [hnegative] at hneg
      have h := place_mul hfinite hpower.isFinite
      have hprod : (m * 10 ^ e : ℚ) = m * 10 ^ e.natAbs := by
        rw [← zpow_natCast, Int.natAbs_of_nonneg (not_lt.mp hneg)]
      rwa [hplace, hpower.place_eq, ← hprod] at h
  · have hexponent : (if decide (e < 0) = true then Int.negOfNat e.natAbs
        else Int.ofNat e.natAbs) = e := by
      obtain ⟨k, rfl | rfl⟩ := e.eq_nat_or_neg
      · rw [if_neg (by rw [hnegative]; omega), Int.natAbs_natCast]
        rfl
      · obtain rfl | hk := k.eq_zero_or_pos
        · rfl
        · rw [if_pos (by rw [hnegative]; omega), Int.natAbs_neg, Int.natAbs_natCast,
            Int.negOfNat_eq, Int.ofNat_eq_natCast]
    rw [hexponent]
    exact place_ofScientific m e

/-- Which decimals are read as a number that is not zero depends on their values only. -/
theorem toFloat_eq_iff {d : Decimal} {x : Float} (hx : x.isFinite = true)
    (hzero : place (parts x) ≠ 0) : d.toFloat = x ↔ cut (nearest d.value) = place (parts x) := by
  obtain ⟨hne, hplace⟩ := d.place_toFloat
  rw [← hplace]
  constructor
  · rintro rfl
    rfl
  · intro h
    exact eq_of_place hne (isFinite_ne hx) (h ▸ hzero) h

end Decimal

end Playbook.Number
