import Playbook.Proofs.Number.Place

/-!
# Playbook.Proofs.Number.Nearest

The number nearest to a rational number, as a function of rational numbers: the
places of the numbers of some size are the multiples of one power of two, and a
quotient by it is rounded to a whole number, a half to the even one.

Three facts are all that the laws of rounded operations need: numbers are their
own nearest numbers (`nearest_place`), rounding keeps the order (`nearest_mono`),
and it does not know about signs (`nearest_neg`).
-/

namespace Playbook.Number

open Float.Model Float.Model.UnpackedFloat

/-! ## whole numbers -/

/-- Rounded to a whole number; a half goes to the even neighbour. -/
def halfEven (q : ℚ) : ℤ :=
  if Int.fract q < 1 / 2 then ⌊q⌋
  else if 1 / 2 < Int.fract q then ⌊q⌋ + 1
  else ⌊q⌋ + ⌊q⌋ % 2

theorem halfEven_intCast (n : ℤ) : halfEven n = n := by
  rw [halfEven, Int.fract_intCast, if_pos (by norm_num), Int.floor_intCast]

/-- Rounding goes to one of the two neighbours. -/
theorem floor_le_halfEven (q : ℚ) : ⌊q⌋ ≤ halfEven q ∧ halfEven q ≤ ⌊q⌋ + 1 := by
  unfold halfEven
  split
  · omega
  · split <;> omega

/-- Rounding keeps the order. -/
theorem halfEven_mono {p q : ℚ} (h : p ≤ q) : halfEven p ≤ halfEven q := by
  obtain hlt | heq := (Int.floor_le_floor h).lt_or_eq
  · have hp := floor_le_halfEven p
    have hq := floor_le_halfEven q
    omega
  · have hfract : Int.fract p ≤ Int.fract q := by
      rw [Int.fract, Int.fract, heq]
      exact sub_le_sub_right h _
    unfold halfEven
    rw [heq]
    split_ifs <;> grind

/-! ## magnitudes -/

/-- The exponent of the last place that a number of some size has. -/
def lastPlace (q : ℚ) : ℤ := max (Int.log 2 q - 52) (-1074)

/-- The magnitude of the number nearest to `q`, if no number were too large. -/
def nearestMagnitude (q : ℚ) : ℚ := halfEven (q / 2 ^ lastPlace q) * 2 ^ lastPlace q

/-- Larger values have their last place further up. -/
theorem lastPlace_mono {p q : ℚ} (hp : 0 < p) (h : p ≤ q) : lastPlace p ≤ lastPlace q :=
  max_le_max (sub_le_sub_right (Int.log_mono_right hp h) _) le_rfl

/-- A number has 53 places at most. -/
theorem div_lastPlace_lt (q : ℚ) : q / 2 ^ lastPlace q < 2 ^ 53 := by
  rw [div_lt_iff₀ (by positivity)]
  calc q < 2 ^ (Int.log 2 q + 1) := Int.lt_zpow_succ_log_self (by decide) q
    _ ≤ 2 ^ (53 + lastPlace q) := by
        refine zpow_le_zpow_right₀ (by decide) ?_
        have := le_max_left (Int.log 2 q - 52) (-1074)
        unfold lastPlace
        omega
    _ = 2 ^ 53 * 2 ^ lastPlace q := by
        rw [zpow_add₀ (by decide)]
        rfl

/-- And it has all of them unless it is very small. -/
theorem le_div_lastPlace {q : ℚ} (hq : 0 < q) (hlast : lastPlace q ≠ -1074) :
    2 ^ 52 ≤ q / 2 ^ lastPlace q := by
  have hlog : lastPlace q = Int.log 2 q - 52 := by
    unfold lastPlace at hlast ⊢
    omega
  rw [le_div_iff₀ (by positivity)]
  calc (2 : ℚ) ^ 52 * 2 ^ lastPlace q = 2 ^ Int.log 2 q := by
        rw [hlog, ← zpow_natCast, ← zpow_add₀ (by decide)]
        congr 1
        omega
    _ ≤ q := Int.zpow_log_le_self (by decide) hq

theorem halfEven_div_lastPlace_nonneg {q : ℚ} (hq : 0 ≤ q) :
    0 ≤ halfEven (q / 2 ^ lastPlace q) := by
  rw [← halfEven_intCast 0]
  exact halfEven_mono (by positivity)

/-- A mantissa has 53 bits, or is the next power of two after a carry. -/
theorem halfEven_div_lastPlace_le (q : ℚ) : halfEven (q / 2 ^ lastPlace q) ≤ 2 ^ 53 := by
  rw [← halfEven_intCast (2 ^ 53)]
  exact halfEven_mono (by exact_mod_cast (div_lastPlace_lt q).le)

/-- A mantissa is full unless the exponent is the least one. -/
theorem le_halfEven_div_lastPlace {q : ℚ} (hq : 0 < q) :
    2 ^ 52 ≤ halfEven (q / 2 ^ lastPlace q) ∨ lastPlace q = -1074 := by
  by_cases hlast : lastPlace q = -1074
  · exact .inr hlast
  · refine .inl ?_
    rw [← halfEven_intCast (2 ^ 52)]
    exact halfEven_mono (by exact_mod_cast le_div_lastPlace hq hlast)

theorem nearestMagnitude_nonneg {q : ℚ} (hq : 0 ≤ q) : 0 ≤ nearestMagnitude q := by
  have h := halfEven_div_lastPlace_nonneg hq
  rw [nearestMagnitude]
  have : (0 : ℚ) ≤ halfEven (q / 2 ^ lastPlace q) := Int.cast_nonneg h
  positivity

theorem nearestMagnitude_zero : nearestMagnitude 0 = 0 := by
  rw [nearestMagnitude, zero_div]
  have h : halfEven 0 = 0 := halfEven_intCast 0
  rw [h]
  simp

/-- Rounding keeps the order of magnitudes. -/
theorem nearestMagnitude_mono {p q : ℚ} (hp : 0 ≤ p) (h : p ≤ q) :
    nearestMagnitude p ≤ nearestMagnitude q := by
  obtain rfl | hp := hp.eq_or_lt
  · rw [nearestMagnitude_zero]
    exact nearestMagnitude_nonneg h
  obtain hlt | heq := (lastPlace_mono hp h).lt_or_eq
  · -- a power of two lies between the two
    have hlow := halfEven_div_lastPlace_le p
    have hlast : -1074 ≤ lastPlace p := le_max_right _ _
    have hhigh : 2 ^ 52 ≤ halfEven (q / 2 ^ lastPlace q) :=
      (le_halfEven_div_lastPlace (hp.trans_le h)).resolve_right (by omega)
    calc nearestMagnitude p ≤ 2 ^ 53 * 2 ^ lastPlace p := by
          unfold nearestMagnitude
          gcongr
          exact_mod_cast hlow
      _ = 2 ^ 52 * 2 ^ (lastPlace p + 1) := by
          rw [zpow_add_one₀ (by decide)]
          ring
      _ ≤ 2 ^ 52 * 2 ^ lastPlace q := by
          gcongr
          · decide
          · omega
      _ ≤ nearestMagnitude q := by
          unfold nearestMagnitude
          gcongr
          exact_mod_cast hhigh
  · unfold nearestMagnitude
    rw [heq]
    gcongr
    exact halfEven_mono (by gcongr)

/-- The logarithm of a magnitude is told by the bits of its mantissa. -/
theorem log_magnitude {m : Nat} (hm : 0 < m) (e : ℤ) : Int.log 2 (m * 2 ^ e : ℚ) = m.log2 + e := by
  have hpos : (0 : ℚ) < m * 2 ^ e := by
    have : (0 : ℚ) < m := Nat.cast_pos.mpr hm
    positivity
  have hle : (2 : ℚ) ^ (m.log2 + e : ℤ) ≤ m * 2 ^ e := by
    rw [zpow_add₀ (by decide), zpow_natCast]
    gcongr
    exact_mod_cast Nat.log2_self_le hm.ne'
  have hlt : (m * 2 ^ e : ℚ) < 2 ^ (m.log2 + e + 1 : ℤ) := by
    rw [add_right_comm, zpow_add₀ (by decide), ← Nat.cast_succ, zpow_natCast]
    gcongr
    exact_mod_cast Nat.lt_log2_self
  have h1 := (Int.zpow_le_iff_le_log (by decide : 1 < 2) hpos).mp (by exact_mod_cast hle)
  have h2 := (Int.lt_zpow_iff_log_lt (by decide : 1 < 2) hpos).mp (by exact_mod_cast hlt)
  omega

/-- A number is its own nearest number. -/
theorem nearestMagnitude_eq_self {m : Nat} {e : ℤ} (hm : 0 < m) (hm' : m < 2 ^ 53)
    (he : -1074 ≤ e) : nearestMagnitude (m * 2 ^ e) = m * 2 ^ e := by
  have hlast : lastPlace (m * 2 ^ e) ≤ e := by
    have hlog : m.log2 < 53 := (Nat.log2_lt hm.ne').mpr hm'
    rw [lastPlace, log_magnitude hm]
    omega
  have hwhole : (m * 2 ^ e : ℚ) / 2 ^ lastPlace (m * 2 ^ e) =
      ((m * 2 ^ (e - lastPlace (m * 2 ^ e)).toNat : ℤ) : ℚ) := by
    rw [mul_div_assoc, ← zpow_sub₀ (by decide)]
    push_cast
    rw [← zpow_natCast, Int.toNat_of_nonneg (by omega)]
  unfold nearestMagnitude
  rw [hwhole, halfEven_intCast, ← hwhole, div_mul_cancel₀ _ (by positivity)]

/-! ## nearest numbers -/

/-- The number nearest to `q`, if no number were too large. -/
def nearest (q : ℚ) : ℚ := if q < 0 then -nearestMagnitude (-q) else nearestMagnitude q

/-- Rounding to nearest does not see the sign. -/
theorem nearest_neg (q : ℚ) : nearest (-q) = -nearest q := by
  unfold nearest
  obtain hq | rfl | hq := lt_trichotomy q 0
  · rw [if_neg (by linarith), if_pos hq, neg_neg]
  · simp [nearestMagnitude_zero]
  · rw [if_pos (by linarith), if_neg (by linarith), neg_neg]

theorem nearest_of_nonneg {q : ℚ} (hq : 0 ≤ q) : nearest q = nearestMagnitude q :=
  if_neg (not_lt.mpr hq)

/-- Both signs are rounded alike. -/
theorem nearest_apply (s : Sign) {q : ℚ} (hq : 0 ≤ q) :
    nearest (s.apply 1 * q) = s.apply 1 * nearestMagnitude q := by
  cases s <;> simp [Sign.apply, nearest_neg, nearest_of_nonneg hq]

/-- **Rounding keeps the order.** -/
theorem nearest_mono {p q : ℚ} (h : p ≤ q) : nearest p ≤ nearest q := by
  unfold nearest
  split_ifs with hp hq hq
  · exact neg_le_neg (nearestMagnitude_mono (by linarith) (by linarith))
  · have hlow := nearestMagnitude_nonneg (q := -p) (by linarith)
    have hhigh := nearestMagnitude_nonneg (not_lt.mp hq)
    linarith
  · linarith
  · exact nearestMagnitude_mono (not_lt.mp hp) h

/-- A number is its own nearest number. -/
theorem nearest_place {u : UnpackedFloat} (hu : Canonical u) (hfin : u.isFinite = true) :
    nearest (place u) = place u := by
  cases u with
  | notANumber => contradiction
  | infinity s => contradiction
  | zero s => exact (nearest_of_nonneg le_rfl).trans nearestMagnitude_zero
  | finite s m e hm =>
      rw [place_finite, nearest_apply s (by positivity), nearestMagnitude_eq_self hm hu.1 hu.2.1]

/-! ## cut at the limit -/

/-- What is too large is cut at the limit. -/
def cut (q : ℚ) : ℚ := max (-limit) (min q limit)

theorem cut_mono {p q : ℚ} (h : p ≤ q) : cut p ≤ cut q := max_le_max le_rfl (min_le_min h le_rfl)

theorem cut_of_abs_le {q : ℚ} (h : |q| ≤ limit) : cut q = q := by
  obtain ⟨hlow, hhigh⟩ := abs_le.mp h
  rw [cut, min_eq_left hhigh, max_eq_right hlow]

/-- Beyond it the limit is left, with the sign. -/
theorem cut_apply (s : Sign) {q : ℚ} (h : limit ≤ q) : cut (s.apply 1 * q) = s.apply 1 * limit := by
  have hlimit := limit_pos
  cases s with
  | positive =>
      rw [apply_positive, Int.cast_one, one_mul, one_mul, cut, min_eq_right h,
        max_eq_right (by linarith)]
  | negative =>
      rw [apply_negative, Int.cast_neg, Int.cast_one, neg_one_mul, neg_one_mul, cut,
        min_eq_left (by linarith), max_eq_left (by linarith)]

end Playbook.Number
