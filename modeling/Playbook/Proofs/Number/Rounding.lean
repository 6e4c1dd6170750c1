import Playbook.Proofs.Number.Nearest
import Playbook.Proofs.Number.Value

/-!
# Playbook.Proofs.Number.Rounding

Sums and products of numbers are rounded: each is the number nearest to the sum
or the product of the places, cut at the limit (`place_add`, `place_mul`).

The operations shift a mantissa to the right and remember two bits of what is
lost.  What these bits tell (`Tells`) is kept by each shift and is enough to
round; where rounding makes the mantissa one bit too wide, it is shifted once
more, and nothing is lost then (`carry_spec`).

From there the order of computed numbers is the order of rational numbers
(`le_add_self`, `mul_nonneg_of_pos`).
-/

namespace Playbook.Number

open Float.Model Float.Model.UnpackedFloat

/-! ## mantissas with two more bits -/

/-- The number that a mantissa and its two residual bits tell something about: the
first bit stands for a half, and the second one for anything below it. -/
def Tells (em : ExtendedMantissa) (q : ℚ) : Prop :=
  match em.roundBit, em.stickyBit with
  | false, false => q = em.mantissa
  | false, true => em.mantissa < q ∧ q < em.mantissa + 1 / 2
  | true, false => q = em.mantissa + 1 / 2
  | true, true => em.mantissa + 1 / 2 < q ∧ q < em.mantissa + 1

namespace Tells

theorem floor_eq {em : ExtendedMantissa} {q : ℚ} (h : Tells em q) : ⌊q⌋ = em.mantissa := by
  obtain ⟨m, r, s⟩ := em
  rw [Int.floor_eq_iff]
  push_cast
  cases r <;> cases s <;> simp only [Tells] at h <;> constructor <;> linarith

/-- The two bits are enough to round. -/
theorem roundedMantissa {em : ExtendedMantissa} {q : ℚ} (h : Tells em q) :
    (em.roundedMantissa : ℤ) = halfEven q := by
  have hfloor := h.floor_eq
  have hfract : Int.fract q = q - em.mantissa := by
    rw [Int.fract, hfloor, Int.cast_natCast]
  rw [halfEven, hfract, hfloor]
  obtain ⟨m, r, s⟩ := em
  cases r <;> cases s <;> simp only [Tells] at h
  · rw [if_pos (by linarith)]
    rfl
  · rw [if_pos (by linarith)]
    rfl
  · rw [if_neg (by linarith), if_neg (by linarith)]
    rfl
  · rw [if_neg (by linarith), if_pos (by linarith)]
    rfl

/-- One more bit behind halves the value; what falls off is remembered. -/
theorem shiftRightOne {em : ExtendedMantissa} {q : ℚ} (h : Tells em q) :
    Tells em.shiftRightOne (q / 2) := by
  obtain ⟨m, r, s⟩ := em
  have hdiv : (m : ℚ) = 2 * (m / 2 : ℕ) + (m % 2 : ℕ) := by
    exact_mod_cast (Nat.div_add_mod m 2).symm
  obtain hm | hm := Nat.mod_two_eq_zero_or_one m
  · rw [hm] at hdiv
    cases r <;> cases s <;>
      simp [Tells, ExtendedMantissa.shiftRightOne, hm] at h ⊢ <;> grind
  · rw [hm] at hdiv
    cases r <;> cases s <;>
      simp [Tells, ExtendedMantissa.shiftRightOne, hm] at h ⊢ <;> grind

theorem shiftRight {em : ExtendedMantissa} {q : ℚ} (h : Tells em q) (k : Nat) :
    Tells (em >>> k) (q / 2 ^ k) := by
  change Tells (k.repeat ExtendedMantissa.shiftRightOne em) _
  induction k with
  | zero => simpa [Nat.repeat] using h
  | succ k ih =>
      rw [Nat.repeat, pow_succ, ← div_div]
      exact ih.shiftRightOne

end Tells

/-! ## rounding -/

/-- Parts that are the number nearest to `q`. -/
structure IsNearest (u : UnpackedFloat) (q : ℚ) : Prop where
  isNumber : u ≠ .notANumber
  canonical : Canonical u
  place_eq : place u = nearest q

/-- The exponent that rounding aims at is that of the last place. -/
theorem targetExponent_eq {m : Nat} (hm : 0 < m) (e : ℤ) :
    Format.binary64.targetExponent (totalExponent m e) = lastPlace (m * 2 ^ e) := by
  have hmin : Format.binary64.minExponent = -1074 := rfl
  have hbits : Format.binary64.mantissaBits = 53 := rfl
  rw [Format.targetExponent, totalExponent, lastPlace, log_magnitude hm, hmin, hbits]
  push_cast
  omega

/-- Cutting a number off behind some place above its last one leaves its size alone. -/
theorem targetExponent_of_floor {q : ℚ} {m : Nat} {e : ℤ} (hq : 0 < q)
    (hfloor : ⌊q / 2 ^ e⌋ = m) (he : e ≤ lastPlace q) :
    Format.binary64.targetExponent (totalExponent m e) = lastPlace q := by
  obtain ⟨hle, hlt⟩ := Int.floor_eq_iff.mp hfloor
  rw [le_div_iff₀ (by positivity), Int.cast_natCast] at hle
  rw [div_lt_iff₀ (by positivity), Int.cast_natCast] at hlt
  have hmin : Format.binary64.minExponent = -1074 := rfl
  have hbits : Format.binary64.mantissaBits = 53 := rfl
  rw [Format.targetExponent, totalExponent, hmin, hbits]
  unfold lastPlace at he ⊢
  obtain rfl | hm := m.eq_zero_or_pos
  · -- nothing is left of a number below the least last place
    have hlog : Int.log 2 q < e := by
      rw [← Int.lt_zpow_iff_log_lt (by decide : 1 < 2) hq]
      simpa using hlt
    rw [Nat.log2_zero]
    push_cast
    omega
  · have hpos : (0 : ℚ) < m * 2 ^ e := by
      have : (0 : ℚ) < m := Nat.cast_pos.mpr hm
      positivity
    have hlow : m.log2 + e ≤ Int.log 2 q := by
      rw [← log_magnitude hm]
      exact Int.log_mono_right hpos hle
    have hhigh : Int.log 2 q < m.log2 + 1 + e := by
      rw [← Int.lt_zpow_iff_log_lt (by decide : 1 < 2) hq]
      calc q < (m + 1) * 2 ^ e := hlt
        _ ≤ (2 : ℕ) ^ (m.log2 + 1 + e : ℤ) := by
            rw [zpow_add₀ (by decide), ← Nat.cast_succ, ← Nat.cast_succ, zpow_natCast]
            push_cast
            gcongr
            exact_mod_cast Nat.lt_log2_self (n := m)
    push_cast
    omega

/-- A mantissa that is not too wide is left alone. -/
theorem shiftToTargetExponent_of_lt {m : Nat} {e : ℤ} (hm : m < 2 ^ 53) (he : -1074 ≤ e) :
    shiftToTargetExponent Format.binary64 m e .exact = (⟨m, false, false⟩, e) := by
  have hlog : m.log2 < 53 := by
    by_cases hzero : m = 0
    · rw [hzero]
      decide
    · exact (Nat.log2_lt hzero).mpr hm
  have hmin : Format.binary64.minExponent = -1074 := rfl
  have hbits : Format.binary64.mantissaBits = 53 := rfl
  have htarget : (Format.binary64.targetExponent (totalExponent m e) - e).toNat = 0 := by
    rw [Format.targetExponent, totalExponent, hmin, hbits]
    push_cast
    omega
  rw [shiftToTargetExponent, shiftToExponent, htarget, Nat.cast_zero, add_zero]
  rfl

/-- A mantissa that rounding made one bit too wide is a power of two. -/
theorem shiftToTargetExponent_carry {e : ℤ} (he : -1074 ≤ e) :
    shiftToTargetExponent Format.binary64 (2 ^ 53) e .exact =
      (⟨2 ^ 52, false, false⟩, e + 1) := by
  have h := shiftToTargetExponent_full 1 (m := 2 ^ 52) (e := e + 1) le_rfl (by decide) (by omega)
  rwa [Nat.cast_one, add_sub_cancel_right] at h

/-- The number with a mantissa and an exponent. -/
def ofMantissa (s : Sign) (m : Nat) (e : ℤ) : UnpackedFloat :=
  if h : m = 0 then .zero s else .finite s m e (Nat.pos_of_ne_zero h)

/-- A mantissa with an exponent is at their product. -/
theorem place_ofMantissa (s : Sign) (m : Nat) (e : ℤ) :
    place (ofMantissa s m e) = s.apply 1 * (m * 2 ^ e) := by
  unfold ofMantissa
  split
  · next h => simp [place, h]
  · exact place_finite ..

/-- The number with a rounded mantissa, which may have become one bit too wide. -/
def carry (s : Sign) (m : Nat) (e : ℤ) : UnpackedFloat :=
  let shifted := shiftToTargetExponent Format.binary64 m e .exact
  ofMantissa s shifted.1.mantissa shifted.2

/-- It is canonical if it is full, or if its exponent is the least one. -/
theorem canonical_ofMantissa (s : Sign) {m : Nat} {e : ℤ} (hm : m < 2 ^ 53) (he : -1074 ≤ e)
    (hwide : 2 ^ 52 ≤ m ∨ e = -1074) : Canonical (ofMantissa s m e) := by
  unfold ofMantissa
  split
  · trivial
  · exact ⟨hm, he, hwide⟩

theorem ofMantissa_ne (s : Sign) (m : Nat) (e : ℤ) : ofMantissa s m e ≠ .notANumber := by
  unfold ofMantissa
  split <;> exact nofun

/-- A mantissa that has become a power of two is written with the next exponent, at the same
place. -/
theorem carry_spec (s : Sign) {m : Nat} {e : ℤ} (hm : m ≤ 2 ^ 53) (he : -1074 ≤ e)
    (hwide : 2 ^ 52 ≤ m ∨ e = -1074) :
    Canonical (carry s m e) ∧ place (carry s m e) = s.apply 1 * (m * 2 ^ e) := by
  unfold carry
  obtain hlt | rfl := hm.lt_or_eq
  · rw [shiftToTargetExponent_of_lt hlt he, place_ofMantissa]
    exact ⟨canonical_ofMantissa s hlt he hwide, rfl⟩
  · rw [shiftToTargetExponent_carry he, place_ofMantissa]
    refine ⟨canonical_ofMantissa s (by norm_num) (by omega) (.inl le_rfl), ?_⟩
    rw [zpow_add_one₀ (by decide)]
    push_cast
    ring

/-- The first rounded mantissa, before it is carried. -/
theorem roundWithAccuracy_eq_carry (s : Sign) {m : Nat} {e : ℤ} {a : Accuracy} {q : ℚ}
    (hq : 0 < q) (htells : Tells (.ofMantissaAndAccuracy m a) (q / 2 ^ e)) (he : e ≤ lastPlace q) :
    roundWithAccuracy Format.binary64 s m e a =
      carry s (halfEven (q / 2 ^ lastPlace q)).toNat (lastPlace q) := by
  have hmantissa : (ExtendedMantissa.ofMantissaAndAccuracy m a).mantissa = m := by
    unfold ExtendedMantissa.ofMantissaAndAccuracy
    split <;> rfl
  have htarget := targetExponent_of_floor hq (htells.floor_eq.trans (by rw [hmantissa])) he
  generalize lastPlace q = t at he htarget
  have hquot : q / 2 ^ e / 2 ^ (t - e).toNat = q / 2 ^ t := by
    rw [← zpow_natCast, Int.toNat_of_nonneg (by omega), div_div, ← zpow_add₀ (by decide),
      add_sub_cancel]
  have hround := (htells.shiftRight (t - e).toNat).roundedMantissa
  rw [hquot] at hround
  have hshift : shiftToTargetExponent Format.binary64 m e a =
      (ExtendedMantissa.ofMantissaAndAccuracy m a >>> (t - e).toNat, t) := by
    rw [shiftToTargetExponent, htarget, shiftToExponent, Int.toNat_of_nonneg (by omega),
      add_sub_cancel]
  rw [← hround, Int.toNat_natCast]
  change carry s (shiftToTargetExponent Format.binary64 m e a).1.roundedMantissa
    (shiftToTargetExponent Format.binary64 m e a).2 = _
  rw [hshift]

/-- Rounding gives the nearest number of what a mantissa and an accuracy tell. -/
theorem isNearest_roundWithAccuracy (s : Sign) {m : Nat} {e : ℤ} {a : Accuracy} {q : ℚ}
    (hq : 0 < q) (htells : Tells (.ofMantissaAndAccuracy m a) (q / 2 ^ e)) (he : e ≤ lastPlace q) :
    IsNearest (roundWithAccuracy Format.binary64 s m e a) (s.apply 1 * q) := by
  rw [roundWithAccuracy_eq_carry s hq htells he]
  obtain ⟨r, hr⟩ := Int.eq_ofNat_of_zero_le (halfEven_div_lastPlace_nonneg hq.le)
  have hle := halfEven_div_lastPlace_le q
  have hwide := le_halfEven_div_lastPlace hq
  rw [hr] at hle hwide
  have hcarry := carry_spec s (m := r) (by omega) (le_max_right (Int.log 2 q - 52) _)
    (hwide.imp_left (by omega))
  constructor
  case isNumber => exact ofMantissa_ne _ _ _
  case canonical =>
    rw [hr]
    exact hcarry.1
  case place_eq =>
    rw [nearest_apply s hq.le, nearestMagnitude, hr]
    exact hcarry.2

/-- A mantissa that is exact tells where it lies. -/
theorem isNearest_roundExact (s : Sign) {m : Nat} {e : ℤ} (hm : 0 < m)
    (he : e ≤ lastPlace (m * 2 ^ e)) :
    IsNearest (roundWithAccuracy Format.binary64 s m e .exact) (s.apply 1 * (m * 2 ^ e)) := by
  have hpos : (0 : ℚ) < m * 2 ^ e := by
    have : (0 : ℚ) < m := Nat.cast_pos.mpr hm
    positivity
  refine isNearest_roundWithAccuracy s hpos ?_ he
  rw [mul_div_cancel_right₀ _ (by positivity)]
  rfl

/-- A mantissa with more places stands for the same number. -/
theorem shiftLeft_mul (m k : Nat) (e : ℤ) : ((m <<< k : ℕ) * 2 ^ (e - k) : ℚ) = m * 2 ^ e := by
  rw [Nat.shiftLeft_eq, zpow_sub₀ (by decide)]
  push_cast
  rw [zpow_natCast]
  field_simp

/-- However long or short the mantissa is. -/
theorem isNearest_round (s : Sign) {m : Nat} (hm : 0 < m) (e : ℤ) :
    IsNearest (UnpackedFloat.round Format.binary64 s m e) (s.apply 1 * (m * 2 ^ e)) := by
  generalize hk : (e - lastPlace (m * 2 ^ e)).toNat = k
  have hvalue := shiftLeft_mul m k e
  have hround : UnpackedFloat.round Format.binary64 s m e =
      roundWithAccuracy Format.binary64 s (m <<< k) (e - k) .exact := by
    rw [UnpackedFloat.round, targetExponent_eq hm, decreaseExponent, hk]
  have h := isNearest_roundExact s (m := m <<< k) (e := e - k)
    (by rw [Nat.shiftLeft_eq]; positivity) (by rw [hvalue]; omega)
  rwa [hvalue, ← hround] at h

/-- An integer times a power of two is rounded to nearest. -/
theorem isNearest_normalize (m e : ℤ) (s : Sign) :
    IsNearest (UnpackedFloat.normalize Format.binary64 m e s) (m * 2 ^ e) := by
  unfold UnpackedFloat.normalize
  obtain hm | rfl | hm := Int.lt_trichotomy m 0
  · rw [Int.compare_eq_lt.mpr hm]
    have hcast : ((-m).toNat : ℚ) = -m := by
      exact_mod_cast congrArg (Int.cast (R := ℚ)) (Int.toNat_of_nonneg (by omega : 0 ≤ -m))
    have h := isNearest_round .negative (m := (-m).toNat) (by omega) e
    rw [hcast] at h
    simpa [Sign.apply] using h
  · refine ⟨by simp, trivial, ?_⟩
    simp [place, nearest_of_nonneg, nearestMagnitude_zero]
  · rw [Int.compare_eq_gt.mpr hm]
    have hcast : (m.toNat : ℚ) = m := by
      exact_mod_cast congrArg (Int.cast (R := ℚ)) (Int.toNat_of_nonneg hm.le)
    have h := isNearest_round .positive (m := m.toNat) (by omega) e
    rw [hcast] at h
    simpa [Sign.apply] using h

/-! ## sums and products -/

/-- A number is the nearest to its own place. -/
theorem isNearest_self {u : UnpackedFloat} (hu : Canonical u) (hfin : u.isFinite = true) :
    IsNearest u (place u) := by
  refine ⟨?_, hu, (nearest_place hu hfin).symm⟩
  rintro rfl
  contradiction

/-- A smaller exponent with a longer mantissa is the same number. -/
theorem apply_decreaseExponent (s : Sign) (m : Nat) {e f : ℤ} (h : f ≤ e) :
    (s.apply (decreaseExponent m e f).1 * 2 ^ f : ℚ) = s.apply m * 2 ^ e := by
  have hvalue := shiftLeft_mul m (e - f).toNat e
  rw [Int.toNat_of_nonneg (by omega), sub_sub_cancel] at hvalue
  rw [apply_natCast, apply_natCast, mul_assoc, mul_assoc, decreaseExponent, hvalue]

/-- A sum is the exact one, rounded to nearest. -/
theorem isNearest_add {u v : UnpackedFloat} (hu : Canonical u) (hv : Canonical v)
    (hu' : u.isFinite = true) (hv' : v.isFinite = true) :
    IsNearest (.add Format.binary64 u v) (place u + place v) := by
  cases u with
  | notANumber => contradiction
  | infinity s => contradiction
  | zero s =>
      cases v with
      | notANumber => contradiction
      | infinity t => contradiction
      | zero t =>
          have h (r : Sign) : IsNearest (.zero r) (place (.zero s) + place (.zero t)) := by
            simpa [place] using isNearest_self (u := .zero r) trivial rfl
          simp only [UnpackedFloat.add]
          split <;> exact h _
      | finite t n f hn => simpa [place, UnpackedFloat.add] using isNearest_self hv hv'
  | finite s m e hm =>
      cases v with
      | notANumber => contradiction
      | infinity t => contradiction
      | zero t => simpa [place, UnpackedFloat.add] using isNearest_self hu hu'
      | finite t n f hn =>
          have h := isNearest_normalize
            (s.apply (decreaseExponent m e (min e f)).1 +
              t.apply (decreaseExponent n f (min e f)).1) (min e f) .positive
          push_cast at h
          rwa [add_mul, apply_decreaseExponent s m (min_le_left e f),
            apply_decreaseExponent t n (min_le_right e f)] at h

/-- The product of two mantissas is wide enough to round it. -/
theorem add_le_lastPlace_mul {s t : Sign} {m n : Nat} {e f : ℤ} {hm : 0 < m} {hn : 0 < n}
    (hu : Canonical (.finite s m e hm)) (hv : Canonical (.finite t n f hn)) :
    e + f ≤ lastPlace ((m * n : ℕ) * 2 ^ (e + f)) := by
  obtain ⟨-, he, hwide⟩ := hu
  obtain ⟨-, hf, hwide'⟩ := hv
  rw [lastPlace, log_magnitude (Nat.mul_pos hm hn)]
  by_cases h : 2 ^ 52 ≤ m * n
  · have hlog : 52 ≤ (m * n).log2 := (Nat.le_log2 (Nat.mul_pos hm hn).ne').mpr h
    omega
  · have hm' : ¬2 ^ 52 ≤ m := fun hle => h (hle.trans (Nat.le_mul_of_pos_right m hn))
    have hn' : ¬2 ^ 52 ≤ n := fun hle => h (hle.trans (Nat.le_mul_of_pos_left n hm))
    have := hwide.resolve_left hm'
    have := hwide'.resolve_left hn'
    omega

theorem apply_mul (s t : Sign) : (s * t).apply 1 = s.apply 1 * t.apply 1 := by
  cases s <;> cases t <;> rfl

theorem isNearest_mul {u v : UnpackedFloat} (hu : Canonical u) (hv : Canonical v)
    (hu' : u.isFinite = true) (hv' : v.isFinite = true) :
    IsNearest (.mul Format.binary64 u v) (place u * place v) := by
  have hzero (r : Sign) : IsNearest (.zero r) 0 := isNearest_self (u := .zero r) trivial rfl
  cases u with
  | notANumber => contradiction
  | infinity s => contradiction
  | zero s =>
      cases v with
      | notANumber => contradiction
      | infinity t => contradiction
      | _ => simpa [place, UnpackedFloat.mul] using hzero _
  | finite s m e hm =>
      cases v with
      | notANumber => contradiction
      | infinity t => contradiction
      | zero t => simpa [place, UnpackedFloat.mul] using hzero _
      | finite t n f hn =>
          have h := isNearest_roundExact (s * t) (Nat.mul_pos hm hn)
            (add_le_lastPlace_mul hu hv)
          have hvalue : ((s * t).apply 1 * ((m * n : ℕ) * 2 ^ (e + f)) : ℚ) =
              place (.finite s m e hm) * place (.finite t n f hn) := by
            rw [place_finite, place_finite, apply_mul, zpow_add₀ (by decide)]
            push_cast
            ring
          rwa [hvalue] at h

/-! ## packed results -/

/-- No number is beyond the limit. -/
theorem abs_place_le {u : UnpackedFloat} (hu : Canonical u) (hu' : InRange u) :
    |place u| ≤ limit := by
  have habs (s : Sign) (q : ℚ) : |s.apply 1 * q| = |q| := by
    cases s <;> simp [Sign.apply]
  have hlimit := limit_pos
  cases u with
  | notANumber => simpa [place] using hlimit.le
  | zero s => simpa [place] using hlimit.le
  | infinity s => rw [place, habs, abs_of_pos hlimit]
  | finite s m e hm =>
      obtain ⟨hpos, hlt⟩ := magnitude_bounds hu hu'
      rw [place_finite, habs, abs_of_pos hpos]
      exact hlt.le

/-- Packing cuts what is too large. -/
theorem place_parts_ofParts {u : UnpackedFloat} (hu : Canonical u) (hne : u ≠ .notANumber) :
    parts (ofParts u) ≠ .notANumber ∧ place (parts (ofParts u)) = cut (place u) := by
  by_cases hrange : InRange u
  · rw [parts_ofParts hu hrange, cut_of_abs_le (abs_place_le hu hrange)]
    exact ⟨hne, rfl⟩
  · cases u with
    | notANumber => contradiction
    | zero s => exact absurd trivial hrange
    | infinity s => exact absurd trivial hrange
    | finite s m e hm =>
        have he : 971 < e := not_le.mp hrange
        have hwide : 2 ^ 52 ≤ m := hu.2.2.resolve_right (by omega)
        have hlarge : limit ≤ m * 2 ^ e := by
          calc limit = 2 ^ 52 * 2 ^ (972 : ℤ) := by
                rw [limit, ← zpow_natCast, ← zpow_add₀ (by decide)]
                rfl
            _ ≤ m * 2 ^ e := by
                gcongr
                · exact_mod_cast hwide
                · decide
                · omega
        rw [parts_ofParts_finite_of_lt s m hm he, place_finite, cut_apply s hlarge]
        exact ⟨by simp, rfl⟩

/-- A number with rounded parts. -/
theorem IsNearest.place_ofParts {u : UnpackedFloat} {q : ℚ} (h : IsNearest u q) :
    parts (ofParts u) ≠ .notANumber ∧ place (parts (ofParts u)) = cut (nearest q) := by
  rw [← h.place_eq]
  exact place_parts_ofParts h.canonical h.isNumber

section numbers

variable {x y : Float}

/-- **Sums are rounded**: the sum of two numbers is the number nearest to the sum of
their places, cut at the limits. -/
theorem place_add (hx : x.isFinite = true) (hy : y.isFinite = true) :
    parts (x + y) ≠ .notANumber ∧
      place (parts (x + y)) = cut (nearest (place (parts x) + place (parts y))) :=
  (isNearest_add (canonical_parts x) (canonical_parts y) hx hy).place_ofParts

/-- A product of finite numbers is at the exact product, rounded and cut off. -/
theorem place_mul (hx : x.isFinite = true) (hy : y.isFinite = true) :
    parts (x * y) ≠ .notANumber ∧
      place (parts (x * y)) = cut (nearest (place (parts x) * place (parts y))) :=
  (isNearest_mul (canonical_parts x) (canonical_parts y) hx hy).place_ofParts

/-- A finite number is its own nearest number. -/
theorem cut_nearest_place (hx : x.isFinite = true) :
    cut (nearest (place (parts x))) = place (parts x) := by
  rw [nearest_place (canonical_parts x) hx,
    cut_of_abs_le (abs_place_le (canonical_parts x) (inRange_parts x))]

/-- What is not negative is at such a place; negative zero is one of these. -/
theorem nonneg_iff : 0.0 ≤ x ↔ parts x ≠ .notANumber ∧ 0 ≤ place (parts x) := by
  have hzero : parts 0.0 = .zero .positive := by rfl
  rw [le_iff_place, hzero]
  exact and_iff_right nofun

/-- A number that is not below zero and not finite is the positive infinity. -/
theorem parts_eq_infinity (hx : 0.0 ≤ x) (hinf : ¬x.isFinite = true) :
    parts x = .infinity .positive := by
  obtain ⟨hne, hplace⟩ := nonneg_iff.mp hx
  rw [isFinite_eq] at hinf
  cases hparts : parts x with
  | notANumber => exact absurd hparts hne
  | zero s => simp [hparts, UnpackedFloat.isFinite] at hinf
  | finite s m e hm => simp [hparts, UnpackedFloat.isFinite] at hinf
  | infinity s =>
      cases s with
      | positive => rfl
      | negative =>
          rw [hparts, place, apply_negative, Int.cast_neg, Int.cast_one] at hplace
          have hlimit := limit_pos
          linarith

/-- What is added to a number makes it larger, unless it is below zero. -/
theorem le_add_self (hx : x.isFinite = true) (hy : 0.0 ≤ y) : x ≤ x + y := by
  rw [le_iff_place]
  refine ⟨isFinite_ne hx, ?_⟩
  by_cases hfin : y.isFinite = true
  · obtain ⟨-, hnonneg⟩ := nonneg_iff.mp hy
    obtain ⟨hne, hplace⟩ := place_add hx hfin
    refine ⟨hne, ?_⟩
    rw [hplace, ← cut_nearest_place hx]
    exact cut_mono (nearest_mono (by rw [cut_nearest_place hx]; linarith))
  · have hsum : parts (x + y) = .infinity .positive := by
      have hadd : UnpackedFloat.add Format.binary64 (parts x) (.infinity .positive) =
          .infinity .positive := by
        rw [isFinite_eq] at hx
        cases hparts : parts x with
        | notANumber => simp [hparts, UnpackedFloat.isFinite] at hx
        | infinity s => simp [hparts, UnpackedFloat.isFinite] at hx
        | _ => rfl
      rw [add_eq, parts_eq_infinity hy hfin, hadd]
      rfl
    rw [hsum]
    refine ⟨nofun, ?_⟩
    have hle := (abs_le.mp (abs_place_le (canonical_parts x) (inRange_parts x))).2
    simpa [place, Sign.apply] using hle

/-- Products do not depend on the order of their factors. -/
theorem mul_comm_parts (f : Format) (u v : UnpackedFloat) :
    UnpackedFloat.mul f u v = UnpackedFloat.mul f v u := by
  have hsign (s t : Sign) : s * t = t * s := by cases s <;> cases t <;> rfl
  cases u <;> cases v <;>
    simp only [UnpackedFloat.mul, hsign, Nat.mul_comm, Int.add_comm]

theorem mul_swap (x y : Float) : x * y = y * x := by
  rw [mul_eq, mul_eq, mul_comm_parts]

/-- The parts of a positive number. -/
theorem sign_eq_positive {s : Sign} {m : Nat} {e : ℤ} {hm : 0 < m}
    (hpos : 0 < place (.finite s m e hm)) : s = .positive := by
  cases s with
  | positive => rfl
  | negative =>
      have hvalue : (0 : ℚ) ≤ m * 2 ^ e := by positivity
      rw [place_finite, apply_negative, Int.cast_neg, Int.cast_one] at hpos
      linarith

/-- A product with a positive number is not below zero, unless the other factor is. -/
theorem mul_nonneg_of_pos (hx : 0.0 < x) (hx' : x.isFinite = true) (hy : 0.0 ≤ y) :
    0.0 ≤ x * y := by
  have hzero : parts 0.0 = .zero .positive := by rfl
  obtain ⟨-, -, hpos⟩ := lt_iff_place.mp hx
  rw [hzero] at hpos
  change 0 < place (parts x) at hpos
  rw [nonneg_iff]
  by_cases hfin : y.isFinite = true
  · obtain ⟨-, hnonneg⟩ := nonneg_iff.mp hy
    obtain ⟨hne, hplace⟩ := place_mul hx' hfin
    refine ⟨hne, ?_⟩
    calc (0 : ℚ) = cut (nearest 0) := by
          rw [nearest_of_nonneg le_rfl, nearestMagnitude_zero,
            cut_of_abs_le (by rw [abs_zero]; exact limit_pos.le)]
      _ ≤ cut (nearest (place (parts x) * place (parts y))) :=
          cut_mono (nearest_mono (mul_nonneg hpos.le hnonneg))
      _ = place (parts (x * y)) := hplace.symm
  · have hproduct : parts (x * y) = .infinity .positive := by
      rw [mul_eq, parts_eq_infinity hy hfin]
      rw [isFinite_eq] at hx'
      cases hparts : parts x with
      | notANumber => simp [hparts, UnpackedFloat.isFinite] at hx'
      | infinity s => simp [hparts, UnpackedFloat.isFinite] at hx'
      | zero s =>
          rw [hparts] at hpos
          exact absurd hpos (lt_irrefl 0)
      | finite s m e hm =>
          rw [hparts] at hpos
          rw [sign_eq_positive hpos]
          change parts (ofParts (.infinity .positive)) = _
          rfl
    rw [hproduct]
    exact ⟨nofun, by simpa [place, Sign.apply] using limit_pos.le⟩

end numbers

end Playbook.Number
