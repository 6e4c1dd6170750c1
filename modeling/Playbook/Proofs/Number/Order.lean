import Playbook.Proofs.Number.Decimal

/-!
# Playbook.Proofs.Number.Order

Operations on binary64 numbers that keep the order.  Rounding keeps it, so an
operation keeps it if its exact counterpart does; and infinite operands fit in
at the ends, as long as an operation answers infinity with infinity.

`Rounds f g` says this once about an operation: it is `g`, rounded once, and keeps
the positive infinity.  Products, quotients and sums with a constant are of this
form, and whole parts are cut to a range after that (`floorWithin_mono`).
-/

namespace Playbook.Number

open Float.Model Float.Model.UnpackedFloat

/-! ## signs -/

theorem place_neg_parts (u : UnpackedFloat) : place u.neg = -place u := by
  cases u with
  | notANumber => exact neg_zero.symm
  | zero s => exact neg_zero.symm
  | infinity s => cases s <;> simp [place, UnpackedFloat.neg, apply_neg]
  | finite s m e hm => cases s <;> simp [place, UnpackedFloat.neg, apply_neg]

theorem place_neg (x : Float) : place (parts (-x)) = -place (parts x) := by
  rw [parts_neg, place_neg_parts]

theorem parts_abs (x : Float) : parts x.abs = (parts x).abs := by
  have hcanonical := canonical_parts x
  have hrange := inRange_parts x
  rw [abs_eq]
  cases hparts : parts x with
  | finite s m e hm =>
      rw [hparts] at hcanonical hrange
      exact parts_ofParts hcanonical hrange
  | _ => exact parts_ofParts trivial trivial

theorem place_abs (x : Float) : place (parts x.abs) = |place (parts x)| := by
  have hlimit := limit_pos
  rw [parts_abs]
  cases parts x with
  | notANumber => simp [place, UnpackedFloat.abs]
  | zero s => simp [place, UnpackedFloat.abs]
  | infinity s => cases s <;> simp [place, UnpackedFloat.abs, Sign.apply, abs_of_pos hlimit]
  | finite s m e hm =>
      cases s <;> simp [place, UnpackedFloat.abs, Sign.apply, abs_mul, abs_zpow]

/-- A magnitude is not below zero. -/
theorem abs_nonneg_number {x : Float} (hx : x.isNaN = false) : 0.0 ≤ x.abs := by
  rw [isNaN_eq_false_iff] at hx
  rw [nonneg_iff, place_abs]
  refine ⟨?_, abs_nonneg _⟩
  rw [parts_abs]
  cases hparts : parts x with
  | notANumber => exact absurd hparts hx
  | _ => nofun

section numbers

variable {x y c : Float}

theorem pos_iff : 0.0 < x ↔ parts x ≠ .notANumber ∧ 0 < place (parts x) := by
  have hzero : parts 0.0 = .zero .positive := by rfl
  rw [lt_iff_place, hzero]
  exact and_iff_right nofun

/-- Of two numbers, one is below the other one unless that is not above it. -/
theorem not_le_iff_lt (hx : x.isNaN = false) (hy : y.isNaN = false) : ¬y ≤ x ↔ x < y := by
  rw [isNaN_eq_false_iff] at hx hy
  simp only [lt_iff_place, le_iff_place, ne_eq, hx, hy, not_false_eq_true, true_and, not_le]

/-- Comparing for equality does not depend on the order. -/
theorem beq_swap (x y : Float) : (x == y) = (y == x) := by
  rw [Bool.eq_iff_iff, beq_iff_place, beq_iff_place]
  tauto

/-- The strict order in terms of the two tests that the program makes. -/
theorem lt_iff_le_and_not_beq : x < y ↔ x ≤ y ∧ ¬(x == y) = true := by
  rw [lt_iff_place, le_iff_place, beq_iff_place, lt_iff_le_and_ne]
  tauto

/-- Finite numbers lie below the limit. -/
theorem abs_place_lt (hx : x.isFinite = true) : |place (parts x)| < limit := by
  rw [← place_abs, parts_abs]
  rw [isFinite_eq] at hx
  have hcanonical := canonical_parts x
  have hrange := inRange_parts x
  cases hparts : parts x with
  | notANumber => exact (by rw [hparts] at hx; contradiction)
  | infinity s => exact (by rw [hparts] at hx; contradiction)
  | zero s => exact limit_pos
  | finite s m e hm =>
      rw [hparts] at hcanonical hrange
      simpa [place, UnpackedFloat.abs, Sign.apply] using (magnitude_bounds hcanonical hrange).2

/-- What is not above a finite number is finite, unless it is below zero. -/
theorem isFinite_of_le (hx : 0.0 ≤ x) (h : x ≤ y) (hy : y.isFinite = true) :
    x.isFinite = true := by
  obtain ⟨hne, -, hle⟩ := le_iff_place.mp h
  refine isFinite_of_place hne ?_
  rw [abs_of_nonneg (nonneg_iff.mp hx).2]
  exact hle.trans_lt (lt_of_abs_lt (abs_place_lt hy))

/-- Differences are rounded, like sums. -/
theorem place_sub (hx : x.isFinite = true) (hy : y.isFinite = true) :
    parts (x - y) ≠ .notANumber ∧
      place (parts (x - y)) = cut (nearest (place (parts x) - place (parts y))) := by
  rw [sub_eq_add_negated, sub_eq_add_neg, ← place_neg]
  exact place_add hx ((isFinite_neg y).trans hy)

/-- Rounding and cutting off keep the order: from here on monotony is free. -/
theorem cut_nearest_mono {p q : ℚ} (h : p ≤ q) : cut (nearest p) ≤ cut (nearest q) :=
  cut_mono (nearest_mono h)

theorem cut_nearest_zero : cut (nearest 0) = 0 := by
  exact_mod_cast cut_nearest_natCast (n := 0) (by decide)

/-- The limit as a mantissa with the largest exponent. -/
theorem limit_eq : limit = 2 ^ 53 * 2 ^ (971 : ℤ) := by
  rw [limit, ← zpow_natCast, ← zpow_add₀ (by decide)]
  rfl

/-- Numbers with at most 53 places are not rounded. -/
theorem cut_nearest_mul_zpow {n : Nat} {e : ℤ} (hn : n < 2 ^ 53) (he : -1074 ≤ e) (he' : e ≤ 971) :
    cut (nearest (n * 2 ^ e)) = n * 2 ^ e := by
  have hle : (n * 2 ^ e : ℚ) ≤ limit := by
    rw [limit_eq]
    gcongr
    · exact_mod_cast hn.le
    · decide
  obtain rfl | hpos := n.eq_zero_or_pos
  · rw [Nat.cast_zero, zero_mul, cut_nearest_zero]
  · rw [nearest_of_nonneg (by positivity), nearestMagnitude_eq_self hpos hn he, cut_of_abs_le]
    rwa [abs_of_nonneg (by positivity)]

theorem cut_nearest_nonneg {q : ℚ} (h : 0 ≤ q) : 0 ≤ cut (nearest q) :=
  cut_nearest_zero.symm.trans_le (cut_nearest_mono h)

/-- The difference to what is not larger is not below zero. -/
theorem sub_nonneg_number (hx : x.isFinite = true) (hy : y.isFinite = true) (h : x ≤ y) :
    0.0 ≤ y - x := by
  obtain ⟨hne, hplace⟩ := place_sub hy hx
  obtain ⟨-, -, hle⟩ := le_iff_place.mp h
  exact nonneg_iff.mpr ⟨hne, hplace ▸ cut_nearest_nonneg (sub_nonneg.mpr hle)⟩

theorem cut_neg (q : ℚ) : cut (-q) = -cut q := by
  have hlimit := limit_pos
  unfold cut
  grind

/-- Rounding goes with the absolute value. -/
theorem abs_cut_nearest (q : ℚ) : |cut (nearest q)| = cut (nearest |q|) := by
  obtain hq | hq := le_total 0 q
  · rw [abs_of_nonneg hq, abs_of_nonneg (cut_nearest_nonneg hq)]
  · have h := cut_nearest_nonneg (neg_nonneg.mpr hq)
    rw [abs_of_nonpos hq, ← abs_of_nonneg h, nearest_neg, cut_neg, abs_neg]

/-- Finite numbers are multiples of the least one. -/
theorem exists_place_eq_mul (hx : x.isFinite = true) :
    ∃ k : ℤ, place (parts x) = k * 2 ^ (-1074 : ℤ) := by
  have hcanonical := canonical_parts x
  rw [isFinite_eq] at hx
  cases hparts : parts x with
  | notANumber => exact (by rw [hparts] at hx; contradiction)
  | infinity s => exact (by rw [hparts] at hx; contradiction)
  | zero s => exact ⟨0, by simp [place]⟩
  | finite s m e hm =>
      rw [hparts] at hcanonical
      obtain ⟨k, hk⟩ := Int.eq_ofNat_of_zero_le (by linarith [hcanonical.2.1] : 0 ≤ e + 1074)
      obtain rfl : e = k + -1074 := by omega
      refine ⟨s.apply m * 2 ^ k, ?_⟩
      rw [place, zpow_add₀ (by decide), zpow_natCast, Int.cast_mul, Int.cast_pow, Int.cast_ofNat,
        mul_assoc]

theorem add_swap (x y : Float) : x + y = y + x := by
  rw [add_eq, add_eq, add_comm_parts]

/-- A distance does not depend on which end comes first. -/
theorem abs_sub_swap (x y : Float) : (x - y).abs = (y - x).abs := by
  rw [((negates_neg x).sub (negates_neg y)).abs, negated_sub_negated]

/-- The difference of different numbers is never rounded to zero. -/
theorem sub_pos_number (hx : x.isFinite = true) (hy : y.isFinite = true) (h : x < y) :
    0.0 < y - x := by
  obtain ⟨hne, hplace⟩ := place_sub hy hx
  obtain ⟨-, -, hlt⟩ := lt_iff_place.mp h
  obtain ⟨k, hk⟩ := exists_place_eq_mul hx
  obtain ⟨n, hn⟩ := exists_place_eq_mul hy
  have hkn : k < n := by
    rw [hk, hn, mul_lt_mul_iff_left₀ (by positivity)] at hlt
    exact_mod_cast hlt
  have hone : (1 : ℚ) ≤ n - k := by exact_mod_cast (by omega : 1 ≤ n - k)
  have hleast : cut (nearest (2 ^ (-1074 : ℤ))) = 2 ^ (-1074 : ℤ) := by
    have h := cut_nearest_mul_zpow (n := 1) (e := -1074) (by decide) (by decide) (by decide)
    rwa [Nat.cast_one, one_mul] at h
  rw [pos_iff, hplace, hk, hn, ← sub_mul]
  refine ⟨hne, ?_⟩
  calc (0 : ℚ) < 2 ^ (-1074 : ℤ) := by positivity
    _ = cut (nearest (2 ^ (-1074 : ℤ))) := hleast.symm
    _ ≤ cut (nearest ((n - k) * 2 ^ (-1074 : ℤ))) :=
        cut_nearest_mono (le_mul_of_one_le_left (by positivity) hone)

/-- How far two finite numbers are apart, exactly. -/
def distance (x y : Float) : ℚ := |place (parts x) - place (parts y)|

/-- Distances are rounded, like sums. -/
theorem place_abs_sub (hx : x.isFinite = true) (hy : y.isFinite = true) :
    parts (x - y).abs ≠ .notANumber ∧
      place (parts (x - y).abs) = cut (nearest (distance x y)) := by
  obtain ⟨hne, hplace⟩ := place_sub hx hy
  rw [place_abs, hplace, abs_cut_nearest, distance]
  exact ⟨(nonneg_iff.mp (abs_nonneg_number (isNaN_eq_false_iff.mpr hne))).1, rfl⟩

/-- Different numbers have a distance. -/
theorem abs_sub_pos (hx : x.isFinite = true) (hy : y.isFinite = true) (h : ¬(x == y) = true) :
    0.0 < (x - y).abs := by
  have hpos {u v : Float} (hu : u.isFinite = true) (hv : v.isFinite = true) (huv : u < v) :
      0 < |place (parts (v - u))| :=
    abs_pos_of_pos (pos_iff.mp (sub_pos_number hu hv huv)).2
  have hne := isFinite_ne hx
  have hne' := isFinite_ne hy
  rw [beq_iff_place, and_iff_right hne, and_iff_right hne'] at h
  rw [pos_iff, and_iff_right (place_abs_sub hx hy).1]
  obtain hlt | hlt := lt_or_gt_of_ne h
  · rw [abs_sub_swap, place_abs]
    exact hpos hx hy (lt_iff_place.mpr ⟨hne, hne', hlt⟩)
  · rw [place_abs]
    exact hpos hy hx (lt_iff_place.mpr ⟨hne', hne, hlt⟩)

/-- The order of distances survives rounding. -/
theorem abs_sub_mono {x' y' : Float} (hx : x.isFinite = true) (hy : y.isFinite = true)
    (hx' : x'.isFinite = true) (hy' : y'.isFinite = true) (h : distance x y ≤ distance x' y') :
    (x - y).abs ≤ (x' - y').abs := by
  obtain ⟨hne, hplace⟩ := place_abs_sub hx hy
  obtain ⟨hne', hplace'⟩ := place_abs_sub hx' hy'
  rw [le_iff_place, hplace, hplace']
  exact ⟨hne, hne', cut_nearest_mono h⟩

/-! ## rounded functions -/

/-- An operation on numbers that are not below zero rounds a function once, and it
answers the positive infinity with the positive infinity. -/
structure Rounds (f : Float → Float) (g : ℚ → ℚ) : Prop where
  finite : ∀ {x : Float}, x.isFinite = true → 0.0 ≤ x →
    parts (f x) ≠ .notANumber ∧ place (parts (f x)) = cut (nearest (g (place (parts x))))
  infinite : ∀ {x : Float}, parts x = .infinity .positive → parts (f x) = .infinity .positive

namespace Rounds

variable {f : Float → Float} {g : ℚ → ℚ}

/-- Whatever it answers is a number. -/
theorem isNumber (hf : Rounds f g) (hx : 0.0 ≤ x) : parts (f x) ≠ .notANumber := by
  by_cases hfin : x.isFinite = true
  · exact (hf.finite hfin hx).1
  · rw [hf.infinite (parts_eq_infinity hx hfin)]
    nofun

/-- A finite answer has a finite operand. -/
theorem isFinite_of_isFinite (hf : Rounds f g) (hx : 0.0 ≤ x) (h : (f x).isFinite = true) :
    x.isFinite = true := by
  by_contra hinfinite
  rw [isFinite_eq, hf.infinite (parts_eq_infinity hx hinfinite)] at h
  contradiction

/-- **Rounded functions keep the order** if the exact ones do. -/
theorem mono (hf : Rounds f g) (hg : ∀ p q, 0 ≤ p → p ≤ q → g p ≤ g q) (hx : 0.0 ≤ x)
    (hxy : x ≤ y) : f x ≤ f y := by
  have hy : 0.0 ≤ y := by
    calc (0.0 : Float) ≤ x := hx
      _ ≤ y := hxy
  rw [le_iff_place]
  refine ⟨hf.isNumber hx, hf.isNumber hy, ?_⟩
  by_cases hyfin : y.isFinite = true
  · obtain ⟨-, hx0⟩ := nonneg_iff.mp hx
    obtain ⟨hne, -, hle⟩ := le_iff_place.mp hxy
    have hxfin : x.isFinite = true := by
      refine isFinite_of_place hne ?_
      rw [abs_of_nonneg hx0]
      exact hle.trans_lt (lt_of_abs_lt (abs_place_lt hyfin))
    rw [(hf.finite hxfin hx).2, (hf.finite hyfin hy).2]
    exact cut_nearest_mono (hg _ _ hx0 hle)
  · rw [hf.infinite (parts_eq_infinity hy hyfin), place, apply_positive, Int.cast_one, one_mul]
    exact (abs_le.mp (abs_place_le (canonical_parts _) (inRange_parts _))).2

/-- And they stay above zero. -/
theorem nonneg (hf : Rounds f g) (hg : ∀ p, 0 ≤ p → 0 ≤ g p) (hx : 0.0 ≤ x) : 0.0 ≤ f x := by
  rw [nonneg_iff]
  refine ⟨hf.isNumber hx, ?_⟩
  by_cases hfin : x.isFinite = true
  · rw [(hf.finite hfin hx).2]
    exact cut_nearest_nonneg (hg _ (nonneg_iff.mp hx).2)
  · rw [hf.infinite (parts_eq_infinity hx hfin), place, apply_positive, Int.cast_one, one_mul]
    exact limit_pos.le

end Rounds

/-- The place of a number whose parts are known. -/
theorem place_of_parts {m : Nat} {e : ℤ} {hm : 0 < m}
    (h : parts x = .finite .positive m e hm) : place (parts x) = m * 2 ^ e := by
  rw [h, place_finite, apply_positive, Int.cast_one, one_mul]

/-- The parts of a positive number that is finite. -/
theorem exists_parts_of_pos (hc : 0.0 < c) (hc' : c.isFinite = true) :
    ∃ m e, ∃ hm : 0 < m, parts c = .finite .positive m e hm := by
  obtain ⟨-, hpos⟩ := pos_iff.mp hc
  rw [isFinite_eq] at hc'
  cases hparts : parts c with
  | notANumber => exact (by rw [hparts] at hc'; contradiction)
  | infinity s => exact (by rw [hparts] at hc'; contradiction)
  | zero s => exact (by rw [hparts] at hpos; exact absurd hpos (lt_irrefl 0))
  | finite s m e hm =>
      rw [hparts] at hpos
      rw [sign_eq_positive hpos]
      exact ⟨m, e, hm, rfl⟩

/-- A product with a positive number. -/
theorem rounds_mul (hc : 0.0 < c) (hc' : c.isFinite = true) :
    Rounds (fun x => x * c) (fun q => q * place (parts c)) where
  finite hx _ := place_mul hx hc'
  infinite hx := by
    obtain ⟨m, e, hm, hparts⟩ := exists_parts_of_pos hc hc'
    rw [mul_eq, hx, hparts]
    exact parts_ofParts (u := .infinity .positive) trivial trivial

theorem div_eq (x y : Float) : x / y = ofParts (.div Format.binary64 (parts x) (parts y)) := rfl

/-- A quotient by a positive number. -/
theorem rounds_div (hc : 0.0 < c) (hc' : c.isFinite = true) :
    Rounds (fun x => x / c) (fun q => q / place (parts c)) where
  finite hx _ := place_div hx hc' (pos_iff.mp hc).2.ne'
  infinite hx := by
    obtain ⟨m, e, hm, hparts⟩ := exists_parts_of_pos hc hc'
    rw [div_eq, hx, hparts]
    exact parts_ofParts (u := .infinity .positive) trivial trivial

/-- A sum with a constant. -/
theorem rounds_add (hc : c.isFinite = true) :
    Rounds (fun x => x + c) (fun q => q + place (parts c)) where
  finite hx _ := place_add hx hc
  infinite hx := by
    rw [isFinite_eq] at hc
    rw [add_eq, hx]
    cases hparts : parts c with
    | notANumber => exact (by rw [hparts] at hc; contradiction)
    | infinity s => exact (by rw [hparts] at hc; contradiction)
    | _ => exact parts_ofParts (u := .infinity .positive) trivial trivial

/-! ## products, quotients and sums -/

/-- A positive factor keeps the order, also where products overflow. -/
theorem mul_le_mul_of_pos (hc : 0.0 < c) (hc' : c.isFinite = true) (hx : 0.0 ≤ x) (h : x ≤ y) :
    x * c ≤ y * c :=
  (rounds_mul hc hc').mono (fun _ _ _ hpq => by gcongr; exact (pos_iff.mp hc).2.le) hx h

theorem div_le_div_of_pos (hc : 0.0 < c) (hc' : c.isFinite = true) (hx : 0.0 ≤ x) (h : x ≤ y) :
    x / c ≤ y / c :=
  (rounds_div hc hc').mono (fun _ _ _ hpq => by gcongr; exact (pos_iff.mp hc).2.le) hx h

theorem add_le_add_of_finite (hc : c.isFinite = true) (hx : 0.0 ≤ x) (h : x ≤ y) :
    x + c ≤ y + c :=
  (rounds_add hc).mono (fun _ _ _ hpq => by gcongr) hx h

/-- More is added to a number. -/
theorem add_mono_of_finite (hc : c.isFinite = true) (hx : 0.0 ≤ x) (h : x ≤ y) :
    c + x ≤ c + y := by
  rw [add_swap c, add_swap c]
  exact add_le_add_of_finite hc hx h

/-- More is taken from a number; upside down it is added. -/
theorem sub_antitone_of_finite (hc : c.isFinite = true) (hx : 0.0 ≤ x) (h : x ≤ y) :
    c - y ≤ c - x := by
  have hflip (d : Float) : Negates (c - d) (-c + d) := by
    have hneg : Negates (-d) d := by simpa using negates_neg (-d)
    rw [sub_eq_add_negated]
    exact (negates_neg c).add hneg
  exact ((hflip x).le (hflip y)).mp (add_mono_of_finite ((isFinite_neg c).trans hc) hx h)

/-- A sum of numbers that are not negative is not negative. -/
theorem add_nonneg_of_finite (hc : c.isFinite = true) (hc0 : 0.0 ≤ c) (hx : 0.0 ≤ x) :
    0.0 ≤ x + c :=
  (rounds_add hc).nonneg (fun _ hp => add_nonneg hp (nonneg_iff.mp hc0).2) hx

theorem div_nonneg_of_pos (hc : 0.0 < c) (hc' : c.isFinite = true) (hx : 0.0 ≤ x) : 0.0 ≤ x / c :=
  (rounds_div hc hc').nonneg (fun _ hp => div_nonneg hp (pos_iff.mp hc).2.le) hx

/-- A larger divisor makes a quotient smaller. -/
theorem div_le_div_of_le (hx : 0.0 ≤ x) (hy : 0.0 < y) (hyc : y ≤ c) (hc : c.isFinite = true) :
    x / c ≤ x / y := by
  obtain ⟨-, hy0⟩ := pos_iff.mp hy
  obtain ⟨-, -, hle⟩ := le_iff_place.mp hyc
  have hc0 : 0.0 < c := by
    calc (0.0 : Float) < y := hy
      _ ≤ c := hyc
  have hyfin : y.isFinite = true := isFinite_of_le (le_of_lt_number hy) hyc hc
  rw [le_iff_place]
  refine ⟨(rounds_div hc0 hc).isNumber hx, (rounds_div hy hyfin).isNumber hx, ?_⟩
  by_cases hxfin : x.isFinite = true
  · obtain ⟨-, hx0⟩ := nonneg_iff.mp hx
    rw [((rounds_div hc0 hc).finite hxfin hx).2, ((rounds_div hy hyfin).finite hxfin hx).2]
    exact cut_nearest_mono (by gcongr)
  · have hinf := parts_eq_infinity hx hxfin
    rw [(rounds_div hc0 hc).infinite hinf, (rounds_div hy hyfin).infinite hinf]

/-! ## the larger and the smaller of two -/

/-- The larger of two numbers is one of them. -/
theorem larger_eq (x y : Float) : larger x y = x ∨ larger x y = y := by
  unfold larger
  split
  · exact .inr rfl
  · split
    · exact .inl rfl
    · split
      · exact .inr rfl
      · exact .inl rfl

theorem smaller_eq (x y : Float) : smaller x y = x ∨ smaller x y = y := by
  rw [← negated_negated x, ← negated_negated y, smaller_neg_neg]
  exact (larger_eq (-x) (-y)).imp (congrArg _) (congrArg _)

/-- The smaller one is below both, if they are numbers. -/
theorem smaller_le (hx : x.isNaN = false) (hy : y.isNaN = false) :
    smaller x y ≤ x ∧ smaller x y ≤ y := by
  have h := le_larger ((isNaN_neg x).trans hx) ((isNaN_neg y).trans hy)
  rw [larger_neg_neg, negated_le_negated, negated_le_negated] at h
  exact h

/-- The largest number of a list is one of them. -/
theorem foldl_larger_mem (xs : List Float) (x : Float) : xs.foldl larger x ∈ x :: xs := by
  induction xs generalizing x with
  | nil => exact List.mem_singleton_self x
  | cons y ys ih =>
      rw [List.foldl_cons]
      obtain h | h := List.mem_cons.mp (ih (larger x y))
      · rw [h]
        obtain h | h := larger_eq x y
        · rw [h]
          exact List.mem_cons_self
        · rw [h]
          exact .tail _ List.mem_cons_self
      · exact .tail _ (.tail _ h)

/-! ## whole parts -/

/-- The whole part of an exact value is its floor. -/
theorem Exact.floor_eq (v : Exact) (h : v.negative = false) : v.floor = ⌊v.value⌋₊ := by
  rw [value_eq, h, if_neg Bool.false_ne_true, one_mul, Nat.floor_div_eq_div]
  rfl

/-- The whole part of a number that is finite. -/
theorem floorWithin_of_isFinite (hx : x.isFinite = true) (most : Nat) :
    floorWithin most x = min ⌊place (parts x)⌋₊ most := by
  obtain ⟨v, hv⟩ : ∃ v, Exact.ofFloat? x = some v := by
    rw [ofFloat?_eq]
    rw [isFinite_eq] at hx
    cases hparts : parts x with
    | notANumber => exact (by rw [hparts] at hx; contradiction)
    | infinity s => exact (by rw [hparts] at hx; contradiction)
    | zero s => exact ⟨_, rfl⟩
    | finite s m e hm => exact ⟨_, rfl⟩
  have hplace : place (parts x) = v.value := IsValue.place_eq ⟨v, hv, rfl⟩
  rw [floorWithin, hv, hplace]
  dsimp only
  split
  · next hneg =>
    have hvalue : v.value ≤ 0 := by
      rw [Exact.value_eq, if_pos hneg, neg_one_mul, neg_nonpos]
      positivity
    rw [Nat.floor_of_nonpos hvalue, Nat.zero_min]
  · next hpos => rw [Exact.floor_eq v (Bool.eq_false_of_not_eq_true hpos)]

theorem floorWithin_of_infinite (hx : parts x = .infinity .positive) (most : Nat) :
    floorWithin most x = most := by
  have hpos : 0.0 < x := by
    rw [pos_iff, hx]
    exact ⟨nofun, by simpa [place, Sign.apply] using limit_pos⟩
  rw [floorWithin, ofFloat?_eq, hx]
  exact if_pos hpos

theorem floorWithin_mono_most {most most' : Nat} (h : most ≤ most') (x : Float) :
    floorWithin most x ≤ floorWithin most' x := by
  unfold floorWithin
  split
  · split
    · exact le_rfl
    · exact min_le_min le_rfl h
  · split
    · exact h
    · exact le_rfl

theorem floorWithin_mono (most : Nat) (hx : 0.0 ≤ x) (h : x ≤ y) :
    floorWithin most x ≤ floorWithin most y := by
  by_cases hyfin : y.isFinite = true
  · rw [floorWithin_of_isFinite (isFinite_of_le hx h hyfin), floorWithin_of_isFinite hyfin]
    exact min_le_min (Nat.floor_mono (le_iff_place.mp h).2.2) le_rfl
  · have hy : 0.0 ≤ y := by
      calc (0.0 : Float) ≤ x := hx
        _ ≤ y := h
    rw [floorWithin_of_infinite (parts_eq_infinity hy hyfin)]
    unfold floorWithin
    split <;> split <;> simp

end numbers

end Playbook.Number
