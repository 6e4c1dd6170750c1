import Playbook.Proofs.Number.Negation

/-!
# Playbook.Proofs.Number.Place

Binary64 numbers on the line of rational numbers.  The parts of a number are
canonical: a number has one mantissa and one exponent only (`canonical_parts`),
so that comparing exponents and then mantissas compares the places where numbers
lie (`lt_iff_place`, `le_iff_place`).  What is below and what is not above can be
chained in a `calc`, though numbers have no linear order because of NaN.

Both infinities have a place too, at the first power of two that is too large;
so whatever is computed with rational numbers and cut there is a number.
-/

namespace Playbook.Number

open Float.Model Float.Model.UnpackedFloat

/-! ## canonical parts -/

/-- Parts with the only mantissa that packing understands: of full width, or as
wide as the least exponent lets it be. -/
def Canonical : UnpackedFloat → Prop
  | .finite _ m e _ => m < 2 ^ 53 ∧ -1074 ≤ e ∧ (2 ^ 52 ≤ m ∨ e = -1074)
  | _ => True

/-- Parts that are not too large to be packed. -/
def InRange : UnpackedFloat → Prop
  | .finite _ _ e _ => e ≤ 971
  | _ => True

/-- Fields of the right widths make canonical parts in range. -/
theorem ofFields_spec (s : Sign) (e : BitVec 11) (m : BitVec 52) :
    Canonical (ofFields s e m) ∧ InRange (ofFields s e m) := by
  have hm : m.toNat < 2 ^ 52 := m.isLt
  have he : e.toNat < 2 ^ 11 := e.isLt
  unfold ofFields
  split
  · split <;> exact ⟨trivial, trivial⟩
  · next hmax =>
    have hmax' : e.toNat ≠ 2047 := fun h => hmax (BitVec.eq_of_toNat_eq (by simpa using h))
    split
    · split
      · exact ⟨⟨by omega, by omega, .inr rfl⟩, by change (-1074 : Int) ≤ 971; decide⟩
      · exact ⟨trivial, trivial⟩
    · next hzero =>
      have hzero' : e.toNat ≠ 0 := fun h => hzero (BitVec.eq_of_toNat_eq (by simpa using h))
      refine ⟨⟨by omega, by omega, .inl (by omega)⟩, ?_⟩
      change (e.toNat : Int) - 1075 ≤ 971
      omega

/-- The parts of a number are those of some fields. -/
theorem exists_parts_eq_ofFields (x : Float) : ∃ s e m, parts x = ofFields s e m := by
  let b : BitVec Format.binary64.numBits := x.toModel.toBits.toBitVec
  refine ⟨Sign.ofBitVec (unpackSign b), unpackExponent b, unpackMantissa b, ?_⟩
  rw [← unpack_packComponents, packComponents_unpackSign_unpackExponent_unpackMantissa]
  rfl

theorem canonical_parts (x : Float) : Canonical (parts x) := by
  obtain ⟨s, e, m, h⟩ := exists_parts_eq_ofFields x
  rw [h]
  exact (ofFields_spec s e m).1

theorem inRange_parts (x : Float) : InRange (parts x) := by
  obtain ⟨s, e, m, h⟩ := exists_parts_eq_ofFields x
  rw [h]
  exact (ofFields_spec s e m).2

/-- Canonical parts in range have fields. -/
theorem exists_ofFields_eq {u : UnpackedFloat} (hu : Canonical u) (hu' : InRange u) :
    u = .notANumber ∨ ∃ s e m, u = ofFields s e m := by
  cases u with
  | notANumber => exact .inl rfl
  | infinity s => exact .inr ⟨s, -1#11, 0#52, rfl⟩
  | zero s => exact .inr ⟨s, 0#11, 0#52, rfl⟩
  | finite s m e hm =>
      obtain ⟨hlt, he, hfull⟩ := hu
      change e ≤ 971 at hu'
      by_cases hwide : 2 ^ 52 ≤ m
      · exact .inr ⟨s, _, _, finite_eq_ofFields s m e hm hwide hlt he hu'⟩
      · -- a subnormal number has the exponent field of zero
        obtain rfl := hfull.resolve_left hwide
        refine .inr ⟨s, 0#11, BitVec.ofNat 52 m, ?_⟩
        have hmant : (BitVec.ofNat 52 m).toNat = m := by
          rw [BitVec.toNat_ofNat]
          omega
        rw [ofFields, if_neg (by decide), if_pos rfl]
        simp only [hmant, hm, dite_true]

theorem parts_ofParts {u : UnpackedFloat} (hu : Canonical u) (hu' : InRange u) :
    parts (ofParts u) = u := by
  obtain rfl | ⟨s, e, m, rfl⟩ := exists_ofFields_eq hu hu'
  · rfl
  · exact parts_ofParts_ofFields s e m

/-- Parts that are too large become infinite when they are packed. -/
theorem parts_ofParts_finite_of_lt (s : Sign) (m : Nat) {e : Int} (hm : 0 < m) (he : 971 < e) :
    parts (ofParts (.finite s m e hm)) = .infinity s := by
  have hbias : ((Format.binary64.exponentBias : Nat) : Int) = 1023 := rfl
  have hwidth : ((Format.binary64.mantissaBitsWithoutImplicit : Nat) : Int) = 52 := rfl
  change UnpackedFloat.unpack Format.binary64
    (UnpackedFloat.pack Format.binary64 (.finite s m e hm)) = _
  rw [UnpackedFloat.pack]
  dsimp only
  rw [if_pos (by rw [hbias, hwidth]; omega), packedInfinity, unpack_packComponents]
  rfl

/-! ## places -/

/-- The first power of two that is too large for a number. -/
def limit : ℚ := 2 ^ (1024 : ℤ)

theorem limit_pos : 0 < limit := by
  unfold limit
  positivity

/-- Where parts lie among the rational numbers.  Infinite ones lie at the limit;
what is no number lies nowhere, and zero is put for it. -/
def place : UnpackedFloat → ℚ
  | .infinity s => s.apply 1 * limit
  | .zero _ => 0
  | .finite s m e _ => s.apply m * 2 ^ e
  | .notANumber => 0

theorem apply_positive (n : ℤ) : Sign.positive.apply n = n := rfl

theorem apply_negative (n : ℤ) : Sign.negative.apply n = -n := rfl

theorem apply_natCast (s : Sign) (n : Nat) : (s.apply n : ℚ) = s.apply 1 * n := by
  cases s <;> simp [Sign.apply]

/-- A finite number is at its mantissa times a power of two. -/
theorem place_finite (s : Sign) (m : Nat) (e : ℤ) (hm : 0 < m) :
    place (.finite s m e hm) = s.apply 1 * (m * 2 ^ e) := by
  rw [place, apply_natCast, mul_assoc]

section magnitudes

variable {s t : Sign} {m n : Nat} {e f : Int} {hm : 0 < m} {hn : 0 < n}

/-- A larger exponent makes a larger number, whatever the mantissas are. -/
theorem magnitude_lt (hu : Canonical (.finite s m e hm)) (hv : Canonical (.finite t n f hn))
    (hef : e < f) : (m * 2 ^ e : ℚ) < n * 2 ^ f := by
  obtain ⟨hlt, he, -⟩ := hu
  obtain ⟨-, -, hfull⟩ := hv
  have hwide : 2 ^ 52 ≤ n := hfull.resolve_right (by omega)
  calc (m * 2 ^ e : ℚ) < 2 ^ 53 * 2 ^ e := by
        gcongr
        exact_mod_cast hlt
    _ = 2 ^ 52 * 2 ^ (e + 1) := by
        rw [zpow_add_one₀ (by decide)]
        ring
    _ ≤ n * 2 ^ f := by
        gcongr
        · exact_mod_cast hwide
        · decide
        · omega

/-- Canonical magnitudes are in the order of their exponents, then of their mantissas. -/
theorem magnitude_lt_iff (hu : Canonical (.finite s m e hm)) (hv : Canonical (.finite t n f hn)) :
    (m * 2 ^ e : ℚ) < n * 2 ^ f ↔ e < f ∨ e = f ∧ m < n := by
  obtain hef | rfl | hfe := Int.lt_trichotomy e f
  · exact iff_of_true (magnitude_lt hu hv hef) (.inl hef)
  · rw [mul_lt_mul_iff_left₀ (by positivity), Nat.cast_lt]
    simp
  · refine iff_of_false (not_lt.mpr (magnitude_lt hv hu hfe).le) ?_
    omega

/-- Finite numbers lie between zero and the limit, on their side. -/
theorem magnitude_bounds (hu : Canonical (.finite s m e hm)) (hu' : InRange (.finite s m e hm)) :
    0 < (m * 2 ^ e : ℚ) ∧ (m * 2 ^ e : ℚ) < limit := by
  constructor
  · have : (0 : ℚ) < m := Nat.cast_pos.mpr hm
    positivity
  · change e ≤ 971 at hu'
    calc (m * 2 ^ e : ℚ) < 2 ^ 53 * 2 ^ e := by
          gcongr
          exact_mod_cast hu.1
      _ ≤ 2 ^ 53 * 2 ^ (971 : ℤ) := by
          gcongr
          decide
      _ = limit := by
          rw [limit, ← zpow_natCast, ← zpow_add₀ (by decide)]
          rfl

/-! ## order -/

/-- Numbers of one sign are compared as their places are. -/
theorem compare_finite_eq_lt_iff (hu : Canonical (.finite s m e hm))
    (hv : Canonical (.finite s n f hn)) :
    UnpackedFloat.compare (.finite s m e hm) (.finite s n f hn) = some .lt ↔
      place (.finite s m e hm) < place (.finite s n f hn) := by
  have hlex (m n : Nat) (e f : Int) :
      (compare e f).then (compare m n) = .lt ↔ e < f ∨ e = f ∧ m < n := by
    rw [Ordering.then_eq_lt, Int.compare_eq_lt, Int.compare_eq_eq, Nat.compare_eq_lt]
  cases s with
  | positive =>
      simp only [UnpackedFloat.compare, place, Sign.apply, Int.cast_natCast, Option.some.injEq,
        hlex, magnitude_lt_iff hu hv]
  | negative =>
      simp only [UnpackedFloat.compare, place, Sign.apply, Int.cast_neg, Int.cast_natCast,
        Option.some.injEq, neg_mul, neg_lt_neg_iff, magnitude_lt_iff hv hu, Ordering.swap_then,
        Int.compare_swap, Nat.compare_swap, hlex]

end magnitudes

/-- Parts are compared by their places. -/
theorem compare_eq_lt_iff {u v : UnpackedFloat} (hu : Canonical u) (hu' : InRange u)
    (hv : Canonical v) (hv' : InRange v) :
    u.compare v = some .lt ↔ u ≠ .notANumber ∧ v ≠ .notANumber ∧ place u < place v := by
  have hlimit := limit_pos
  cases u with
  | notANumber => simp [UnpackedFloat.compare]
  | zero s =>
      cases v with
      | notANumber => simp [UnpackedFloat.compare]
      | zero t => simp [UnpackedFloat.compare, place]
      | infinity t => cases t <;> simp [UnpackedFloat.compare, place, Sign.apply] <;> linarith
      | finite t n f hn =>
          obtain ⟨hpos, -⟩ := magnitude_bounds hv hv'
          cases t <;> simp [UnpackedFloat.compare, place, Sign.apply] <;> linarith
  | infinity s =>
      cases v with
      | notANumber => simp [UnpackedFloat.compare]
      | zero t => cases s <;> simp [UnpackedFloat.compare, place, Sign.apply] <;> linarith
      | infinity t =>
          cases s <;> cases t <;> simp [UnpackedFloat.compare, place, Sign.apply, compare] <;>
            linarith
      | finite t n f hn =>
          obtain ⟨hpos, hlt⟩ := magnitude_bounds hv hv'
          cases s <;> cases t <;> simp [UnpackedFloat.compare, place, Sign.apply] <;> linarith
  | finite s m e hm =>
      obtain ⟨hpos, hlt⟩ := magnitude_bounds hu hu'
      cases v with
      | notANumber => simp [UnpackedFloat.compare]
      | zero t => cases s <;> simp [UnpackedFloat.compare, place, Sign.apply] <;> linarith
      | infinity t =>
          cases s <;> cases t <;> simp [UnpackedFloat.compare, place, Sign.apply] <;> linarith
      | finite t n f hn =>
          obtain ⟨hpos', -⟩ := magnitude_bounds hv hv'
          cases s <;> cases t
          · simp [compare_finite_eq_lt_iff hu hv]
          · simp [UnpackedFloat.compare, place, Sign.apply]
            linarith
          · simp [UnpackedFloat.compare, place, Sign.apply]
            linarith
          · simp [compare_finite_eq_lt_iff hu hv]

/-- Whatever is a number can be compared. -/
theorem compare_eq_none_iff (u v : UnpackedFloat) :
    u.compare v = none ↔ u = .notANumber ∨ v = .notANumber := by
  cases u with
  | notANumber => simp [UnpackedFloat.compare]
  | zero s => cases v <;> (try cases ‹Sign›) <;> simp [UnpackedFloat.compare]
  | infinity s => cases v <;> cases s <;> simp [UnpackedFloat.compare]
  | finite s m e hm =>
      cases v with
      | notANumber => simp [UnpackedFloat.compare]
      | zero t => cases s <;> simp [UnpackedFloat.compare]
      | infinity t => cases t <;> simp [UnpackedFloat.compare]
      | finite t n f hn => cases s <;> cases t <;> simp [UnpackedFloat.compare]

/-- The same for the weak order of all parts, zeros and infinities among them. -/
theorem compare_isLE_iff {u v : UnpackedFloat} (hu : Canonical u) (hu' : InRange u)
    (hv : Canonical v) (hv' : InRange v) :
    (u.compare v).any (·.isLE) = true ↔
      u ≠ .notANumber ∧ v ≠ .notANumber ∧ place u ≤ place v := by
  have hgt : (u.compare v).any (·.isLE) = true ↔ u.compare v ≠ none ∧ v.compare u ≠ some .lt := by
    rw [compare_swap u v]
    cases u.compare v with
    | none => simp
    | some o => cases o <;> simp
  rw [hgt, Ne, Ne, compare_eq_none_iff, compare_eq_lt_iff hv hv' hu hu', not_or, and_assoc]
  constructor
  · intro h
    obtain ⟨hu, hv, h⟩ := h
    exact ⟨hu, hv, le_of_not_gt fun hlt => h ⟨hv, hu, hlt⟩⟩
  · intro h
    obtain ⟨hu, hv, h⟩ := h
    exact ⟨hu, hv, fun hlt => absurd hlt.2.2 h.not_gt⟩

/-! ## order of numbers -/

section numbers

variable {x y z : Float}

/-- Numbers are in the order of their places, unless one of them is no number. -/
theorem lt_iff_place :
    x < y ↔ parts x ≠ .notANumber ∧ parts y ≠ .notANumber ∧ place (parts x) < place (parts y) := by
  rw [lt_iff, compare_eq_lt_iff (canonical_parts x) (inRange_parts x) (canonical_parts y)
    (inRange_parts y)]

theorem le_iff_place :
    x ≤ y ↔ parts x ≠ .notANumber ∧ parts y ≠ .notANumber ∧ place (parts x) ≤ place (parts y) := by
  rw [le_iff, compare_isLE_iff (canonical_parts x) (inRange_parts x) (canonical_parts y)
    (inRange_parts y)]

theorem isNaN_eq_false_iff : x.isNaN = false ↔ parts x ≠ .notANumber := by
  rw [isNaN_eq]
  cases parts x <;> simp [UnpackedFloat.isNaN]

theorem isFinite_ne (h : x.isFinite = true) : parts x ≠ .notANumber := by
  intro hparts
  rw [isFinite_eq, hparts] at h
  contradiction

theorem isNaN_eq_false (h : x.isFinite = true) : x.isNaN = false :=
  isNaN_eq_false_iff.mpr (isFinite_ne h)

theorem le_self (h : x.isNaN = false) : x ≤ x :=
  le_iff_place.mpr ⟨isNaN_eq_false_iff.mp h, isNaN_eq_false_iff.mp h, le_rfl⟩

theorem le_of_lt_number (h : x < y) : x ≤ y := by
  obtain ⟨hx, hy, h⟩ := lt_iff_place.mp h
  exact le_iff_place.mpr ⟨hx, hy, h.le⟩

/-- The order is total on numbers. -/
theorem le_of_not_lt_number (hx : x.isNaN = false) (hy : y.isNaN = false) (h : ¬x < y) :
    y ≤ x := by
  rw [lt_iff_place] at h
  rw [isNaN_eq_false_iff] at hx hy
  exact le_iff_place.mpr ⟨hy, hx, le_of_not_gt fun hlt => h ⟨hx, hy, hlt⟩⟩

/-- The order of numbers is transitive without any condition, so that it can be used in `calc`. -/
instance transLeLe : Trans (LE.le : Float → Float → Prop) (LE.le : Float → Float → Prop)
    (LE.le : Float → Float → Prop) where
  trans h h' := by
    rw [le_iff_place] at h h' ⊢
    exact ⟨h.1, h'.2.1, h.2.2.trans h'.2.2⟩

instance transLeLt : Trans (LE.le : Float → Float → Prop) (LT.lt : Float → Float → Prop)
    (LT.lt : Float → Float → Prop) where
  trans h h' := by
    rw [le_iff_place] at h
    rw [lt_iff_place] at h' ⊢
    exact ⟨h.1, h'.2.1, h.2.2.trans_lt h'.2.2⟩

instance transLtLe : Trans (LT.lt : Float → Float → Prop) (LE.le : Float → Float → Prop)
    (LT.lt : Float → Float → Prop) where
  trans h h' := by
    rw [le_iff_place] at h'
    rw [lt_iff_place] at h ⊢
    exact ⟨h.1, h'.2.1, h.2.2.trans_le h'.2.2⟩

instance transLtLt : Trans (LT.lt : Float → Float → Prop) (LT.lt : Float → Float → Prop)
    (LT.lt : Float → Float → Prop) where
  trans h h' := by
    rw [lt_iff_place] at h h' ⊢
    exact ⟨h.1, h'.2.1, h.2.2.trans h'.2.2⟩

/-! ## the largest number of a list -/

theorem isNaN_larger (hx : x.isNaN = false) (hy : y.isNaN = false) :
    (larger x y).isNaN = false := by
  unfold larger
  rw [hx, hy, if_neg Bool.false_ne_true, if_neg Bool.false_ne_true]
  split
  · exact hy
  · exact hx

/-- The larger of two is above both, if they are numbers. -/
theorem le_larger (hx : x.isNaN = false) (hy : y.isNaN = false) :
    x ≤ larger x y ∧ y ≤ larger x y := by
  unfold larger
  rw [hx, hy, if_neg Bool.false_ne_true, if_neg Bool.false_ne_true]
  split
  · next h => exact ⟨le_of_lt_number h, le_self hy⟩
  · next h => exact ⟨le_self hx, le_of_not_lt_number hx hy h⟩

/-- The largest of a list is above all of them. -/
theorem le_foldl_larger {xs : List Float} (hx : x.isNaN = false)
    (hxs : ∀ y ∈ xs, y.isNaN = false) : ∀ y ∈ x :: xs, y ≤ xs.foldl larger x := by
  induction xs generalizing x with
  | nil =>
      intro y hy
      rw [List.mem_singleton.mp hy]
      exact le_self hx
  | cons z zs ih =>
      obtain ⟨hz, hzs⟩ := List.forall_mem_cons.mp hxs
      have hrest := ih (isNaN_larger hx hz) hzs
      obtain ⟨hfirst, hrest⟩ := List.forall_mem_cons.mp hrest
      obtain ⟨hxl, hzl⟩ := le_larger hx hz
      rw [List.foldl_cons, List.forall_mem_cons, List.forall_mem_cons]
      refine ⟨?_, ?_, hrest⟩
      · calc x ≤ larger x z := hxl
          _ ≤ zs.foldl larger (larger x z) := hfirst
      · calc z ≤ larger x z := hzl
          _ ≤ zs.foldl larger (larger x z) := hfirst

end numbers

end Playbook.Number
