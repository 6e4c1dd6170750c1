import Playbook.Proofs.Number.Parts

/-!
# Playbook.Proofs.Number.Negation

Negation of binary64 numbers: it is exact, and rounding treats both signs
alike.  A sum of negated numbers is the negated sum, except that a sum of zero
is a positive zero on both sides.

`Negates x y` says that `y` is `x` negated as a number, which leaves the sign of
a zero open; the operations and the order respect it.
-/

namespace Playbook.Number

open Float.Model Float.Model.UnpackedFloat

/-! ## signs -/

theorem sign_neg_neg (s : Sign) : - -s = s := by
  cases s <;> rfl

theorem sign_beq_neg (s t : Sign) : (-s == -t) = (s == t) := by
  cases s <;> cases t <;> rfl

theorem sign_neg_mul (s t : Sign) : -s * t = -(s * t) := by
  cases s <;> cases t <;> rfl

/-- A sign the other way round gives the negated number. -/
theorem apply_neg (s : Sign) (n : Int) : (-s).apply n = -(s.apply n) := by
  cases s
  · exact (Int.neg_neg n).symm
  · rfl

/-! ## opposed parts -/

/-- One is the other one negated, or both are zeros of any sign. -/
def Opposed (u v : UnpackedFloat) : Prop := v = u.neg ∨ ∃ s t, u = .zero s ∧ v = .zero t

/-- Negated parts are opposed, and so are two zeros of any signs. -/
theorem opposed_neg (u : UnpackedFloat) : Opposed u u.neg := .inl rfl

theorem opposed_zero (s t : Sign) : Opposed (.zero s) (.zero t) := .inr ⟨s, t, rfl, rfl⟩

theorem neg_neg_parts (u : UnpackedFloat) : u.neg.neg = u := by
  cases u <;> simp only [UnpackedFloat.neg, sign_neg_neg]

/-- The absolute value does not see the sign. -/
theorem abs_neg_parts (u : UnpackedFloat) : u.neg.abs = u.abs := by
  cases u <;> rfl

/-- Opposed parts stay opposed when they are packed. -/
theorem Opposed.pack {u v : UnpackedFloat} (h : Opposed u v) :
    Opposed (parts (ofParts u)) (parts (ofParts v)) := by
  obtain rfl | ⟨s, t, rfl, rfl⟩ := h
  · rw [parts_ofParts_neg]
    exact opposed_neg _
  · cases s <;> cases t <;> exact opposed_zero _ _

/-! ## rounding -/

/-- Rounding treats both signs alike, half to even. -/
theorem roundWithAccuracy_neg (f : Format) (s : Sign) (m : Nat) (e : Int) (a : Accuracy) :
    roundWithAccuracy f (-s) m e a = (roundWithAccuracy f s m e a).neg := by
  simp only [roundWithAccuracy]
  split <;> rfl

theorem round_neg (f : Format) (s : Sign) (m : Nat) (e : Int) :
    UnpackedFloat.round f (-s) m e = (UnpackedFloat.round f s m e).neg := by
  unfold UnpackedFloat.round
  exact roundWithAccuracy_neg ..

/-- Rounding a number and its negation; zero is rounded to the same zero. -/
theorem normalize_neg (f : Format) (m e : Int) :
    Opposed (UnpackedFloat.normalize f m e .positive)
      (UnpackedFloat.normalize f (-m) e .positive) := by
  unfold UnpackedFloat.normalize
  obtain hm | rfl | hm := Int.lt_trichotomy m 0
  · rw [Int.compare_eq_lt.mpr hm, Int.compare_eq_gt.mpr (by omega : 0 < -m)]
    exact .inl (round_neg f .negative _ e)
  · exact opposed_zero _ _
  · rw [Int.compare_eq_gt.mpr hm, Int.compare_eq_lt.mpr (by omega : -m < 0), Int.neg_neg]
    exact .inl (round_neg f .positive _ e)

/-! ## sums and products of parts -/

/-- A difference is the sum with the negated number, bit by bit. -/
theorem sub_eq_add_neg_parts (f : Format) (u v : UnpackedFloat) :
    UnpackedFloat.sub f u v = UnpackedFloat.add f u v.neg := by
  cases u <;> cases v <;>
    simp only [UnpackedFloat.sub, UnpackedFloat.add, UnpackedFloat.neg, apply_neg,
      Int.sub_eq_add_neg]

/-- Sums do not depend on the order, not even in the sign of a zero. -/
theorem add_comm_parts (f : Format) (u v : UnpackedFloat) :
    UnpackedFloat.add f u v = UnpackedFloat.add f v u := by
  cases u with
  | infinity s =>
      cases v with
      | infinity t => cases s <;> cases t <;> rfl
      | _ => rfl
  | zero s =>
      cases v with
      | zero t => cases s <;> cases t <;> rfl
      | _ => rfl
  | finite s m e h =>
      cases v with
      | finite t n e' h' => simp only [UnpackedFloat.add, Int.min_comm e' e, Int.add_comm]
      | _ => rfl
  | notANumber => cases v <;> rfl

/-- A difference of negated numbers is the difference the other way round. -/
theorem sub_neg_neg_parts (f : Format) (u v : UnpackedFloat) :
    UnpackedFloat.sub f u.neg v.neg = UnpackedFloat.sub f v u := by
  rw [sub_eq_add_neg_parts, sub_eq_add_neg_parts, neg_neg_parts, add_comm_parts]

/-- The sum of negated numbers is the negated sum, up to the sign of a zero, which is positive in
both. -/
theorem add_neg_neg_parts (f : Format) (u v : UnpackedFloat) :
    Opposed (.add f u v) (.add f u.neg v.neg) := by
  cases u with
  | notANumber => exact opposed_neg _
  | infinity s =>
      cases v with
      | infinity t =>
          simp only [UnpackedFloat.add, UnpackedFloat.neg, sign_beq_neg]
          split <;> exact opposed_neg _
      | _ => exact opposed_neg _
  | zero s =>
      cases v with
      | zero t =>
          simp only [UnpackedFloat.add, UnpackedFloat.neg, sign_beq_neg]
          split <;> exact opposed_zero _ _
      | _ => exact opposed_neg _
  | finite s m e h =>
      cases v with
      | finite t n e' h' =>
          simp only [UnpackedFloat.add, UnpackedFloat.neg, apply_neg, ← Int.neg_add]
          exact normalize_neg f _ _
      | _ => exact opposed_neg _

/-- The sign of a zero summand matters for the sign of a zero sum only. -/
theorem add_zero_parts (f : Format) (s t : Sign) (u : UnpackedFloat) :
    Opposed (.add f u (.zero s)) (.add f u.neg (.zero t)) := by
  cases u with
  | zero r =>
      simp only [UnpackedFloat.add, UnpackedFloat.neg]
      split <;> split <;> exact opposed_zero _ _
  | _ => exact opposed_neg _

/-- Sums of opposed parts are opposed. -/
theorem Opposed.add {u u' v v' : UnpackedFloat} (f : Format) (hu : Opposed u u')
    (hv : Opposed v v') : Opposed (.add f u v) (.add f u' v') := by
  obtain rfl | ⟨s, t, rfl, rfl⟩ := hu
  · obtain rfl | ⟨s, t, rfl, rfl⟩ := hv
    · exact add_neg_neg_parts f u v
    · exact add_zero_parts f s t u
  · obtain rfl | ⟨s', t', rfl, rfl⟩ := hv
    · rw [add_comm_parts, add_comm_parts f (.zero t)]
      exact add_zero_parts f s t v
    · simp only [UnpackedFloat.add]
      split <;> split <;> exact opposed_zero _ _

theorem Opposed.neg {u v : UnpackedFloat} (h : Opposed u v) : Opposed u.neg v.neg := by
  obtain rfl | ⟨s, t, rfl, rfl⟩ := h
  · exact opposed_neg _
  · exact opposed_zero _ _

theorem Opposed.abs {u v : UnpackedFloat} (h : Opposed u v) : u.abs = v.abs := by
  obtain rfl | ⟨s, t, rfl, rfl⟩ := h
  · rw [abs_neg_parts]
  · rfl

/-- The sign of a product is that of its factors, so this is exact. -/
theorem mul_neg_parts (f : Format) (u v : UnpackedFloat) :
    UnpackedFloat.mul f u.neg v = (UnpackedFloat.mul f u v).neg := by
  cases u <;> cases v <;>
    simp only [UnpackedFloat.mul, UnpackedFloat.neg, sign_neg_mul, roundWithAccuracy_neg]

/-! ## order of parts -/

/-- Only equal parts and zeros compare as equal. -/
theorem compare_eq_iff (u v : UnpackedFloat) :
    u.compare v = some .eq ↔
      u = v ∧ u ≠ .notANumber ∨ ∃ s t, u = .zero s ∧ v = .zero t := by
  cases u with
  | notANumber => simp [UnpackedFloat.compare]
  | infinity s =>
      cases v with
      | infinity t => cases s <;> cases t <;> simp [UnpackedFloat.compare, compare]
      | _ => cases s <;> simp [UnpackedFloat.compare]
  | zero s =>
      cases v with
      | infinity t => cases t <;> simp [UnpackedFloat.compare]
      | finite t => cases t <;> simp [UnpackedFloat.compare]
      | _ => simp [UnpackedFloat.compare]
  | finite s m e h =>
      cases v with
      | infinity t => cases t <;> simp [UnpackedFloat.compare]
      | finite t n e' h' =>
          cases s <;> cases t <;>
            simp [UnpackedFloat.compare, Ordering.then_eq_eq, and_comm]
      | _ => cases s <;> simp [UnpackedFloat.compare]

/-- Negation turns the order round. -/
theorem compare_neg_neg (u v : UnpackedFloat) : u.neg.compare v.neg = v.compare u := by
  rw [compare_swap u v]
  cases u with
  | notANumber => rfl
  | infinity s =>
      cases v with
      | infinity t => cases s <;> cases t <;> rfl
      | _ => cases s <;> rfl
  | zero s =>
      cases v with
      | infinity t => cases t <;> rfl
      | finite t => cases t <;> rfl
      | _ => rfl
  | finite s m e h =>
      cases v with
      | infinity t => cases t <;> rfl
      | finite t n e' h' =>
          cases s <;> cases t <;> simp only [UnpackedFloat.compare, UnpackedFloat.neg,
            Option.map_some, Ordering.swap_swap] <;> rfl
      | notANumber => rfl
      | zero t => cases s <;> rfl

/-- The sign of a zero does not matter for the order. -/
theorem compare_zero (s t : Sign) (u : UnpackedFloat) :
    UnpackedFloat.compare (.zero s) u = UnpackedFloat.compare (.zero t) u := by
  cases u with
  | infinity r => cases r <;> rfl
  | finite r => cases r <;> rfl
  | _ => rfl

/-- Opposed parts stand in the opposite order. -/
theorem Opposed.compare {u u' v v' : UnpackedFloat} (hu : Opposed u u') (hv : Opposed v v') :
    u'.compare v' = v.compare u := by
  obtain rfl | ⟨s, t, rfl, rfl⟩ := hu
  · obtain rfl | ⟨s, t, rfl, rfl⟩ := hv
    · exact compare_neg_neg u v
    · rw [compare_swap, compare_zero t (-s), ← compare_swap]
      exact compare_neg_neg u (.zero s)
  · obtain rfl | ⟨s', t', rfl, rfl⟩ := hv
    · rw [compare_zero t (-s)]
      exact compare_neg_neg (.zero s) v
    · rfl

/-! ## negated numbers -/

@[simp] theorem negated_negated (x : Float) : - -x = x := by
  apply parts_inj
  rw [parts_neg, parts_neg, neg_neg_parts]

/-- One number is the other one negated: `y == -x`, or neither is a number. -/
def Negates (x y : Float) : Prop := x.isNaN = true ∧ y.isNaN = true ∨ (y == -x) = true

/-- Numbers are opposed exactly if their parts are. -/
theorem negates_iff (x y : Float) : Negates x y ↔ Opposed (parts x) (parts y) := by
  have hnan (z : Float) : z.isNaN = true ↔ parts z = .notANumber := by
    rw [isNaN_eq]
    cases parts z <;> simp [UnpackedFloat.isNaN]
  rw [Negates, hnan, hnan, beq_iff, parts_neg, compare_eq_iff]
  constructor
  · intro h
    obtain ⟨hx, hy⟩ | ⟨h, -⟩ | ⟨s, t, hy, hx⟩ := h
    · rw [hx, hy]
      exact opposed_neg _
    · exact .inl h
    · exact .inr ⟨-t, s, by rw [← neg_neg_parts (parts x), hx]; rfl, hy⟩
  · intro h
    obtain h | ⟨s, t, hx, hy⟩ := h
    · by_cases hy : parts y = .notANumber
      · rw [hy] at h
        exact .inl ⟨by rw [← neg_neg_parts (parts x), ← h]; rfl, hy⟩
      · exact .inr (.inl ⟨h, hy⟩)
    · exact .inr (.inr ⟨t, -s, hy, by rw [hx]; rfl⟩)

theorem negates_neg (x : Float) : Negates x (-x) := by
  rw [negates_iff, parts_neg]
  exact opposed_neg _

/-- A negated factor negates the product. -/
theorem negated_mul (x y : Float) : -x * y = -(x * y) := by
  rw [mul_eq, parts_neg, mul_neg_parts]
  apply parts_inj
  rw [parts_ofParts_neg, ← mul_eq, parts_neg]

/-- Differences of negated numbers, with the very same rounding. -/
theorem negated_sub_negated (x y : Float) : -x - -y = y - x := by
  rw [sub_eq, parts_neg, parts_neg, sub_neg_neg_parts, ← sub_eq]

theorem sub_eq_add_negated (x y : Float) : x - y = x + -y := by
  rw [sub_eq, sub_eq_add_neg_parts, add_eq, parts_neg]

namespace Negates

variable {x x' y y' : Float}

/-- Sums of opposed numbers are opposed. -/
theorem add (hx : Negates x x') (hy : Negates y y') : Negates (x + y) (x' + y') := by
  rw [negates_iff] at hx hy ⊢
  rw [add_eq, add_eq]
  exact (hx.add Format.binary64 hy).pack

theorem neg (hx : Negates x x') : Negates (-x) (-x') := by
  rw [negates_iff] at hx ⊢
  rw [parts_neg, parts_neg]
  exact hx.neg

/-- Differences of opposed numbers are opposed. -/
theorem sub (hx : Negates x x') (hy : Negates y y') : Negates (x - y) (x' - y') := by
  rw [sub_eq_add_negated, sub_eq_add_negated]
  exact hx.add hy.neg

/-- The magnitude is the same. -/
theorem abs (hx : Negates x x') : x.abs = x'.abs := by
  rw [negates_iff] at hx
  rw [abs_eq, abs_eq, hx.abs]

/-- Opposed numbers are finite together. -/
theorem isFinite (hx : Negates x x') : x'.isFinite = x.isFinite := by
  rw [negates_iff] at hx
  rw [isFinite_eq, isFinite_eq]
  obtain h | ⟨s, t, hx, hx'⟩ := hx
  · rw [h]
    cases parts x <;> rfl
  · rw [hx, hx']
    rfl

/-- Opposed numbers are in the opposite order; the sign of a zero does not matter. -/
theorem lt (hx : Negates x x') (hy : Negates y y') : x' < y' ↔ y < x := by
  rw [negates_iff] at hx hy
  rw [lt_iff, lt_iff, hx.compare hy]

theorem le (hx : Negates x x') (hy : Negates y y') : x' ≤ y' ↔ y ≤ x := by
  rw [negates_iff] at hx hy
  rw [le_iff, le_iff, hx.compare hy]

end Negates

theorem isFinite_neg (x : Float) : (-x).isFinite = x.isFinite := (negates_neg x).isFinite

theorem negated_lt_negated (x y : Float) : -x < -y ↔ y < x := (negates_neg x).lt (negates_neg y)

theorem negated_le_negated (x y : Float) : -x ≤ -y ↔ y ≤ x := (negates_neg x).le (negates_neg y)

/-! ## the larger and the smaller of two -/

theorem isNaN_neg (x : Float) : (-x).isNaN = x.isNaN := by
  rw [isNaN_eq, isNaN_eq, parts_neg]
  cases parts x <;> rfl

/-- The smaller of two negated numbers is the larger one, negated; the first of equal ones
stays. -/
theorem smaller_neg_neg (x y : Float) : smaller (-x) (-y) = -larger x y := by
  have h : -y < -x ↔ x < y := negated_lt_negated y x
  unfold smaller larger
  rw [isNaN_neg, isNaN_neg]
  repeat' split
  all_goals first | rfl | (exact absurd (h.mp ‹_›) ‹_›) | (exact absurd (h.mpr ‹_›) ‹_›)

theorem larger_neg_neg (x y : Float) : larger (-x) (-y) = -smaller x y := by
  rw [← negated_negated (larger (-x) (-y)), ← smaller_neg_neg, negated_negated, negated_negated]

end Playbook.Number
