import Playbook.Proofs.Number.Rounding

/-!
# Playbook.Proofs.Number.Equality

Equality of numbers compares places: numbers are `==` if they lie at one place
(`beq_iff_place`).  At each place there is one number only, except that zero has
two signs (`eq_or_zeros_of_beq`); so `==` tells numbers apart up to the sign of zero,
and a number that is no zero is known by its place (`eq_of_place`).
-/

namespace Playbook.Number

open Float.Model Float.Model.UnpackedFloat

/-! ## parts -/

/-- Parts that compare as equal are equal, or both are zeros. -/
theorem eq_or_zeros_of_compare {u v : UnpackedFloat} (h : u.compare v = some .eq) :
    u = v ∨ ∃ s t, u = .zero s ∧ v = .zero t := by
  cases u with
  | notANumber => simp [UnpackedFloat.compare] at h
  | zero s =>
      cases v with
      | notANumber => simp [UnpackedFloat.compare] at h
      | zero t => exact .inr ⟨s, t, rfl, rfl⟩
      | infinity t => cases t <;> simp [UnpackedFloat.compare] at h
      | finite t n f hn => cases t <;> simp [UnpackedFloat.compare] at h
  | infinity s =>
      cases v with
      | infinity t => cases s <;> cases t <;> simp [UnpackedFloat.compare, compare] at h ⊢
      | _ => cases s <;> simp [UnpackedFloat.compare] at h
  | finite s m e hm =>
      cases v with
      | notANumber => simp [UnpackedFloat.compare] at h
      | zero t => cases s <;> simp [UnpackedFloat.compare] at h
      | infinity t => cases t <;> simp [UnpackedFloat.compare] at h
      | finite t n f hn =>
          cases s <;> cases t <;>
            simp only [UnpackedFloat.compare, Option.some.injEq, reduceCtorEq, Ordering.swap_eq_eq,
              Ordering.then_eq_eq, Int.compare_eq_eq, Nat.compare_eq_eq] at h
          all_goals
            obtain ⟨rfl, rfl⟩ := h
            exact .inl rfl

/-- Parts compare as equal exactly at one place; both zeros are at the same place. -/
theorem compare_eq_eq_iff {u v : UnpackedFloat} (hu : Canonical u) (hu' : InRange u)
    (hv : Canonical v) (hv' : InRange v) :
    u.compare v = some .eq ↔ u ≠ .notANumber ∧ v ≠ .notANumber ∧ place u = place v := by
  have hlt := compare_eq_lt_iff hu hu' hv hv'
  have hgt := compare_eq_lt_iff hv hv' hu hu'
  have hnone := compare_eq_none_iff u v
  rw [compare_swap u v] at hgt
  cases hcompare : u.compare v with
  | none =>
      rw [hcompare] at hnone
      have := hnone.mp rfl
      simp only [reduceCtorEq, false_iff]
      tauto
  | some o =>
      rw [hcompare] at hnone hlt hgt
      simp only [reduceCtorEq, false_iff, not_or] at hnone
      obtain ⟨hu, hv⟩ := hnone
      cases o with
      | lt =>
          obtain ⟨-, -, h⟩ := hlt.mp rfl
          exact iff_of_false nofun fun h' => h.ne h'.2.2
      | gt =>
          obtain ⟨-, -, h⟩ := hgt.mp rfl
          exact iff_of_false nofun fun h' => h.ne' h'.2.2
      | eq =>
          have hle : ¬place u < place v := fun h => nomatch hlt.mpr ⟨hu, hv, h⟩
          have hge : ¬place v < place u := fun h => nomatch hgt.mpr ⟨hv, hu, h⟩
          exact iff_of_true rfl ⟨hu, hv, le_antisymm (not_lt.mp hge) (not_lt.mp hle)⟩

/-! ## numbers -/

section numbers

variable {x y : Float}

/-- For numbers `==` is equality of places, except for what is no number. -/
theorem beq_iff_place :
    (x == y) = true ↔
      parts x ≠ .notANumber ∧ parts y ≠ .notANumber ∧ place (parts x) = place (parts y) := by
  rw [beq_iff, compare_eq_eq_iff (canonical_parts x) (inRange_parts x) (canonical_parts y)
    (inRange_parts y)]

/-- **Numbers that are `==`** are equal, or both are zeros. -/
theorem eq_or_zeros_of_beq (h : (x == y) = true) :
    x = y ∨ ∃ s t, parts x = .zero s ∧ parts y = .zero t :=
  (eq_or_zeros_of_compare ((beq_iff x y).mp h)).imp_left parts_inj

theorem beq_self (h : x.isFinite = true) : (x == x) = true :=
  beq_iff_place.mpr ⟨isFinite_ne h, isFinite_ne h, rfl⟩

/-- Where a number lies, unless it lies at zero, says which number it is. -/
theorem eq_of_place (hx : parts x ≠ .notANumber) (hy : parts y ≠ .notANumber)
    (hzero : place (parts x) ≠ 0) (h : place (parts x) = place (parts y)) : x = y := by
  obtain heq | ⟨s, t, hs, -⟩ := eq_or_zeros_of_beq (beq_iff_place.mpr ⟨hx, hy, h⟩)
  · exact heq
  · rw [hs] at hzero
    exact absurd rfl hzero

/-- A positive number is not `==` to any other number. -/
theorem eq_of_beq_of_pos (hpos : 0.0 < x) (h : (x == y) = true) : x = y := by
  have hzero : parts 0.0 = .zero .positive := by rfl
  obtain ⟨-, -, hlt⟩ := lt_iff_place.mp hpos
  obtain ⟨hx, hy, hplace⟩ := beq_iff_place.mp h
  rw [hzero] at hlt
  exact eq_of_place hx hy hlt.ne' hplace

end numbers

end Playbook.Number
