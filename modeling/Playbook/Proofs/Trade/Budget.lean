import Playbook.Proofs.Trade.Amounts

/-!
# Playbook.Proofs.Trade.Budget

The size of a trade is the largest one that the budget allows.

The rule for sizes is a straight line of arithmetic, and `Terms.quantity?` is that
rule over any kind of numbers.  Over binary64 numbers it is the size that is traded
(`Sizer.quantity?_eq_terms`).  Over rational numbers nothing is rounded, and the
result is the greatest number of contracts that loses no more than the budget, up to
the tolerance (`Terms.quantity?_isGreatest`).

With rounding, both bounds hold up to one factor for each of seven roundings
(`Sizer.Sound.quantity_within_budget`).
-/

namespace Playbook

open Number

/-! ## one rule for all numbers -/

/-- Numbers that a size can be computed with. -/
class Arithmetic (α : Type) extends Add α, Sub α, Mul α, Div α, OfScientific α where
  le : α → α → Bool
  lt : α → α → Bool
  abs : α → α
  isFinite : α → Bool
  /-- Rounded down, and cut to a range that starts at zero. -/
  floorWithin : Nat → α → Nat

/-- Numbers as the program computes with them. -/
instance : Arithmetic Float where
  le x y := x ≤ y
  lt x y := x < y
  abs := Float.abs
  isFinite := Float.isFinite
  floorWithin := Number.floorWithin

/-- Numbers without rounding and without bounds. -/
instance : Arithmetic ℚ where
  le x y := x ≤ y
  lt x y := x < y
  abs x := |x|
  isFinite _ := true
  floorWithin most x := min ⌊x⌋₊ most

/-- What the size of a trade is computed from, besides the balance and the prices. -/
structure Terms (α : Type) where
  tickSize : α
  tickValue : α
  percent : α
  maxContracts : Nat

namespace Terms

section rule

variable {α : Type} [Arithmetic α]

open Arithmetic

/-- The dollars that may be lost. -/
def budget (t : Terms α) (balance : α) : α :=
  if !isFinite balance || le balance 0.0 then 0.0 else balance * t.percent / 100.0

/-- The dollars that one contract loses at the stop. -/
def perContract (t : Terms α) (entry stop : α) : α := abs (entry - stop) / t.tickSize * t.tickValue

/-- Whether entry and stop are too close, or no prices at all. -/
def isDegenerate (t : Terms α) (entry stop : α) : Bool :=
  !isFinite entry || !isFinite stop || lt (abs (entry - stop)) (t.tickSize * 1e-6)

/-- The number of contracts; none if entry and stop are degenerate. -/
def quantity? (t : Terms α) (balance entry stop : α) : Option Nat :=
  if t.isDegenerate entry stop then none
  else
    let budget := t.budget balance
    let per := t.perContract entry stop
    if le budget 0.0 || !isFinite per || le per 0.0 then some 0
    else some (Arithmetic.floorWithin t.maxContracts (budget / per + 1e-9))

end rule

/-! ## without rounding -/

/-- Terms that are positive. -/
structure Sound (t : Terms ℚ) : Prop where
  tickSize_pos : 0 < t.tickSize
  tickValue_pos : 0 < t.tickValue
  percent_pos : 0 < t.percent

section rational

variable {t : Terms ℚ} {balance entry stop : ℚ}

/-- A stop is degenerate below a millionth of a tick. -/
theorem isDegenerate_iff : t.isDegenerate entry stop = true ↔ |entry - stop| < t.tickSize * 1e-6 :=
  decide_eq_true_iff

theorem not_isDegenerate (h : t.tickSize * 1e-6 ≤ |entry - stop|) :
    ¬t.isDegenerate entry stop = true := by
  rw [isDegenerate_iff, not_lt]
  exact h

theorem budget_of_pos (h : 0 < balance) : t.budget balance = balance * t.percent / 100 := by
  have hle : Arithmetic.le balance 0.0 = false := decide_eq_false (by norm_num [h])
  rw [budget, hle]
  norm_num [Arithmetic.isFinite]

theorem budget_of_nonpos (h : balance ≤ 0) : t.budget balance = 0 := by
  have hle : Arithmetic.le balance 0.0 = true := decide_eq_true (by norm_num [h])
  rw [budget, hle]
  norm_num

/-- There is no size exactly if the prices are too close. -/
theorem quantity?_eq_none_iff :
    t.quantity? balance entry stop = none ↔ |entry - stop| < t.tickSize * 1e-6 := by
  rw [← isDegenerate_iff, quantity?]
  split
  · next h => exact iff_of_true rfl h
  · next h =>
    refine iff_of_false ?_ h
    dsimp only
    split <;> nofun

/-- A stop that is not degenerate loses something. -/
theorem perContract_pos (ht : t.Sound) (h : t.tickSize * 1e-6 ≤ |entry - stop|) :
    0 < t.perContract entry stop := by
  have hleast : 0 < t.tickSize * 1e-6 := mul_pos ht.tickSize_pos (by norm_num)
  exact mul_pos (div_pos (hleast.trans_le h) ht.tickSize_pos) ht.tickValue_pos

/-- The sizes that a budget allows are those up to the rounded quotient. -/
theorem isGreatest_floor {most : Nat} {budget per tolerance : ℚ} (hbudget : 0 ≤ budget)
    (hper : 0 < per) (htolerance : 0 ≤ tolerance) :
    IsGreatest {n : Nat | n ≤ most ∧ n * per ≤ budget + tolerance * per}
      (min ⌊budget / per + tolerance⌋₊ most) := by
  have hquot : 0 ≤ budget / per + tolerance := add_nonneg (div_nonneg hbudget hper.le) htolerance
  have hallowed : {n : Nat | n ≤ most ∧ n * per ≤ budget + tolerance * per} =
      Set.Iic (min ⌊budget / per + tolerance⌋₊ most) := by
    ext n
    have hpaid : (n : ℚ) ≤ budget / per + tolerance ↔ n * per ≤ budget + tolerance * per := by
      rw [← le_div_iff₀ hper, add_div, mul_div_cancel_right₀ _ hper.ne']
    rw [Set.mem_ofPred_eq, Set.mem_Iic, le_min_iff, Nat.le_floor_iff hquot, hpaid, and_comm]
  rw [hallowed]
  exact isGreatest_Iic

/-- **The exact size** is the greatest one that loses no more than the budget, up to the
tolerance. -/
theorem quantity?_isGreatest (ht : t.Sound) (hbalance : 0 < balance)
    (h : t.tickSize * 1e-6 ≤ |entry - stop|) :
    ∃ q, t.quantity? balance entry stop = some q ∧
      IsGreatest {n : Nat | n ≤ t.maxContracts ∧ n * t.perContract entry stop ≤
        balance * t.percent / 100 + 1e-9 * t.perContract entry stop} q := by
  have hper := perContract_pos ht h
  have hbudget : 0 < balance * t.percent / 100 :=
    div_pos (mul_pos hbalance ht.percent_pos) (by norm_num)
  refine ⟨_, ?_, isGreatest_floor hbudget.le hper (by norm_num)⟩
  have hpays : ¬(Arithmetic.le (balance * t.percent / 100) 0.0 ||
      !Arithmetic.isFinite (t.perContract entry stop) ||
        Arithmetic.le (t.perContract entry stop) 0.0) = true := by
    have hzero {x : ℚ} (hx : 0 < x) : Arithmetic.le x 0.0 = false :=
      decide_eq_false (by norm_num [hx])
    rw [hzero hbudget, hzero hper]
    exact Bool.false_ne_true
  rw [quantity?, if_neg (not_isDegenerate h), budget_of_pos hbalance]
  exact if_neg hpays

/-- One contract more than the greatest size loses more than the budget. -/
theorem budget_lt_of_isGreatest {most q : Nat} {budget spare per : ℚ} (hspare : 0 ≤ spare)
    (h : IsGreatest {n : Nat | n ≤ most ∧ n * per ≤ budget + spare} q) :
    q = most ∨ budget < (q + 1) * per := by
  obtain ⟨⟨hmost, -⟩, hgreatest⟩ := h
  obtain heq | hlt := hmost.eq_or_lt
  · exact .inl heq
  · right
    by_contra hmore
    have hpaid : ((q + 1 : Nat) : ℚ) * per ≤ budget + spare := by
      rw [Nat.cast_succ]
      exact (not_lt.mp hmore).trans (le_add_of_nonneg_right hspare)
    exact absurd (hgreatest ⟨hlt, hpaid⟩) (Nat.not_succ_le_self q)

/-- No contracts for a balance that is not above zero. -/
theorem quantity?_of_nonpos (hbalance : balance ≤ 0) (h : t.tickSize * 1e-6 ≤ |entry - stop|) :
    t.quantity? balance entry stop = some 0 := by
  have hzero : Arithmetic.le (0 : ℚ) 0.0 = true := decide_eq_true (by norm_num)
  rw [quantity?, if_neg (not_isDegenerate h), budget_of_nonpos hbalance]
  exact if_pos (by rw [hzero, Bool.true_or, Bool.true_or])

end rational

end Terms

/-! ## one rule -/

namespace Sizer

/-- What a size is computed from. -/
def terms (s : Sizer) : Terms Float :=
  ⟨s.contract.tickSize, s.contract.tickValue, s.percent, s.maxContracts⟩

/-- The same as exact numbers. -/
def exactTerms (s : Sizer) : Terms ℚ where
  tickSize := place (parts s.contract.tickSize)
  tickValue := place (parts s.contract.tickValue)
  percent := place (parts s.percent)
  maxContracts := s.maxContracts

/-- **One rule**: sizes are computed by the rule for all numbers. -/
theorem quantity?_eq_terms (s : Sizer) (balance entry stop : Float) :
    (s.quantity? balance entry stop).toOption = s.terms.quantity? balance entry stop := by
  have hdegenerate : s.terms.isDegenerate entry stop = s.isDegenerate entry stop := rfl
  have hbudget : s.terms.budget balance = s.budget balance := rfl
  have hper : s.terms.perContract entry stop = s.perContract entry stop := rfl
  rw [quantity?, Terms.quantity?, hdegenerate, hbudget, hper, apply_ite Except.toOption]
  dsimp only
  rw [apply_ite Except.toOption]
  rfl

/-- The rule without rounding is sound for the same reasons. -/
theorem Sound.exactTerms {s : Sizer} (hs : s.Sound) : s.exactTerms.Sound :=
  ⟨(pos_iff.mp hs.contract.tickSize_pos).2, (pos_iff.mp hs.contract.tickValue_pos).2,
    (pos_iff.mp hs.percent_pos).2⟩

/-! ## with rounding -/

/-- A bound below every loss of a contract that is accepted. -/
theorem place_speck : place (parts speck) = 2 ^ (-30 : ℤ) := by
  have hparts : parts speck = .finite .positive (2 ^ 52) (-82) (by decide) := by rfl
  rw [place_of_parts hparts]
  norm_num

/-- The numbers that lose bits are far below all that is computed here. -/
theorem leastNormal_lt : leastNormal < 2 ^ (-50 : ℤ) :=
  zpow_lt_zpow_right₀ (by decide) (by decide)

/-- What is not below a speck has full width. -/
theorem leastNormal_lt_of_speck_le {x : Float} (h : speck ≤ x) :
    leastNormal < place (parts x) := by
  have hle := (le_iff_place.mp h).2.2
  rw [place_speck] at hle
  calc leastNormal < 2 ^ (-50 : ℤ) := leastNormal_lt
    _ ≤ 2 ^ (-30 : ℤ) := zpow_le_zpow_right₀ (by decide) (by decide)
    _ ≤ place (parts x) := hle

theorem within_tolerance : Number.Within 1 1e-9 (place (parts tolerance)) := by
  have hparts : parts tolerance = .finite .positive 4835703278458517 (-82) (by decide) := by rfl
  rw [place_of_parts hparts]
  constructor <;> norm_num [factor]

section rounded

variable {s : Sizer} {balance entry stop : Float}

/-- **The loss of one contract** is rounded three times. -/
theorem Sound.perContract_within (hs : s.Sound) (hd : s.isDegenerate entry stop = false)
    (hper : (s.perContract entry stop).isFinite = true) :
    Number.Within 3 (s.exactTerms.perContract (place (parts entry)) (place (parts stop)))
      (place (parts (s.perContract entry stop))) := by
  obtain ⟨hentry, hstop, -⟩ := isDegenerate_eq_false_iff.mp hd
  have hleast := hs.leastDistance_le hd
  have hleast0 := le_of_lt_number hs.contract.leastDistance_pos
  have htick := rounds_div hs.contract.tickSize_pos hs.contract.tickSize_finite
  have hvalue := rounds_mul hs.contract.tickValue_pos hs.contract.tickValue_finite
  have htick0 := (pos_iff.mp hs.contract.tickSize_pos).2
  have hvalue0 := (pos_iff.mp hs.contract.tickValue_pos).2
  set points := (entry - stop).abs
  set ticks := points / s.contract.tickSize
  have hpoints0 : 0.0 ≤ points := by
    calc (0.0 : Float) ≤ s.contract.tickSize * leastTicks := hleast0
      _ ≤ points := hleast
  have hticks0 : 0.0 ≤ ticks :=
    div_nonneg_of_pos hs.contract.tickSize_pos hs.contract.tickSize_finite hpoints0
  have hticks : ticks.isFinite = true := hvalue.isFinite_of_isFinite hticks0 hper
  have hpoints : points.isFinite = true := htick.isFinite_of_isFinite hpoints0 hticks
  have hspeckPoints : speck ≤ points := by
    calc speck ≤ s.contract.tickSize * leastTicks := hs.contract.speck_le_points
      _ ≤ points := hleast
  have hspeckTicks : speck ≤ ticks := by
    calc speck ≤ s.contract.tickSize * leastTicks / s.contract.tickSize :=
          hs.contract.speck_le_ticks
      _ ≤ ticks := div_le_div_of_pos hs.contract.tickSize_pos hs.contract.tickSize_finite
          hleast0 hleast
  have hdistance := within_of_leastNormal_lt hpoints (place_abs_sub hentry hstop).2
    (leastNormal_lt_of_speck_le hspeckPoints)
  have hquotient := within_of_leastNormal_lt hticks (htick.finite hpoints hpoints0).2
    (leastNormal_lt_of_speck_le hspeckTicks)
  have hproduct := within_of_leastNormal_lt hper (hvalue.finite hticks hticks0).2
    (leastNormal_lt_of_speck_le (hs.speck_le_perContract hd))
  exact (((hdistance.div_right htick0.le).trans hquotient).mul_right hvalue0.le).trans hproduct

/-- **The budget** is rounded twice, unless it is very small. -/
theorem Sound.budget_within (hs : s.Sound) (hpays : Pays balance)
    (hbudget : (s.budget balance).isFinite = true) :
    let due := place (parts balance) * place (parts s.percent) / 100
    due < 2 ^ (-40 : ℤ) ∧ place (parts (s.budget balance)) ≤ 2 ^ (-40 : ℤ) ∨
      Number.Within 2 due (place (parts (s.budget balance))) := by
  intro due
  rw [budget_eq_ite, if_pos hpays] at hbudget ⊢
  have hhundred := rounds_div (c := 100.0) (by decide) (by decide)
  have hsmall : cut (nearest (2 ^ (-40 : ℤ))) = 2 ^ (-40 : ℤ) := by
    have h := cut_nearest_mul_zpow (n := 1) (e := -40) (by decide) (by decide) (by decide)
    rwa [Nat.cast_one, one_mul] at h
  have hproduct0 : 0.0 ≤ balance * s.percent :=
    mul_nonneg_of_pos hpays.2 hpays.1 (le_of_lt_number hs.percent_pos)
  have hproduct : (balance * s.percent).isFinite = true :=
    hhundred.isFinite_of_isFinite hproduct0 hbudget
  have hplace := (place_mul hpays.1 hs.percent_finite).2
  have hplace' := (hhundred.finite hproduct hproduct0).2
  rw [place_hundred] at hplace'
  obtain hlt | hle := lt_or_ge (place (parts balance) * place (parts s.percent)) (2 ^ (-40 : ℤ))
  · left
    have hproductLe : place (parts (balance * s.percent)) ≤ 2 ^ (-40 : ℤ) := by
      rw [hplace, ← hsmall]
      exact cut_nearest_mono hlt.le
    have hdivided {q : ℚ} (hq : q ≤ 2 ^ (-40 : ℤ)) : q / 100 < 2 ^ (-40 : ℤ) := by
      norm_num at hq ⊢
      linarith
    refine ⟨hdivided hlt.le, ?_⟩
    rw [hplace', ← hsmall]
    exact cut_nearest_mono (hdivided hproductLe).le
  · right
    have hwidth : leastNormal ≤ 2 ^ (-40 : ℤ) := leastNormal_lt.le.trans
      (zpow_le_zpow_right₀ (by decide) (by decide))
    have hproductLe : 2 ^ (-40 : ℤ) ≤ place (parts (balance * s.percent)) := by
      rw [hplace, ← hsmall]
      exact cut_nearest_mono hle
    have hfirst := within_of_isFinite hproduct hplace (hwidth.trans hle)
    have hsecond := within_of_isFinite hbudget hplace' (by
      calc leastNormal ≤ 2 ^ (-50 : ℤ) := leastNormal_lt.le
        _ ≤ 2 ^ (-40 : ℤ) / 100 := by norm_num
        _ ≤ place (parts (balance * s.percent)) / 100 := by gcongr)
    exact (hfirst.div_right (by norm_num)).trans hsecond

end rounded

section quotient

variable {most : Nat} {budget per : Float}

/-- A quotient with the tolerance is rounded twice; it is not larger if it is infinite. -/
theorem place_quotient_le (hbudget : budget.isFinite = true) (hbudget0 : 0.0 ≤ budget)
    (hper : per.isFinite = true) (hper0 : 0.0 < per)
    (h : leastNormal ≤ place (parts budget) / place (parts per)) :
    place (parts (budget / per + tolerance)) ≤
      (place (parts budget) / place (parts per) + 1e-9) * factor ^ 2 := by
  have hquotient0 := div_nonneg_of_pos hper0 hper hbudget0
  have hle : place (parts (budget / per)) ≤ place (parts budget) / place (parts per) * factor := by
    rw [(place_div hbudget hper (pos_iff.mp hper0).2.ne').2]
    exact cut_nearest_le h
  have htolerance : place (parts tolerance) ≤ 1e-9 * factor := by
    have h := within_tolerance.2
    rwa [pow_one] at h
  have hsum := rounds_add tolerance_isFinite
  by_cases hfinite : (budget / per).isFinite = true
  · have hwidth : leastNormal ≤ place (parts (budget / per)) + place (parts tolerance) :=
      le_add_of_nonneg_of_le (nonneg_iff.mp hquotient0).2
        (leastNormal_lt_of_speck_le (by decide)).le
    rw [(hsum.finite hfinite hquotient0).2]
    calc cut (nearest (place (parts (budget / per)) + place (parts tolerance)))
        ≤ (place (parts (budget / per)) + place (parts tolerance)) * factor :=
          cut_nearest_le hwidth
      _ ≤ (place (parts budget) / place (parts per) * factor + 1e-9 * factor) * factor :=
          mul_le_mul_of_nonneg_right (add_le_add hle htolerance) factor_pos.le
      _ = (place (parts budget) / place (parts per) + 1e-9) * factor ^ 2 := by ring
  · have hinfinite := parts_eq_infinity hquotient0 hfinite
    rw [hsum.infinite hinfinite, ← hinfinite]
    have hone : factor ≤ factor ^ 2 := le_self_pow₀ one_lt_factor.le (by decide)
    calc place (parts (budget / per)) ≤ place (parts budget) / place (parts per) * factor := hle
      _ ≤ (place (parts budget) / place (parts per) + 1e-9) * factor ^ 2 := by
          have hquotient := leastNormal_pos.le.trans h
          exact mul_le_mul (le_add_of_nonneg_right (by norm_num)) hone factor_pos.le
            (add_nonneg hquotient (by norm_num))

/-- And it is not much smaller. -/
theorem le_place_quotient (hbudget : budget.isFinite = true) (hbudget0 : 0.0 ≤ budget)
    (hper : per.isFinite = true) (hper0 : 0.0 < per)
    (h : leastNormal ≤ place (parts budget) / place (parts per))
    (hfinite : (budget / per + tolerance).isFinite = true) :
    place (parts budget) / place (parts per) ≤
      place (parts (budget / per + tolerance)) * factor ^ 2 := by
  have hquotient0 := div_nonneg_of_pos hper0 hper hbudget0
  have hsum := rounds_add tolerance_isFinite
  have hquotientFinite := hsum.isFinite_of_isFinite hquotient0 hfinite
  have htolerance : leastNormal ≤ place (parts tolerance) :=
    (leastNormal_lt_of_speck_le (by decide)).le
  have hwidth : leastNormal ≤ place (parts (budget / per)) + place (parts tolerance) :=
    le_add_of_nonneg_of_le (nonneg_iff.mp hquotient0).2 htolerance
  have hfirst := within_of_isFinite hquotientFinite
    (place_div hbudget hper (pos_iff.mp hper0).2.ne').2 h
  have hsecond := within_of_isFinite hfinite (hsum.finite hquotientFinite hquotient0).2 hwidth
  calc place (parts budget) / place (parts per)
      ≤ place (parts (budget / per)) * factor ^ 1 := hfirst.1
    _ ≤ (place (parts (budget / per)) + place (parts tolerance)) * factor ^ 1 :=
        mul_le_mul_of_nonneg_right (le_add_of_nonneg_right (leastNormal_pos.le.trans htolerance))
          (pow_pos factor_pos 1).le
    _ ≤ place (parts (budget / per + tolerance)) * factor ^ 1 * factor ^ 1 :=
        mul_le_mul_of_nonneg_right hsecond.1 (pow_pos factor_pos 1).le
    _ = place (parts (budget / per + tolerance)) * factor ^ 2 := by ring

/-- A budget for half a contract at most pays for none. -/
theorem affordable_eq_zero (hmost : most < 2 ^ 51) (hbudget : budget.isFinite = true)
    (hbudget0 : 0.0 ≤ budget) (hper : per.isFinite = true) (hper0 : 0.0 < per)
    (h : place (parts budget) / place (parts per) ≤ 1 / 2) : affordable most budget per = 0 := by
  have hlt := (affordable_le_place (hmost.trans (by decide)) hbudget0 hper hper0).trans_lt
    (quotient_lt (n := 1) (by decide) (by decide) hbudget hper hper0
      (by norm_num; exact h) hbudget0)
  rw [Nat.cast_lt] at hlt
  omega

/-- **The whole contracts** are those of the exact quotient, up to two roundings. -/
theorem affordable_within (hmost : most < 2 ^ 51) (hbudget : budget.isFinite = true)
    (hbudget0 : 0.0 ≤ budget) (hper : per.isFinite = true) (hper0 : 0.0 < per) :
    let quotient := place (parts budget) / place (parts per)
    affordable most budget per ≤ (quotient + 1e-9) * factor ^ 2 ∧
      (affordable most budget per = most ∨
        quotient < (affordable most budget per + 1) * factor ^ 2) := by
  intro quotient
  have hfactor : 1 < factor ^ 2 := one_lt_pow₀ one_lt_factor (by decide)
  have hquotient0 : 0 ≤ quotient :=
    div_nonneg (nonneg_iff.mp hbudget0).2 (pos_iff.mp hper0).2.le
  obtain hsmall | hlarge := le_or_gt quotient (1 / 2)
  · rw [affordable_eq_zero hmost hbudget hbudget0 hper hper0 hsmall, Nat.cast_zero, zero_add,
      one_mul]
    constructor
    · positivity
    · right
      calc quotient ≤ 1 / 2 := hsmall
        _ < 1 := by norm_num
        _ < factor ^ 2 := hfactor
  have hwidth : leastNormal ≤ quotient := by
    calc leastNormal ≤ 2 ^ (-50 : ℤ) := leastNormal_lt.le
      _ ≤ 1 / 2 := by norm_num
      _ ≤ quotient := hlarge.le
  constructor
  · exact (affordable_le_place (hmost.trans (by decide)) hbudget0 hper hper0).trans
      (place_quotient_le hbudget hbudget0 hper hper0 hwidth)
  · have hbudgetPos : 0.0 < budget := by
      refine pos_iff.mpr ⟨isFinite_ne hbudget, (nonneg_iff.mp hbudget0).2.lt_of_ne' fun hzero => ?_⟩
      have hnone : quotient = 0 := div_eq_zero_iff.mpr (.inl hzero)
      linarith
    rw [affordable_eq hbudgetPos hper hper0]
    by_cases hfinite : (budget / per + tolerance).isFinite = true
    · rw [floorWithin_of_isFinite hfinite]
      obtain hmin | hmin := min_choice ⌊place (parts (budget / per + tolerance))⌋₊ most
      · right
        rw [hmin]
        calc quotient ≤ place (parts (budget / per + tolerance)) * factor ^ 2 :=
              le_place_quotient hbudget hbudget0 hper hper0 hwidth hfinite
          _ < (⌊place (parts (budget / per + tolerance))⌋₊ + 1) * factor ^ 2 :=
              mul_lt_mul_of_pos_right (Nat.lt_floor_add_one _) (by positivity)
      · exact .inl hmin
    · left
      exact floorWithin_of_infinite
        (parts_eq_infinity (quotient_nonneg hbudget0 hper hper0) hfinite) most

end quotient

/-! ## seven roundings -/

section factors

variable {budget per budget' per' tolerance n : ℚ}

/-- The loss of contracts that a rounded budget pays for. -/
theorem mul_le_of_within (hbudget : Number.Within 2 budget budget')
    (hper : Number.Within 3 per per') (hbudget0 : 0 ≤ budget') (hper0 : 0 < per)
    (hper0' : 0 < per') (htolerance : 0 ≤ tolerance)
    (h : n ≤ (budget' / per' + tolerance) * factor ^ 2) :
    n * per ≤ (budget + tolerance * per) * factor ^ 7 := by
  have hratio : per / per' ≤ factor ^ 3 := by
    rw [div_le_iff₀ hper0', mul_comm]
    exact hper.1
  have hpaid : budget' * (per / per') ≤ budget * factor ^ 5 := by
    calc budget' * (per / per') ≤ budget' * factor ^ 3 :=
          mul_le_mul_of_nonneg_left hratio hbudget0
      _ ≤ budget * factor ^ 2 * factor ^ 3 :=
          mul_le_mul_of_nonneg_right hbudget.2 (pow_pos factor_pos 3).le
      _ = budget * factor ^ 5 := by ring
  have hspare : tolerance * per ≤ tolerance * per * factor ^ 5 :=
    le_mul_of_one_le_right (mul_nonneg htolerance hper0.le) (one_le_pow₀ one_lt_factor.le)
  calc n * per ≤ (budget' / per' + tolerance) * factor ^ 2 * per :=
        mul_le_mul_of_nonneg_right h hper0.le
    _ = (budget' * (per / per') + tolerance * per) * factor ^ 2 := by ring
    _ ≤ (budget * factor ^ 5 + tolerance * per * factor ^ 5) * factor ^ 2 :=
        mul_le_mul_of_nonneg_right (add_le_add hpaid hspare) (pow_pos factor_pos 2).le
    _ = (budget + tolerance * per) * factor ^ 7 := by ring

/-- The loss of one contract more. -/
theorem lt_mul_of_within (hbudget : Number.Within 2 budget budget')
    (hper : Number.Within 3 per per') (hper0' : 0 < per') (hn : 0 ≤ n)
    (h : budget' / per' < n * factor ^ 2) : budget < n * per * factor ^ 7 := by
  have hfactor0 : 0 < factor ^ 2 := pow_pos factor_pos 2
  calc budget ≤ budget' * factor ^ 2 := hbudget.1
    _ < n * factor ^ 2 * per' * factor ^ 2 :=
        mul_lt_mul_of_pos_right ((div_lt_iff₀ hper0').mp h) hfactor0
    _ ≤ n * factor ^ 2 * (per * factor ^ 3) * factor ^ 2 := by
        gcongr
        exact hper.2
    _ = n * per * factor ^ 7 := by ring

/-- Seven roundings together are less than a part in a thousand million million. -/
theorem factor_pow_seven_le : factor ^ 7 ≤ 1 + 2 ^ (-50 : ℤ) := by
  norm_num [factor]

end factors

/-- **The size that is traded** is the greatest one up to seven roundings, if budget and
loss are finite. -/
theorem Sound.quantity_within_budget {s : Sizer} {balance entry stop : Float} (hs : s.Sound)
    (hmost : s.maxContracts < 2 ^ 51) (hpays : Pays balance)
    (hd : s.isDegenerate entry stop = false) (hbudget : (s.budget balance).isFinite = true)
    (hper : (s.perContract entry stop).isFinite = true) :
    let q := s.quantity balance entry stop
    let budget := place (parts balance) * place (parts s.percent) / 100
    let per := s.exactTerms.perContract (place (parts entry)) (place (parts stop))
    q * per ≤ (budget + 1e-9 * per) * factor ^ 7 ∧
      (q = s.maxContracts ∨ budget < (q + 1) * per * factor ^ 7) := by
  intro q budget per
  have hbudget0 := hs.budget_nonneg balance
  have hper0 := hs.perContract_pos hd
  obtain ⟨-, hper0'⟩ := pos_iff.mp hper0
  have hwithin := hs.perContract_within hd hper
  have hperPos : 0 < per := by
    by_contra h
    have hle := hwithin.2.trans (mul_nonpos_of_nonpos_of_nonneg (not_lt.mp h)
      (pow_pos factor_pos 3).le)
    exact absurd hper0' (not_lt.mpr hle)
  have hq : q = affordable s.maxContracts (s.budget balance) (s.perContract entry stop) :=
    quantity_eq hd balance
  obtain ⟨hlow, hhigh⟩ := affordable_within hmost hbudget hbudget0 hper hper0
  rw [← hq] at hlow hhigh
  obtain ⟨hsmall, hsmall'⟩ | hlarge := hs.budget_within hpays hbudget
  · -- the budget pays for nothing
    have hspeck := (le_iff_place.mp (hs.speck_le_perContract hd)).2.2
    rw [place_speck] at hspeck
    have hzero : q = 0 := by
      refine hq.trans (affordable_eq_zero hmost hbudget hbudget0 hper hper0 ?_)
      rw [div_le_iff₀ hper0']
      calc place (parts (s.budget balance)) ≤ 2 ^ (-40 : ℤ) := hsmall'
        _ ≤ 1 / 2 * 2 ^ (-30 : ℤ) := by norm_num
        _ ≤ 1 / 2 * place (parts (s.perContract entry stop)) := by gcongr
    have hbudgetPos : 0 < budget :=
      div_pos (mul_pos (pos_iff.mp hpays.2).2 (pos_iff.mp hs.percent_pos).2) (by norm_num)
    have hfactor := factor_pos
    rw [hzero, Nat.cast_zero, zero_mul, zero_add, one_mul]
    refine ⟨by positivity, .inr ?_⟩
    calc budget < 2 ^ (-40 : ℤ) := hsmall
      _ ≤ 2 ^ (-30 : ℤ) := zpow_le_zpow_right₀ (by decide) (by decide)
      _ ≤ place (parts (s.perContract entry stop)) := hspeck
      _ ≤ per * factor ^ 3 := hwithin.2
      _ ≤ per * factor ^ 7 :=
          mul_le_mul_of_nonneg_left (pow_le_pow_right₀ one_lt_factor.le (by decide)) hperPos.le
  · exact ⟨mul_le_of_within hlarge hwithin (nonneg_iff.mp hbudget0).2 hperPos hper0' (by norm_num)
      hlow, hhigh.imp_right (lt_mul_of_within hlarge hwithin hper0' (by positivity))⟩

end Sizer

namespace Strategy

/-- **A trade takes the most contracts that the budget allows.**  The size comes from
one rule.  Read with exact numbers, the rule gives the greatest number of contracts
whose loss is within the budget and a billionth of a contract.  A balance that is not
finite or not above zero has size zero, and there is no size exactly for prices that are
not finite or closer than a millionth of a tick.  Rounding changes both bounds by a
factor of at most `1 + 2 ^ (-50)`, unless the budget or the loss is infinite. -/
theorem quantity_is_greatest {document : Json} {s : Strategy} (h : ofJson document = .ok s) :
    let x := s.sizer
    let t := x.exactTerms
    (∀ balance entry stop : Float,
        (x.quantity? balance entry stop).toOption = x.terms.quantity? balance entry stop) ∧
      (∀ balance entry stop : ℚ, 0 < balance → t.tickSize * 1e-6 ≤ |entry - stop| →
        let budget := balance * t.percent / 100
        let per := |entry - stop| / t.tickSize * t.tickValue
        ∃ q, t.quantity? balance entry stop = some q ∧ q ≤ t.maxContracts ∧
          q * per ≤ budget + 1e-9 * per ∧ (q = t.maxContracts ∨ budget < (q + 1) * per)) ∧
      (∀ balance entry stop : ℚ, balance ≤ 0 → t.tickSize * 1e-6 ≤ |entry - stop| →
        t.quantity? balance entry stop = some 0) ∧
      (∀ balance entry stop : ℚ,
        t.quantity? balance entry stop = none ↔ |entry - stop| < t.tickSize * 1e-6) ∧
      (∀ balance entry stop : Float, ¬balance.isFinite = true ∨ balance ≤ 0.0 →
        x.quantity balance entry stop = 0) ∧
      (∀ balance entry stop : Float, (∃ fault, x.quantity? balance entry stop = .error fault) ↔
        ¬entry.isFinite = true ∨ ¬stop.isFinite = true ∨
          (entry - stop).abs < x.contract.tickSize * Sizer.leastTicks) ∧
      (∀ balance entry stop : Float, Sizer.Pays balance → x.isDegenerate entry stop = false →
        (x.budget balance).isFinite = true → (x.perContract entry stop).isFinite = true →
        let q := x.quantity balance entry stop
        let budget := place (parts balance) * t.percent / 100
        let per := distance entry stop / t.tickSize * t.tickValue
        q ≤ x.maxContracts ∧ q * per ≤ (budget + 1e-9 * per) * (1 + 2 ^ (-50 : ℤ)) ∧
          (q = x.maxContracts ∨ budget < (q + 1) * per * (1 + 2 ^ (-50 : ℤ)))) := by
  have hrisk := risk_bounded h
  have hs := sizer_sound hrisk
  intro x t
  refine ⟨x.quantity?_eq_terms, ?greatest, ?nothing, ?close, ?unpaid, ?fails, ?rounded⟩
  case greatest =>
    intro balance entry stop hbalance hclose budget per
    obtain ⟨q, hq, hgreatest⟩ := Terms.quantity?_isGreatest hs.exactTerms hbalance hclose
    have hper : 0 < per := Terms.perContract_pos hs.exactTerms hclose
    exact ⟨q, hq, hgreatest.1.1, hgreatest.1.2,
      Terms.budget_lt_of_isGreatest (mul_nonneg (by norm_num) hper.le) hgreatest⟩
  case nothing =>
    intro balance entry stop hbalance hclose
    exact Terms.quantity?_of_nonpos hbalance hclose
  case close =>
    intro balance entry stop
    exact Terms.quantity?_eq_none_iff
  case unpaid =>
    intro balance entry stop hbalance
    refine Sizer.quantity_of_not_pays (fun hpays => ?_) entry stop
    obtain hinfinite | hle := hbalance
    · exact hinfinite hpays.1
    · exact (not_le_iff_lt (by decide) (isNaN_eq_false hpays.1)).mpr hpays.2 hle
  case fails =>
    intro balance entry stop
    rw [Sizer.quantity?_eq_error_iff, ← Bool.not_eq_false, Sizer.isDegenerate_eq_false_iff,
      not_and_or, not_and_or, not_not]
  case rounded =>
    intro balance entry stop hpays hd hbudget hper q budget per
    obtain ⟨hlow, hhigh⟩ :=
      hs.quantity_within_budget (maxContracts_lt hrisk) hpays hd hbudget hper
    have hbound {p : ℚ} (hp : 0 ≤ p) : p * factor ^ 7 ≤ p * (1 + 2 ^ (-50 : ℤ)) :=
      mul_le_mul_of_nonneg_left Sizer.factor_pow_seven_le hp
    have hper0 : 0 ≤ per := mul_nonneg (div_nonneg (abs_nonneg _) hs.exactTerms.tickSize_pos.le)
      hs.exactTerms.tickValue_pos.le
    have hbudget0 : 0 ≤ budget := div_nonneg
      (mul_nonneg (pos_iff.mp hpays.2).2.le hs.exactTerms.percent_pos.le) (by norm_num)
    exact ⟨s.quantity_le balance entry stop, hlow.trans (hbound (by positivity)),
      hhigh.imp_right fun h => h.trans_le (hbound (by positivity))⟩

/-- Three contracts of the sample are within the budget at half the range, two at the whole
range. -/
theorem quantity_is_greatest_sample :
    ofJson sample = .ok ofSample ∧
      ofSample.sizer.exactTerms.quantity? 100000 5010 5005 = some 3 ∧
        ofSample.sizer.exactTerms.quantity? 100000 5010 5000 = some 2 ∧
          ofSample.sizer.quantity (-1.0) 5010.0 5000.0 = 0 ∧
            ofSample.sizer.quantity 100000.0 5010.0 5000.0 ≤ 3 := by
  obtain ⟨-, hexact, -, -, hunpaid, -, hrounded⟩ := quantity_is_greatest ofJson_sample
  have hsize : parts 0.25 = .finite .positive (2 ^ 52) (-54) (by decide) := by rfl
  have hvalue : parts 12.5 = .finite .positive (25 * 2 ^ 48) (-49) (by decide) := by rfl
  have hpercent : parts 1.0 = .finite .positive (2 ^ 52) (-52) (by decide) := by rfl
  have hterms : ofSample.sizer.exactTerms = ⟨1 / 4, 25 / 2, 1, 3⟩ := by
    change Terms.mk (place (parts 0.25)) (place (parts 12.5)) (place (parts 1.0)) 3 = _
    rw [place_of_parts hsize, place_of_parts hvalue, place_of_parts hpercent]
    norm_num
  rw [hterms] at hexact ⊢
  refine ⟨ofJson_sample, ?_, ?_, ?_, ?_⟩
  · obtain ⟨q, hq, hle, hlow, hhigh⟩ := hexact 100000 5010 5005 (by norm_num) (by norm_num)
    rw [hq, hhigh.resolve_right fun hmore => ?_]
    norm_num at hmore
    have : (3 : ℚ) < q := by linarith
    exact absurd (Nat.cast_lt.mp this) (not_lt.mpr hle)
  · obtain ⟨q, hq, hle, hlow, hhigh⟩ := hexact 100000 5010 5000 (by norm_num) (by norm_num)
    norm_num at hlow hhigh
    have hfew : q < 3 := by
      by_contra hthree
      have : (3 : ℚ) ≤ q := by exact_mod_cast not_lt.mp hthree
      linarith
    have hmany : 1 < q := by
      have hmore := hhigh.resolve_left hfew.ne
      have : (1 : ℚ) < q := by linarith
      exact_mod_cast this
    rw [hq, (by omega : q = 2)]
  · exact hunpaid _ _ _ (.inr (by decide))
  · exact (hrounded 100000.0 5010.0 5000.0 (by decide) (by decide) (by decide +kernel)
      (by decide +kernel)).1

end Strategy

end Playbook
