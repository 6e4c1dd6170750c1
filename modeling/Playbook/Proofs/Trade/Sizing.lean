import Playbook.Proofs.Number.Order
import Playbook.Trade.Sizing

/-!
# Playbook.Proofs.Trade.Sizing

How the size of a trade depends on what it is computed from.

More balance, more percent and a higher cap never make a trade smaller, and more
distance between entry and stop never makes it larger (`Sizer.quantity_ordered`).
No exact arithmetic is needed for that: every operation keeps the order, rounded
or infinite, and each early exit stands at its end of the order.  The two prices
count by their distance only, so that both sides of a trade are sized alike.
-/

namespace Playbook

open Number

/-! ## contracts -/

/-- An amount far below those of any contract, `2 ^ -30`. -/
def speck : Float := 9.31322574615478515625e-10

/-- The economics of a contract are positive numbers, and the least distance that can
be sized is worth something, in points, in ticks and in dollars. -/
structure Contract.Sound (c : Contract) : Prop where
  tickSize_pos : 0.0 < c.tickSize
  tickSize_finite : c.tickSize.isFinite = true
  tickValue_pos : 0.0 < c.tickValue
  tickValue_finite : c.tickValue.isFinite = true
  speck_le_points : speck ≤ c.tickSize * Sizer.leastTicks
  speck_le_ticks : speck ≤ c.tickSize * Sizer.leastTicks / c.tickSize
  speck_le_dollars : speck ≤ c.tickSize * Sizer.leastTicks / c.tickSize * c.tickValue

/-- Every contract has a positive tick that is worth something. -/
theorem Symbol.contract_sound (x : Symbol) : x.contract.Sound := by
  cases x <;> constructor <;> decide

/-- So there is a least distance that is not degenerate. -/
theorem Contract.Sound.leastDistance_pos {c : Contract} (hc : c.Sound) :
    0.0 < c.tickSize * Sizer.leastTicks := by
  calc (0.0 : Float) < speck := by decide
    _ ≤ c.tickSize * Sizer.leastTicks := hc.speck_le_points

/-- A longer distance is not worth less. -/
theorem Contract.Sound.dollars_mono {c : Contract} (hc : c.Sound) {d d' : Float} (hd : 0.0 ≤ d)
    (h : d ≤ d') : d / c.tickSize * c.tickValue ≤ d' / c.tickSize * c.tickValue :=
  mul_le_mul_of_pos hc.tickValue_pos hc.tickValue_finite
    (div_nonneg_of_pos hc.tickSize_pos hc.tickSize_finite hd)
    (div_le_div_of_pos hc.tickSize_pos hc.tickSize_finite hd h)

namespace Sizer

/-! ## whole contracts -/

/-- The whole contracts that a budget pays for at a loss per contract. -/
def affordable (most : Nat) (budget per : Float) : Nat :=
  if budget ≤ 0.0 || !per.isFinite || per ≤ 0.0 then 0
  else floorWithin most (budget / per + tolerance)

section affordable

variable {most most' : Nat} {budget budget' per per' : Float}

/-- Nothing is paid for by no budget or at a loss without bounds. -/
theorem affordable_eq_ite (hbudget : 0.0 ≤ budget) (hper : 0.0 ≤ per) :
    affordable most budget per =
      if 0.0 < budget ∧ per.isFinite = true ∧ 0.0 < per then
        floorWithin most (budget / per + tolerance)
      else 0 := by
  have hguard {x : Float} (hx : 0.0 ≤ x) : x ≤ 0.0 ↔ ¬0.0 < x := by
    rw [← not_le_iff_lt (by decide) (isNaN_eq_false_iff.mpr (nonneg_iff.mp hx).1), not_not]
  rw [affordable, ← ite_not]
  congr 1
  simp only [Bool.or_eq_true, decide_eq_true_eq, Bool.not_eq_true', hguard hbudget, hguard hper,
    not_or, not_not, Bool.not_eq_false, and_assoc]

/-- With a budget and a loss the rule is a quotient, a little up and cut down to whole
contracts. -/
theorem affordable_eq (hbudget : 0.0 < budget) (hfinite : per.isFinite = true) (hper : 0.0 < per) :
    affordable most budget per = floorWithin most (budget / per + tolerance) := by
  rw [affordable_eq_ite (le_of_lt_number hbudget) (le_of_lt_number hper),
    if_pos ⟨hbudget, hfinite, hper⟩]

theorem tolerance_isFinite : tolerance.isFinite = true := by decide

theorem tolerance_nonneg : 0.0 ≤ tolerance := by decide

/-- A quotient with the tolerance is not below zero. -/
theorem quotient_nonneg (hbudget : 0.0 ≤ budget) (hfinite : per.isFinite = true)
    (hper : 0.0 < per) : 0.0 ≤ budget / per + tolerance :=
  add_nonneg_of_finite tolerance_isFinite tolerance_nonneg
    (div_nonneg_of_pos hper hfinite hbudget)

theorem affordable_mono_most (h : most ≤ most') (budget per : Float) :
    affordable most budget per ≤ affordable most' budget per := by
  unfold affordable
  split
  · exact le_rfl
  · exact floorWithin_mono_most h _

theorem affordable_mono_budget (hbudget : 0.0 ≤ budget) (h : budget ≤ budget')
    (hper : 0.0 ≤ per) : affordable most budget per ≤ affordable most budget' per := by
  by_cases hguard : 0.0 < budget ∧ per.isFinite = true ∧ 0.0 < per
  · obtain ⟨hpos, hfinite, hper'⟩ := hguard
    have hpos' : 0.0 < budget' := by
      calc (0.0 : Float) < budget := hpos
        _ ≤ budget' := h
    rw [affordable_eq hpos hfinite hper', affordable_eq hpos' hfinite hper']
    exact floorWithin_mono most (quotient_nonneg hbudget hfinite hper')
      (add_le_add_of_finite tolerance_isFinite (div_nonneg_of_pos hper' hfinite hbudget)
        (div_le_div_of_pos hper' hfinite hbudget h))
  · rw [affordable_eq_ite hbudget hper, if_neg hguard]
    exact Nat.zero_le _

/-- An infinite loss per contract is at the far end: it pays for nothing. -/
theorem affordable_antitone_per (hbudget : 0.0 ≤ budget) (hper : 0.0 < per) (h : per ≤ per') :
    affordable most budget per' ≤ affordable most budget per := by
  have hper' : 0.0 < per' := by
    calc (0.0 : Float) < per := hper
      _ ≤ per' := h
  by_cases hguard : 0.0 < budget ∧ per'.isFinite = true ∧ 0.0 < per'
  · obtain ⟨hpos, hfinite', -⟩ := hguard
    have hfinite : per.isFinite = true := isFinite_of_le (le_of_lt_number hper) h hfinite'
    rw [affordable_eq hpos hfinite' hper', affordable_eq hpos hfinite hper]
    exact floorWithin_mono most (quotient_nonneg hbudget hfinite' hper')
      (add_le_add_of_finite tolerance_isFinite (div_nonneg_of_pos hper' hfinite' hbudget)
        (div_le_div_of_le hbudget hper h hfinite'))
  · rw [affordable_eq_ite hbudget (le_of_lt_number hper'), if_neg hguard]
    exact Nat.zero_le _

end affordable

variable {s : Sizer} {balance balance' entry stop entry' stop' : Float}

/-! ## budgets -/

/-- A balance pays for a trade: it is finite and above zero. -/
def Pays (balance : Float) : Prop := balance.isFinite = true ∧ 0.0 < balance

instance (balance : Float) : Decidable (Pays balance) :=
  inferInstanceAs (Decidable (_ ∧ _))

/-- A balance that is not positive, or not finite, pays for nothing. -/
theorem budget_eq_ite (s : Sizer) (balance : Float) :
    s.budget balance = if Pays balance then balance * s.percent / 100.0 else 0.0 := by
  rw [budget, ← ite_not]
  congr 1
  by_cases hfinite : balance.isFinite = true
  · have hzero : (0.0 : Float).isNaN = false := by decide
    simp [Pays, hfinite, ← not_le_iff_lt hzero (isNaN_eq_false hfinite)]
  · simp [Pays, hfinite]

end Sizer

/-- A rule for the size of trades in a listed contract, with a percent of the balance
that is above zero and finite. -/
structure Sizer.Sound (s : Sizer) : Prop where
  contract : s.contract.Sound
  percent_pos : 0.0 < s.percent
  percent_finite : s.percent.isFinite = true

namespace Sizer

variable {s : Sizer} {balance balance' entry stop entry' stop' : Float}

/-- A budget is never negative. -/
theorem Sound.budget_nonneg (hs : s.Sound) (balance : Float) : 0.0 ≤ s.budget balance := by
  rw [budget_eq_ite]
  split
  · next h =>
    exact div_nonneg_of_pos (by decide) (by decide)
      (mul_nonneg_of_pos h.2 h.1 (le_of_lt_number hs.percent_pos))
  · decide

/-- A larger balance gives no smaller budget, as long as it is finite. -/
theorem Sound.budget_mono (hs : s.Sound) (hfinite : balance'.isFinite = true)
    (h : balance ≤ balance') : s.budget balance ≤ s.budget balance' := by
  by_cases hpays : Pays balance
  · have hpays' : Pays balance' := by
      refine ⟨hfinite, ?_⟩
      calc (0.0 : Float) < balance := hpays.2
        _ ≤ balance' := h
    rw [budget_eq_ite, if_pos hpays, budget_eq_ite, if_pos hpays']
    exact div_le_div_of_pos (by decide) (by decide)
      (mul_nonneg_of_pos hpays.2 hpays.1 (le_of_lt_number hs.percent_pos))
      (mul_le_mul_of_pos hs.percent_pos hs.percent_finite (le_of_lt_number hpays.2) h)
  · rw [budget_eq_ite, if_neg hpays]
    exact hs.budget_nonneg balance'

theorem Sound.budget_mono_percent (hs : s.Sound) {percent' : Float} (h : s.percent ≤ percent')
    (balance : Float) : s.budget balance ≤ { s with percent := percent' }.budget balance := by
  rw [budget_eq_ite, budget_eq_ite]
  split
  · next hpays =>
    have hpercent := le_of_lt_number hs.percent_pos
    refine div_le_div_of_pos (by decide) (by decide) (mul_nonneg_of_pos hpays.2 hpays.1 hpercent) ?_
    rw [mul_swap balance, mul_swap balance]
    exact mul_le_mul_of_pos hpays.2 hpays.1 hpercent h
  · decide

/-! ## losses per contract -/

/-- Prices that are not degenerate are finite and not too close. -/
theorem isDegenerate_eq_false_iff :
    s.isDegenerate entry stop = false ↔
      entry.isFinite = true ∧ stop.isFinite = true ∧
        ¬(entry - stop).abs < s.contract.tickSize * leastTicks := by
  simp only [isDegenerate, Bool.or_eq_false_iff, Bool.not_eq_false', decide_eq_false_iff_not,
    and_assoc]

/-- A stop that is not degenerate is at least so far away. -/
theorem Sound.leastDistance_le (hs : s.Sound) (h : s.isDegenerate entry stop = false) :
    s.contract.tickSize * leastTicks ≤ (entry - stop).abs := by
  obtain ⟨hentry, hstop, hle⟩ := isDegenerate_eq_false_iff.mp h
  have hleast := (pos_iff.mp hs.contract.leastDistance_pos).1
  exact le_of_not_lt_number (isNaN_eq_false_iff.mpr (place_abs_sub hentry hstop).1)
    (isNaN_eq_false_iff.mpr hleast) hle

/-- So it loses at least a speck, whatever is rounded off. -/
theorem Sound.speck_le_perContract (hs : s.Sound) (h : s.isDegenerate entry stop = false) :
    speck ≤ s.perContract entry stop := by
  calc speck ≤ _ := hs.contract.speck_le_dollars
    _ ≤ s.perContract entry stop :=
        hs.contract.dollars_mono (le_of_lt_number hs.contract.leastDistance_pos)
          (hs.leastDistance_le h)

theorem Sound.perContract_pos (hs : s.Sound) (h : s.isDegenerate entry stop = false) :
    0.0 < s.perContract entry stop := by
  calc (0.0 : Float) < speck := by decide
    _ ≤ s.perContract entry stop := hs.speck_le_perContract h

/-! ## sizes -/

/-- The only fault of sizing is a degenerate stop. -/
theorem quantity?_of_degenerate (h : s.isDegenerate entry stop = true) (balance : Float) :
    s.quantity? balance entry stop = .error (.degenerateRisk entry stop) := by
  rw [quantity?, if_pos h]

theorem quantity?_eq (h : s.isDegenerate entry stop = false) (balance : Float) :
    s.quantity? balance entry stop =
      .ok (affordable s.maxContracts (s.budget balance) (s.perContract entry stop)) := by
  rw [quantity?, if_neg (by rw [h]; decide), affordable, apply_ite Except.ok]

/-- The size that is shown for a degenerate stop is zero. -/
theorem quantity_of_degenerate (h : s.isDegenerate entry stop = true) (balance : Float) :
    s.quantity balance entry stop = 0 := by
  rw [quantity, quantity?_of_degenerate h]

theorem quantity_eq (h : s.isDegenerate entry stop = false) (balance : Float) :
    s.quantity balance entry stop =
      affordable s.maxContracts (s.budget balance) (s.perContract entry stop) := by
  rw [quantity, quantity?_eq h]

/-- There is a fault exactly if the prices are degenerate. -/
theorem quantity?_eq_error_iff :
    (∃ fault, s.quantity? balance entry stop = .error fault) ↔
      s.isDegenerate entry stop = true := by
  cases hd : s.isDegenerate entry stop with
  | true => exact iff_of_true ⟨_, quantity?_of_degenerate hd balance⟩ rfl
  | false =>
      rw [quantity?_eq hd]
      exact iff_of_false nofun Bool.false_ne_true

theorem quantity_of_not_pays (h : ¬Pays balance) (entry stop : Float) :
    s.quantity balance entry stop = 0 := by
  cases hd : s.isDegenerate entry stop with
  | true => exact quantity_of_degenerate hd balance
  | false =>
      rw [quantity_eq hd, budget_eq_ite, if_neg h, affordable, if_pos]
      exact Bool.or_eq_true_iff.mpr (.inl (Bool.or_eq_true_iff.mpr (.inl (by decide))))

/-- Prices count by their distance only, as long as they are finite. -/
theorem quantity_congr (hfinite : (entry'.isFinite && stop'.isFinite) =
    (entry.isFinite && stop.isFinite)) (habs : (entry' - stop').abs = (entry - stop).abs)
    (balance : Float) : s.quantity balance entry' stop' = s.quantity balance entry stop := by
  have hdegenerate : s.isDegenerate entry' stop' = s.isDegenerate entry stop := by
    rw [isDegenerate, isDegenerate, habs, ← Bool.not_and, ← Bool.not_and, hfinite]
  have hper : s.perContract entry' stop' = s.perContract entry stop := by
    simp only [perContract, Contract.distanceDollars, Contract.ticksOf, habs]
  by_cases h : s.isDegenerate entry stop = true
  · rw [quantity_of_degenerate h, quantity_of_degenerate (hdegenerate.trans h)]
  · rw [Bool.not_eq_true] at h
    rw [quantity_eq h, quantity_eq (hdegenerate.trans h), hper]

/-- Sizes of two rules for the same contract are compared where there are any. -/
theorem quantity_le_quantity {s' : Sizer} (hcontract : s'.contract = s.contract)
    (h : s.isDegenerate entry stop = false →
      affordable s.maxContracts (s.budget balance) (s.perContract entry stop) ≤
        affordable s'.maxContracts (s'.budget balance') (s.perContract entry stop)) :
    s.quantity balance entry stop ≤ s'.quantity balance' entry stop := by
  have hdegenerate : s'.isDegenerate entry stop = s.isDegenerate entry stop := by
    rw [isDegenerate, isDegenerate, hcontract]
  have hper : s'.perContract entry stop = s.perContract entry stop := by
    rw [perContract, perContract, hcontract]
  cases hd : s.isDegenerate entry stop with
  | true =>
      rw [quantity_of_degenerate hd]
      exact Nat.zero_le _
  | false =>
      rw [quantity_eq hd, quantity_eq (hdegenerate.trans hd), hper]
      exact h hd

theorem Sound.quantity_mono_balance (hs : s.Sound) (hfinite : balance'.isFinite = true)
    (h : balance ≤ balance') (entry stop : Float) :
    s.quantity balance entry stop ≤ s.quantity balance' entry stop :=
  quantity_le_quantity rfl fun hd =>
    affordable_mono_budget (hs.budget_nonneg balance) (hs.budget_mono hfinite h)
      (le_of_lt_number (hs.perContract_pos hd))

theorem Sound.quantity_mono_percent (hs : s.Sound) {percent' : Float} (h : s.percent ≤ percent')
    (balance entry stop : Float) :
    s.quantity balance entry stop ≤ { s with percent := percent' }.quantity balance entry stop :=
  quantity_le_quantity rfl fun hd =>
    affordable_mono_budget (hs.budget_nonneg balance) (hs.budget_mono_percent h balance)
      (le_of_lt_number (hs.perContract_pos hd))

theorem quantity_mono_most {most' : Nat} (h : s.maxContracts ≤ most')
    (balance entry stop : Float) :
    s.quantity balance entry stop ≤
      { s with maxContracts := most' }.quantity balance entry stop :=
  quantity_le_quantity rfl fun _ => affordable_mono_most h _ _

/-- A stop further away buys no more. -/
theorem Sound.quantity_antitone_distance (hs : s.Sound) (h : s.isDegenerate entry stop = false)
    (h' : s.isDegenerate entry' stop' = false) (hle : (entry - stop).abs ≤ (entry' - stop').abs)
    (balance : Float) : s.quantity balance entry' stop' ≤ s.quantity balance entry stop := by
  have hleast : 0.0 ≤ (entry - stop).abs := by
    calc (0.0 : Float) ≤ s.contract.tickSize * leastTicks :=
          le_of_lt_number hs.contract.leastDistance_pos
      _ ≤ (entry - stop).abs := hs.leastDistance_le h
  rw [quantity_eq h, quantity_eq h']
  exact affordable_antitone_per (hs.budget_nonneg balance) (hs.perContract_pos h)
    (hs.contract.dollars_mono hleast hle)

/-- **Sizes keep the order**, infinite intermediate results included: a trade is not
smaller for more balance, more percent or a higher cap, and not larger for more
distance between entry and stop, whether the distance is rounded or exact.  And the
size is the same with entry and stop swapped, or with both of them negated. -/
theorem quantity_ordered (x : Symbol) (percent : Float) (hpos : 0.0 < percent)
    (hle : percent ≤ 5.0) (most : Nat) :
    let s : Sizer := ⟨x.contract, percent, most⟩
    (∀ {balance balance' : Float} (entry stop : Float), balance.isFinite → balance'.isFinite →
        balance ≤ balance' → s.quantity balance entry stop ≤ s.quantity balance' entry stop) ∧
      (∀ {percent' : Float} (balance entry stop : Float), percent ≤ percent' → percent' ≤ 5.0 →
        s.quantity balance entry stop ≤
          quantity ⟨x.contract, percent', most⟩ balance entry stop) ∧
      (∀ {most' : Nat} (balance entry stop : Float), most ≤ most' →
        s.quantity balance entry stop ≤
          quantity ⟨x.contract, percent, most'⟩ balance entry stop) ∧
      (∀ {entry stop entry' stop' : Float} (balance : Float), s.isDegenerate entry stop = false →
        s.isDegenerate entry' stop' = false →
          (entry - stop).abs ≤ (entry' - stop').abs ∨ distance entry stop ≤ distance entry' stop' →
            s.quantity balance entry' stop' ≤ s.quantity balance entry stop) ∧
      ∀ balance entry stop : Float,
        s.quantity balance stop entry = s.quantity balance entry stop ∧
          s.quantity balance (-entry) (-stop) = s.quantity balance entry stop := by
  intro s
  have hs : s.Sound := ⟨x.contract_sound, hpos, isFinite_of_le (le_of_lt_number hpos) hle rfl⟩
  refine ⟨?balance, ?percent, ?cap, ?distance, ?sides⟩
  case balance =>
    intro balance balance' entry stop _ hfinite hbalance
    exact hs.quantity_mono_balance hfinite hbalance entry stop
  case percent =>
    intro percent' balance entry stop hpercent _
    exact hs.quantity_mono_percent hpercent balance entry stop
  case cap =>
    intro most' balance entry stop hmost
    exact quantity_mono_most (s := s) hmost balance entry stop
  case distance =>
    intro entry stop entry' stop' balance h h' hdistance
    obtain ⟨hentry, hstop, -⟩ := isDegenerate_eq_false_iff.mp h
    obtain ⟨hentry', hstop', -⟩ := isDegenerate_eq_false_iff.mp h'
    have hrounded : (entry - stop).abs ≤ (entry' - stop').abs :=
      hdistance.elim id (abs_sub_mono hentry hstop hentry' hstop')
    exact hs.quantity_antitone_distance h h' hrounded balance
  case sides =>
    intro balance entry stop
    constructor
    · exact quantity_congr (Bool.and_comm _ _) (abs_sub_swap stop entry) balance
    · refine quantity_congr (by rw [isFinite_neg, isFinite_neg]) ?_ balance
      exact ((negates_neg entry).sub (negates_neg stop)).abs.symm

theorem quantity_ordered_es :
    let s : Sizer := ⟨Symbol.es.contract, 1.0, 10⟩
    (0.0 : Float) < 1.0 ∧ (1.0 : Float) ≤ 5.0 ∧
      s.quantity 100000.0 5000.0 4990.0 ≤ s.quantity 1e308 5000.0 4990.0 ∧
        s.quantity 100000.0 1e308 (-1e308) ≤ s.quantity 100000.0 5000.0 4990.0 := by
  have h := quantity_ordered .es 1.0 (by decide) (by decide) 10
  refine ⟨by decide, by decide, ?_, ?_⟩
  · exact h.1 _ _ (by decide) (by decide +kernel) (by decide +kernel)
  · exact h.2.2.2.1 _ (by decide) (by decide +kernel) (.inl (by decide +kernel))

end Sizer

end Playbook
