import Playbook.Proofs.Number.Error
import Playbook.Proofs.Session.Window
import Playbook.Proofs.Strategy.Bounds
import Playbook.Proofs.Trade.Obstacle
import Playbook.Proofs.Trade.Sizing

/-!
# Playbook.Proofs.Trade.Amounts

When the amounts of a plan are numbers.

The prices of a plan are finite, but what is risked and the ratio of reward and risk
are computed from them without another check.  The loss of one contract may be
infinite; then nothing is traded, and no contracts times an infinite loss is not a
number (`Strategy.riskDollars_of_distantStop`).  `Strategy.plan_amounts` says exactly
when both amounts are finite: always for levels of any common size.
-/

namespace Playbook

open Number

/-! ## distances -/

section distances

variable {x y c : Float}

/-- The distance of two prices that are not too large. -/
theorem abs_sub_le_add (hx : x.isFinite = true) (hy : y.isFinite = true) (hc : c.isFinite = true)
    (hxc : x.abs ≤ c) (hyc : y.abs ≤ c) : (x - y).abs ≤ c + c := by
  obtain ⟨hne, hplace⟩ := place_abs_sub hx hy
  obtain ⟨hne', hplace'⟩ := place_add hc hc
  have hxc' := (le_iff_place.mp hxc).2.2
  have hyc' := (le_iff_place.mp hyc).2.2
  rw [place_abs] at hxc' hyc'
  rw [le_iff_place, hplace, hplace']
  refine ⟨hne, hne', cut_nearest_mono ?_⟩
  calc distance x y ≤ |place (parts x)| + |place (parts y)| := abs_sub _ _
    _ ≤ place (parts c) + place (parts c) := add_le_add hxc' hyc'

/-- A whole part is not larger than the number. -/
theorem floorWithin_le_place {most : Nat} (hmost : most < 2 ^ 53) (hx : 0.0 ≤ x) :
    (floorWithin most x : ℚ) ≤ place (parts x) := by
  obtain ⟨-, hx0⟩ := nonneg_iff.mp hx
  by_cases hfin : x.isFinite = true
  · rw [floorWithin_of_isFinite hfin]
    calc ((min ⌊place (parts x)⌋₊ most : Nat) : ℚ) ≤ ⌊place (parts x)⌋₊ :=
          Nat.cast_le.mpr (min_le_left _ _)
      _ ≤ place (parts x) := Nat.floor_le hx0
  · have hinf := parts_eq_infinity hx hfin
    rw [floorWithin_of_infinite hinf, hinf, place, apply_positive, Int.cast_one, one_mul]
    exact (lt_of_abs_lt (abs_natCast_lt_limit hmost)).le

end distances

namespace Sizer

variable {s : Sizer} {balance entry stop : Float}

/-- A loss is not negative, whichever side the stop is on. -/
theorem Sound.perContract_nonneg (hs : s.Sound) (hentry : entry.isFinite = true)
    (hstop : stop.isFinite = true) : 0.0 ≤ s.perContract entry stop := by
  have habs : 0.0 ≤ (entry - stop).abs :=
    abs_nonneg_number (isNaN_eq_false_iff.mpr (place_sub hentry hstop).1)
  rw [perContract, Contract.distanceDollars, Contract.tickDollars, Contract.ticksOf, mul_swap]
  exact mul_nonneg_of_pos hs.contract.tickValue_pos hs.contract.tickValue_finite
    (div_nonneg_of_pos hs.contract.tickSize_pos hs.contract.tickSize_finite habs)

/-- Nothing is traded at an infinite loss per contract. -/
theorem Sound.quantity_of_infinite (hs : s.Sound)
    (h : ¬(s.perContract entry stop).isFinite = true) (balance : Float) :
    s.quantity balance entry stop = 0 := by
  cases hd : s.isDegenerate entry stop with
  | true => exact quantity_of_degenerate hd balance
  | false =>
      rw [quantity_eq hd, affordable_eq_ite (hs.budget_nonneg balance)
        (le_of_lt_number (hs.perContract_pos hd)), if_neg fun hguard => h hguard.2.1]

theorem place_hundred : place (parts 100.0) = 100 := by
  exact_mod_cast ((natural?_eq_some_iff 100.0 100).mp (by decide)).place_eq

theorem affordable_le (most : Nat) (budget per : Float) : affordable most budget per ≤ most := by
  unfold affordable
  split
  · exact Nat.zero_le _
  · exact floorWithin_le _ _

/-- What can be paid for is at most the quotient with the tolerance. -/
theorem affordable_le_place {most : Nat} {budget per : Float} (hmost : most < 2 ^ 53)
    (hbudget : 0.0 ≤ budget) (hfinite : per.isFinite = true) (hper : 0.0 < per) :
    (affordable most budget per : ℚ) ≤ place (parts (budget / per + tolerance)) := by
  have hquot := quotient_nonneg hbudget hfinite hper
  rw [affordable_eq_ite hbudget (le_of_lt_number hper)]
  split
  · exact floorWithin_le_place hmost hquot
  · rw [Nat.cast_zero]
    exact (nonneg_iff.mp hquot).2

/-- A budget that is finite is far from the largest number: percents are divided by one
hundred last. -/
theorem Sound.place_budget_le (hs : s.Sound) (h : (s.budget balance).isFinite = true) :
    place (parts (s.budget balance)) ≤ 2 ^ (1018 : ℤ) := by
  rw [budget_eq_ite] at h ⊢
  split at h
  · next hpays =>
    rw [if_pos hpays]
    have hproduct : 0.0 ≤ balance * s.percent :=
      mul_nonneg_of_pos hpays.2 hpays.1 (le_of_lt_number hs.percent_pos)
    obtain ⟨hfinite, -⟩ := (isFinite_div_iff hproduct (by decide)).mp h
    have hlarge := cut_nearest_mul_zpow (n := 2 ^ 47) (e := 971) (by decide) (by decide) (by decide)
    have hpower : ((2 ^ 47 : ℕ) : ℚ) * 2 ^ (971 : ℤ) = 2 ^ (1018 : ℤ) := by
      rw [Nat.cast_pow, Nat.cast_ofNat, ← zpow_natCast, ← zpow_add₀ (by decide)]
      rfl
    rw [hpower] at hlarge
    obtain ⟨-, hplace⟩ := place_div hfinite (by decide : (100.0 : Float).isFinite = true)
      (by rw [place_hundred]; decide)
    rw [hplace, place_hundred, ← hlarge]
    refine cut_nearest_mono ?_
    have hlimit : limit = 64 * 2 ^ (1018 : ℤ) := by
      rw [limit, ← (by norm_num : (2 : ℚ) ^ (6 : ℤ) = 64), ← zpow_add₀ (by decide)]
      rfl
    rw [div_le_iff₀ (by decide)]
    calc place (parts (balance * s.percent)) ≤ limit := (lt_of_abs_lt (abs_place_lt hfinite)).le
      _ ≤ 2 ^ (1018 : ℤ) * 100 := by
          rw [hlimit, mul_comm]
          gcongr
          norm_num
  · next hpays =>
    rw [if_neg hpays]
    change (0 : ℚ) ≤ _
    positivity

/-- The tolerance of the rule is far below a whole contract. -/
theorem place_tolerance_le : place (parts tolerance) ≤ 2 ^ (-2 : ℤ) := by
  have hquarter : parts 0.25 = .finite .positive (2 ^ 52) (-54) (by decide) := by rfl
  have hle : tolerance ≤ 0.25 := by decide
  have h := (le_iff_place.mp hle).2.2
  rw [place_of_parts hquarter] at h
  norm_num at h ⊢
  exact h

/-- A quotient that is half of a whole number at most stays below it with the tolerance. -/
theorem quotient_lt {budget per : Float} {n : Nat} (hn : 0 < n) (hn' : n < 2 ^ 51)
    (hbudget : budget.isFinite = true) (hper : per.isFinite = true) (hper0 : 0.0 < per)
    (h : place (parts budget) / place (parts per) ≤ n * 2 ^ (-1 : ℤ)) (hbudget0 : 0.0 ≤ budget) :
    place (parts (budget / per + tolerance)) < n := by
  have hone : (1 : ℚ) ≤ n := Nat.one_le_cast.mpr hn
  obtain ⟨hne, hplace⟩ := place_div hbudget hper (pos_iff.mp hper0).2.ne'
  have hquot : place (parts (budget / per)) ≤ n * 2 ^ (-1 : ℤ) := by
    rw [hplace, ← cut_nearest_mul_zpow (n := n) (e := -1) (by omega) (by decide) (by decide)]
    exact cut_nearest_mono h
  have hfinite : (budget / per).isFinite = true := by
    refine isFinite_of_place hne ?_
    rw [abs_of_nonneg (nonneg_iff.mp (div_nonneg_of_pos hper0 hper hbudget0)).2]
    calc place (parts (budget / per)) ≤ n * 2 ^ (-1 : ℤ) := hquot
      _ ≤ n := mul_le_of_le_one_right n.cast_nonneg (by norm_num)
      _ < limit := lt_of_abs_lt (abs_natCast_lt_limit (by omega))
  have hthree := cut_nearest_mul_zpow (n := 3 * n) (e := -2) (by omega) (by decide) (by decide)
  calc place (parts (budget / per + tolerance))
      = cut (nearest (place (parts (budget / per)) + place (parts tolerance))) :=
        (place_add hfinite tolerance_isFinite).2
    _ ≤ cut (nearest ((3 * n : ℕ) * 2 ^ (-2 : ℤ))) := by
        refine cut_nearest_mono ?_
        have htolerance := place_tolerance_le
        norm_num at hquot htolerance ⊢
        linarith
    _ = (3 * n : ℕ) * 2 ^ (-2 : ℤ) := hthree
    _ < n := by
        push_cast
        norm_num
        linarith

/-- What a trade risks is about the budget, so it is finite if the budget is. -/
theorem Sound.quantity_mul_lt (hs : s.Sound) (hmost : s.maxContracts < 2 ^ 51)
    (hbudget : (s.budget balance).isFinite = true)
    (hper : (s.perContract entry stop).isFinite = true) :
    s.quantity balance entry stop * place (parts (s.perContract entry stop)) < overflow := by
  have hbudget0 := hs.budget_nonneg balance
  have hbudgetLe := hs.place_budget_le hbudget
  obtain hzero | hpos := (s.quantity balance entry stop).eq_zero_or_pos
  · rw [hzero, Nat.cast_zero, zero_mul]
    exact overflow_pos
  have hd : s.isDegenerate entry stop = false := by
    by_contra hd
    rw [quantity_of_degenerate (Bool.eq_true_of_not_eq_false hd)] at hpos
    exact absurd hpos (lt_irrefl 0)
  have hper0 := hs.perContract_pos hd
  obtain ⟨-, hper0'⟩ := pos_iff.mp hper0
  rw [quantity_eq hd] at hpos ⊢
  have hle := affordable_le_place (by omega : s.maxContracts < 2 ^ 53) hbudget0 hper hper0
  have hmost' := affordable_le s.maxContracts (s.budget balance) (s.perContract entry stop)
  by_contra hover
  rw [not_lt] at hover
  refine absurd hle (not_le.mpr (quotient_lt hpos (by omega) hbudget hper hper0 ?_ hbudget0))
  rw [div_le_iff₀ hper0', mul_right_comm]
  calc place (parts (s.budget balance)) ≤ 2 ^ (1018 : ℤ) := hbudgetLe
    _ ≤ 2 ^ (1023 : ℤ) * 2 ^ (-1 : ℤ) := by
        rw [← zpow_add₀ (by decide)]
        exact zpow_le_zpow_right₀ (by decide) (by decide)
    _ ≤ _ := by
        gcongr
        exact two_zpow_le_overflow.trans hover

end Sizer

/-! ## plans -/

namespace Strategy

variable {s : Strategy} {side : Side} {l : Levels}

/-- The sizer of an accepted strategy is sound. -/
theorem sizer_sound (h : s.risk.Bounded) : s.sizer.Sound :=
  ⟨s.symbol.contract_sound, h.percent.2, h.percent.1⟩

/-- The number of contracts has 32 bits, so it is exact as a float. -/
theorem maxContracts_lt (h : s.risk.Bounded) : s.sizer.maxContracts < 2 ^ 51 :=
  lt_of_le_of_lt h.le_largest (by decide)

/-- A number of contracts is not rounded. -/
theorem isValue_quantity (hrisk : s.risk.Bounded) (balance entry stop : Float) :
    IsValue (Float.ofNat (s.quantity balance entry stop)) (s.quantity balance entry stop) :=
  isValue_ofNat (lt_of_le_of_lt (s.quantity_le balance entry stop)
    ((maxContracts_lt hrisk).trans (by decide)))

/-- No contracts at an infinite loss are not a number. -/
theorem riskDollars_of_infinite (hrisk : s.risk.Bounded)
    (hl : side.Ordered l.entry l.stop l.target)
    (h : ¬(s.sizer.perContract l.entry l.stop).isFinite = true) (balance : Float) :
    (s.planOf side l balance).contracts = 0 ∧
      (s.planOf side l balance).riskDollars.isNaN = true := by
  obtain ⟨⟨hentry, hstop, -⟩, -⟩ := hl
  have hs := sizer_sound hrisk
  have hzero : s.quantity balance l.entry l.stop = 0 := hs.quantity_of_infinite h balance
  have hparts : parts (Float.ofNat 0) = .zero .positive := by rfl
  refine ⟨hzero, ?_⟩
  rw [planOf, hzero, isNaN_eq, mul_eq, hparts,
    parts_eq_infinity (hs.perContract_nonneg hentry hstop) h]
  exact congrArg _ (parts_ofParts (u := .notANumber) trivial trivial)

/-- What is risked is the product of the contracts and the loss of one of them. -/
theorem riskDollars_isFinite_iff (hrisk : s.risk.Bounded)
    (hl : side.Ordered l.entry l.stop l.target) (balance : Float) :
    (s.planOf side l balance).riskDollars.isFinite = true ↔
      (s.sizer.perContract l.entry l.stop).isFinite = true ∧
        s.quantity balance l.entry l.stop *
          place (parts (s.sizer.perContract l.entry l.stop)) < overflow := by
  by_cases hper : (s.sizer.perContract l.entry l.stop).isFinite = true
  · have hcount := isValue_quantity hrisk balance l.entry l.stop
    have hcount0 : 0.0 ≤ Float.ofNat (s.quantity balance l.entry l.stop) :=
      nonneg_iff.mpr ⟨isFinite_ne hcount.isFinite, hcount.place_eq ▸ Nat.cast_nonneg _⟩
    obtain ⟨⟨hentry, hstop, -⟩, -⟩ := hl
    rw [planOf, isFinite_mul_iff hcount.isFinite hcount0 hper
      ((sizer_sound hrisk).perContract_nonneg hentry hstop), hcount.place_eq, and_iff_right hper]
  · have hnan := (riskDollars_of_infinite hrisk hl hper balance).2
    refine iff_of_false (fun hfinite => ?_) fun h => hper h.1
    rw [isNaN_eq_false hfinite] at hnan
    contradiction

/-- No contracts risk nothing, unless the loss of one of them is infinite. -/
theorem riskDollars_of_no_contracts (hper : (s.sizer.perContract l.entry l.stop).isFinite = true)
    {balance : Float} (h : s.quantity balance l.entry l.stop = 0) :
    ((s.planOf side l balance).riskDollars == 0.0) = true := by
  have hzero : place (parts (Float.ofNat 0)) = 0 := by rfl
  obtain ⟨hne, hplace⟩ := place_mul (by decide : (Float.ofNat 0).isFinite = true) hper
  rw [hzero, zero_mul, cut_nearest_zero] at hplace
  rw [planOf, h]
  exact beq_iff_place.mpr ⟨hne, by rintro ⟨⟩, hplace⟩

/-- The ratio of reward and risk is finite unless the reward is too large for it. -/
theorem rewardRisk_isFinite_iff (hl : side.Ordered l.entry l.stop l.target) (balance : Float) :
    (s.planOf side l balance).rewardRisk.isFinite = true ↔
      (l.target - l.entry).abs.isFinite = true ∧
        place (parts (l.target - l.entry).abs) <
          overflow * place (parts (l.entry - l.stop).abs) := by
  have hdistinct := hl.ne.1
  obtain ⟨⟨hentry, hstop, htarget⟩, -⟩ := hl
  rw [beq_swap] at hdistinct
  exact isFinite_div_iff
    (abs_nonneg_number (isNaN_eq_false_iff.mpr (place_sub htarget hentry).1))
    (abs_sub_pos hentry hstop hdistinct)

/-! ## levels that are not far -/

/-- A price far beyond those of any market. -/
def farPrice : Float := 1e150

/-- Levels that are not far. -/
def NotFar (entry stop target : Float) : Prop :=
  entry.abs ≤ farPrice ∧ stop.abs ≤ farPrice ∧ target.abs ≤ farPrice

theorem farPrice_isFinite : farPrice.isFinite = true := by decide +kernel

/-- The most that one contract can lose between prices that are not far. -/
def farLoss (x : Symbol) : Float :=
  (farPrice + farPrice) / x.contract.tickSize * x.contract.tickValue

/-- Even all contracts that a number of 32 bits allows do not overflow at this distance. -/
theorem farLoss_isFinite (x : Symbol) :
    (farLoss x).isFinite = true ∧ (4294967295.0 * farLoss x).isFinite = true := by
  cases x <;> decide +kernel

theorem farRatio_isFinite (x : Symbol) :
    ((farPrice + farPrice) / (x.contract.tickSize * Sizer.leastTicks)).isFinite = true := by
  cases x <;> decide +kernel

/-- The loss of a plan is finite where its levels are not far. -/
theorem riskDollars_of_notFar (hrisk : s.risk.Bounded)
    (hl : side.Ordered l.entry l.stop l.target) (hfar : NotFar l.entry l.stop l.target)
    (balance : Float) : (s.planOf side l balance).riskDollars.isFinite = true := by
  rw [riskDollars_isFinite_iff hrisk hl]
  obtain ⟨⟨hentry, hstop, -⟩, -⟩ := hl
  obtain ⟨hfarEntry, hfarStop, -⟩ := hfar
  obtain ⟨hloss, hlosses⟩ := farLoss_isFinite s.symbol
  have hdistance0 : 0.0 ≤ (l.entry - l.stop).abs :=
    abs_nonneg_number (isNaN_eq_false_iff.mpr (place_sub hentry hstop).1)
  have hper0 := (sizer_sound hrisk).perContract_nonneg hentry hstop
  have hle : s.sizer.perContract l.entry l.stop ≤ farLoss s.symbol :=
    s.symbol.contract_sound.dollars_mono hdistance0
      (abs_sub_le_add hentry hstop farPrice_isFinite hfarEntry hfarStop)
  have hloss0 : 0.0 ≤ farLoss s.symbol := by
    calc (0.0 : Float) ≤ s.sizer.perContract l.entry l.stop := hper0
      _ ≤ farLoss s.symbol := hle
  have hmost : place (parts 4294967295.0) = 4294967295 := by
    exact_mod_cast ((natural?_eq_some_iff 4294967295.0 4294967295).mp (by decide)).place_eq
  have hcount : (s.quantity balance l.entry l.stop : ℚ) ≤ 4294967295 := by
    exact_mod_cast (s.quantity_le balance l.entry l.stop).trans hrisk.le_largest
  refine ⟨isFinite_of_le hper0 hle hloss, ?_⟩
  rw [isFinite_mul_iff (by decide) (by decide) hloss hloss0, hmost] at hlosses
  calc s.quantity balance l.entry l.stop * place (parts (s.sizer.perContract l.entry l.stop))
      ≤ 4294967295 * place (parts (farLoss s.symbol)) :=
        mul_le_mul hcount (le_iff_place.mp hle).2.2 (nonneg_iff.mp hper0).2 (by decide)
    _ < overflow := hlosses

/-- The ratio is finite where the stop is not degenerate, too. -/
theorem rewardRisk_of_notFar (hrisk : s.risk.Bounded)
    (hl : side.Ordered l.entry l.stop l.target) (hfar : NotFar l.entry l.stop l.target)
    (hd : s.sizer.isDegenerate l.entry l.stop = false) (balance : Float) :
    (s.planOf side l balance).rewardRisk.isFinite = true := by
  obtain ⟨⟨hentry, hstop, htarget⟩, -⟩ := hl
  obtain ⟨hfarEntry, hfarStop, hfarTarget⟩ := hfar
  have hleast0 := s.symbol.contract_sound.leastDistance_pos
  have hleast := (sizer_sound hrisk).leastDistance_le hd
  have hrisk0 : 0.0 < (l.entry - l.stop).abs := by
    calc (0.0 : Float) < s.symbol.contract.tickSize * Sizer.leastTicks := hleast0
      _ ≤ (l.entry - l.stop).abs := hleast
  have hriskLe := abs_sub_le_add hentry hstop farPrice_isFinite hfarEntry hfarStop
  have hriskFinite : (l.entry - l.stop).abs.isFinite = true :=
    isFinite_of_le (le_of_lt_number hrisk0) hriskLe (by decide +kernel)
  have hreward0 : 0.0 ≤ (l.target - l.entry).abs :=
    abs_nonneg_number (isNaN_eq_false_iff.mpr (place_sub htarget hentry).1)
  refine isFinite_of_le (div_nonneg_of_pos hrisk0 hriskFinite hreward0) ?_
    (farRatio_isFinite s.symbol)
  calc (l.target - l.entry).abs / (l.entry - l.stop).abs
      ≤ (farPrice + farPrice) / (l.entry - l.stop).abs :=
        div_le_div_of_pos hrisk0 hriskFinite hreward0
          (abs_sub_le_add htarget hentry farPrice_isFinite hfarTarget hfarEntry)
    _ ≤ (farPrice + farPrice) / (s.symbol.contract.tickSize * Sizer.leastTicks) :=
        div_le_div_of_le (by decide +kernel) hleast0 hleast hriskFinite

/-! ## amounts -/

/-- **The amounts of a plan**: what is risked is finite exactly if the loss of one
contract and its product with the contracts are; it is, if that loss and the budget
are finite.  No contracts risk zero, unless the loss of one of them is infinite: then
nothing is traded, and what is risked is not a number.  The ratio is finite exactly if
the reward is finite and not too large for the risk.  Levels that are not far have
both, the ratio if the stop is not degenerate. -/
theorem plan_amounts {document : Json} (h : ofJson document = .ok s) {tz : ZoneDatabase}
    {m : Context} {balance : Float} {p : Plan} (hp : s.plan tz m balance = some p) :
    let per := s.sizer.perContract p.entry p.stop
    let reward := (p.target - p.entry).abs
    let risk := (p.entry - p.stop).abs
    (p.riskDollars.isFinite = true ↔
        per.isFinite = true ∧ p.contracts * place (parts per) < overflow) ∧
      (per.isFinite = true → (s.sizer.budget balance).isFinite = true →
        p.riskDollars.isFinite = true) ∧
      (per.isFinite = true → p.contracts = 0 → (p.riskDollars == 0.0) = true) ∧
      (¬per.isFinite = true → p.contracts = 0 ∧ p.riskDollars.isNaN = true) ∧
      (p.rewardRisk.isFinite = true ↔
        reward.isFinite = true ∧ place (parts reward) < overflow * place (parts risk)) ∧
      (NotFar p.entry p.stop p.target → p.riskDollars.isFinite = true ∧
        (s.sizer.isDegenerate p.entry p.stop = false → p.rewardRisk.isFinite = true)) := by
  have hrisk := risk_bounded h
  obtain ⟨-, side, l, -, hl, rfl⟩ := plan_eq_some_iff.mp hp
  obtain ⟨-, -, -, hordered⟩ := levels_eq_some_iff.mp hl
  intro per reward risk
  refine ⟨riskDollars_isFinite_iff hrisk hordered balance, ?_, ?_, ?_,
    rewardRisk_isFinite_iff hordered balance, ?_⟩
  · intro hper hbudget
    exact (riskDollars_isFinite_iff hrisk hordered balance).mpr
      ⟨hper, (sizer_sound hrisk).quantity_mul_lt (maxContracts_lt hrisk) hbudget hper⟩
  · intro hper hzero
    exact riskDollars_of_no_contracts hper hzero
  · intro hper
    exact riskDollars_of_infinite hrisk hordered hper balance
  · intro hfar
    exact ⟨riskDollars_of_notFar hrisk hordered hfar balance, fun hd =>
      rewardRisk_of_notFar hrisk hordered hfar hd balance⟩

/-- A document with a stop at a distance in points, for the whole day. -/
def allDay (distance : Float) : Json :=
  .object [
    ("pattern", .string "orb"),
    ("instrument", .object [("symbol", .string "ES")]),
    ("direction", .string "both"),
    ("entry", .object [
      ("periodMinutes", .integer 15),
      ("stop", .object [
        ("method", .string "fixed_distance"), ("value", .real distance),
        ("unit", .string "points")]),
      ("target", .object [("method", .string "r_multiple"), ("value", .real 1.5)])]),
    ("risk", .object [("riskPercent", .integer 1), ("maxContracts", .integer 3)]),
    ("session", .object [("session", .string "all")])]

/-- What the document describes. -/
def ofAllDay (distance : Float) : Strategy where
  symbol := .es
  direction := .both
  entry := .openingRange ⟨15, 0.0, .fixed ⟨distance, .points⟩, .risk 1.5⟩
  risk := ⟨1.0, 3⟩
  session := ⟨.all, .trader⟩

/-- A plan with an ordinary stop has finite amounts. -/
theorem plan_amounts_allDay :
    ofJson (allDay 2.0) = .ok (ofAllDay 2.0) ∧
      ∃ p, (ofAllDay 2.0).plan Session.zones2024 crossing 50000.0 = some p ∧
        p.contracts = 3 ∧ p.riskDollars.isFinite = true ∧ p.rewardRisk.isFinite = true := by
  have hread : ofJson (allDay 2.0) = .ok (ofAllDay 2.0) :=
    Checked.toOption_eq_some.mp (by decide +kernel)
  have hlevels : (ofAllDay 2.0).levels .long crossing = some ⟨5011.0, 5009.0, 5014.0⟩ :=
    levels_eq_some_iff.mpr ⟨by decide +kernel, by decide +kernel, by decide +kernel,
      (Level.isOrdered_iff _ _ _ _).mp (by decide +kernel)⟩
  have hplan : (ofAllDay 2.0).plan Session.zones2024 crossing 50000.0 =
      some ((ofAllDay 2.0).planOf .long ⟨5011.0, 5009.0, 5014.0⟩ 50000.0) :=
    plan_eq_some_iff.mpr
      ⟨by decide +kernel, .long, _, by decide +kernel, hlevels, rfl⟩
  obtain ⟨hriskDollars, hrewardRisk⟩ := (plan_amounts hread hplan).2.2.2.2.2
    ⟨by decide +kernel, by decide +kernel, by decide +kernel⟩
  exact ⟨hread, _, hplan, by decide +kernel, hriskDollars, hrewardRisk (by decide +kernel)⟩

/-- A stop so far away that the loss of one contract is infinite: there is a plan for no
contracts, and what it risks is not a number. -/
theorem riskDollars_of_distantStop :
    ofJson (allDay 4e306) = .ok (ofAllDay 4e306) ∧
      ((ofAllDay 4e306).plan Session.zones2024 crossing 50000.0).any
        (fun p => p.contracts == 0 && !(p.riskDollars == 0.0) && !p.riskDollars.isFinite) = true :=
  ⟨Checked.toOption_eq_some.mp (by decide +kernel), by decide +kernel⟩

end Strategy

end Playbook
