import Playbook.Proofs.Number.Order
import Playbook.Proofs.Strategy.Bounds
import Playbook.Proofs.Trade.Exclusion

/-!
# Playbook.Proofs.Trade.Protection

Stops and targets of a side with a signal stand on the right sides of the entry.

No stop is behind what it is measured from, and no target is before it.  Most
stops are measured from the entry.  The others are measured from a level, and
protect because the signal puts the entry beyond it: a price has left the opening
range through the trigger, and the entry of a breakout is moved to the level that
was broken.  Only a stop at a swing has no such reason.

So the check of the order of prices never finds a stop or a target on the wrong
side; what it finds is in `Strategy.Obstacle`.
-/

namespace Playbook

open Number

variable {side : Side} {m : Context}

/-! ## sides -/

/-- A price is not behind a level, seen from a side. -/
def Side.NotBehind (side : Side) (level price : Float) : Prop :=
  match side with
  | .long => level ≤ price
  | .short => price ≤ level

/-- Entry, stop and target in the order that a side demands, but for ties. -/
def Side.WeaklyOrdered (side : Side) (entry stop target : Float) : Prop :=
  side.NotBehind stop entry ∧ side.NotBehind entry target

namespace Side.NotBehind

variable {x y z : Float}

/-- Prices are compared in the direction of the side. -/
theorem trans (h : side.NotBehind x y) (h' : side.NotBehind y z) : side.NotBehind x z := by
  cases side with
  | long =>
      calc x ≤ y := h
        _ ≤ z := h'
  | short =>
      calc z ≤ y := h'
        _ ≤ x := h

theorem of_opposite (h : side.opposite.NotBehind x y) : side.NotBehind y x := by
  cases side <;> exact h

theorem of_beyond (h : side.beyond x y = true) : side.NotBehind x y := by
  cases side <;> exact le_of_lt_number (of_decide_eq_true h)

end Side.NotBehind

namespace Level

variable {x distance : Float}

/-- A distance in favour does not lead behind. -/
theorem notBehind_favorable (hx : x.isFinite = true) (hd : 0.0 ≤ distance) :
    side.NotBehind x (favorable side x distance) := by
  cases side with
  | long => exact le_favorable_long hx hd
  | short => exact favorable_short_le hx hd

/-- Against one side is in favour of the other side. -/
theorem adverse_eq (side : Side) (x distance : Float) :
    adverse side x distance = favorable side.opposite x distance := by
  rw [adverse, favorable, side.sign_opposite, negated_mul, sub_eq_add_negated]

/-- A distance against does not lead beyond, rounding included. -/
theorem adverse_notBehind (hx : x.isFinite = true) (hd : 0.0 ≤ distance) :
    side.NotBehind (adverse side x distance) x := by
  rw [adverse_eq]
  exact .of_opposite (notBehind_favorable hx hd)

end Level

/-! ## distances -/

theorem mul_nonneg_of_positive {x y : Float} (hx : Positive x) (hy : 0.0 ≤ y) : 0.0 ≤ y * x := by
  rw [mul_swap]
  exact mul_nonneg_of_pos hx.2 hx.1 hy

/-- A distance in ticks or points is one in prices. -/
theorem Distance.price_nonneg {d : Distance} (h : Positive d.value) (x : Symbol) :
    0.0 ≤ d.price x.contract := by
  rw [Distance.price]
  split
  · exact x.tickDistance_nonneg (le_of_lt_number h.2)
  · exact le_of_lt_number h.2

theorem Indicators.usableAtr_nonneg {i : Indicators} {atr : Float} (h : i.usableAtr = some atr) :
    0.0 ≤ atr := by
  have hatr := (Option.filter_eq_some_iff.mp h).2
  rw [Bool.and_eq_true, decide_eq_true_eq] at hatr
  exact le_of_lt_number hatr.2

/-- What counts as the current price is finite. -/
theorem Context.currentPrice_isFinite {price : Float} (h : m.currentPrice = some price) :
    price.isFinite = true := by
  rw [currentPrice, Option.or_eq_some_iff] at h
  obtain h | ⟨-, h⟩ := h
  · exact (Option.filter_eq_some_iff.mp h).2
  · exact (Option.filter_eq_some_iff.mp h).2

/-! ## opening range -/

namespace OpeningRange

/-- An opening range that can be traded has two ends. -/
theorem tradable_spec {r : OpeningRange} (h : m.tradableRange = some r) :
    r.high.isFinite = true ∧ r.low.isFinite = true ∧ r.low < r.high := by
  have hsound := (Option.filter_eq_some_iff.mp h).2
  simp only [isTradable, Bool.and_eq_true, decide_eq_true_eq] at hsound
  obtain ⟨⟨⟨-, hhigh⟩, hlow⟩, hwide⟩ := hsound
  exact ⟨hhigh, hlow, hwide⟩

variable {r : OpeningRange}

/-- A range that can be traded is not upside down. -/
theorem size_nonneg (h : m.tradableRange = some r) : 0.0 ≤ r.size := by
  obtain ⟨hhigh, hlow, hwide⟩ := tradable_spec h
  exact sub_nonneg_number hlow hhigh (le_of_lt_number hwide)

theorem breakoutSide_isFinite (h : m.tradableRange = some r) (side : Side) :
    (r.breakoutSide side).isFinite = true := by
  obtain ⟨hhigh, hlow, -⟩ := tradable_spec h
  cases side with
  | long => exact hhigh
  | short => exact hlow

/-- The end of the range at which a side would stop is behind the one at which it enters. -/
theorem oppositeSide_notBehind (h : m.tradableRange = some r) :
    side.NotBehind (r.oppositeSide side) (r.breakoutSide side) := by
  obtain ⟨-, -, hwide⟩ := tradable_spec h
  cases side <;> exact le_of_lt_number hwide

namespace Rules

variable {rules : Rules} {x : Symbol} {price entry stop target : Float}

/-- A signal puts the price beyond the range. -/
theorem breakoutSide_notBehind (hbuffer : NotNegative rules.bufferTicks)
    (hr : m.tradableRange = some r)
    (hcrossed :
      Level.crossed side price (rules.trigger x.contract r side) m.referenceClose = true) :
    side.NotBehind (r.breakoutSide side) price :=
  (Level.notBehind_favorable (breakoutSide_isFinite hr side)
    (x.tickDistance_nonneg hbuffer.2)).trans (.of_beyond (Level.beyond_of_crossed hcrossed))

/-- Whatever its method, a stop is not beyond the entry: a signal says that the price has crossed
the trigger. -/
theorem stop_notBehind (hbuffer : NotNegative rules.bufferTicks) (hbounded : rules.stop.Bounded)
    (hsignal : rules.signal x.contract side m = true) (hentry : entryPrice m = some entry)
    (hstop : rules.stopPrice x.contract side entry m = some stop) :
    side.NotBehind stop entry := by
  obtain ⟨r, price, hr, hprice, hcrossed⟩ := signal_eq_true_iff.mp hsignal
  obtain rfl : price = entry := Option.some.inj (hprice.symm.trans hentry)
  have hfinite := m.currentPrice_isFinite hprice
  have hbeyond := breakoutSide_notBehind hbuffer hr hcrossed
  unfold stopPrice at hstop
  cases hrule : rules.stop with
  | percentage value =>
      rw [hrule] at hstop hbounded
      rw [hr] at hstop
      obtain rfl := Option.some.inj hstop
      have hdistance : 0.0 ≤ r.size * value / 100.0 :=
        div_nonneg_of_pos (by decide) (by decide)
          (mul_nonneg_of_positive hbounded (size_nonneg hr))
      exact (Level.adverse_notBehind (breakoutSide_isFinite hr side) hdistance).trans hbeyond
  | oppositeSide =>
      rw [hrule] at hstop
      rw [hr] at hstop
      obtain rfl := Option.some.inj hstop
      have htick : 0.0 ≤ x.contract.tickSize := le_of_lt_number x.contract_tickSize.1
      exact ((Level.adverse_notBehind (breakoutSide_isFinite hr side.opposite) htick).trans
        (oppositeSide_notBehind hr)).trans hbeyond
  | fixed d =>
      rw [hrule] at hstop hbounded
      obtain rfl := Option.some.inj hstop
      exact Level.adverse_notBehind hfinite (d.price_nonneg hbounded x)
  | atr multiple =>
      rw [hrule] at hstop hbounded
      obtain ⟨atr, hatr, rfl⟩ := Option.map_eq_some_iff.mp hstop
      exact Level.adverse_notBehind hfinite
        (mul_nonneg_of_positive hbounded (Indicators.usableAtr_nonneg hatr))

end Rules

end OpeningRange

/-! ## breakout -/

namespace Channel

/-- The high of a channel is that of one of its candles. -/
theorem exists_high {cs : List Candle} (hsane : ∀ c ∈ cs, c.isSane = true) (hne : cs ≠ []) :
    ∃ c ∈ cs, (ofCandles cs).high = c.high := by
  obtain ⟨c, hc⟩ := List.exists_mem_of_ne_nil cs hne
  obtain heq | hmem := List.mem_cons.mp (foldl_larger_mem (cs.map (·.high)) (-1.0 / 0.0))
  · -- the channel is not lower than one of its candles
    have hle : c.high ≤ -1.0 / 0.0 := by
      rw [← heq]
      exact high_le hsane hc
    have hend : parts (-1.0 / 0.0) = .infinity .negative := by rfl
    have hlt := neg_lt_of_abs_lt (abs_place_lt (Candle.isSane_spec (hsane c hc)).1)
    have hplace := (le_iff_place.mp hle).2.2
    rw [hend, place, apply_negative, Int.cast_neg, Int.cast_one, neg_one_mul] at hplace
    exact absurd hplace (not_le.mpr hlt)
  · obtain ⟨c', hc', heq⟩ := List.mem_map.mp hmem
    exact ⟨c', hc', heq.symm⟩

/-- And upside down. -/
theorem exists_low {cs : List Candle} (hsane : ∀ c ∈ cs, c.isSane = true) (hne : cs ≠ []) :
    ∃ c ∈ cs, (ofCandles cs).low = c.low := by
  have hmirror : ∀ c ∈ cs.map Candle.mirror, c.isSane = true := by
    intro c hc
    obtain ⟨c', hc', rfl⟩ := List.mem_map.mp hc
    rw [c'.isSane_mirror, hsane c' hc']
  obtain ⟨c, hc, hhigh⟩ := exists_high hmirror (by simpa using hne)
  obtain ⟨c', hc', rfl⟩ := List.mem_map.mp hc
  rw [ofCandles_mirror] at hhigh
  refine ⟨c', hc', ?_⟩
  rw [← negated_negated (ofCandles cs).low, ← negated_negated c'.low]
  exact congrArg (-·) hhigh

end Channel

namespace Breakout.Rules

variable {rules : Rules} {x : Symbol} {ch : Channel} {price entry stop target : Float}

/-- A channel is made of candles that are well-formed. -/
theorem channel_isFinite (h : rules.channel m = some ch) :
    ch.high.isFinite = true ∧ ch.low.isFinite = true := by
  rw [channel, Option.map_eq_some_iff] at h
  obtain ⟨cs, hcs, rfl⟩ := h
  obtain ⟨hwindow, hsane⟩ := Option.filter_eq_some_iff.mp hcs
  have hsane := List.all_eq_true.mp hsane
  obtain ⟨c, hc, hhigh⟩ := Channel.exists_high hsane (m.window_ne_nil hwindow)
  obtain ⟨c', hc', hlow⟩ := Channel.exists_low hsane (m.window_ne_nil hwindow)
  rw [hhigh, hlow]
  exact ⟨(Candle.isSane_spec (hsane c hc)).1, (Candle.isSane_spec (hsane c' hc')).2.1⟩

theorem level_isFinite (h : rules.channel m = some ch) (side : Side) :
    (ch.level side).isFinite = true := by
  obtain ⟨hhigh, hlow⟩ := channel_isFinite h
  cases side with
  | long => exact hhigh
  | short => exact hlow

theorem height_nonneg (h : rules.channel m = some ch) : 0.0 ≤ ch.height := by
  obtain ⟨hhigh, hlow⟩ := channel_isFinite h
  exact sub_nonneg_number hlow hhigh (low_le_high_of_channel h)

/-- An entry clear of the level is the price or the level. -/
theorem clear_eq (side : Side) (level price : Float) :
    clear side level price = price ∨ clear side level price = level := by
  cases side with
  | long => exact larger_eq price level
  | short => exact smaller_eq price level

theorem clear_isFinite {level : Float} (hlevel : level.isFinite = true)
    (hprice : price.isFinite = true) (side : Side) : (clear side level price).isFinite = true := by
  obtain h | h := clear_eq side level price
  · rw [h, hprice]
  · rw [h, hlevel]

/-- An entry clear of the level is never behind it. -/
theorem notBehind_clear {level : Float} (hlevel : level.isFinite = true)
    (hprice : price.isFinite = true) (side : Side) :
    side.NotBehind level (clear side level price) := by
  cases side with
  | long => exact (le_larger (isNaN_eq_false hprice) (isNaN_eq_false hlevel)).2
  | short => exact (smaller_le (isNaN_eq_false hprice) (isNaN_eq_false hlevel)).2

theorem entry_isFinite (h : rules.entryPrice side m = some entry) : entry.isFinite = true := by
  obtain ⟨price, hprice, rfl⟩ := Option.map_eq_some_iff.mp h
  have hfinite := m.currentPrice_isFinite hprice
  cases hch : rules.channel m with
  | none => exact hfinite
  | some ch => exact clear_isFinite (level_isFinite hch side) hfinite side

/-- The entry is not behind the level that was broken. -/
theorem level_notBehind (hch : rules.channel m = some ch)
    (hentry : rules.entryPrice side m = some entry) : side.NotBehind (ch.level side) entry := by
  obtain ⟨price, hprice, rfl⟩ := Option.map_eq_some_iff.mp hentry
  rw [hch]
  exact notBehind_clear (level_isFinite hch side) (m.currentPrice_isFinite hprice) side

/-- A stop behind the level is behind an entry that is clear of it. -/
theorem stop_notBehind (hbounded : rules.stop.Bounded)
    (hentry : rules.entryPrice side m = some entry)
    (hstop : rules.stopPrice x.contract side entry m = some stop) :
    side.NotBehind stop entry := by
  have hfinite := entry_isFinite hentry
  unfold stopPrice at hstop
  cases hrule : rules.stop with
  | level bufferTicks =>
      rw [hrule] at hstop hbounded
      obtain ⟨ch, hch, rfl⟩ := Option.map_eq_some_iff.mp hstop
      exact (Level.adverse_notBehind (level_isFinite hch side)
        (x.tickDistance_nonneg hbounded.2)).trans (level_notBehind hch hentry)
  | fixed d =>
      rw [hrule] at hstop hbounded
      obtain rfl := Option.some.inj hstop
      exact Level.adverse_notBehind hfinite (d.price_nonneg hbounded x)
  | atr multiple =>
      rw [hrule] at hstop hbounded
      obtain ⟨atr, hatr, rfl⟩ := Option.map_eq_some_iff.mp hstop
      exact Level.adverse_notBehind hfinite
        (mul_nonneg_of_positive hbounded (Indicators.usableAtr_nonneg hatr))

end Breakout.Rules

/-! ## pullback -/

/-- A stop at a swing, the only one with a place that the signal says nothing about. -/
def EntryRules.StopsAtSwing : EntryRules → Prop
  | .pullback r => ∃ bufferTicks, r.stop = .swing bufferTicks
  | _ => False

/-- A stop at a swing is left out: nothing says where swings are. -/
theorem Pullback.Rules.stop_notBehind {rules : Pullback.Rules} {x : Symbol} {entry stop : Float}
    (hbounded : rules.stop.Bounded) (hswing : ¬(EntryRules.pullback rules).StopsAtSwing)
    (hentry : entryPrice m = some entry)
    (hstop : rules.stopPrice x.contract side entry m = some stop) :
    side.NotBehind stop entry := by
  have hfinite := m.currentPrice_isFinite hentry
  unfold stopPrice at hstop
  cases hrule : rules.stop with
  | swing bufferTicks => exact absurd ⟨bufferTicks, hrule⟩ hswing
  | fixed d =>
      rw [hrule] at hstop hbounded
      obtain rfl := Option.some.inj hstop
      exact Level.adverse_notBehind hfinite (d.price_nonneg hbounded x)
  | atr multiple =>
      rw [hrule] at hstop hbounded
      obtain ⟨atr, hatr, rfl⟩ := Option.map_eq_some_iff.mp hstop
      exact Level.adverse_notBehind hfinite
        (mul_nonneg_of_positive hbounded (Indicators.usableAtr_nonneg hatr))

/-! ## targets -/

/-- How far the target of an entry at a price with a stop is away, whether it can be
used as a target or not. -/
def EntryRules.reach (rules : EntryRules) (c : Contract) (entry stop : Float) (m : Context) :
    Option Float :=
  match rules with
  | .openingRange r =>
    match r.target with
    | .risk multiple => some (multiple * (entry - stop).abs)
    | .extension multiple => m.tradableRange.map fun range => range.size * multiple
    | .fixed d => some (d.price c)
  | .pullback r =>
    match r.target with
    | .risk multiple => some (multiple * (entry - stop).abs)
  | .breakout r =>
    match r.target with
    | .risk multiple => some (multiple * (entry - stop).abs)
    | .extension multiple => (r.channel m).map fun ch => ch.height * multiple

theorem Level.riskTarget_eq_some {entry stop multiple target : Float}
    (h : riskTarget side entry stop multiple = some target) :
    0.0 < (entry - stop).abs ∧
      target = favorable side entry (multiple * (entry - stop).abs) := by
  unfold riskTarget at h
  dsimp only at h
  split at h
  · next hrisk =>
    rw [Bool.and_eq_true, decide_eq_true_eq] at hrisk
    exact ⟨hrisk.1, (Option.some.inj h).symm⟩
  · contradiction

namespace EntryRules

variable {rules : EntryRules} {x : Symbol} {entry stop target : Float}

/-- A target is as far from its entry as the rules reach, on the winning side. -/
theorem target_eq_some (hbounded : rules.Bounded)
    (h : rules.targetPrice x.contract side entry stop m = some target) :
    ∃ distance, rules.reach x.contract entry stop m = some distance ∧ 0.0 ≤ distance ∧
      target = Level.favorable side entry distance := by
  have hrisk {multiple : Float} (hmultiple : Positive multiple)
      (h : Level.riskTarget side entry stop multiple = some target) :
      ∃ distance, some (multiple * (entry - stop).abs) = some distance ∧ 0.0 ≤ distance ∧
        target = Level.favorable side entry distance := by
    obtain ⟨hpos, htarget⟩ := Level.riskTarget_eq_some h
    exact ⟨_, rfl, mul_nonneg_of_pos hmultiple.2 hmultiple.1 (le_of_lt_number hpos), htarget⟩
  cases rules with
  | openingRange r =>
      obtain ⟨period, buffer, stopRule, targetRule⟩ := r
      obtain ⟨-, -, hbounded⟩ := hbounded
      cases targetRule with
      | risk multiple => exact hrisk hbounded h
      | extension multiple =>
          obtain ⟨range, hrange, rfl⟩ := Option.map_eq_some_iff.mp h
          exact ⟨_, congrArg (Option.map _) hrange,
            mul_nonneg_of_positive hbounded (OpeningRange.size_nonneg hrange), rfl⟩
      | fixed d =>
          obtain rfl := Option.some.inj h
          exact ⟨_, rfl, d.price_nonneg hbounded x, rfl⟩
  | pullback r =>
      obtain ⟨period, confirmation, tolerance, band, stopRule, targetRule⟩ := r
      obtain ⟨-, hbounded⟩ := hbounded
      cases targetRule with
      | risk multiple => exact hrisk hbounded h
  | breakout r =>
      obtain ⟨lookback, confirmation, stopRule, targetRule⟩ := r
      obtain ⟨-, hbounded⟩ := hbounded
      cases targetRule with
      | risk multiple => exact hrisk hbounded h
      | extension multiple =>
          obtain ⟨ch, hch, h⟩ := Option.bind_eq_some_iff.mp h
          split at h
          · obtain rfl := Option.some.inj h
            exact ⟨_, congrArg (Option.map _) hch,
              mul_nonneg_of_positive hbounded (Breakout.Rules.height_nonneg hch), rfl⟩
          · contradiction

theorem entry_isFinite (h : rules.entryPrice side m = some entry) : entry.isFinite = true := by
  cases rules with
  | openingRange r => exact m.currentPrice_isFinite h
  | pullback r => exact m.currentPrice_isFinite h
  | breakout r => exact Breakout.Rules.entry_isFinite h

/-- A stop that is not at a swing protects an entry with a signal. -/
theorem stop_notBehind (hbounded : rules.Bounded) (hswing : ¬rules.StopsAtSwing)
    (hsignal : rules.signal x.contract side m = true)
    (hentry : rules.entryPrice side m = some entry)
    (hstop : rules.stopPrice x.contract side entry m = some stop) : side.NotBehind stop entry := by
  cases rules with
  | openingRange r =>
      obtain ⟨hbuffer, hbounded, -⟩ := hbounded
      exact OpeningRange.Rules.stop_notBehind hbuffer hbounded hsignal hentry hstop
  | pullback r => exact Pullback.Rules.stop_notBehind hbounded.1 hswing hentry hstop
  | breakout r => exact Breakout.Rules.stop_notBehind hbounded.1 hentry hstop

/-- No target is before its entry, with a signal or without. -/
theorem notBehind_target (hbounded : rules.Bounded) (hfinite : entry.isFinite = true)
    (htarget : rules.targetPrice x.contract side entry stop m = some target) :
    side.NotBehind entry target := by
  obtain ⟨distance, -, hdistance, rfl⟩ := target_eq_some hbounded htarget
  exact Level.notBehind_favorable hfinite hdistance

end EntryRules

end Playbook
