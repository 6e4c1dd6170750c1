import Playbook.Proofs.Trade.Plan

/-!
# Playbook.Proofs.Trade.Signal

When there is a signal: all inputs that the rules of a pattern look at are there,
and the price or the last candle is where the rules want it.

All decisions are made of signals and of three more answers of the entry rules, so
it is enough to compare these for contexts in which a strategy decides alike
(`Strategy.alike_of_rules`).
-/

namespace Playbook

/-! ## signals -/

section

variable {side : Side} {m : Context}

/-- An opening range signals when the current price has crossed the trigger since the reference
close. -/
theorem OpeningRange.Rules.signal_eq_true_iff {rules : OpeningRange.Rules} {c : Contract} :
    rules.signal c side m = true ↔
      ∃ r price, m.tradableRange = some r ∧ m.currentPrice = some price ∧
        Level.crossed side price (rules.trigger c r side) m.referenceClose = true := by
  rw [signal]
  cases m.tradableRange <;> cases m.currentPrice <;> simp

/-- A pullback signals when the strength index allows it and the last candle confirms at the
average. -/
theorem Pullback.Rules.signal_eq_true_iff {rules : Pullback.Rules} {c : Contract} :
    rules.signal c side m = true ↔
      rules.rsiAllows m = true ∧
        ∃ average last, m.indicators.average rules.emaPeriod = some average ∧
          m.lastCandle.filter Candle.isSane = some last ∧
            rules.confirms side average (c.tickDistance rules.toleranceTicks) (approach m last)
              last = true := by
  rw [signal, Bool.and_eq_true]
  cases m.indicators.average rules.emaPeriod <;> cases m.lastCandle.filter Candle.isSane <;> simp

/-- A breakout signals when the last candle is beyond the channel of the candles before it. -/
theorem Breakout.Rules.signal_eq_true_iff {rules : Breakout.Rules} :
    rules.signal side m = true ↔
      ∃ ch last, rules.channel m = some ch ∧ m.lastCandle.filter Candle.isSane = some last ∧
        side.beyond (ch.level side) (rules.probe side last) = true := by
  rw [signal]
  cases rules.channel m <;> cases m.lastCandle.filter Candle.isSane <;> simp

/-! ## both sides -/

/-- A price that crosses a level lies beyond it. -/
theorem Level.beyond_of_crossed {price level : Float} {reference : Option Float}
    (h : crossed side price level reference = true) : side.beyond level price = true := by
  rw [crossed, Bool.and_eq_true] at h
  exact h.1

/-- An average is touched from the side on which the price was before. -/
theorem Pullback.Rules.beyond_of_confirms {rules : Pullback.Rules}
    {average tolerance approach : Float} {last : Candle}
    (h : rules.confirms side average tolerance approach last = true) :
    side.beyond average approach = true := by
  cases side <;> simp only [confirms, touches, Bool.and_eq_true] at h <;> exact h.1.1.1

end

/-! ## contexts that are alike -/

/-- Entry rules give the same answers in two contexts. -/
structure EntryRules.Alike (rules : EntryRules) (c : Contract) (m m' : Context) : Prop where
  signal : ∀ side, rules.signal c side m' = rules.signal c side m
  entryPrice : ∀ side, rules.entryPrice side m' = rules.entryPrice side m
  stopPrice : ∀ side entry, rules.stopPrice c side entry m' = rules.stopPrice c side entry m
  targetPrice : ∀ side entry stop,
    rules.targetPrice c side entry stop m' = rules.targetPrice c side entry stop m

namespace Strategy

/-- A strategy decides alike in two contexts.  For plans it also has to be in session
in both of them or in neither. -/
structure Alike (s : Strategy) (m m' : Context) : Prop where
  entrySide : s.entrySide m' = s.entrySide m
  shouldEnter : s.shouldEnter m' = s.shouldEnter m
  entryPrice : s.entryPrice m' = s.entryPrice m
  stopPrice : ∀ entry, s.stopPrice entry m' = s.stopPrice entry m
  targetPrice : ∀ entry stop, s.targetPrice entry stop m' = s.targetPrice entry stop m
  plan : ∀ tz balance, s.isOpen tz m' = s.isOpen tz m →
    s.plan tz m' balance = s.plan tz m balance

/-- All that a strategy decides is decided by its rules. -/
theorem alike_of_rules {s : Strategy} {m m' : Context} (h : s.entry.Alike s.contract m m') :
    s.Alike m m' := by
  have hlevels (side : Side) : s.levels side m' = s.levels side m := by
    simp only [levels, h.entryPrice, h.stopPrice, h.targetPrice]
  have hfires (side : Side) : s.fires side m' = s.fires side m := by
    rw [fires, fires, h.signal, hlevels]
  have hside : s.entrySide m' = s.entrySide m := by
    simp only [Strategy.entrySide, hfires]
  have hpriceSide : s.priceSide m' = s.priceSide m := by
    rw [priceSide, priceSide, hside]
  constructor
  case entrySide => exact hside
  case shouldEnter => rw [Strategy.shouldEnter, Strategy.shouldEnter, hside]
  case entryPrice => rw [Strategy.entryPrice, Strategy.entryPrice, hpriceSide, h.entryPrice]
  case stopPrice =>
    intro entry
    rw [Strategy.stopPrice, Strategy.stopPrice, hpriceSide, h.stopPrice]
  case targetPrice =>
    intro entry stop
    simp only [Strategy.targetPrice, h.targetPrice]
  case plan =>
    intro tz balance hopen
    simp only [plan_eq_bind, sidePlan, hside, hopen, hfires, hlevels]

end Strategy

end Playbook
