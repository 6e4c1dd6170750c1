import Playbook.Proofs.Market.View
import Playbook.Proofs.Trade.Signal

/-!
# Playbook.Proofs.Trade.View

A strategy decides by its view of the market: its rules give the same answers for
the view of a context as for the context itself.  A breakout looks at the candles
of its channel and at the last one, all other strategies at the last two candles.

So contexts with the same view lead to the same decisions, and a buffer of the last
few candles does as well as the full history (`alike_of_agree`).
-/

namespace Playbook

/-! ## opening range -/

namespace OpeningRange.Rules

variable {depth : Nat} (period : Option Nat) (m : Context)

/-- An opening range looks at the latest candle and the close before. -/
theorem signal_view (rules : Rules) (c : Contract) (side : Side) (hdepth : 1 < depth) :
    rules.signal c side (m.view depth period) = rules.signal c side m := by
  rw [signal, signal, m.tradableRange_view, m.currentPrice_view period (by omega),
    m.referenceClose_view period hdepth]

theorem entryPrice_view (hdepth : 1 < depth) : entryPrice (m.view depth period) = entryPrice m :=
  m.currentPrice_view period (by omega)

/-- The stops of an opening range need no candle at all. -/
theorem stopPrice_view (rules : Rules) (c : Contract) (side : Side) (entry : Float) (depth : Nat) :
    rules.stopPrice c side entry (m.view depth period) = rules.stopPrice c side entry m := by
  rw [stopPrice, stopPrice, m.tradableRange_view, m.usableAtr_view]

theorem targetPrice_view (rules : Rules) (c : Contract) (side : Side) (entry stop : Float)
    (depth : Nat) :
    rules.targetPrice c side entry stop (m.view depth period) =
      rules.targetPrice c side entry stop m := by
  rw [targetPrice, targetPrice, m.tradableRange_view]

end OpeningRange.Rules

/-! ## pullback -/

namespace Pullback.Rules

variable {depth : Nat} (period : Option Nat) (m : Context)

/-- The price from which a candle came is the close before it. -/
theorem approach_view (hdepth : 1 < depth) (last : Candle) :
    approach (m.view depth period) last.bare = approach m last := by
  rw [approach, approach, m.previousCandle_view period hdepth, Context.close_bare]
  rfl

/-- A pullback looks at two candles and at the average of its own period. -/
theorem signal_view (rules : Rules) (c : Contract) (side : Side) (hdepth : 1 < depth) :
    rules.signal c side (m.view depth (some rules.emaPeriod)) = rules.signal c side m := by
  have hrsi : rules.rsiAllows (m.view depth (some rules.emaPeriod)) = rules.rsiAllows m := by
    rw [rsiAllows, rsiAllows, m.usableRsi_view]
  rw [signal, signal, hrsi, m.average_view, m.lastCandle_view _ (by omega), Candle.filter_bare]
  cases m.indicators.average rules.emaPeriod with
  | none => rfl
  | some average =>
      cases m.lastCandle.filter Candle.isSane with
      | none => rfl
      | some last =>
          rw [Option.map_some]
          dsimp only
          rw [approach_view _ m hdepth]
          rfl

theorem entryPrice_view (hdepth : 1 < depth) : entryPrice (m.view depth period) = entryPrice m :=
  m.currentPrice_view period (by omega)

/-- Swings are no candles. -/
theorem swing_view (side : Side) (depth : Nat) :
    swing side (m.view depth period) = swing side m := by
  cases side with
  | long => exact m.swingLow_view period depth
  | short => exact m.swingHigh_view period depth

theorem stopPrice_view (rules : Rules) (c : Contract) (side : Side) (entry : Float) (depth : Nat) :
    rules.stopPrice c side entry (m.view depth period) = rules.stopPrice c side entry m := by
  rw [stopPrice, stopPrice, swing_view, m.usableAtr_view]

end Pullback.Rules

/-! ## breakout -/

/-- The channel of some candles shows in their prices. -/
theorem Channel.ofCandles_bare (cs : List Candle) :
    ofCandles (cs.map Candle.bare) = ofCandles cs := by
  rw [ofCandles, ofCandles, List.map_map, List.map_map]
  rfl

namespace Breakout.Rules

variable {depth : Nat} (period : Option Nat) (m : Context)

/-- A channel needs its candles and the one behind them. -/
theorem channel_view (rules : Rules) (hdepth : rules.lookback < depth) :
    rules.channel (m.view depth period) = rules.channel m := by
  rw [channel, channel, m.window_view period hdepth]
  cases m.window rules.lookback with
  | none => rfl
  | some cs =>
      have hsane : (cs.map Candle.bare).all Candle.isSane = cs.all Candle.isSane := by
        rw [List.all_map]
        rfl
      rw [Option.map_some, Option.filter_some, Option.filter_some, hsane]
      split
      · rw [Option.map_some, Option.map_some, Channel.ofCandles_bare]
      · rfl

theorem signal_view (rules : Rules) (side : Side) (hdepth : rules.lookback < depth) :
    rules.signal side (m.view depth period) = rules.signal side m := by
  have hprobe (c : Candle) : rules.probe side c.bare = rules.probe side c := by
    unfold probe
    cases rules.confirmation <;> cases side <;> rfl
  rw [signal, signal, rules.channel_view period m hdepth, m.lastCandle_view period (by omega),
    Candle.filter_bare]
  cases rules.channel m with
  | none => rfl
  | some ch =>
      cases m.lastCandle.filter Candle.isSane with
      | none => rfl
      | some last =>
          rw [Option.map_some]
          dsimp only
          rw [hprobe]

theorem entryPrice_view (rules : Rules) (side : Side) (hdepth : rules.lookback < depth) :
    rules.entryPrice side (m.view depth period) = rules.entryPrice side m := by
  rw [entryPrice, entryPrice, rules.channel_view period m hdepth,
    m.currentPrice_view period (by omega)]

theorem stopPrice_view (rules : Rules) (c : Contract) (side : Side) (entry : Float)
    (hdepth : rules.lookback < depth) :
    rules.stopPrice c side entry (m.view depth period) = rules.stopPrice c side entry m := by
  rw [stopPrice, stopPrice, rules.channel_view period m hdepth, m.usableAtr_view]

theorem targetPrice_view (rules : Rules) (side : Side) (entry stop : Float)
    (hdepth : rules.lookback < depth) :
    rules.targetPrice side entry stop (m.view depth period) =
      rules.targetPrice side entry stop m := by
  rw [targetPrice, targetPrice, rules.channel_view period m hdepth]

end Breakout.Rules

/-! ## all patterns -/

namespace EntryRules

/-- How many candles rules look at. -/
def depth : EntryRules → Nat
  | .breakout r => r.lookback + 1
  | _ => 2

/-- The period of the average that rules look at. -/
def period : EntryRules → Option Nat
  | .pullback r => some r.emaPeriod
  | _ => none

/-- What rules see of a context. -/
def view (rules : EntryRules) (m : Context) : Context := m.view rules.depth rules.period

variable (rules : EntryRules) (c : Contract) (side : Side) (m : Context)

/-- Each pattern sees all it needs in its own view. -/
theorem signal_view : rules.signal c side (rules.view m) = rules.signal c side m := by
  cases rules with
  | openingRange r => exact r.signal_view none m c side (Nat.lt_succ_self 1)
  | pullback r => exact r.signal_view m c side (Nat.lt_succ_self 1)
  | breakout r => exact r.signal_view none m side (Nat.lt_succ_self _)

theorem entryPrice_view : rules.entryPrice side (rules.view m) = rules.entryPrice side m := by
  cases rules with
  | openingRange r => exact OpeningRange.Rules.entryPrice_view none m (Nat.lt_succ_self 1)
  | pullback r => exact Pullback.Rules.entryPrice_view _ m (Nat.lt_succ_self 1)
  | breakout r => exact r.entryPrice_view none m side (Nat.lt_succ_self _)

theorem stopPrice_view (entry : Float) :
    rules.stopPrice c side entry (rules.view m) = rules.stopPrice c side entry m := by
  cases rules with
  | openingRange r => exact r.stopPrice_view none m c side entry _
  | pullback r => exact r.stopPrice_view _ m c side entry _
  | breakout r => exact r.stopPrice_view none m c side entry (Nat.lt_succ_self _)

theorem targetPrice_view (entry stop : Float) :
    rules.targetPrice c side entry stop (rules.view m) = rules.targetPrice c side entry stop m := by
  cases rules with
  | openingRange r => exact r.targetPrice_view none m c side entry stop _
  | pullback r => rfl
  | breakout r => exact r.targetPrice_view none m side entry stop (Nat.lt_succ_self _)

end EntryRules

/-! ## contexts that agree -/

namespace EntryRules

/-- `m'` agrees with `m` on all that rules look at.  Both have as many candles as the
rules look at, or the same number of them if there are fewer. -/
structure Agree (rules : EntryRules) (m m' : Context) : Prop where
  candles : List.Forall₂ Candle.SamePrices (m.candles.rtake rules.depth)
    (m'.candles.rtake rules.depth)
  last : m'.quote.map (·.last) = m.quote.map (·.last)
  average : ∀ period, rules.period = some period →
    m'.indicators.averages.lookup period = m.indicators.averages.lookup period
  rsi : m'.indicators.rsi = m.indicators.rsi
  atr : m'.indicators.atr = m.indicators.atr
  openingRange : m'.openingRange = m.openingRange
  swingHigh : m'.swing.bind (·.high) = m.swing.bind (·.high)
  swingLow : m'.swing.bind (·.low) = m.swing.bind (·.low)

/-- Contexts that agree look the same. -/
theorem Agree.view_eq {rules : EntryRules} {m m' : Context} (h : rules.Agree m m') :
    rules.view m' = rules.view m := by
  have hquote (m : Context) : m.quote.map (fun q => (⟨q.last, none, none⟩ : Quote)) =
      (m.quote.map (·.last)).map fun x => ⟨x, none, none⟩ := by
    rw [Option.map_map]
    rfl
  have haverages : (rules.period.elim [] fun p =>
        (m'.indicators.averages.lookup p).elim [] fun x => [(p, x)]) =
      rules.period.elim [] fun p =>
        (m.indicators.averages.lookup p).elim [] fun x => [(p, x)] := by
    cases hperiod : rules.period with
    | none => rfl
    | some p => rw [Option.elim_some, Option.elim_some, h.average p hperiod]
  rw [view, view, Context.view, Context.view, Candle.map_bare_eq h.candles, hquote, hquote, h.last,
    haverages, h.rsi, h.atr, h.openingRange, h.swingHigh, h.swingLow]

end EntryRules

namespace Strategy

/-- **Nothing else matters**: in contexts that agree on what a strategy looks at, it
decides alike. -/
theorem alike_of_agree (s : Strategy) {m m' : Context} (h : s.entry.Agree m m') :
    s.Alike m m' := by
  have hview := h.view_eq
  refine alike_of_rules ⟨?_, ?_, ?_, ?_⟩
  · intro side
    rw [← s.entry.signal_view _ _ m', hview, s.entry.signal_view]
  · intro side
    rw [← s.entry.entryPrice_view _ m', hview, s.entry.entryPrice_view]
  · intro side entry
    rw [← s.entry.stopPrice_view _ _ m', hview, s.entry.stopPrice_view]
  · intro side entry stop
    rw [← s.entry.targetPrice_view _ _ m', hview, s.entry.targetPrice_view]

/-- A breakout from the channel of two candles. -/
def channelOfTwo : Strategy where
  symbol := .mes
  direction := .both
  entry := .breakout ⟨2, .close, .level 1.0, .risk 2.0⟩
  risk := ⟨1.0, 3⟩
  session := ⟨.all, .trader⟩

/-- A market with some history. -/
def history : Context where
  candles := [
    ⟨⟨0, 0⟩, 5100.0, 5110.0, 5090.0, 5100.0, 3.0⟩,
    ⟨⟨60, 0⟩, 5000.0, 5004.0, 4998.0, 5002.0, 5.0⟩,
    ⟨⟨120, 0⟩, 5002.0, 5003.0, 4999.0, 5001.0, 7.0⟩,
    ⟨⟨180, 0⟩, 5001.0, 5008.0, 5000.0, 5007.0, 9.0⟩]
  quote := some ⟨5007.5, some 5007.25, some 5007.5⟩
  indicators := ⟨[(20, 5000.0)], some 55.0, some 4.0⟩
  openingRange := none
  swing := some ⟨none, none⟩
  time := ⟨240, 0⟩

/-- The same market in a buffer that holds nothing but the last candles. -/
def buffer : Context where
  candles := [
    ⟨⟨0, 0⟩, 5000.0, 5004.0, 4998.0, 5002.0, 0.0⟩,
    ⟨⟨0, 0⟩, 5002.0, 5003.0, 4999.0, 5001.0, 0.0⟩,
    ⟨⟨0, 0⟩, 5001.0, 5008.0, 5000.0, 5007.0, 0.0⟩]
  quote := some ⟨5007.5, none, none⟩
  indicators := ⟨[], some 55.0, some 4.0⟩
  openingRange := none
  swing := none
  time := ⟨240, 0⟩

/-- A buffer with the latest candles agrees with the whole history. -/
theorem history_agree_buffer : channelOfTwo.entry.Agree history buffer where
  candles :=
    .cons ⟨rfl, rfl, rfl, rfl⟩ (.cons ⟨rfl, rfl, rfl, rfl⟩ (.cons ⟨rfl, rfl, rfl, rfl⟩ .nil))
  last := rfl
  average := nofun
  rsi := rfl
  atr := rfl
  openingRange := rfl
  swingHigh := rfl
  swingLow := rfl

/-- So a strategy may be run on a bounded buffer. -/
theorem alike_of_buffer :
    channelOfTwo.entry.Agree history buffer ∧ channelOfTwo.entrySide history = some .long ∧
      channelOfTwo.Alike history buffer :=
  ⟨history_agree_buffer, by decide +kernel, alike_of_agree channelOfTwo history_agree_buffer⟩

end Strategy

end Playbook
