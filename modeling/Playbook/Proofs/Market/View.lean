import Mathlib
import Playbook.Market.Context

/-!
# Playbook.Proofs.Market.View

What decisions can see of a market: the prices of the last few candles, the last
price of the quote, one moving average and the other inputs, but no older candles,
no times, no volumes, and neither bid nor ask.

The view of a context is a context again, and what decisions read from it is what
they read from the context itself, as long as it is deep enough for them.
-/

namespace Playbook

/-! ## candles -/

namespace Candle

/-- A candle with nothing but its prices. -/
def bare (c : Candle) : Candle := { c with time := ⟨0, 0⟩, volume := 0.0 }

/-- Candles with the same four prices. -/
structure SamePrices (c c' : Candle) : Prop where
  opening : c'.opening = c.opening
  high : c'.high = c.high
  low : c'.low = c.low
  close : c'.close = c.close

/-- Without times and volumes candles of the same prices are the same. -/
theorem SamePrices.bare_eq {c c' : Candle} (h : c.SamePrices c') : c'.bare = c.bare := by
  rw [bare, bare, h.opening, h.high, h.low, h.close]

theorem map_bare_eq {cs cs' : List Candle} (h : List.Forall₂ SamePrices cs cs') :
    cs'.map bare = cs.map bare := by
  induction h with
  | nil => rfl
  | cons hc _ ih => rw [List.map_cons, List.map_cons, hc.bare_eq, ih]

/-- Whether a candle is well-formed shows in its prices. -/
theorem filter_bare (c : Option Candle) :
    (c.map bare).filter isSane = (c.filter isSane).map bare := by
  cases c with
  | none => rfl
  | some c =>
      have hsane : c.bare.isSane = c.isSane := rfl
      rw [Option.map_some, Option.filter_some, Option.filter_some, hsane]
      split <;> rfl

end Candle

/-! ## views -/

namespace Context

/-- What can be seen of a context with `depth` candles and the average of one
period. -/
def view (depth : Nat) (period : Option Nat) (m : Context) : Context where
  candles := (m.candles.rtake depth).map Candle.bare
  quote := m.quote.map fun q => ⟨q.last, none, none⟩
  indicators :=
    { averages := period.elim [] fun p =>
        (m.indicators.averages.lookup p).elim [] fun x => [(p, x)]
      rsi := m.indicators.rsi
      atr := m.indicators.atr }
  openingRange := m.openingRange
  swing := some ⟨m.swing.bind (·.high), m.swing.bind (·.low)⟩
  time := ⟨0, 0⟩

variable {depth : Nat} (period : Option Nat) (m : Context)

/-! ## indicators and levels of a view -/

/-- The average of the period that is looked at shows. -/
theorem average_view (depth period : Nat) :
    (m.view depth (some period)).indicators.average period = m.indicators.average period := by
  rw [Indicators.average, Indicators.average, view, Option.elim_some]
  cases m.indicators.averages.lookup period with
  | none => rfl
  | some x => rw [Option.elim_some, List.lookup_cons, beq_self_eq_true]

/-- Strength index and average range show as they are. -/
theorem usableRsi_view (depth : Nat) :
    (m.view depth period).indicators.usableRsi = m.indicators.usableRsi := rfl

theorem usableAtr_view (depth : Nat) :
    (m.view depth period).indicators.usableAtr = m.indicators.usableAtr := rfl

theorem tradableRange_view (depth : Nat) :
    (m.view depth period).tradableRange = m.tradableRange := rfl

theorem swingHigh_view (depth : Nat) : (m.view depth period).swingHigh = m.swingHigh := rfl

theorem swingLow_view (depth : Nat) : (m.view depth period).swingLow = m.swingLow := rfl

/-! ## candles and prices of a view -/

/-- One candle is enough for the last one, and two for the one before it. -/
theorem lastCandle_view (hdepth : 0 < depth) :
    (m.view depth period).lastCandle = m.lastCandle.map Candle.bare := by
  rw [lastCandle, lastCandle, view, List.getLast?_map, List.rtake, List.getLast?_drop]
  split
  · next h =>
    have hnil : m.candles = [] := List.length_eq_zero_iff.mp (by omega)
    rw [hnil]
    rfl
  · rfl

theorem previousCandle_view (hdepth : 1 < depth) :
    (m.view depth period).previousCandle = m.previousCandle.map Candle.bare := by
  rw [previousCandle, previousCandle, view, ← List.map_dropLast, List.getLast?_map, List.rtake,
    List.dropLast_drop_eq_drop_dropLast, List.getLast?_drop, List.length_dropLast]
  split
  · next h =>
    have hnil : m.candles.dropLast = [] := List.length_eq_zero_iff.mp (by
      rw [List.length_dropLast]
      omega)
    rw [hnil]
    rfl
  · rfl

/-- The window is the same if it lies within the view. -/
theorem window_view {lookback : Nat} (hdepth : lookback < depth) :
    (m.view depth period).window lookback = (m.window lookback).map (·.map Candle.bare) := by
  have hlength : (m.view depth period).candles.length = min depth m.candles.length := by
    rw [view, List.length_map, List.rtake, List.length_drop]
    omega
  rw [window, window, hlength]
  by_cases hfew : lookback = 0 ∨ m.candles.length < lookback + 1
  · rw [if_pos hfew, if_pos (by omega)]
    rfl
  · rw [if_neg hfew, if_neg (by omega), Option.map_some, view, ← List.map_dropLast, ← List.map_drop,
      List.rtake, List.dropLast_drop_eq_drop_dropLast, List.drop_drop]
    congr 4
    omega

theorem close_bare (c : Option Candle) : (c.map Candle.bare).map (·.close) = c.map (·.close) := by
  rw [Option.map_map]
  rfl

/-- The current price needs one candle, for a context without a usable quote. -/
theorem currentPrice_view (hdepth : 0 < depth) :
    (m.view depth period).currentPrice = m.currentPrice := by
  have hquote : (m.view depth period).quote.map (·.last) = m.quote.map (·.last) := by
    rw [view, Option.map_map]
    rfl
  rw [currentPrice, currentPrice, hquote, m.lastCandle_view period hdepth, close_bare]

/-- Where there is no quote, the close before the last one counts. -/
theorem referenceClose_view (hdepth : 1 < depth) :
    (m.view depth period).referenceClose = m.referenceClose := by
  have hquote : (m.view depth period).quote.isSome = m.quote.isSome := Option.isSome_map ..
  rw [referenceClose, referenceClose, hquote, m.lastCandle_view period (by omega),
    m.previousCandle_view period hdepth]
  cases m.quote.isSome with
  | false => exact congrArg _ (close_bare _)
  | true => exact congrArg _ (close_bare _)

end Context

end Playbook
