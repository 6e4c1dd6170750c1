import Playbook.Market.Context
import Playbook.Proofs.Number.Negation

/-!
# Playbook.Proofs.Market.Mirror

The mirror image of a market, in which every price is negated: highs become
lows, and swing highs become swing lows.  The strength index, the average range
and the time are no prices and stay.

What decisions read from a mirrored context is the mirror image of what they
read from the context itself.
-/

namespace Playbook

open Number

/-! ## candles -/

namespace Candle

/-- A candle upside down. -/
def mirror (c : Candle) : Candle :=
  { c with opening := -c.opening, high := -c.low, low := -c.high, close := -c.close }

@[simp] theorem mirror_opening (c : Candle) : c.mirror.opening = -c.opening := rfl

@[simp] theorem mirror_high (c : Candle) : c.mirror.high = -c.low := rfl

@[simp] theorem mirror_low (c : Candle) : c.mirror.low = -c.high := rfl

@[simp] theorem mirror_close (c : Candle) : c.mirror.close = -c.close := rfl

/-- A candle is well-formed upside down, too, since its high and its low change places. -/
@[simp] theorem isSane_mirror (c : Candle) : c.mirror.isSane = c.isSane := by
  simp only [isSane, isVoid, mirror, isFinite_neg, negated_le_negated]
  grind

/-- A candle that rises falls in the mirror image. -/
@[simp] theorem isBullish_mirror (c : Candle) : c.mirror.isBullish = c.isBearish := by
  simp only [isBullish, isBearish, mirror, negated_lt_negated]

@[simp] theorem isBearish_mirror (c : Candle) : c.mirror.isBearish = c.isBullish := by
  simp only [isBullish, isBearish, mirror, negated_lt_negated]

end Candle

/-! ## contexts -/

/-- The quote of a mirrored market. -/
def Quote.mirror (q : Quote) : Quote := ⟨-q.last, q.ask.map (-·), q.bid.map (-·)⟩

/-- The averages of a mirrored market. -/
def Indicators.mirror (i : Indicators) : Indicators :=
  { i with averages := i.averages.map fun (period, x) => (period, -x) }

/-- An opening range upside down. -/
def OpeningRange.mirror (r : OpeningRange) : OpeningRange :=
  { r with high := -r.low, low := -r.high }

/-- The latest swings of a mirrored market. -/
def Swing.mirror (s : Swing) : Swing := ⟨s.low.map (-·), s.high.map (-·)⟩

/-- The context of a mirrored market. -/
def Context.mirror (m : Context) : Context where
  candles := m.candles.map Candle.mirror
  quote := m.quote.map Quote.mirror
  indicators := m.indicators.mirror
  openingRange := m.openingRange.map OpeningRange.mirror
  swing := m.swing.map Swing.mirror
  time := m.time

/-! ## indicators and ranges of a mirrored context -/

/-- A price is usable in the mirror image if it is usable. -/
theorem filter_map_neg (x : Option Float) :
    (x.map (-·)).filter Float.isFinite = (x.filter Float.isFinite).map (-·) := by
  cases x with
  | none => rfl
  | some x =>
      simp only [Option.map_some, Option.filter_some, isFinite_neg]
      split <;> rfl

/-- An average is a price. -/
theorem Indicators.average_mirror (i : Indicators) (period : Nat) :
    i.mirror.average period = (i.average period).map (-·) := by
  have hlookup (l : List (Nat × Float)) :
      (l.map fun (p, x) => (p, -x)).lookup period = (l.lookup period).map (-·) := by
    induction l with
    | nil => rfl
    | cons a l ih =>
        obtain ⟨p, x⟩ := a
        simp only [List.map_cons, List.lookup_cons, ih]
        split <;> rfl
  rw [average, average, mirror, hlookup, filter_map_neg]

namespace OpeningRange

/-- The size is the same to the last bit. -/
theorem size_mirror (r : OpeningRange) : r.mirror.size = r.size := negated_sub_negated r.low r.high

/-- A range can be traded in the mirror image if it can be traded: it is as wide. -/
theorem isTradable_mirror (r : OpeningRange) : r.mirror.isTradable = r.isTradable := by
  simp only [isTradable, mirror, isFinite_neg, negated_lt_negated]
  grind

end OpeningRange

namespace Context

/-- The range of the mirror image is upside down. -/
theorem tradableRange_mirror (m : Context) :
    m.mirror.tradableRange = m.tradableRange.map OpeningRange.mirror := by
  rw [tradableRange, tradableRange, mirror]
  cases m.openingRange with
  | none => rfl
  | some r =>
      simp only [Option.map_some, Option.filter_some, r.isTradable_mirror]
      split <;> rfl

/-- Swing highs become swing lows. -/
theorem swingLow_mirror (m : Context) : m.mirror.swingLow = m.swingHigh.map (-·) := by
  rw [swingLow, swingHigh, mirror, ← filter_map_neg]
  cases m.swing <;> rfl

theorem swingHigh_mirror (m : Context) : m.mirror.swingHigh = m.swingLow.map (-·) := by
  rw [swingLow, swingHigh, mirror, ← filter_map_neg]
  cases m.swing <;> rfl

/-! ## candles and prices of a mirrored context -/

/-- Candles are mirrored one by one, in their order. -/
theorem lastCandle_mirror (m : Context) : m.mirror.lastCandle = m.lastCandle.map Candle.mirror :=
  List.getLast?_map ..

/-- A candle is well-formed upside down if it is well-formed. -/
theorem lastSane_mirror (m : Context) :
    m.mirror.lastCandle.filter Candle.isSane =
      (m.lastCandle.filter Candle.isSane).map Candle.mirror := by
  rw [lastCandle_mirror]
  cases m.lastCandle with
  | none => rfl
  | some c =>
      simp only [Option.map_some, Option.filter_some, c.isSane_mirror]
      split <;> rfl

theorem previousCandle_mirror (m : Context) :
    m.mirror.previousCandle = m.previousCandle.map Candle.mirror := by
  rw [previousCandle, mirror, ← List.map_dropLast, List.getLast?_map, previousCandle]

/-- The candles of a window are the mirrored ones of that window. -/
theorem window_mirror (m : Context) (lookback : Nat) :
    m.mirror.window lookback = (m.window lookback).map (·.map Candle.mirror) := by
  simp only [window, mirror, List.length_map]
  split
  · rfl
  · rw [← List.map_dropLast, ← List.map_drop, Option.map_some]

/-- A close is usable in the mirror image if it is. -/
theorem close_mirror (c : Option Candle) :
    ((c.map Candle.mirror).map (·.close)).filter Float.isFinite =
      ((c.map (·.close)).filter Float.isFinite).map (-·) := by
  rw [← filter_map_neg, Option.map_map, Option.map_map]
  rfl

/-- The quote and the last close are mirrored, so it does not matter which of them counts. -/
theorem currentPrice_mirror (m : Context) : m.mirror.currentPrice = m.currentPrice.map (-·) := by
  have hquote : ((m.quote.map Quote.mirror).map (·.last)).filter Float.isFinite =
      ((m.quote.map (·.last)).filter Float.isFinite).map (-·) := by
    rw [← filter_map_neg, Option.map_map, Option.map_map]
    rfl
  rw [currentPrice, currentPrice, Option.map_or, lastCandle_mirror, close_mirror, mirror, hquote]

theorem referenceClose_mirror (m : Context) :
    m.mirror.referenceClose = m.referenceClose.map (-·) := by
  have hquote : m.mirror.quote.isSome = m.quote.isSome := Option.isSome_map ..
  simp only [referenceClose, hquote, lastCandle_mirror, previousCandle_mirror]
  split <;> exact close_mirror _

end Context

end Playbook
