import Playbook.Time.Instant

/-!
# Playbook.Market.Context

What is known about the market at one moment: candles, which are the first,
highest, lowest and last price of an interval of time, a quote, indicators, the
opening range of the session, and the latest swings.

Decisions look at a context through the functions of this module only.  A value
that is there but unusable (infinite, NaN, or a range that is not positive)
counts as absent.
-/

namespace Playbook

/-! ## Candles -/

/-- The prices of an interval, and the volume that was traded in it. -/
structure Candle where
  time : Time.Instant
  opening : Float
  high : Float
  low : Float
  close : Float
  volume : Float
deriving BEq

namespace Candle

/-- Whether a price is missing. -/
def isVoid (c : Candle) : Bool :=
  !(c.opening.isFinite && c.high.isFinite && c.low.isFinite && c.close.isFinite)

/-- Whether all prices are there, none above the high and none below the low. -/
def isSane (c : Candle) : Bool :=
  !c.isVoid && c.low ≤ c.high && c.opening ≤ c.high && c.close ≤ c.high
    && c.low ≤ c.opening && c.low ≤ c.close

/-- Whether the price rose. -/
def isBullish (c : Candle) : Bool := c.opening < c.close

/-- Whether the price fell. -/
def isBearish (c : Candle) : Bool := c.close < c.opening

end Candle

/-! ## Parts of a context -/

/-- The latest quote. -/
structure Quote where
  last : Float
  bid : Option Float
  ask : Option Float
deriving BEq

/-- Indicator values.  Moving averages are listed by their periods, in
ascending order. -/
structure Indicators where
  averages : List (Nat × Float)
  rsi : Option Float
  atr : Option Float
deriving BEq

/-- No indicators. -/
def Indicators.empty : Indicators := ⟨[], .none, .none⟩

/-- The range in which a session opened. -/
structure OpeningRange where
  high : Float
  low : Float
  isComplete : Bool
deriving BEq

/-- The latest swings of the price. -/
structure Swing where
  high : Option Float
  low : Option Float
deriving BEq

/-- What is known about the market at one moment.  Candles stand in the order
of time. -/
structure Context where
  candles : List Candle
  quote : Option Quote
  indicators : Indicators
  openingRange : Option OpeningRange
  swing : Option Swing
  time : Time.Instant
deriving BEq

/-! ## Indicators and levels -/

namespace Indicators

/-- The moving average of a period. -/
def average (i : Indicators) (period : Nat) : Option Float :=
  (i.averages.lookup period).filter Float.isFinite

/-- The relative strength index. -/
def usableRsi (i : Indicators) : Option Float := i.rsi.filter Float.isFinite

/-- The average true range, above zero. -/
def usableAtr (i : Indicators) : Option Float :=
  i.atr.filter fun x => x.isFinite && 0.0 < x

/-- Set the moving average of a period; periods stay in ascending order. -/
def putAverage (period : Nat) (x : Float) : List (Nat × Float) → List (Nat × Float)
  | [] => [(period, x)]
  | (p, y) :: rest =>
    if period < p then (period, x) :: (p, y) :: rest
    else if period = p then (period, x) :: rest
    else (p, y) :: putAverage period x rest

end Indicators

namespace OpeningRange

/-- The size of a range. -/
def size (r : OpeningRange) : Float := r.high - r.low

/-- Whether a range is complete, finite and wider than zero. -/
def isTradable (r : OpeningRange) : Bool :=
  r.isComplete && r.high.isFinite && r.low.isFinite && r.low < r.high

end OpeningRange

namespace Context

/-- The opening range, if it can be traded. -/
def tradableRange (c : Context) : Option OpeningRange :=
  c.openingRange.filter OpeningRange.isTradable

/-- The low of the latest swing. -/
def swingLow (c : Context) : Option Float := (c.swing.bind (·.low)).filter Float.isFinite

/-- The high of the latest swing. -/
def swingHigh (c : Context) : Option Float := (c.swing.bind (·.high)).filter Float.isFinite

/-! ## Candles and prices -/

/-- The latest candle. -/
def lastCandle (c : Context) : Option Candle := c.candles.getLast?

/-- The candle before the latest one. -/
def previousCandle (c : Context) : Option Candle := c.candles.dropLast.getLast?

/-- The `lookback` candles before the latest one, at least one. -/
def window (c : Context) (lookback : Nat) : Option (List Candle) :=
  if lookback = 0 ∨ c.candles.length < lookback + 1 then none
  else some (c.candles.dropLast.drop (c.candles.length - 1 - lookback))

/-- The current price: of the quote, or else of the latest candle. -/
def currentPrice (c : Context) : Option Float :=
  ((c.quote.map (·.last)).filter Float.isFinite).or
    ((c.lastCandle.map (·.close)).filter Float.isFinite)

/-- The close before the current price: of the latest candle if there is a
quote, else of the candle before it. -/
def referenceClose (c : Context) : Option Float :=
  let candle := if c.quote.isSome then c.lastCandle else c.previousCandle
  (candle.map (·.close)).filter Float.isFinite

end Context

end Playbook
