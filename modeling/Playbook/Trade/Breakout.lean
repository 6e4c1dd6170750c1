import Playbook.Market.Context
import Playbook.Number.Exact
import Playbook.Strategy.Rules

/-!
# Playbook.Trade.Breakout

Breakout entries: the last candle leaves the channel of the candles before it.
The last candle is no part of its own channel.
-/

namespace Playbook

/-- The highest high and the lowest low of some candles. -/
structure Channel where
  high : Float
  low : Float

namespace Channel

/-- The channel of some candles. -/
def ofCandles (cs : List Candle) : Channel :=
  ⟨(cs.map (·.high)).foldl Number.larger (-1.0 / 0.0),
    (cs.map (·.low)).foldl Number.smaller (1.0 / 0.0)⟩

/-- The height of a channel. -/
def height (ch : Channel) : Float := ch.high - ch.low

/-- The level that a breakout on a side has to clear. -/
def level (ch : Channel) : Side → Float
  | .long => ch.high
  | .short => ch.low

end Channel

namespace Breakout.Rules

/-- The channel before the last candle; none while candles are too few or one
of them is malformed. -/
def channel (rules : Rules) (m : Context) : Option Channel :=
  ((m.window rules.lookback).filter fun cs => cs.all Candle.isSane).map Channel.ofCandles

/-- The price of a candle that has to leave the channel. -/
def probe (rules : Rules) (side : Side) (c : Candle) : Float :=
  match rules.confirmation, side with
  | .close, _ => c.close
  | .wick, .long => c.high
  | .wick, .short => c.low

/-- Whether there is an entry on a side. -/
def signal (rules : Rules) (side : Side) (m : Context) : Bool :=
  match rules.channel m, m.lastCandle.filter Candle.isSane with
  | some ch, some last => side.beyond (ch.level side) (rules.probe side last)
  | _, _ => false

/-- A price, moved to a level if it lies on the near side of it. -/
def clear (side : Side) (level price : Float) : Float :=
  match side with
  | .long => Number.larger price level
  | .short => Number.smaller price level

/-- The price of an entry, never on the near side of the level that was broken. -/
def entryPrice (rules : Rules) (side : Side) (m : Context) : Option Float :=
  m.currentPrice.map fun price =>
    (rules.channel m).elim price fun ch => clear side (ch.level side) price

/-- The stop of an entry. -/
def stopPrice (rules : Rules) (c : Contract) (side : Side) (entry : Float) (m : Context) :
    Option Float :=
  match rules.stop with
  | .level bufferTicks => (rules.channel m).map fun ch =>
      Level.adverse side (ch.level side) (c.tickDistance bufferTicks)
  | .atr multiple => m.indicators.usableAtr.map fun atr => Level.adverse side entry (atr * multiple)
  | .fixed d => some (Level.adverse side entry (d.price c))

/-- The target of an entry. -/
def targetPrice (rules : Rules) (side : Side) (entry stop : Float) (m : Context) : Option Float :=
  match rules.target with
  | .risk multiple => Level.riskTarget side entry stop multiple
  | .extension multiple => (rules.channel m).bind fun ch =>
      if 0.0 < ch.height then some (Level.favorable side entry (ch.height * multiple)) else none

end Breakout.Rules

end Playbook
