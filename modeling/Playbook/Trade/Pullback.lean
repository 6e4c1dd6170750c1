import Playbook.Market.Context
import Playbook.Strategy.Rules

/-!
# Playbook.Trade.Pullback

Pullback entries: the last candle comes to a moving average from the side of
the trend and touches it within a tolerance; to bounce, it also has to close
on that side, with a body that points in the direction of the trade.
-/

namespace Playbook.Pullback.Rules

/-- Whether the relative strength index allows an entry.  With a band, an index
that is missing does not. -/
def rsiAllows (rules : Rules) (m : Context) : Bool :=
  match rules.rsiBand with
  | none => true
  | some band => m.indicators.usableRsi.any band.allows

/-- The price before the last candle: the close of the candle before it, or else
its own first price. -/
def approach (m : Context) (last : Candle) : Float :=
  ((m.previousCandle.map (·.close)).filter Float.isFinite).getD last.opening

/-- Whether a candle touches an average within a tolerance, coming from a side. -/
def touches (side : Side) (average tolerance approach : Float) (c : Candle) : Bool :=
  match side with
  | .long => average < approach && c.low ≤ average + tolerance && average - tolerance ≤ c.close
  | .short => approach < average && average - tolerance ≤ c.high && c.close ≤ average + tolerance

/-- Whether a candle closes beyond an average with a body in that direction. -/
def bounces (side : Side) (average : Float) (c : Candle) : Bool :=
  match side with
  | .long => average < c.close && c.isBullish
  | .short => c.close < average && c.isBearish

/-- Whether a candle confirms an entry. -/
def confirms (rules : Rules) (side : Side) (average tolerance approach : Float) (c : Candle) :
    Bool :=
  touches side average tolerance approach c &&
    match rules.confirmation with
    | .touch => true
    | .bounce => bounces side average c

/-- Whether there is an entry on a side. -/
def signal (rules : Rules) (c : Contract) (side : Side) (m : Context) : Bool :=
  rules.rsiAllows m &&
    match m.indicators.average rules.emaPeriod, m.lastCandle.filter Candle.isSane with
    | some average, some last =>
      rules.confirms side average (c.tickDistance rules.toleranceTicks) (approach m last) last
    | _, _ => false

/-- The price of an entry. -/
def entryPrice (m : Context) : Option Float := m.currentPrice

/-- The latest swing on the losing side. -/
def swing (side : Side) (m : Context) : Option Float :=
  match side with
  | .long => m.swingLow
  | .short => m.swingHigh

/-- The stop of an entry. -/
def stopPrice (rules : Rules) (c : Contract) (side : Side) (entry : Float) (m : Context) :
    Option Float :=
  match rules.stop with
  | .swing bufferTicks => (swing side m).map fun level =>
      Level.adverse side level (c.tickDistance bufferTicks)
  | .atr multiple => m.indicators.usableAtr.map fun atr => Level.adverse side entry (atr * multiple)
  | .fixed d => some (Level.adverse side entry (d.price c))

/-- The target of an entry. -/
def targetPrice (rules : Rules) (side : Side) (entry stop : Float) : Option Float :=
  match rules.target with
  | .risk multiple => Level.riskTarget side entry stop multiple

end Playbook.Pullback.Rules
