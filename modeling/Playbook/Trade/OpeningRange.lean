import Playbook.Market.Context
import Playbook.Strategy.Rules

/-!
# Playbook.Trade.OpeningRange

Opening-range entries: the price crosses a level outside the opening range of
the session.  Until the range is complete there is no entry.
-/

namespace Playbook

namespace OpeningRange

/-- The side of a range through which a trade leaves it. -/
def breakoutSide (r : OpeningRange) : Side → Float
  | .long => r.high
  | .short => r.low

/-- The other side of a range. -/
def oppositeSide (r : OpeningRange) (side : Side) : Float := r.breakoutSide side.opposite

namespace Rules

/-- The price that has to be crossed. -/
def trigger (rules : Rules) (c : Contract) (r : OpeningRange) (side : Side) : Float :=
  Level.favorable side (r.breakoutSide side) (c.tickDistance rules.bufferTicks)

/-- Whether there is an entry on a side. -/
def signal (rules : Rules) (c : Contract) (side : Side) (m : Context) : Bool :=
  match m.tradableRange, m.currentPrice with
  | some r, some price => Level.crossed side price (rules.trigger c r side) m.referenceClose
  | _, _ => false

/-- The price of an entry. -/
def entryPrice (m : Context) : Option Float := m.currentPrice

/-- The stop of an entry. -/
def stopPrice (rules : Rules) (c : Contract) (side : Side) (entry : Float) (m : Context) :
    Option Float :=
  match rules.stop with
  | .percentage value => m.tradableRange.map fun r =>
      Level.adverse side (r.breakoutSide side) (r.size * value / 100.0)
  | .oppositeSide => m.tradableRange.map fun r =>
      Level.adverse side (r.oppositeSide side) c.tickSize
  | .fixed d => some (Level.adverse side entry (d.price c))
  | .atr multiple => m.indicators.usableAtr.map fun atr => Level.adverse side entry (atr * multiple)

/-- The target of an entry. -/
def targetPrice (rules : Rules) (c : Contract) (side : Side) (entry stop : Float) (m : Context) :
    Option Float :=
  match rules.target with
  | .risk multiple => Level.riskTarget side entry stop multiple
  | .extension multiple => m.tradableRange.map fun r =>
      Level.favorable side entry (r.size * multiple)
  | .fixed d => some (Level.favorable side entry (d.price c))

end Rules

end OpeningRange

end Playbook
