/-!
# Playbook.Side

The two sides of a trade, and the directions in which a strategy may trade.

Prices of stops and targets are seen from a side: a positive distance in favour
of a trade moves a price up for a long trade and down for a short one.
-/

namespace Playbook

/-! ## Sides -/

/-- The side of a trade. -/
inductive Side where
  | long
  | short
deriving DecidableEq

namespace Side

/-- The written form of a side. -/
def name : Side → String
  | .long => "long"
  | .short => "short"

/-- The side that a name means. -/
def ofName? : String → Option Side
  | "long" => some .long
  | "short" => some .short
  | _ => none

/-- A distance in the trade's favour times the sign moves a price that way. -/
def sign : Side → Float
  | .long => 1.0
  | .short => -1.0

/-- The other side. -/
def opposite : Side → Side
  | .long => .short
  | .short => .long

/-- Whether `price` lies strictly beyond `level`, seen from a side. -/
def beyond (side : Side) (level price : Float) : Bool :=
  match side with
  | .long => level < price
  | .short => price < level

end Side

/-! ## Prices -/

namespace Level

/-- A price moved in favour of a trade. -/
def favorable (side : Side) (price distance : Float) : Float := price + side.sign * distance

/-- A price moved against a trade. -/
def adverse (side : Side) (price distance : Float) : Float := price - side.sign * distance

/-- A target as far from the entry as a multiple of what is risked; none if
nothing or without bound is risked. -/
def riskTarget (side : Side) (entry stop multiple : Float) : Option Float :=
  let risk := (entry - stop).abs
  if 0.0 < risk && risk.isFinite then some (favorable side entry (multiple * risk)) else none

/-- Whether a price is beyond a level and the reference before it was not.  No
reference counts as not beyond. -/
def crossed (side : Side) (price level : Float) (reference : Option Float) : Bool :=
  side.beyond level price && !reference.any (side.beyond level)

/-- Whether entry, stop and target are finite, the stop on the losing side and
the target on the winning side of the entry. -/
def isOrdered (side : Side) (entry stop target : Float) : Bool :=
  entry.isFinite && stop.isFinite && target.isFinite &&
    match side with
    | .long => stop < entry && entry < target
    | .short => target < entry && entry < stop

end Level

/-! ## Directions -/

/-- Which sides a strategy may trade. -/
inductive Direction where
  | long
  | short
  | both
deriving DecidableEq

namespace Direction

/-- The written form of a direction. -/
def name : Direction → String
  | .long => "long"
  | .short => "short"
  | .both => "both"

/-- The directions with their written forms, in the order of messages. -/
def named : List (String × Direction) :=
  [("long", .long), ("short", .short), ("both", .both)]

/-- The sides that may be traded, in the order in which they are tried. -/
def sides : Direction → List Side
  | .long => [.long]
  | .short => [.short]
  | .both => [.long, .short]

/-- Whether a side may be traded. -/
def allows (d : Direction) (side : Side) : Bool :=
  match d, side with
  | .both, _ => true
  | .long, .long => true
  | .short, .short => true
  | _, _ => false

end Direction

end Playbook
