import Playbook.Json.Printer
import Playbook.Market.Reader
import Playbook.Trade.Plan

/-!
# Playbook.Trade.Decision

The answer to one context, and the answers to a text with a context on every
line.

* `scan` answers all lines that are not blank, in order, or fails with the
  number of the first line that holds no context; it never answers a part.
-/

namespace Playbook

/-- The JSON value of a plan. -/
def Plan.toJson (p : Plan) : Json :=
  .object [
    ("side", .string p.side.name), ("entry", .ofFloat p.entry), ("stop", .ofFloat p.stop),
    ("target", .ofFloat p.target), ("contracts", .integer p.contracts),
    ("riskDollars", .ofFloat p.riskDollars), ("rewardRisk", .ofFloat p.rewardRisk)]

/-- The answer to a context. -/
structure Decision where
  time : Time.Instant
  inSession : Bool
  side : Option Side
  plan : Option Plan

namespace Decision

/-- The JSON value of a decision. -/
def toJson (d : Decision) : Json :=
  .object [
    ("time", d.time.toJson), ("inSession", .bool d.inSession),
    ("side", .ofString? (d.side.map Side.name)), ("plan", d.plan.elim .null Plan.toJson)]

end Decision

/-- What a strategy decides in a context. -/
def Strategy.decide (tz : ZoneDatabase) (s : Strategy) (m : Context) (balance : Float) :
    Decision where
  time := m.time
  inSession := s.isOpen tz m
  side := s.entrySide m
  plan := s.plan tz m balance

/-! ## Lines of contexts -/

/-- A line without the carriage return that a line feed may follow. -/
def dropReturn (line : List Char) : List Char :=
  if line.getLast? = some '\r' then line.dropLast else line

/-- The lines of a text.  A line feed ends a line; there is no line behind the
last one. -/
def lines (text : List Char) : List (List Char) :=
  let parts := text.splitOn '\n'
  parts.dropLast.map dropReturn ++
    match parts.getLast? with
    | some [] => []
    | some last => [last]
    | none => []

/-- Whether a line holds nothing but blanks. -/
def isBlankLine (line : List Char) : Bool := line.all Text.isBlank

/-- The contexts on lines, the first of which has the number `number`, or the
number of the first line that holds none. -/
def contextsOfLines (number : Nat) : List (List Char) → Except Nat (List Context)
  | [] => .ok []
  | line :: rest =>
    if isBlankLine line then contextsOfLines (number + 1) rest
    else
      match Context.ofText? line with
      | some m => (contextsOfLines (number + 1) rest).map (m :: ·)
      | none => .error number

/-- The contexts on the lines of a text.  Lines are numbered from one. -/
def contextsOfText (text : List Char) : Except Nat (List Context) :=
  contextsOfLines 1 (lines text)

/-- The decisions for the contexts in a text, one to a line, or the number of the
first line that holds no context. -/
def Strategy.scan (tz : ZoneDatabase) (s : Strategy) (text : List Char) (balance : Float) :
    Except Nat (List Decision) :=
  (contextsOfText text).map fun ms => ms.map fun m => s.decide tz m balance

end Playbook
