import Playbook.Strategy.Writer
import Playbook.Trade.Plan

/-!
# Playbook.CommandLine.Report

Texts for people: the table of contracts, and the summary of a strategy.
-/

namespace Playbook.CommandLine

/-! ## Columns -/

/-- A text filled up with blanks at the end. -/
def left (width : Nat) (s : List Char) : List Char :=
  s ++ List.replicate (width - s.length) ' '

/-- A text filled up with blanks in front. -/
def right (width : Nat) (s : List Char) : List Char :=
  List.replicate (width - s.length) ' ' ++ s

/-- A line of the table of contracts. -/
def tableLine (symbol description exchange tick tickValue pointValue paired : List Char) :
    List Char :=
  [' '].intercalate [
    left 6 symbol, left 28 description, left 6 exchange, right 9 tick, right 10 tickValue,
    right 11 pointValue, left 6 paired]

/-- The line of a contract. -/
def contractLine (c : Contract) : List Char :=
  tableLine c.symbol.text.toList c.description.toList c.exchange.toList
    (Number.Layout.message.render c.tickSize) (Number.fixed 2 c.tickValue)
    (Number.fixed 2 c.pointValue) c.paired.text.toList

/-- The head of the table of contracts. -/
def tableHead : List Char :=
  tableLine "Symbol".toList "Description".toList "Exch".toList "Tick".toList "Tick $".toList
    "Point $".toList "Pair".toList

/-- The table of contracts, line by line. -/
def contractTable : List (List Char) :=
  tableHead :: List.replicate 82 '-' :: Symbol.all.map fun s => contractLine s.contract

/-! ## Summary -/

/-- The summary of a strategy with the hours that its session has today, line by
line. -/
def summaryLines (s : Strategy) (hours : Hours) : List (List Char) :=
  let c := s.contract
  let entry (name : String) (rest : List String) := left 14 name.toList ++ (String.join rest).toList
  let number (x : Float) := String.ofList (Number.Layout.message.render x)
  let money (x : Float) := String.ofList (Number.fixed 2 x)
  [ entry "Pattern:" [s.pattern.name],
    entry "Instrument:" [c.symbol.text, " (", c.description, ")"],
    entry "Tick:" [number c.tickSize, " = $", money c.tickValue],
    entry "Direction:" [String.intercalate " + " (s.direction.sides.map Side.name)],
    entry "Session:" [s.session.kind.name, " [", s.session.zone.text, "]"],
    entry "Window today:" [hours.text, " exchange time"],
    entry "Risk:" [number s.risk.percent, "% of balance, max ",
      String.ofList (Text.decimal s.risk.maxContracts), " contract(s)"],
    entry "Fingerprint:" [s.fingerprint.text]]

/-- The summary of a strategy; a custom session is shown with the hours that it
has on `today`, if they can be told. -/
def summary (tz : ZoneDatabase) (s : Strategy) (today : Time.Date) : Option (List (List Char)) :=
  (s.session.hoursOn tz today).map (summaryLines s)

/-! ## Conversion -/

/-- The JSON value of a time on the exchange's clock. -/
def exchangeTimeJson (t : ExchangeTime) : Json :=
  .object [
    ("exchangeTime", .string t.clock.writeLong), ("isDst", .bool t.daylight),
    ("dayOffset", .integer t.dayOffset.toInt)]

end Playbook.CommandLine
