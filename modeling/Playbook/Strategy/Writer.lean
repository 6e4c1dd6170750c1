import Playbook.Hash.Blake3
import Playbook.Json.Printer
import Playbook.Strategy.Reader

/-!
# Playbook.Strategy.Writer

Documents of strategies in normal form: every default is written out, the
symbol and the zone have their listed names, and clock times have the form
`HH:MM`.  The members of an object have a fixed order.

The identity of a strategy is the hash of this document, with the members of
every object in the order of their names.  Documents that differ in defaults left
out, in the letter case of a symbol or in the spelling of a zone have the same
fingerprint.
-/

namespace Playbook

/-- The written form of a meaning. -/
def nameOf {α : Type} [DecidableEq α] (named : List (String × α)) (meaning : α) : String :=
  ((named.find? fun n => n.2 = meaning).map (·.1)).getD ""

/-! ## Distances -/

/-- The members of a method. -/
def methodMembers (name : String) (rest : List (String × Json)) : Json :=
  .object (("method", .string name) :: rest)

/-- A method with a value. -/
def valueMethod (name : String) (value : Float) : Json :=
  methodMembers name [("value", .ofFloat value)]

/-- A method with a distance from a level, in ticks. -/
def bufferMethod (name : String) (ticks : Float) : Json :=
  methodMembers name [("bufferTicks", .ofFloat ticks)]

/-- The method of a fixed distance. -/
def Distance.toJson (d : Distance) : Json :=
  methodMembers "fixed_distance" [
    ("value", .ofFloat d.value),
    ("unit", .string (nameOf DistanceUnit.named d.unit))]

/-! ## Patterns -/

namespace OpeningRange

/-- The document of a stop. -/
def Stop.toJson : Stop → Json
  | .percentage value => valueMethod "percentage" value
  | .oppositeSide => methodMembers "opposite_side" []
  | .fixed d => d.toJson
  | .atr multiple => valueMethod "atr_multiple" multiple

/-- The document of a target. -/
def Target.toJson : Target → Json
  | .risk multiple => valueMethod "r_multiple" multiple
  | .extension multiple => valueMethod "extension" multiple
  | .fixed d => d.toJson

/-- The document of the rules. -/
def Rules.toJson (r : Rules) : Json :=
  .object [
    ("periodMinutes", .integer r.periodMinutes),
    ("breakoutBufferTicks", .ofFloat r.bufferTicks),
    ("stop", r.stop.toJson),
    ("target", r.target.toJson)]

end OpeningRange

namespace Pullback

/-- The document of a band. -/
def RsiBand.toJson (b : RsiBand) : Json :=
  .object [("min", .ofFloat b.min), ("max", .ofFloat b.max)]

/-- The document of a stop. -/
def Stop.toJson : Stop → Json
  | .swing bufferTicks => bufferMethod "structure" bufferTicks
  | .atr multiple => valueMethod "atr_multiple" multiple
  | .fixed d => d.toJson

/-- The document of a target. -/
def Target.toJson : Target → Json
  | .risk multiple => valueMethod "r_multiple" multiple

/-- The document of the rules; without a band there is no member for it. -/
def Rules.toJson (r : Rules) : Json :=
  .object <| [
    ("emaPeriod", .integer r.emaPeriod),
    ("confirmation", .string (nameOf Confirmation.named r.confirmation)),
    ("touchToleranceTicks", .ofFloat r.toleranceTicks)]
    ++ (r.rsiBand.elim [] fun b => [("rsiFilter", b.toJson)])
    ++ [("stop", r.stop.toJson), ("target", r.target.toJson)]

end Pullback

namespace Breakout

/-- The document of a stop. -/
def Stop.toJson : Stop → Json
  | .level bufferTicks => bufferMethod "breakout_level" bufferTicks
  | .atr multiple => valueMethod "atr_multiple" multiple
  | .fixed d => d.toJson

/-- The document of a target. -/
def Target.toJson : Target → Json
  | .risk multiple => valueMethod "r_multiple" multiple
  | .extension multiple => valueMethod "extension" multiple

/-- The document of the rules. -/
def Rules.toJson (r : Rules) : Json :=
  .object [
    ("lookbackPeriods", .integer r.lookback),
    ("confirmation", .string (nameOf Confirmation.named r.confirmation)),
    ("stop", r.stop.toJson),
    ("target", r.target.toJson)]

end Breakout

/-! ## Sections -/

/-- The document of entry rules. -/
def EntryRules.toJson : EntryRules → Json
  | .openingRange r => r.toJson
  | .pullback r => r.toJson
  | .breakout r => r.toJson

/-- The document of a risk. -/
def Risk.toJson (r : Risk) : Json :=
  .object [("riskPercent", .ofFloat r.percent), ("maxContracts", .integer r.maxContracts)]

/-- The members that only a custom session has. -/
def SessionKind.members : SessionKind → List (String × Json)
  | .custom start stop => [("customStart", .string start.write), ("customEnd", .string stop.write)]
  | _ => []

/-- The document of a session. -/
def Session.toJson (s : Session) : Json :=
  .object <| ("session", .string s.kind.name) :: s.kind.members
    ++ [("timezone", .string s.zone.text)]

/-! ## Strategies -/

namespace Strategy

/-- The document of a strategy in normal form. -/
def toJson (s : Strategy) : Json :=
  .object [
    ("instrument", .object [("symbol", .string s.symbol.text)]),
    ("direction", .string s.direction.name),
    ("pattern", .string s.pattern.name),
    ("entry", s.entry.toJson),
    ("risk", s.risk.toJson),
    ("session", s.session.toJson)]

end Strategy

/-! ## Fingerprints -/

/-- A hash in hexadecimal. -/
structure Fingerprint where
  text : String
deriving DecidableEq

namespace Fingerprint

/-- The fingerprint of a text. -/
def ofText (s : String) : Fingerprint := ⟨Blake3.hexOfText s⟩

/-- The first twelve digits. -/
def short (f : Fingerprint) : String := String.ofList (f.text.toList.take 12)

end Fingerprint

namespace Strategy

/-- The text that identifies a strategy. -/
def canonicalText (s : Strategy) : String := String.ofList s.toJson.ordered.compact

/-- The fingerprint of a strategy. -/
def fingerprint (s : Strategy) : Fingerprint := Fingerprint.ofText s.canonicalText

end Strategy

end Playbook
