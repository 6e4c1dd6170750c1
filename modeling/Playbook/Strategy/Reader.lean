import Playbook.Json.Reader
import Playbook.Strategy.Checked
import Playbook.Strategy.Rules
import Playbook.Zone.Description

/-!
# Playbook.Strategy.Reader

Strategies from documents.

Every section of a document is a function of its own field; only the rules of
entries depend on another one, the pattern.  The problems of a document are the
problems of its sections, in the order pattern, instrument, direction, entry,
risk, session.  Fields that a section does not read do not matter.
-/

namespace Playbook

open Time (Clock)

/-! ## Bounds and defaults -/

namespace Bounds

/-- Minutes of an opening range. -/
def periodMinutes : WholeRange := ⟨5, some 1440⟩

/-- Candles of a moving average. -/
def emaPeriod : WholeRange := ⟨2, some 500⟩

/-- Candles of a channel. -/
def lookback : WholeRange := ⟨2, some 500⟩

/-- Contracts of a trade. -/
def maxContracts : WholeRange := ⟨1, none⟩

end Bounds

namespace Default

/-- Candles of a channel. -/
def lookback : Nat := 20

/-- Ticks between an opening range and the price to cross. -/
def breakoutBufferTicks : Float := 0.0

/-- Ticks within which a candle touches a moving average. -/
def toleranceTicks : Float := 2.0

/-- Ticks between a level and the stop beyond it. -/
def stopBufferTicks : Float := 1.0

/-- The target of a pullback entry. -/
def pullbackTarget : Pullback.Target := .risk 2.0

end Default

/-! ## Distances -/

/-- The units with their written forms. -/
def DistanceUnit.named : List (String × DistanceUnit) := [("ticks", .ticks), ("points", .points)]

/-- A number of ticks that may be absent. -/
def Fields.ticks (f : Fields) (name : String) (absent : Float) : Checked Float :=
  f.optional name absent (.numberThat .notNegative)

/-- The field `value`, above zero. -/
def Fields.positive (f : Fields) : Checked Float := f.required "value" (.numberThat .positive)

/-- A fixed distance; its unit is ticks if none is given. -/
def Distance.ofFields (f : Fields) : Checked Distance :=
  (f.positive.both (f.optional "unit" .ticks (.choice DistanceUnit.named))).map
    fun (value, unit) => ⟨value, unit⟩

/-! ## Opening range -/

namespace OpeningRange

/-- Read a stop. -/
def Stop.ofFields (f : Fields) : Checked Stop :=
  f.method [
    ("percentage", fun f => (f.required "value" (.numberThat .percentage)).map .percentage),
    ("opposite_side", fun _ => .ok .oppositeSide),
    ("fixed_distance", fun f => (Distance.ofFields f).map .fixed),
    ("atr_multiple", fun f => f.positive.map .atr)]

/-- Read a target. -/
def Target.ofFields (f : Fields) : Checked Target :=
  f.method [
    ("r_multiple", fun f => f.positive.map .risk),
    ("extension", fun f => f.positive.map .extension),
    ("fixed_distance", fun f => (Distance.ofFields f).map .fixed)]

/-- Read the rules. -/
def Rules.ofFields (f : Fields) : Checked Rules :=
  let period := f.required "periodMinutes" (.whole Bounds.periodMinutes)
  let buffer := f.ticks "breakoutBufferTicks" Default.breakoutBufferTicks
  let stop := f.requiredObject "stop" Stop.ofFields
  let target := f.requiredObject "target" Target.ofFields
  (period.both (buffer.both (stop.both target))).map
    fun (period, buffer, stop, target) => ⟨period, buffer, stop, target⟩

end OpeningRange

/-! ## Pullback -/

namespace Pullback

/-- The confirmations with their written forms. -/
def Confirmation.named : List (String × Confirmation) := [("touch", .touch), ("bounce", .bounce)]

/-- Read a band of the relative strength index. -/
def RsiBand.ofFields (f : Fields) : Checked RsiBand :=
  let min := f.required "min" (.numberThat .rsi)
  let max := f.required "max" (.numberThat .rsi)
  (min.both max).bind fun (min, max) =>
    Checked.demand (min < max) f.path .bandEmpty ⟨min, max⟩

/-- Read a stop. -/
def Stop.ofFields (f : Fields) : Checked Stop :=
  f.method [
    ("structure", fun f => (f.ticks "bufferTicks" Default.stopBufferTicks).map .swing),
    ("atr_multiple", fun f => f.positive.map .atr),
    ("fixed_distance", fun f => (Distance.ofFields f).map .fixed)]

/-- Read a target. -/
def Target.ofFields (f : Fields) : Checked Target :=
  f.method [("r_multiple", fun f => f.positive.map .risk)]

/-- Read the rules. -/
def Rules.ofFields (f : Fields) : Checked Rules :=
  let period := f.required "emaPeriod" (.whole Bounds.emaPeriod)
  let confirmation := f.optional "confirmation" .bounce (.choice Confirmation.named)
  let tolerance := f.ticks "touchToleranceTicks" Default.toleranceTicks
  let band := f.optional "rsiFilter" none fun path v =>
    ((Reader.object path v).bind RsiBand.ofFields).map some
  let stop := f.requiredObject "stop" Stop.ofFields
  let target := f.optional "target" Default.pullbackTarget fun path v =>
    (Reader.object path v).bind Target.ofFields
  (period.both (confirmation.both (tolerance.both (band.both (stop.both target))))).map
    fun (period, confirmation, tolerance, band, stop, target) =>
      ⟨period, confirmation, tolerance, band, stop, target⟩

end Pullback

/-! ## Breakout -/

namespace Breakout

/-- The confirmations with their written forms. -/
def Confirmation.named : List (String × Confirmation) := [("close", .close), ("wick", .wick)]

/-- Read a stop. -/
def Stop.ofFields (f : Fields) : Checked Stop :=
  f.method [
    ("breakout_level", fun f => (f.ticks "bufferTicks" Default.stopBufferTicks).map .level),
    ("atr_multiple", fun f => f.positive.map .atr),
    ("fixed_distance", fun f => (Distance.ofFields f).map .fixed)]

/-- Read a target. -/
def Target.ofFields (f : Fields) : Checked Target :=
  f.method [
    ("r_multiple", fun f => f.positive.map .risk),
    ("extension", fun f => f.positive.map .extension)]

/-- Read the rules. -/
def Rules.ofFields (f : Fields) : Checked Rules :=
  let lookback := f.optional "lookbackPeriods" Default.lookback (.whole Bounds.lookback)
  let confirmation := f.optional "confirmation" .close (.choice Confirmation.named)
  let stop := f.requiredObject "stop" Stop.ofFields
  let target := f.requiredObject "target" Target.ofFields
  (lookback.both (confirmation.both (stop.both target))).map
    fun (lookback, confirmation, stop, target) => ⟨lookback, confirmation, stop, target⟩

end Breakout

/-! ## Sections -/

/-- The pattern that a text names. -/
def Pattern.reader : Reader Pattern := fun path v =>
  (Reader.string path v).bind fun s =>
    Checked.ofOption (Pattern.ofName? s) path (.unsupportedPattern s Pattern.names)

/-- The symbol that a text names. -/
def Symbol.reader : Reader Symbol := fun path v =>
  (Reader.string path v).bind fun s =>
    if Text.trim s.toList = [] then .error [⟨path, .emptySymbol⟩]
    else Checked.ofOption (Symbol.ofText? s) path (.unknownInstrument s)

/-- Read the rules of a pattern. -/
def EntryRules.ofFields (pattern : Pattern) (f : Fields) : Checked EntryRules :=
  match pattern with
  | .openingRange => (OpeningRange.Rules.ofFields f).map .openingRange
  | .pullback => (Pullback.Rules.ofFields f).map .pullback
  | .breakout => (Breakout.Rules.ofFields f).map .breakout

/-- Read how much to risk. -/
def Risk.ofFields (f : Fields) : Checked Risk :=
  let percent := f.required "riskPercent" (.numberThat .riskPercent)
  let maxContracts := f.required "maxContracts" (.whole Bounds.maxContracts)
  (percent.both maxContracts).map fun (percent, maxContracts) => ⟨percent, maxContracts⟩

/-- The zone that a text describes. -/
def ZoneName.reader : Reader ZoneName := fun path v =>
  (Reader.string path v).bind fun s =>
    Checked.ofOption (ZoneName.ofDescription? s) path (.unknownZone s)

/-- The clock time that a text gives. -/
def clockReader : Reader Clock := fun path v =>
  (Reader.string path v).bind fun s =>
    Checked.ofOption (Clock.read s.toList) path (.notClock s)

/-- Read the hours of a custom session, which must not be empty. -/
def SessionKind.customOfFields (f : Fields) : Checked SessionKind :=
  let start := f.required "customStart" clockReader
  let stop := f.required "customEnd" clockReader
  (start.both stop).bind fun (start, stop) =>
    Checked.demand (start ≠ stop) f.path .sameClocks (.custom start stop)

/-- The kinds of sessions by name, with what is read for them. -/
def SessionKind.readers : List (String × (Fields → Checked SessionKind)) := [
  ("ny", fun _ => .ok .ny),
  ("globex", fun _ => .ok .globex),
  ("all", fun _ => .ok .all),
  ("custom", SessionKind.customOfFields)]

/-- Read a session.  The hours of a custom session come last. -/
def Session.ofFields (f : Fields) : Checked Session :=
  let name := f.required "session" (.choice SessionKind.readers)
  let zone := f.optional "timezone" ZoneName.trader ZoneName.reader
  let kind := name.whenOk fun read => read f
  (name.both (zone.both kind)).map fun (_, zone, kind) => ⟨kind, zone⟩

/-! ## Documents -/

namespace Strategy

/-- Read the sections of a document. -/
def ofFields (f : Fields) : Checked Strategy :=
  let pattern := f.required "pattern" Pattern.reader
  let symbol := f.requiredObject "instrument" fun f => f.required "symbol" Symbol.reader
  let direction := f.required "direction" (.choice Direction.named)
  let entry := pattern.whenOk fun p => f.requiredObject "entry" (EntryRules.ofFields p)
  let risk := f.requiredObject "risk" Risk.ofFields
  let session := f.requiredObject "session" Session.ofFields
  (pattern.both (symbol.both (direction.both (entry.both (risk.both session))))).map
    fun (_, symbol, direction, entry, risk, session) => ⟨symbol, direction, entry, risk, session⟩

/-- The strategy of a document, or all that is wrong with it. -/
def ofJson (document : Json) : Checked Strategy :=
  (Reader.object [] document).bind ofFields

/-- The strategy of the text of a document. -/
def ofText (text : String) : Checked Strategy :=
  match Json.read text.toList with
  | some document => ofJson document
  | none => .error [⟨[], .notJson⟩]

end Strategy

end Playbook
