import Playbook.Strategy.Reader

/-!
# Playbook.Proofs.Strategy.Recorder

Reading a document with a record of problems on the side.

A reader of this kind goes on after a problem: a field that may be absent falls back to
its default if its value is no good, and only the record knows of that.  What reading
came to is settled at the end (`Recorded.finish`): a value counts if nothing was recorded.

Two things are left open here, because nothing should depend on them: what is read for a
method that none of the cases of a reader is about (`Otherwise`), and what `finish`
reports where there is neither a value nor a problem.
-/

namespace Playbook

variable {α β : Type}

/-- A value that may be missing, and the problems that were recorded on the way to it. -/
structure Recorded (α : Type) where
  value : Option α
  problems : List Problem

namespace Recorded

/-! ## putting readers together -/

/-- A value without problems. -/
def ok (x : α) : Recorded α := ⟨some x, []⟩

/-- No value, and no problem that would say why. -/
def silent : Recorded α := ⟨none, []⟩

/-- A value, or else problems. -/
def ofChecked : Checked α → Recorded α
  | .ok x => ⟨some x, []⟩
  | .error ps => ⟨none, ps⟩

/-- The same with another value. -/
def map (a : Recorded α) (f : α → β) : Recorded β := ⟨a.value.map f, a.problems⟩

/-- Two values, if both are there. -/
def both (a : Recorded α) (b : Recorded β) : Recorded (α × β) :=
  ⟨a.value.bind fun x => b.value.map fun y => (x, y), a.problems ++ b.problems⟩

/-- Go on with a value, or with `absent` if it is missing. -/
def orElse (a : Recorded α) (found : α → Recorded β) (absent : Recorded β) : Recorded β :=
  let b := a.value.elim absent found
  ⟨b.value, a.problems ++ b.problems⟩

/-- Go on with a value, and without one end here. -/
def andThen (a : Recorded α) (next : α → Recorded β) : Recorded β := a.orElse next silent

/-- A default for a missing value. -/
def orDefault (a : Recorded α) (x : α) : Recorded α := a.orElse ok (ok x)

/-- What depends on a value whose problems stand elsewhere. -/
def whenThere (a : Recorded α) (next : α → Recorded β) : Recorded β := a.value.elim silent next

/-- What reading came to: the value if nothing was recorded, else the record, which must
not be empty; `unexplained` is for the case that it is. -/
def finish (unexplained : Problem) : Recorded α → Checked α
  | ⟨some x, []⟩ => .ok x
  | ⟨none, []⟩ => .error [unexplained]
  | ⟨_, p :: ps⟩ => .error (p :: ps)

/-! ## fields -/

/-- A field that has to be there. -/
def required (f : Fields) (name : String) (read : Reader α) : Recorded α :=
  ofChecked (f.required name read)

/-- A field that may be absent. -/
def optional (f : Fields) (name : String) (read : Reader α) : Recorded α :=
  match f.value? name with
  | some v => ofChecked (read (f.place name) v)
  | none => silent

/-- An object in a field that has to be there. -/
def object (f : Fields) (name : String) : Recorded Fields := required f name Reader.object

/-- One of some texts, with a default. -/
def choice (f : Fields) (name : String) (named : List (String × α)) (absent : α) : Recorded α :=
  (optional f name (.choice named)).orDefault absent

/-- A number of ticks, with a default. -/
def ticks (f : Fields) (name : String) (absent : Float) : Recorded Float :=
  (optional f name (.numberThat .notNegative)).orDefault absent

/-- The field `value`, above zero. -/
def positive (f : Fields) : Recorded Float := required f "value" (.numberThat .positive)

/-- A fixed distance. -/
def distance (f : Fields) : Recorded Distance :=
  ((positive f).both (choice f "unit" DistanceUnit.named .ticks)).map
    fun (value, unit) => ⟨value, unit⟩

/-- The name of a method, one of some. -/
def method (f : Fields) (names : List String) : Recorded String :=
  required f "method" (.choice (names.map fun n => (n, n)))

/-! ## methods -/

/-- What is read for a method that is none of those a reader knows. -/
structure Otherwise where
  openingStop : Recorded OpeningRange.Stop
  openingTarget : Recorded OpeningRange.Target
  pullbackStop : Recorded Pullback.Stop
  breakoutStop : Recorded Breakout.Stop
  breakoutTarget : Recorded Breakout.Target

/-- Nothing is read for such a method, and nothing is said. -/
def Otherwise.silent : Otherwise where
  openingStop := Recorded.silent
  openingTarget := Recorded.silent
  pullbackStop := Recorded.silent
  breakoutStop := Recorded.silent
  breakoutTarget := Recorded.silent

variable (other : Otherwise)

/-- Read a stop of an opening range. -/
def openingStop (f : Fields) : Recorded OpeningRange.Stop :=
  (method f ["percentage", "opposite_side", "fixed_distance", "atr_multiple"]).andThen fun
    | "percentage" => (required f "value" (.numberThat .percentage)).map .percentage
    | "opposite_side" => ok .oppositeSide
    | "fixed_distance" => (distance f).map .fixed
    | "atr_multiple" => (positive f).map .atr
    | _ => other.openingStop

/-- Read a target of an opening range. -/
def openingTarget (f : Fields) : Recorded OpeningRange.Target :=
  (method f ["r_multiple", "extension", "fixed_distance"]).andThen fun
    | "r_multiple" => (positive f).map .risk
    | "extension" => (positive f).map .extension
    | "fixed_distance" => (distance f).map .fixed
    | _ => other.openingTarget

/-- Read a stop of a pullback. -/
def pullbackStop (f : Fields) : Recorded Pullback.Stop :=
  (method f ["structure", "atr_multiple", "fixed_distance"]).andThen fun
    | "structure" => (ticks f "bufferTicks" Default.stopBufferTicks).map .swing
    | "atr_multiple" => (positive f).map .atr
    | "fixed_distance" => (distance f).map .fixed
    | _ => other.pullbackStop

/-- Read a target of a pullback, which has one method only. -/
def pullbackTarget (f : Fields) : Recorded Pullback.Target :=
  (method f ["r_multiple"]).andThen fun _ => (positive f).map .risk

/-- Read a stop of a breakout. -/
def breakoutStop (f : Fields) : Recorded Breakout.Stop :=
  (method f ["breakout_level", "atr_multiple", "fixed_distance"]).andThen fun
    | "breakout_level" => (ticks f "bufferTicks" Default.stopBufferTicks).map .level
    | "atr_multiple" => (positive f).map .atr
    | "fixed_distance" => (distance f).map .fixed
    | _ => other.breakoutStop

/-- Read a target of a breakout, whose methods all have a value. -/
def breakoutTarget (f : Fields) : Recorded Breakout.Target :=
  (method f ["r_multiple", "extension"]).andThen fun name => (positive f).andThen fun value =>
    match name with
    | "r_multiple" => ok (.risk value)
    | "extension" => ok (.extension value)
    | _ => other.breakoutTarget

/-! ## patterns -/

/-- Read the rules of an opening range. -/
def openingRules (f : Fields) : Recorded OpeningRange.Rules :=
  let period := required f "periodMinutes" (.whole Bounds.periodMinutes)
  let buffer := ticks f "breakoutBufferTicks" Default.breakoutBufferTicks
  let stop := (object f "stop").andThen (openingStop other)
  let target := (object f "target").andThen (openingTarget other)
  (period.both (buffer.both (stop.both target))).map
    fun (period, buffer, stop, target) => ⟨period, buffer, stop, target⟩

/-- Read a band of the relative strength index. -/
def band (f : Fields) : Recorded Pullback.RsiBand :=
  let min := required f "min" (.numberThat .rsi)
  let max := required f "max" (.numberThat .rsi)
  (min.both max).andThen fun (min, max) =>
    ofChecked (Checked.demand (min < max) f.path .bandEmpty ⟨min, max⟩)

/-- Read the rules of a pullback.  A filter or a target that is no object counts as
absent, and one that is an object has to be good. -/
def pullbackRules (f : Fields) : Recorded Pullback.Rules :=
  let period := required f "emaPeriod" (.whole Bounds.emaPeriod)
  let confirmation := choice f "confirmation" Pullback.Confirmation.named .bounce
  let tolerance := ticks f "touchToleranceTicks" Default.toleranceTicks
  let filter := (optional f "rsiFilter" Reader.object).orElse (fun f => (band f).map some) (ok none)
  let stop := (object f "stop").andThen (pullbackStop other)
  let target := (optional f "target" Reader.object).orElse pullbackTarget
    (ok Default.pullbackTarget)
  (period.both (confirmation.both (tolerance.both (filter.both (stop.both target))))).map
    fun (period, confirmation, tolerance, filter, stop, target) =>
      ⟨period, confirmation, tolerance, filter, stop, target⟩

/-- Read the rules of a breakout.  A number of candles that is no good is no default. -/
def breakoutRules (f : Fields) : Recorded Breakout.Rules :=
  let lookback := ofChecked (f.optional "lookbackPeriods" Default.lookback (.whole Bounds.lookback))
  let confirmation := choice f "confirmation" Breakout.Confirmation.named .close
  let stop := (object f "stop").andThen (breakoutStop other)
  let target := (object f "target").andThen (breakoutTarget other)
  (lookback.both (confirmation.both (stop.both target))).map
    fun (lookback, confirmation, stop, target) => ⟨lookback, confirmation, stop, target⟩

/-- Read the rules of a pattern. -/
def entryRules (pattern : Pattern) (f : Fields) : Recorded EntryRules :=
  match pattern with
  | .openingRange => (openingRules other f).map .openingRange
  | .pullback => (pullbackRules other f).map .pullback
  | .breakout => (breakoutRules other f).map .breakout

/-! ## sections -/

/-- Read how much to risk. -/
def risk (f : Fields) : Recorded Risk :=
  let percent := required f "riskPercent" (.numberThat .riskPercent)
  let maxContracts := required f "maxContracts" (.whole Bounds.maxContracts)
  (percent.both maxContracts).map fun (percent, maxContracts) => ⟨percent, maxContracts⟩

/-- Read the hours of a custom session. -/
def custom (f : Fields) : Recorded SessionKind :=
  let start := required f "customStart" clockReader
  let stop := required f "customEnd" clockReader
  (start.both stop).andThen fun (start, stop) =>
    ofChecked (Checked.demand (start ≠ stop) f.path .sameClocks (.custom start stop))

/-- The kinds of sessions by name, with what is read for them. -/
def kinds : List (String × (Fields → Recorded SessionKind)) := [
  ("ny", fun _ => ok .ny),
  ("globex", fun _ => ok .globex),
  ("all", fun _ => ok .all),
  ("custom", custom)]

/-- Read a session.  A zone that is no text counts as absent, and a text has to describe
a zone. -/
def session (f : Fields) : Recorded Session :=
  let name := required f "session" (.choice kinds)
  let zone := (optional f "timezone" Reader.string).orElse
    (fun s => ofChecked (Checked.ofOption (ZoneName.ofDescription? s) (f.place "timezone")
      (.unknownZone s)))
    (ok ZoneName.trader)
  let kind := name.whenThere fun read => read f
  (name.both (zone.both kind)).map fun (_, zone, kind) => ⟨kind, zone⟩

/-- Read the sections of a document. -/
def sections (f : Fields) : Recorded Strategy :=
  let pattern := required f "pattern" Pattern.reader
  let symbol := (object f "instrument").andThen fun f => required f "symbol" Symbol.reader
  let direction := required f "direction" (.choice Direction.named)
  let entry := pattern.whenThere fun p => (object f "entry").andThen (entryRules other p)
  let risk := (object f "risk").andThen risk
  let session := (object f "session").andThen session
  (pattern.both (symbol.both (direction.both (entry.both (risk.both session))))).map
    fun (_, symbol, direction, entry, risk, session) => ⟨symbol, direction, entry, risk, session⟩

/-- Read a document. -/
def strategy (document : Json) : Recorded Strategy :=
  (ofChecked (Reader.object [] document)).andThen (sections other)

end Recorded

end Playbook
