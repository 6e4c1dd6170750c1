import Playbook.Json.Reader
import Playbook.Market.Context

/-!
# Playbook.Market.Reader

Contexts from JSON, and as JSON.

* `Context.ofJson?` reads a value.  A record is an object, or an array of its
  fields in order; members that are not fields are ignored.
* `Context.ofText?` reads a text and is stricter about repeated names, which a
  value cannot have, and laxer about members that are ignored: they need not
  have values.
* `Context.toJson` writes all fields, absent values as null; moving averages are
  the members of an object, named by their periods.
-/

namespace Playbook

open Time (Instant)

/-! ## Records -/

/-- The fields of a record with these names, in either form. -/
def Json.record? (names : List String) : Json → Option (List (String × Json))
  | .object members => some members
  | .array items => if items.length ≤ names.length then some (names.zip items) else none
  | _ => none

/-- A number in a field that has to be there. -/
def requiredNumber? (fields : List (String × Json)) (name : String) : Option Float :=
  (fields.lookup name).bind Json.float?

/-- A value that may be absent or null. -/
def optional? {α : Type} (fields : List (String × Json)) (name : String)
    (read : Json → Option α) : Option (Option α) :=
  match fields.lookup name with
  | none => some none
  | some .null => some none
  | some v => (read v).map some

/-- A value that may be absent, but not null. -/
def default? {α : Type} (fields : List (String × Json)) (name : String) (absent : α)
    (read : Json → Option α) : Option α :=
  match fields.lookup name with
  | none => some absent
  | some v => read v

/-- An instant. -/
def instant? : Json → Option Instant
  | .string s => Instant.read s.toList
  | _ => none

/-- A truth value. -/
def flag? : Json → Option Bool
  | .bool b => some b
  | _ => none

/-! ## Parts of a context -/

namespace Quote

/-- The fields of a quote, in order. -/
def fields : List String := ["last", "bid", "ask"]

/-- Read a quote. -/
def ofJson? (v : Json) : Option Quote := do
  let f ← v.record? fields
  return {
    last := ← requiredNumber? f "last"
    bid := ← optional? f "bid" Json.float?
    ask := ← optional? f "ask" Json.float? }

end Quote

namespace Candle

/-- The fields of a candle, in order. -/
def fields : List String := ["time", "open", "high", "low", "close", "volume"]

/-- Read a candle. -/
def ofJson? (v : Json) : Option Candle := do
  let f ← v.record? fields
  return {
    time := ← (f.lookup "time").bind instant?
    opening := ← requiredNumber? f "open"
    high := ← requiredNumber? f "high"
    low := ← requiredNumber? f "low"
    close := ← requiredNumber? f "close"
    volume := ← default? f "volume" 0.0 Json.float? }

end Candle

namespace OpeningRange

/-- The fields of an opening range, in order. -/
def fields : List String := ["high", "low", "isComplete"]

/-- Read an opening range. -/
def ofJson? (v : Json) : Option OpeningRange := do
  let f ← v.record? fields
  return {
    high := ← requiredNumber? f "high"
    low := ← requiredNumber? f "low"
    isComplete := ← (f.lookup "isComplete").bind flag? }

end OpeningRange

namespace Swing

/-- The fields of swings, in order. -/
def fields : List String := ["swingHigh", "swingLow"]

/-- Read swings. -/
def ofJson? (v : Json) : Option Swing := do
  let f ← v.record? fields
  return {
    high := ← optional? f "swingHigh" Json.float?
    low := ← optional? f "swingLow" Json.float? }

end Swing

namespace Indicators

/-- The period that a name gives: a plain numeral of at most 32 bits. -/
def period? (name : List Char) : Option Nat :=
  (Text.plainNumeral name).filter fun n => n ≤ 0xFFFFFFFF

/-- Read moving averages on top of some that are there. -/
def readAverages (done : List (Nat × Float)) : List (String × Json) → Option (List (Nat × Float))
  | [] => some done
  | (name, v) :: rest =>
    match period? name.toList, v.float? with
    | some p, some x => readAverages (putAverage p x done) rest
    | _, _ => none

/-- Read moving averages. -/
def averages? : Json → Option (List (Nat × Float))
  | .object members => readAverages [] members
  | _ => none

/-- The fields of indicators, in order. -/
def fields : List String := ["ema", "rsi", "atr"]

/-- Read indicators. -/
def ofJson? (v : Json) : Option Indicators := do
  let f ← v.record? fields
  return {
    averages := ← default? f "ema" [] averages?
    rsi := ← optional? f "rsi" Json.float?
    atr := ← optional? f "atr" Json.float? }

end Indicators

/-! ## Contexts -/

namespace Context

/-- The fields of a context, in order. -/
def fields : List String := ["candles", "quote", "indicators", "openingRange", "swing", "time"]

/-- Read candles. -/
def candles? : Json → Option (List Candle)
  | .array items => items.mapM Candle.ofJson?
  | _ => none

/-- Read a context from a value. -/
def ofJson? (v : Json) : Option Context := do
  let f ← v.record? fields
  return {
    candles := ← default? f "candles" [] candles?
    quote := ← optional? f "quote" Quote.ofJson?
    indicators := ← default? f "indicators" Indicators.empty Indicators.ofJson?
    openingRange := ← optional? f "openingRange" OpeningRange.ofJson?
    swing := ← optional? f "swing" Swing.ofJson?
    time := ← (f.lookup "time").bind instant? }

end Context

/-! ## Texts of contexts -/

/-- The parts of a text that are read. -/
inductive Shape where
  | value
  | record (fields : List (String × Shape))
  | list (item : Shape)
  | averages

namespace Shape

open Json (Tree Literal.text? Literal.number?)

/-- The shape of a record whose fields hold no records. -/
def flat (names : List String) : Shape := .record (names.map fun n => (n, .value))

/-- The shape of a context. -/
def context : Shape :=
  .record [
    ("candles", .list (flat Candle.fields)),
    ("quote", flat Quote.fields),
    ("indicators", .record [("ema", .averages), ("rsi", .value), ("atr", .value)]),
    ("openingRange", flat OpeningRange.fields),
    ("swing", flat Swing.fields),
    ("time", .value)]

/-- Moving averages in a text: names are written without escapes, every value
is a number, and the last of equal names counts. -/
def selectAverages (done : List (String × Json)) :
    List (List Char × Tree) → Option (List (String × Json))
  | [] => some done
  | (name, .number literal) :: rest =>
    match Indicators.period? name, Literal.number? literal with
    | some _, some v => selectAverages (Json.put done (String.ofList name) v) rest
    | _, _ => none
  | _ => none

mutual

/-- The value of the parts of a tree that are read.  A field must not be
repeated. -/
def select (shape : Shape) : Tree → Option Json
  | .object members =>
    match shape with
    | .record fields => (selectMembers fields [] members).map .object
    | .averages => (selectAverages [] members).map .object
    | _ => Json.ofTree? (.object members)
  | .array items =>
    match shape with
    | .record fields => (selectFields fields items).map .array
    | .list item => (selectItems item items).map .array
    | _ => Json.ofTree? (.array items)
  | t => Json.ofTree? t

/-- The fields among the members of an object. -/
def selectMembers (fields : List (String × Shape)) (done : List (String × Json)) :
    List (List Char × Tree) → Option (List (String × Json))
  | [] => some done
  | (name, t) :: rest =>
    match Literal.text? name with
    | none => none
    | some n =>
      match fields.lookup n with
      | none => selectMembers fields done rest
      | some shape =>
        if (done.lookup n).isSome then none
        else
          match select shape t with
          | some v => selectMembers fields (done ++ [(n, v)]) rest
          | none => none

/-- The fields of a record that is written as an array. -/
def selectFields (fields : List (String × Shape)) : List Tree → Option (List Json)
  | [] => some []
  | t :: rest =>
    match fields with
    | [] => none
    | (_, shape) :: fields =>
      match select shape t, selectFields fields rest with
      | some v, some vs => some (v :: vs)
      | _, _ => none

/-- The items of a list. -/
def selectItems (item : Shape) : List Tree → Option (List Json)
  | [] => some []
  | t :: rest =>
    match select item t, selectItems item rest with
    | some v, some vs => some (v :: vs)
    | _, _ => none

end

end Shape

/-- Read a context from a text. -/
def Context.ofText? (s : List Char) : Option Context :=
  ((Json.Tree.read s).bind (Shape.select Shape.context)).bind Context.ofJson?

/-! ## Written contexts -/

/-- An instant in universal time. -/
def Time.Instant.toJson (t : Time.Instant) : Json := .string t.write

/-- The JSON value of a quote. -/
def Quote.toJson (q : Quote) : Json :=
  .object [("last", .ofFloat q.last), ("bid", .ofFloat? q.bid), ("ask", .ofFloat? q.ask)]

/-- The JSON value of a candle. -/
def Candle.toJson (c : Candle) : Json :=
  .object [
    ("time", c.time.toJson), ("open", .ofFloat c.opening), ("high", .ofFloat c.high),
    ("low", .ofFloat c.low), ("close", .ofFloat c.close), ("volume", .ofFloat c.volume)]

/-- The JSON value of indicators. -/
def Indicators.toJson (i : Indicators) : Json :=
  .object [
    ("ema", .object (i.averages.map fun (p, x) => (String.ofList (Text.decimal p), .ofFloat x))),
    ("rsi", .ofFloat? i.rsi), ("atr", .ofFloat? i.atr)]

/-- The JSON value of an opening range. -/
def OpeningRange.toJson (r : OpeningRange) : Json :=
  .object [("high", .ofFloat r.high), ("low", .ofFloat r.low), ("isComplete", .bool r.isComplete)]

/-- The JSON value of swings. -/
def Swing.toJson (s : Swing) : Json :=
  .object [("swingHigh", .ofFloat? s.high), ("swingLow", .ofFloat? s.low)]

/-- The JSON value of a context. -/
def Context.toJson (c : Context) : Json :=
  .object [
    ("candles", .array (c.candles.map Candle.toJson)),
    ("quote", c.quote.elim .null Quote.toJson),
    ("indicators", c.indicators.toJson),
    ("openingRange", c.openingRange.elim .null OpeningRange.toJson),
    ("swing", c.swing.elim .null Swing.toJson),
    ("time", c.time.toJson)]

end Playbook
