import Playbook.Json.Value
import Playbook.Number.Layout

/-!
# Playbook.Strategy.Problem

What can be wrong with a strategy document.

A `Problem` is a place in the document and a cause; `Problem.notice` puts it
into words.  All wording is in this module.
-/

namespace Playbook

/-! ## Causes -/

/-- The conditions on numbers. -/
inductive NumberRule where
  | positive
  | notNegative
  /-- Above zero, at most one hundred. -/
  | percentage
  /-- Above zero, at most five. -/
  | riskPercent
  /-- From zero to one hundred. -/
  | rsi
deriving DecidableEq

namespace NumberRule

/-- Whether a number satisfies a condition. -/
def admits : NumberRule → Float → Bool
  | .positive, x => 0.0 < x
  | .notNegative, x => 0.0 ≤ x
  | .percentage, x => 0.0 < x && x ≤ 100.0
  | .riskPercent, x => 0.0 < x && x ≤ 5.0
  | .rsi, x => 0.0 ≤ x && x ≤ 100.0

/-- A condition in words. -/
def message : NumberRule → String
  | .positive => "must be greater than 0"
  | .notNegative => "must not be negative"
  | .percentage => "must be greater than 0 and at most 100"
  | .riskPercent => "must be greater than 0 and at most 5"
  | .rsi => "must be between 0 and 100"

end NumberRule

/-- The kinds of values that a field can demand. -/
inductive Expected where
  | object
  | string
  | number
deriving DecidableEq

/-- The word for what a field demands. -/
def Expected.name : Expected → String
  | .object => "an object"
  | .string => "a string"
  | .number => "a number"

/-- The range of a whole number. -/
structure WholeRange where
  min : Nat
  /-- No upper end means the largest number of 32 bits. -/
  max : Option Nat
deriving DecidableEq

namespace WholeRange

/-- The largest number of 32 bits. -/
def largest : Nat := 0xFFFFFFFF

/-- Whether a number is in the range. -/
def contains (r : WholeRange) (n : Nat) : Bool := r.min ≤ n && n ≤ r.max.getD largest

/-- A range in words. -/
def message (r : WholeRange) : String :=
  let number (n : Nat) := String.ofList (Text.decimal n)
  match r.max with
  | some max => "must be an integer between " ++ number r.min ++ " and " ++ number max
  | none => "must be an integer of at least " ++ number r.min

end WholeRange

/-- What is wrong at a place of a document. -/
inductive Cause where
  | notJson
  | missing
  | wrongKind (expected : Expected) (found : Json.Kind)
  | unknownChoice (found : String) (choices : List String)
  | unsupportedPattern (found : String) (choices : List String)
  | emptySymbol
  | unknownInstrument (found : String)
  | outOfRange (rule : NumberRule)
  | notWhole (range : WholeRange)
  | bandEmpty
  | unknownZone (found : String)
  | notClock (found : String)
  | sameClocks
deriving DecidableEq

/-- The kinds of problems. -/
inductive ProblemKind where
  | schemaInvalid
  | unsupportedPattern
  | unknownInstrument
deriving DecidableEq

/-- The written form of a kind. -/
def ProblemKind.name : ProblemKind → String
  | .schemaInvalid => "schema_invalid"
  | .unsupportedPattern => "unsupported_pattern"
  | .unknownInstrument => "unknown_instrument"

namespace Cause

/-- A list of choices behind a text that is none of them. -/
def choiceList (choices : List String) : String :=
  " (expected one of: " ++ String.intercalate ", " choices ++ ")"

/-- A cause in words. -/
def message : Cause → String
  | .notJson => "invalid JSON"
  | .missing => "is required"
  | .wrongKind expected found => "expected " ++ expected.name ++ ", found " ++ found.name
  | .unknownChoice found choices => "unknown value '" ++ found ++ "'" ++ choiceList choices
  | .unsupportedPattern found choices =>
    "unsupported pattern '" ++ found ++ "'" ++ choiceList choices
  | .emptySymbol => "must not be empty"
  | .unknownInstrument found => "unknown instrument '" ++ found ++ "'"
  | .outOfRange rule => rule.message
  | .notWhole range => range.message
  | .bandEmpty => "min must be less than max"
  | .unknownZone found => "unrecognized timezone '" ++ found ++ "'"
  | .notClock found => "expected HH:MM, found '" ++ found ++ "'"
  | .sameClocks => "customStart and customEnd must differ"

/-- The kind of a cause. -/
def kind : Cause → ProblemKind
  | .unsupportedPattern _ _ => .unsupportedPattern
  | .unknownInstrument _ => .unknownInstrument
  | _ => .schemaInvalid

end Cause

/-! ## Problems -/

/-- A place in a document: the names of the members on the way. -/
abbrev Path := List String

/-- The written form of a place; the document as a whole is `$`. -/
def Path.text (p : Path) : String := if p.isEmpty then "$" else String.intercalate "." p

/-- Something wrong at a place. -/
structure Problem where
  path : Path
  cause : Cause
deriving DecidableEq

/-- A problem in words. -/
structure Notice where
  path : String
  kind : ProblemKind
  message : String
deriving DecidableEq

/-- Put a problem into words. -/
def Problem.notice (p : Problem) : Notice := ⟨Path.text p.path, p.cause.kind, p.cause.message⟩

/-- A notice on one line. -/
def Notice.text (n : Notice) : String := n.path ++ ": " ++ n.message

/-! ## Faults -/

/-- What an operation of the library can fail with. -/
inductive Fault where
  | invalid (notices : List Notice)
  | unsupportedPattern (name : String)
  | unknownInstrument (symbol : String)
  | degenerateRisk (entry stop : Float)
  | unknownZone (input : String)

/-- A fault in words. -/
def Fault.message : Fault → String
  | .invalid notices =>
    "canonical strategy is invalid: " ++ String.intercalate "; " (notices.map Notice.text)
  | .unsupportedPattern name => "unsupported pattern: " ++ name
  | .unknownInstrument symbol => "unknown instrument: " ++ symbol
  | .degenerateRisk entry stop =>
    let number (x : Float) := String.ofList (Number.Layout.message.render x)
    "degenerate risk: entry " ++ number entry ++ " and stop " ++ number stop
      ++ " have no distance between them"
  | .unknownZone input => "unrecognized timezone: " ++ input

/-- The notices of a fault. -/
def Fault.notices : Fault → List Notice
  | .invalid notices => notices
  | _ => []

end Playbook
