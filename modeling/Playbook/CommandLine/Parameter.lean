import Playbook.Number.Numeral

/-!
# Playbook.CommandLine.Parameter

What can be said on the command line: the commands, and the values that each of
them takes.

A value is an option, given with its name, or an operand, known by its place.
-/

namespace Playbook.CommandLine

/-! ## Parameters -/

/-- What a value must be like. -/
inductive ValueKind where
  | text
  /-- The name of a file, which is not empty. -/
  | file
  | number
deriving DecidableEq

/-- Whether a text is a value of a kind. -/
def ValueKind.accepts : ValueKind → String → Bool
  | .text, _ => true
  | .file, s => !s.isEmpty
  | .number, s => (Number.readFree s.toList).isSome

/-- A value that a command takes. -/
structure Parameter where
  name : String
  kind : ValueKind
  about : String
  required : Bool := false

/-- The options that every command takes, and that may stand in front of it. -/
def sharedOptions : List Parameter := [
  { name := "config", kind := .file
    about := "Path to a TOML config file. Defaults to ./canonstrat.toml when present" },
  { name := "log-level", kind := .text
    about := "Log filter (e.g. info, canonstrat_core=trace). RUST_LOG takes precedence" }]

/-! ## Commands -/

/-- A command without its values. -/
inductive CommandName where
  | validate
  | compile
  | evaluate
  | scan
  | convertTime
  | instruments
deriving DecidableEq

namespace CommandName

/-- The commands in the order in which they are listed. -/
def all : List CommandName := [.validate, .compile, .evaluate, .scan, .convertTime, .instruments]

/-- The word for a command. -/
def text : CommandName → String
  | .validate => "validate"
  | .compile => "compile"
  | .evaluate => "evaluate"
  | .scan => "scan"
  | .convertTime => "convert-time"
  | .instruments => "instruments"

/-- The command that a word stands for. -/
def ofText? (s : String) : Option CommandName := all.find? fun c => c.text = s

/-- What a command does. -/
def about : CommandName → String
  | .validate => "Validate a strategy document and print the normalized JSON"
  | .compile => "Compile a strategy document and print a summary"
  | .evaluate => "Evaluate a compiled strategy against one context"
  | .scan => "Evaluate a compiled strategy against every context in a JSONL file"
  | .convertTime => "Convert a trader-local HH:MM to exchange (Chicago) time"
  | .instruments => "List the contract registry"

/-- The balance of an account. -/
def balanceOption : Parameter where
  name := "balance"
  kind := .number
  about := "Account balance in dollars. Defaults to the configured balance"

/-- A file with a strategy. -/
def strategyFile (name : String) : Parameter where
  name := name
  kind := .file
  about := "Strategy JSON file"
  required := true

/-- The options of a command besides those for all commands. -/
def options : CommandName → List Parameter
  | .validate => []
  | .compile => []
  | .evaluate => [
    strategyFile "strategy",
    { name := "context", kind := .file, about := "Evaluation context JSON file", required := true },
    balanceOption]
  | .scan => [
    strategyFile "strategy",
    { name := "contexts", kind := .file, about := "One evaluation context per line"
      required := true },
    balanceOption]
  | .convertTime => [
    { name := "tz", kind := .text
      about := "Trader timezone (IANA name, abbreviation, or city). "
        ++ "Defaults to the configured fallback" },
    { name := "date", kind := .text
      about := "Reference date (YYYY-MM-DD). Defaults to today in the trader timezone" }]
  | .instruments => []

/-- The operands of a command, in order. -/
def operands : CommandName → List Parameter
  | .validate => [strategyFile "file"]
  | .compile => [strategyFile "file"]
  | .convertTime =>
    [{ name := "time", kind := .text, about := "Clock time, HH:MM", required := true }]
  | _ => []

end CommandName

end Playbook.CommandLine
