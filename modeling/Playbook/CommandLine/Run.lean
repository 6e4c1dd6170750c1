import Playbook.CommandLine.Config
import Playbook.CommandLine.Directory
import Playbook.CommandLine.Help
import Playbook.CommandLine.Report
import Playbook.Trade.Decision

/-!
# Playbook.CommandLine.Run

The commands, as a function of the arguments, the files, the time zone database
and the current instant.

A command ends with lines for the output, or with a `Failure`; it never does
both.  The configuration is read before the command is carried out.
-/

namespace Playbook.CommandLine

open Time (Date Clock)

/-- What commands need besides their arguments. -/
structure World where
  files : Files
  zones : ZoneDatabase
  /-- The current instant, in seconds. -/
  now : Int

/-! ## Failures -/

/-- Why a command failed. -/
inductive Failure where
  | configUnreadable (file : String)
  | configFault (file : String) (fault : ConfigFault)
  | unreadable (file : String)
  | notJson (file : String)
  | notContext (file : String)
  /-- A strategy that was to be validated. -/
  | invalid (file : String) (notices : List Notice)
  /-- A strategy that was to be used. -/
  | unusable (file : String) (notices : List Notice)
  | badLine (number : Nat)
  | notClock (input : String)
  | unknownZone (input : String)
  | notDate
  /-- A time is told beyond the ends of the calendar: the program is aborted. -/
  | outOfCalendar

namespace Failure

/-- A failure in words, line by line. -/
def message : Failure → List String
  | .configUnreadable file => ["Error: failed to read config " ++ file]
  | .configFault file _ => ["Error: in " ++ file]
  | .unreadable file => ["Error: failed to read " ++ file]
  | .notJson file => ["Error: " ++ file ++ " is not valid JSON"]
  | .notContext file => ["Error: " ++ file ++ " is not an evaluation context"]
  | .invalid file notices =>
    (file ++ " is invalid:") :: notices.map fun n => "  [" ++ n.kind.name ++ "] " ++ n.text
  | .unusable file notices =>
    notices.map (fun n => "  " ++ n.text) ++
      ["Error: " ++ file ++ " failed validation with "
        ++ String.ofList (Text.decimal notices.length) ++ " error(s)"]
  | .badLine number => ["Error: line " ++ String.ofList (Text.decimal number) ++ ": bad context"]
  | .notClock input => ["Error: '" ++ input ++ "' is not a HH:MM time"]
  | .unknownZone input => ["Error: " ++ (Fault.unknownZone input).message]
  | .notDate => ["Error: --date must be YYYY-MM-DD"]
  | .outOfCalendar => []

/-- What led to a failure, the nearest cause first. -/
def causes : Failure → List String
  | .configFault _ fault => fault.messages
  | _ => []

/-- The number with which the program ends. -/
def exit : Failure → Nat
  | .outOfCalendar => 101
  | _ => 1

end Failure

/-- The lines of the output of a command, or why it failed. -/
abbrev Result := Except Failure (List (List Char))

/-! ## Files -/

/-- The text of a file. -/
def readFile (w : World) (file : String) : Except Failure (List Char) :=
  match w.files file with
  | .text t => .ok t
  | _ => .error (.unreadable file)

/-- The JSON value of a file. -/
def readJson (w : World) (file : String) : Except Failure Json :=
  (readFile w file).bind fun text =>
    match Json.read text with
    | some v => .ok v
    | none => .error (.notJson file)

/-- The strategy of a file.  The failure for a document that is none depends on
what the strategy is wanted for. -/
def readStrategy (w : World) (file : String) (failure : List Notice → Failure) :
    Except Failure Strategy :=
  (readJson w file).bind fun v =>
    match Strategy.ofJson v with
    | .ok s => .ok s
    | .error ps => .error (failure (ps.map Problem.notice))

/-- The configuration of a file. -/
def readConfig (file : String) (text : List Char) : Except Failure Config :=
  match Config.ofText text with
  | .ok c => .ok c
  | .error fault => .error (.configFault file fault)

/-- The configuration: of the named file, or of the default file if there is
one. -/
def loadConfig (w : World) (named : Option String) : Except Failure Config :=
  let file := named.getD Config.defaultFile
  match w.files file, named with
  | .text t, _ => readConfig file t
  | .missing, none => .ok Config.default
  | _, _ => .error (.configUnreadable file)

/-! ## Commands -/

/-- Check a strategy and write it in normal form. -/
def validate (w : World) (file : String) : Result :=
  (readStrategy w file (.invalid file)).map fun s => [s.toJson.pretty]

/-- Summarize a strategy. -/
def compile (w : World) (file : String) : Result :=
  (readStrategy w file (.unusable file)).bind fun s =>
    match summary w.zones s (Time.dateOf ((w.zones ZoneName.exchange).wallAt w.now)) with
    | some lines => .ok lines
    | none => .error .outOfCalendar

/-- Decide in one context. -/
def evaluate (w : World) (strategy context : String) (balance : Float) : Result := do
  let s ← readStrategy w strategy (.unusable strategy)
  let v ← readJson w context
  match Context.ofJson? v with
  | some m => return [(s.decide w.zones m balance).toJson.pretty]
  | none => throw (.notContext context)

/-- Decide in every context of a file with a context on each line. -/
def scan (w : World) (strategy contexts : String) (balance : Float) : Result := do
  let s ← readStrategy w strategy (.unusable strategy)
  let text ← readFile w contexts
  match s.scan w.zones text balance with
  | .ok decisions => return decisions.map fun d => d.toJson.compact
  | .error number => throw (.badLine number)

/-- The zone that an option names, or the fallback. -/
def zoneOf (zone : Option String) (fallback : ZoneName) : Except Failure ZoneName :=
  match zone with
  | none => .ok fallback
  | some input =>
    match ZoneName.ofDescription? input with
    | some z => .ok z
    | none => .error (.unknownZone input)

/-- The date that an option gives, or today. -/
def dateOf (date : Option String) (today : Date) : Except Failure Date :=
  match date with
  | none => .ok today
  | some input =>
    match Date.read input.toList with
    | some d => .ok d
    | none => .error .notDate

/-- Tell a trader's clock time on the exchange's clock. -/
def convertTime (w : World) (fallback : ZoneName) (time : String) (zone date : Option String) :
    Result := do
  match Clock.read time.toList with
  | none => throw (.notClock time)
  | some clock =>
    let trader ← zoneOf zone fallback
    let date ← dateOf date (Time.dateOf ((w.zones trader).wallAt w.now))
    match ExchangeTime.ofTrader (w.zones ZoneName.exchange) (w.zones trader) clock date with
    | some t => return [(exchangeTimeJson t).pretty]
    | none => throw .outOfCalendar

/-- Carry out a command. -/
def Command.run (w : World) (config : Config) : Command → Result
  | .validate file => CommandLine.validate w file
  | .compile file => CommandLine.compile w file
  | .evaluate strategy context balance =>
    CommandLine.evaluate w strategy context (balance.getD config.balance)
  | .scan strategy contexts balance =>
    CommandLine.scan w strategy contexts (balance.getD config.balance)
  | .convertTime time zone date => CommandLine.convertTime w config.fallbackZone time zone date
  | .instruments => .ok contractTable

/-- The files that a command reads. -/
def Command.files : Command → List String
  | .validate file => [file]
  | .compile file => [file]
  | .evaluate strategy context _ => [strategy, context]
  | .scan strategy contexts _ => [strategy, contexts]
  | .convertTime _ _ _ => []
  | .instruments => []

/-- The files that a request reads. -/
def Request.files (r : Request) : List String :=
  r.config.getD Config.defaultFile :: r.command.files

/-- Read the configuration, then carry out the command. -/
def Request.run (w : World) (r : Request) : Result :=
  (loadConfig w r.config).bind fun config => r.command.run w config

/-! ## The outcome for the caller -/

/-- What the caller of the program sees. -/
structure Outcome where
  exit : Nat
  output : String
  errors : String
  causes : List String

/-- A list of causes on lines of their own, with numbers if there are more than
one. -/
def causeLines (causes : List String) : List String :=
  match causes with
  | [] => []
  | [cause] => ["", "Caused by:", "    " ++ cause]
  | causes => "" :: "Caused by:" :: causes.zipIdx.map fun (cause, i) =>
      "    " ++ String.ofList (Text.decimal i) ++ ": " ++ cause

/-- All that is said about a failure; nothing if there is none. -/
def Outcome.complaint (o : Outcome) : String :=
  if o.errors.isEmpty then ""
  else String.join ((o.errors :: causeLines o.causes).map fun line => line ++ "\n")

/-- Lines as a text, each ended by a line feed. -/
def textOfLines (lines : List (List Char)) : String :=
  String.ofList (lines.flatMap fun l => l ++ ['\n'])

/-- The outcome of some arguments. -/
def run (w : World) (args : List String) : Outcome :=
  match Request.ofArguments args with
  | .error (.help topic) => ⟨0, textOfLines (topic.lines.map String.toList), "", []⟩
  | .error .usage => ⟨2, "", "", []⟩
  | .ok r =>
    match r.run w with
    | .ok lines => ⟨0, textOfLines lines, "", []⟩
    | .error f => ⟨f.exit, "", String.intercalate "\n" f.message, f.causes⟩

end Playbook.CommandLine
