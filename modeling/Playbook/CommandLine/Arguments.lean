import Playbook.CommandLine.Parameter

/-!
# Playbook.CommandLine.Arguments

The arguments of the command line: options for all commands, a command, and
the options and operands of that command.

Arguments are read from left to right, and the first thing that is wrong or asks
for help decides.  An option has a value, in the same argument behind an equals
sign or in the next one; a value in the next one must not look like an option.
A value that is an argument of its own is checked when the next value or a
request for help comes, or when nothing is left.

No value is given twice at one place; behind the command an option counts more
than in front.
-/

namespace Playbook.CommandLine

/-! ## Requests -/

/-- What to do. -/
inductive Command where
  | validate (file : String)
  | compile (file : String)
  | evaluate (strategy context : String) (balance : Option Float)
  | scan (strategy contexts : String) (balance : Option Float)
  | convertTime (time : String) (zone date : Option String)
  | instruments

/-- A command and the options for all commands. -/
structure Request where
  config : Option String
  logLevel : Option String
  command : Command

/-- What help is asked for. -/
inductive Topic where
  | program
  | command (name : CommandName)
  /-- The command that gives help. -/
  | help
deriving DecidableEq

/-- Why there is no command to carry out. -/
inductive Refusal where
  /-- The arguments ask for help. -/
  | help (topic : Topic)
  /-- The arguments make no sense. -/
  | usage
deriving DecidableEq

/-! ## Values -/

/-- Values as far as they are read. -/
structure Values where
  /-- Values that are checked, by name. -/
  settled : List (String × String)
  /-- The latest value, if it is still to be checked. -/
  latest : Option (Parameter × String)

namespace Values

/-- No values. -/
def none : Values := ⟨[], .none⟩

/-- Check the latest value: it has the right kind, and no other one has its
name. -/
def settle (vs : Values) : Except Refusal Values :=
  match vs.latest with
  | .none => .ok vs
  | some (p, value) =>
    if p.kind.accepts value ∧ (vs.settled.lookup p.name).isNone then
      .ok ⟨vs.settled ++ [(p.name, value)], .none⟩
    else .error .usage

/-- Take a value, which is still to be checked. -/
def take (p : Parameter) (value : String) (vs : Values) : Except Refusal Values :=
  vs.settle.map fun vs => { vs with latest := some (p, value) }

/-- Refuse to go on, with help unless the latest value is wrong. -/
def help (topic : Topic) (vs : Values) : Refusal :=
  match vs.settle with
  | .ok _ => .help topic
  | .error r => r

end Values

/-! ## Options -/

/-- What an argument looks like. -/
inductive Argument where
  /-- Two hyphens. -/
  | dashes
  /-- A long option, with what follows its equals sign. -/
  | option (name : String) (attached : Option String)
  /-- Short options, by the first letter. -/
  | short (letter : Char)
  | word

/-- Tell what an argument looks like. -/
def Argument.ofText (arg : String) : Argument :=
  match arg.toList with
  | ['-', '-'] => .dashes
  | '-' :: '-' :: long =>
    let name := String.ofList (long.takeWhile (· ≠ '='))
    match long.dropWhile (· ≠ '=') with
    | [] => .option name none
    | _ :: value => .option name (some (String.ofList value))
  | '-' :: letter :: _ => .short letter
  | _ => .word

/-- Take an option and its value, which may be the next argument; `topic` is what
help is asked for here.  The answer holds the arguments that are left, and no
more of them than before. -/
def takeOption (options : List Parameter) (topic : Topic) (name : String) (attached : Option String)
    (rest : List String) (vs : Values) :
    Except Refusal (Values × { left : List String // left.length ≤ rest.length }) :=
  match options.find? (fun p => p.name = name), attached with
  | some p, some value => ((vs.take p value).bind Values.settle).map fun vs => (vs, ⟨rest, by simp⟩)
  | some p, none =>
    match rest with
    | value :: rest =>
      match Argument.ofText value with
      | .word => (vs.take p value).map fun vs => (vs, ⟨rest, by simp⟩)
      | _ => .error .usage
    | [] => .error .usage
  | none, none => .error (if name = "help" then vs.help topic else .usage)
  | none, some _ => .error .usage

/-! ## Commands -/

/-- Take operands only. -/
def takeOperands (operands : List Parameter) (vs : Values) : List String → Except Refusal Values
  | [] => vs.settle
  | arg :: rest =>
    match operands with
    | [] => .error .usage
    | p :: operands => (vs.take p arg).bind fun vs => takeOperands operands vs rest

/-- Take the options and operands of a command. -/
def takeOwn (command : CommandName) (operands : List Parameter) (vs : Values)
    (args : List String) : Except Refusal Values :=
  match args with
  | [] => vs.settle
  | arg :: rest =>
    match Argument.ofText arg with
    | .dashes => takeOperands operands vs rest
    | .option name attached =>
      match takeOption (sharedOptions ++ command.options) (.command command) name attached rest vs
      with
      | .ok (vs, ⟨left, _⟩) => takeOwn command operands vs left
      | .error r => .error r
    | .short letter => .error (if letter = 'h' then vs.help (.command command) else .usage)
    | .word =>
      match operands with
      | [] => .error .usage
      | p :: operands =>
        match vs.take p arg with
        | .ok vs => takeOwn command operands vs rest
        | .error r => .error r
termination_by args.length
decreasing_by all_goals grind

/-- The values of a command; none that is required is missing. -/
def CommandName.values (command : CommandName) (args : List String) :
    Except Refusal (List (String × String)) :=
  (takeOwn command command.operands Values.none args).bind fun vs =>
    let required := (command.options ++ command.operands).filter Parameter.required
    if required.all fun p => (vs.settled.lookup p.name).isSome then .ok vs.settled
    else .error .usage

/-- The command with some values, if all values are there that it needs. -/
def Command.ofValues? (name : CommandName) (values : List (String × String)) : Option Command :=
  let value (name : String) := values.lookup name
  let balance := (value "balance").bind fun s => Number.readFree s.toList
  match name with
  | .validate => (value "file").map .validate
  | .compile => (value "file").map .compile
  | .evaluate => do return .evaluate (← value "strategy") (← value "context") balance
  | .scan => do return .scan (← value "strategy") (← value "contexts") balance
  | .convertTime => (value "time").map fun time => .convertTime time (value "tz") (value "date")
  | .instruments => some .instruments

/-! ## The whole line -/

/-- The refusal that arguments behind `help` lead to. -/
def helpOn : List String → Refusal
  | [] => .help .program
  | [name] =>
    if name = "help" then .help .help
    else
      match CommandName.ofText? name with
      | some c => .help (.command c)
      | none => .usage
  | _ => .usage

/-- Take the options in front of the command, and the command; the answer ends
with the arguments that follow it.  The latest of the values is not checked
yet. -/
def takeFront (vs : Values) (args : List String) :
    Except Refusal (Values × CommandName × List String) :=
  match args with
  | [] => .error .usage
  | arg :: rest =>
    match Argument.ofText arg with
    | .dashes => .error .usage
    | .option name attached =>
      match takeOption sharedOptions .program name attached rest vs with
      | .ok (vs, ⟨left, _⟩) => takeFront vs left
      | .error r => .error r
    | .short letter => .error (if letter = 'h' then vs.help .program else .usage)
    | .word =>
      if arg = "help" then .error (helpOn rest)
      else
        match CommandName.ofText? arg with
        | some command => .ok (vs, command, rest)
        | none => .error .usage
termination_by args.length
decreasing_by all_goals grind

/-- The request that arguments make. -/
def Request.ofArguments (args : List String) : Except Refusal Request := do
  let (front, name, rest) ← takeFront Values.none args
  let own ← name.values rest
  let front ← front.settle
  let shared (n : String) := (own.lookup n).or (front.settled.lookup n)
  match Command.ofValues? name own with
  | some command => return { config := shared "config", logLevel := shared "log-level", command }
  | none => throw .usage

end Playbook.CommandLine
