import Playbook.CommandLine.Arguments

/-!
# Playbook.CommandLine.Help

The texts that are printed when the arguments ask for help.

A text says what something does and how it is used, and lists what can be given
to it.
-/

namespace Playbook.CommandLine

/-! ## Lists -/

/-- An entry of a list: a term and what is said about it. -/
abbrev Entry := String × String

/-- The lines of a list; what is said about the terms begins in one column, two
blanks behind the longest of them. -/
def listLines (entries : List Entry) : List String :=
  let width := (entries.map fun e => e.1.length).foldl max 0
  entries.map fun (term, about) =>
    "  " ++ term ++ "".pushn ' ' (width + 2 - term.length) ++ about

/-- A list with a title, which is left out if the list is empty. -/
def listUnder (title : String) (entries : List Entry) : List String :=
  if entries.isEmpty then [] else "" :: (title ++ ":") :: listLines entries

/-! ## Parameters -/

/-- The word for the value of a parameter. -/
def Parameter.placeholder (p : Parameter) : String :=
  let word := p.name.toList.map fun c => if c = '-' then '_' else c.toUpper
  "<" ++ String.ofList word ++ ">"

/-- How an option is given. -/
def Parameter.asOption (p : Parameter) : String := "--" ++ p.name ++ " " ++ p.placeholder

/-- Options in the order of their lists: the first ones of all lists by their
names, then the second ones, and so on. -/
def interleave (first second : List Parameter) : List Parameter :=
  match first, second with
  | [], ps => ps
  | ps, [] => ps
  | p :: ps, q :: qs =>
    (if p.name < q.name then [p, q] else [q, p]) ++ interleave ps qs

/-- The entries of options; the last one asks for help. -/
def optionEntries (options : List Parameter) : List Entry :=
  options.map (fun p => ("    " ++ p.asOption, p.about)) ++ [("-h, --help", "Print help")]

/-! ## Texts -/

/-- What the command that gives help does. -/
def aboutHelp : String := "Print this message or the help of the given subcommand(s)"

/-- The lines of the help for a command. -/
def CommandName.help (c : CommandName) : List String :=
  let required := (c.options.filter Parameter.required).map Parameter.asOption
  let usage := ["Usage: canonstrat", c.text, "[OPTIONS]"] ++ required
    ++ c.operands.map Parameter.placeholder
  [c.about, "", String.intercalate " " usage]
    ++ listUnder "Arguments" (c.operands.map fun p => (p.placeholder, p.about))
    ++ listUnder "Options" (optionEntries (interleave sharedOptions c.options))

/-- The lines of the help for the program. -/
def programHelp : List String :=
  ["canonstrat — canonical strategy schema and pattern compiler", "",
    "Usage: canonstrat [OPTIONS] <COMMAND>"]
    ++ listUnder "Commands"
      (CommandName.all.map (fun c => (c.text, c.about)) ++ [("help", aboutHelp)])
    ++ listUnder "Options" (optionEntries sharedOptions)

/-- The lines of the help on a topic. -/
def Topic.lines : Topic → List String
  | .program => programHelp
  | .command c => c.help
  | .help => [aboutHelp, "", "Usage: canonstrat help [COMMAND]..."]
      ++ listUnder "Arguments" [("[COMMAND]...", "Print help for the subcommand(s)")]

end Playbook.CommandLine
