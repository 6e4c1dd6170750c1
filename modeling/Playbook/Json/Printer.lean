import Playbook.Json.Value

/-!
# Playbook.Json.Printer

The text of a JSON value: `compact` on one line without blanks, `pretty` over
several lines, indented by two blanks for each level.
-/

namespace Playbook.Json

/-! ## Strings -/

/-- A control character without a short escape. -/
def unitEscape (c : Char) : List Char :=
  '\\' :: 'u' :: '0' :: '0' :: Text.hexByte c.toNat.toUInt8

/-- A character inside a string. -/
def escape (c : Char) : List Char :=
  match c with
  | '"' => ['\\', '"']
  | '\\' => ['\\', '\\']
  | '\x08' => ['\\', 'b']
  | '\x0c' => ['\\', 'f']
  | '\n' => ['\\', 'n']
  | '\r' => ['\\', 'r']
  | '\t' => ['\\', 't']
  | c => if c.toNat < 0x20 then unitEscape c else [c]

/-- A string in quotes. -/
def quoted (s : String) : List Char := '"' :: s.toList.flatMap escape ++ ['"']

/-! ## One line -/

/-- Values that hold no others. -/
def scalar : Json → List Char
  | .null => "null".toList
  | .bool true => "true".toList
  | .bool false => "false".toList
  | .integer n => Text.decimalInt n
  | .real x => Number.Layout.document.render x
  | .string s => quoted s
  | _ => []

mutual

/-- The text of a value on one line. -/
def compact : Json → List Char
  | .array items => '[' :: compactItems items ++ [']']
  | .object members => '\x7b' :: compactMembers members ++ ['\x7d']
  | v => scalar v

/-- Items with commas between them. -/
def compactItems : List Json → List Char
  | [] => []
  | [v] => compact v
  | v :: rest => compact v ++ ',' :: compactItems rest

/-- Members with commas between them. -/
def compactMembers : List (String × Json) → List Char
  | [] => []
  | [(name, v)] => quoted name ++ ':' :: compact v
  | (name, v) :: rest => quoted name ++ ':' :: compact v ++ ',' :: compactMembers rest

end

/-! ## Several lines -/

/-- The start of a line at a level. -/
def newLine (level : Nat) : List Char := '\n' :: List.replicate (2 * level) ' '

mutual

/-- The text of a value at a level of indentation. -/
def prettyAt (level : Nat) : Json → List Char
  | .array [] => ['[', ']']
  | .array items => '[' :: prettyItems (level + 1) items ++ newLine level ++ [']']
  | .object [] => ['\x7b', '\x7d']
  | .object members => '\x7b' :: prettyMembers (level + 1) members ++ newLine level ++ ['\x7d']
  | v => scalar v

/-- Items on lines of their own. -/
def prettyItems (level : Nat) : List Json → List Char
  | [] => []
  | [v] => newLine level ++ prettyAt level v
  | v :: rest => newLine level ++ prettyAt level v ++ ',' :: prettyItems level rest

/-- Members on lines of their own. -/
def prettyMembers (level : Nat) : List (String × Json) → List Char
  | [] => []
  | [(name, v)] => newLine level ++ quoted name ++ ':' :: ' ' :: prettyAt level v
  | (name, v) :: rest =>
    newLine level ++ quoted name ++ ':' :: ' ' :: prettyAt level v
      ++ ',' :: prettyMembers level rest

end

/-- The text of a value over several lines. -/
def pretty (v : Json) : List Char := prettyAt 0 v

end Playbook.Json
