import Playbook.Json.Literal
import Playbook.Json.Token

/-!
# Playbook.Json.Reader

Two readings of a JSON text.

* Its shape is a tree whose leaves are literals as they are written.  Repeated
  names of an object are all kept.  A number is a numeral, of any size; a string
  may have half a pair of code units in it.
* Its value: of two members of one name the later one counts; the depth of a
  value is limited; every literal has to have a value.

`ofTokens?` is one pass over the tokens with a stack of the arrays and objects
that are still open, so it terminates because the tokens run out.
-/

namespace Playbook.Json

/-! ## Trees -/

/-- A JSON text as a tree of literals. -/
inductive Tree where
  | null
  | bool (b : Bool)
  | number (literal : List Char)
  | string (body : List Char)
  | array (items : List Tree)
  | object (members : List (List Char × Tree))

namespace Tree

/-! ## Building a tree -/

/-- An array or object that is still open; what it holds so far stands in
reverse order. -/
inductive Frame where
  | items (done : List Tree)
  | members (done : List (List Char × Tree)) (name : List Char)

/-- What the next token has to be. -/
inductive Stage where
  /-- The start of a value. -/
  | value
  /-- The start of a value, or the end of an array that is empty so far. -/
  | firstItem
  /-- A name of the object with these members. -/
  | name (done : List (List Char × Tree))
  /-- A name, or the end of an object that is empty so far. -/
  | firstName
  /-- The colon behind a name. -/
  | colon (done : List (List Char × Tree)) (name : List Char)
  /-- What may follow a value that is complete. -/
  | after (v : Tree)

/-- The value that one token is.  A number has to be a numeral. -/
def leaf? : Token → Option Tree
  | .word letters =>
    if letters = "null".toList then some .null
    else if letters = "true".toList then some (.bool true)
    else if letters = "false".toList then some (.bool false)
    else none
  | .number literal => (Literal.numeral? literal).map fun _ => .number literal
  | .string body => some (.string body)
  | _ => none

/-- Start a value. -/
def start (stack : List Frame) : Token → Option (Stage × List Frame)
  | .openBracket => some (.firstItem, stack)
  | .openBrace => some (.firstName, stack)
  | t => (leaf? t).map fun v => (.after v, stack)

/-- Go on behind a complete value. -/
def resume (v : Tree) : List Frame → Token → Option (Stage × List Frame)
  | .items done :: stack, .comma => some (.value, .items (v :: done) :: stack)
  | .items done :: stack, .closeBracket => some (.after (.array (v :: done).reverse), stack)
  | .members done name :: stack, .comma => some (.name ((name, v) :: done), stack)
  | .members done name :: stack, .closeBrace =>
    some (.after (.object ((name, v) :: done).reverse), stack)
  | _, _ => none

/-- Take one token. -/
def step : Stage × List Frame → Token → Option (Stage × List Frame)
  | (.value, stack), t => start stack t
  | (.firstItem, stack), .closeBracket => some (.after (.array []), stack)
  | (.firstItem, stack), t => start (.items [] :: stack) t
  | (.firstName, stack), .closeBrace => some (.after (.object []), stack)
  | (.firstName, stack), .string body => some (.colon [] body, stack)
  | (.name done, stack), .string body => some (.colon done body, stack)
  | (.colon done name, stack), .colon => some (.value, .members done name :: stack)
  | (.after v, stack), t => resume v stack t
  | _, _ => none

/-- The tree of a token sequence that is one value. -/
def ofTokens? (tokens : List Token) : Option Tree :=
  match tokens.foldlM step (Stage.value, []) with
  | some (.after v, []) => some v
  | _ => none

/-- The tree of a text. -/
def read (s : List Char) : Option Tree := (Token.scan s).bind ofTokens?

/-! ## Depth -/

mutual

/-- How many arrays and objects are open at the deepest place. -/
def depth : Tree → Nat
  | .array items => itemsDepth items + 1
  | .object members => membersDepth members + 1
  | _ => 0

/-- The greatest depth in a list of values. -/
def itemsDepth : List Tree → Nat
  | [] => 0
  | v :: rest => max (depth v) (itemsDepth rest)

/-- The greatest depth in a list of members. -/
def membersDepth : List (List Char × Tree) → Nat
  | [] => 0
  | (_, v) :: rest => max (depth v) (membersDepth rest)

end

end Tree

/-! ## The value of a tree -/

/-- How deep arrays and objects may be nested. -/
def maxDepth : Nat := 127

mutual

/-- The value of a tree, if all its literals have values. -/
def ofTree? : Tree → Option Json
  | .null => some .null
  | .bool b => some (.bool b)
  | .number literal => Literal.number? literal
  | .string body => (Literal.text? body).map .string
  | .array items => (ofItems? items).map .array
  | .object members => (ofMembers? [] members).map .object

/-- The values of a list of trees. -/
def ofItems? : List Tree → Option (List Json)
  | [] => some []
  | t :: rest =>
    match ofTree? t, ofItems? rest with
    | some v, some vs => some (v :: vs)
    | _, _ => none

/-- Set the members of an object one after the other. -/
def ofMembers? (done : List (String × Json)) :
    List (List Char × Tree) → Option (List (String × Json))
  | [] => some done
  | (name, t) :: rest =>
    match Literal.text? name, ofTree? t with
    | some n, some v => ofMembers? (put done n v) rest
    | _, _ => none

end

/-- The value of a text in which at most `most` arrays and objects are nested. -/
def readWithin (most : Nat) (s : List Char) : Option Json :=
  (Tree.read s).bind fun t => if t.depth ≤ most then ofTree? t else none

/-- The value of a text. -/
def read (s : List Char) : Option Json := readWithin maxDepth s

end Playbook.Json
