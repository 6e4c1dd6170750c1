import Playbook.Number.Layout

/-!
# Playbook.Json.Value

JSON values.  Integers and other numbers are kept apart, because they are
written differently: `15` and `15.0`.  The members of an object are a list in
the order in which they are written; `ordered` sorts them by name at every
level, which gives equal values equal texts.
-/

namespace Playbook

/-- A JSON value. -/
inductive Json where
  | null
  | bool (b : Bool)
  | integer (n : Int)
  | real (x : Float)
  | string (s : String)
  | array (items : List Json)
  | object (members : List (String × Json))

namespace Json

/-! ## Kinds -/

/-- The kinds of values that a message tells apart. -/
inductive Kind where
  | null
  | boolean
  | number
  | string
  | array
  | object
deriving DecidableEq

/-- The word for a kind. -/
def Kind.name : Kind → String
  | .null => "null"
  | .boolean => "boolean"
  | .number => "number"
  | .string => "string"
  | .array => "array"
  | .object => "object"

/-- The kind of a value. -/
def kind : Json → Kind
  | .null => .null
  | .bool _ => .boolean
  | .integer _ => .number
  | .real _ => .number
  | .string _ => .string
  | .array _ => .array
  | .object _ => .object

/-! ## Parts -/

/-- The binary64 number that a value is, integers rounded to the nearest. -/
def float? : Json → Option Float
  | .integer n => some (Float.ofInt n)
  | .real x => some x
  | _ => none

/-- The value of a member; none if the value is no object or has no such
member. -/
def get? : Json → String → Option Json
  | .object members, name => members.lookup name
  | _, _ => none

/-- A number as it is written: only finite numbers have a text. -/
def ofFloat (x : Float) : Json := if x.isFinite then .real x else .null

/-- A text, or null. -/
def ofString? (s : Option String) : Json := s.elim .null .string

/-- A number, or null. -/
def ofFloat? (x : Option Float) : Json := x.elim .null ofFloat

/-! ## Members -/

/-- Set a member; a member of that name that is already there is replaced. -/
def put (members : List (String × Json)) (name : String) (value : Json) :
    List (String × Json) :=
  match members with
  | [] => [(name, value)]
  | (n, v) :: rest => if n = name then (name, value) :: rest else (n, v) :: put rest name value

/-- Insert a member behind all members with a smaller name. -/
def insertByName (member : String × Json) : List (String × Json) → List (String × Json)
  | [] => [member]
  | m :: rest => if m.1 < member.1 then m :: insertByName member rest else member :: m :: rest

mutual

/-- Sort the members of all objects by name. -/
def ordered : Json → Json
  | .array items => .array (orderedItems items)
  | .object members => .object (orderedMembers members)
  | v => v

/-- Sort the members of all objects in a list of values. -/
def orderedItems : List Json → List Json
  | [] => []
  | v :: rest => ordered v :: orderedItems rest

/-- Sort members by name, and the members of all objects inside them. -/
def orderedMembers : List (String × Json) → List (String × Json)
  | [] => []
  | (name, v) :: rest => insertByName (name, ordered v) (orderedMembers rest)

end

end Json

end Playbook
