/-!
# Playbook.Toml.Value

TOML documents: tables of named values.

A document grows statement by statement, and how a table was given decides what
may still be added to it:

* `assign` gives a value to a name, whose parts in front of the last one stand
  for tables;
* `openTable` and `openItem` are the headers in single and in double brackets.

Each of them fails where a name already stands for something else.
-/

namespace Playbook

/-- How a table was given. -/
inductive Toml.Origin where
  /-- By a header of its own, or as the document itself. -/
  | header
  /-- As a part of the header of another table. -/
  | implied
  /-- As a part of a name with points. -/
  | dotted
  /-- In braces; nothing can be added to it. -/
  | inline
deriving DecidableEq

/-- A TOML value. -/
inductive Toml where
  | string (s : String)
  | integer (n : Int)
  | real (x : Float)
  | bool (b : Bool)
  /-- A date, a clock time, or both. -/
  | moment
  | array (items : List Toml)
  | table (origin : Toml.Origin) (members : List (String × Toml))
  /-- Tables that are given one by one, with headers in double brackets. -/
  | tables (items : List (List (String × Toml)))

namespace Toml

/-- The members of a table. -/
abbrev Members := List (String × Toml)

/-- Set a member; a member of that name that is already there is replaced. -/
def put (name : String) (value : Toml) : Members → Members
  | [] => [(name, value)]
  | (n, v) :: rest => if n = name then (name, value) :: rest else (n, v) :: put name value rest

/-! ## Growing a document -/

/-- Change the table at the end of a path, whose first table has the origin
`origin`.  Tables on the path that are not there are made; of tables that are
given one by one the latest is meant.  The path of a name with points must not
lead through a table that has a header. -/
def within (dotted : Bool) (change : Origin → Members → Option Members) (origin : Origin) :
    List String → Members → Option Members
  | [], ms => change origin ms
  | name :: path, ms =>
    match ms.lookup name with
    | none =>
      let made := if dotted then Origin.dotted else Origin.implied
      (within dotted change made path []).map fun inner => put name (.table made inner) ms
    | some (.table found inner) =>
      if found = .inline ∨ (dotted ∧ found = .header) then none
      else (within dotted change found path inner).map fun inner => put name (.table found inner) ms
    | some (.tables items) =>
      match items.getLast? with
      | some last =>
        (within dotted change .header path last).map fun last =>
          put name (.tables (items.dropLast ++ [last])) ms
      | none => none
    | some _ => none

/-- Give a value to a name in a table.  A table with a header takes plain
names, a table that stands for a part of a name only names with points. -/
def assign (path : List String) (name : String) (value : Toml) (ms : Members) : Option Members :=
  within true
    (fun origin ms =>
      if (origin = .dotted ↔ path ≠ []) ∧ (ms.lookup name).isNone then some (put name value ms)
      else none)
    .header path ms

/-- Give a value to a name in the table at the end of a path of headers. -/
def assignWithin (current path : List String) (name : String) (value : Toml) (ms : Members) :
    Option Members :=
  within false (fun _ ms => assign path name value ms) .header current ms

/-- Begin a table with a header, which no table of that name has had before. -/
def openTable (path : List String) (name : String) (ms : Members) : Option Members :=
  within false
    (fun _ ms =>
      match ms.lookup name with
      | none => some (put name (.table .header []) ms)
      | some (.table .implied inner) => some (put name (.table .header inner) ms)
      | some _ => none)
    .header path ms

/-- Begin the next one of some tables. -/
def openItem (path : List String) (name : String) (ms : Members) : Option Members :=
  within false
    (fun _ ms =>
      match ms.lookup name with
      | none => some (put name (.tables [[]]) ms)
      | some (.tables items) => some (put name (.tables (items ++ [[]])) ms)
      | some _ => none)
    .header path ms

/-! ## Records -/

/-- The fields of a record with these names.  A table has no other members; an
array has the values in order, and what follows the last field is left out. -/
def record? (names : List String) : Toml → Option Members
  | .table _ members => if members.all fun m => names.contains m.1 then some members else none
  | .array items => some (names.zip items)
  | .tables items => some (names.zip (items.map (.table .header)))
  | _ => none

end Toml

end Playbook
