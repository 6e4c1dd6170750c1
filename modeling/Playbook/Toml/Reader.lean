import Playbook.Toml.Quoted
import Playbook.Toml.Scalar

/-!
# Playbook.Toml.Reader

Reading a TOML document.

* `value` reads a value in front of a text; how deep arrays and tables in braces
  may be nested is its first argument, on which it recurses;
* `statement` takes a header or an assignment and the end of its line, and
  `read` takes statements until nothing is left.
-/

namespace Playbook.Toml

/-! ## Limits -/

/-- How deep arrays and tables in braces may be nested. -/
def mostDepth : Nat := 79

/-- How many parts a name may have. -/
def mostParts : Nat := 79

/-! ## Names -/

/-- The characters of a part of a name without quotes. -/
def inName (c : Char) : Bool := c.isAlphanum || c = '-' || c = '_'

/-- Read one part of a name. -/
def takePart : List Char → Option (String × List Char)
  | '"' :: rest => (takeBasic rest).map fun (t, tail) => (String.ofList t, tail)
  | '\'' :: rest => (takeLiteral rest).map fun (t, tail) => (String.ofList t, tail)
  | s =>
    match s.span inName with
    | ([], _) => none
    | (t, tail) => some (String.ofList t, tail)

/-- Read a name with at most `most` parts and points between them, blanks around
each part.  The last part is given apart from the others. -/
def takeName : Nat → List Char → Option ((List String × String) × List Char)
  | 0, _ => none
  | most + 1, s =>
    match takePart (skip s) with
    | none => none
    | some (part, rest) =>
      match skip rest with
      | '.' :: rest =>
        (takeName most rest).map fun ((path, name), tail) => ((part :: path, name), tail)
      | rest => some (([], part), rest)

/-! ## Lines -/

/-- Drop what may follow on a line that is complete: blanks, a comment, and the
end of the line or of the document. -/
def takeLineEnd (s : List Char) : Option (List Char) :=
  let rest := match skip s with
    | '#' :: comment => comment.dropWhile isPrintable
    | rest => rest
  if rest = [] then some [] else takeBreak rest

/-- Drop blanks, ends of lines, and comments with the ends of their lines. -/
def skipLines (inComment : Bool) : List Char → Option (List Char)
  | '\r' :: '\n' :: rest => skipLines false rest
  | '\n' :: rest => skipLines false rest
  | c :: rest =>
    if inComment then if isPrintable c then skipLines true rest else none
    else if isGap c then skipLines false rest
    else if c = '#' then skipLines true rest
    else some (c :: rest)
  | [] => if inComment then none else some []

/-! ## Values -/

/-- A reader of something in front of a text. -/
abbrev Take (α : Type) := List Char → Option (α × List Char)

/-- Read up to `most` elements with commas between them. -/
def separated {α : Type} (element : Take α) : Nat → List Char → List α × List Char
  | 0, s => ([], s)
  | most + 1, s =>
    match element s with
    | none => ([], s)
    | some (v, ',' :: rest) =>
      match separated element most rest with
      | ([], _) => ([v], ',' :: rest)
      | (vs, tail) => (v :: vs, tail)
    | some (v, rest) => ([v], rest)

/-- Read all elements with commas between them. -/
def takeAll {α : Type} (element : Take α) (s : List Char) : List α × List Char :=
  separated element (s.length + 1) s

/-- Read an item of an array. -/
def takeItem (item : Take Toml) (s : List Char) : Option (Toml × List Char) := do
  let s ← skipLines false s
  let (v, s) ← item s
  let s ← skipLines false s
  return (v, s)

/-- Read an array behind its bracket.  A comma may follow the last item. -/
def takeArray (item : Take Toml) (s : List Char) : Option (Toml × List Char) :=
  let (items, rest) := takeAll (takeItem item) s
  let rest := match items, rest with
    | _ :: _, ',' :: rest => rest
    | _, rest => rest
  match skipLines false rest with
  | some (']' :: tail) => some (.array items, tail)
  | _ => none

/-- A name with its value. -/
structure Assignment where
  path : List String
  name : String
  value : Toml

/-- Read an assignment. -/
def takeAssignment (value : Take Toml) (s : List Char) : Option (Assignment × List Char) :=
  match takeName mostParts s with
  | some ((path, name), '=' :: rest) =>
    (value (skip rest)).map fun (v, rest) => (⟨path, name, v⟩, skip rest)
  | _ => none

/-- Read a table behind its brace. -/
def takeBraces (value : Take Toml) (s : List Char) : Option (Toml × List Char) :=
  let (assignments, rest) := takeAll (takeAssignment value) s
  match skip rest with
  | '\x7d' :: tail =>
    (assignments.foldlM (fun ms a => assign a.path a.name a.value ms) []).map fun ms =>
      (.table .inline ms, tail)
  | _ => none

/-- Read a value; arrays and tables in braces hold what `inner` reads, and there
are none of them without `inner`. -/
def valueOver (inner : Option (Take Toml)) : Take Toml
  | '[' :: rest => inner.bind fun item => takeArray item rest
  | '\x7b' :: rest => inner.bind fun value => takeBraces value rest
  | s =>
    match takeText s with
    | some (t, rest) => some (.string (String.ofList t), rest)
    | none => takeWord s

/-- Read a value in which arrays and tables in braces are nested at most as deep
as the first argument says. -/
def value : Nat → Take Toml
  | 0 => valueOver none
  | depth + 1 => valueOver (some (value depth))

/-! ## Documents -/

/-- A document as far as it is read, and the path of the latest header. -/
structure Draft where
  members : Members
  current : List String

/-- Read a header, behind its brackets, that ends with the brackets `close`. -/
def takeHeader (close : List Char) (s : List Char) :
    Option ((List String × String) × List Char) := do
  let (name, s) ← takeName mostParts s
  let s ← if close.isPrefixOf s then takeLineEnd (s.drop close.length) else none
  return (name, s)

/-- Take a header or an assignment. -/
def statement (d : Draft) : List Char → Option (Draft × List Char)
  | '[' :: '[' :: rest => do
    let ((path, name), rest) ← takeHeader "]]".toList rest
    return (⟨← openItem path name d.members, path ++ [name]⟩, rest)
  | '[' :: rest => do
    let ((path, name), rest) ← takeHeader "]".toList rest
    return (⟨← openTable path name d.members, path ++ [name]⟩, rest)
  | s => do
    let (a, rest) ← takeAssignment (value mostDepth) s
    let rest ← takeLineEnd rest
    return (⟨← assignWithin d.current a.path a.name a.value d.members, d.current⟩, rest)

/-- Take statements and lines without one until nothing is left.  Each takes at
least one character, so that `fuel` beyond the length of the text is enough. -/
def statements : Nat → Draft → List Char → Option Draft
  | 0, _, _ => none
  | fuel + 1, d, s =>
    match skip s with
    | [] => some d
    | s =>
      match takeLineEnd s with
      | some rest => statements fuel d rest
      | none => (statement d s).bind fun (d, rest) => statements fuel d rest

/-- Read a document.  A byte order mark in front is no part of it. -/
def read (s : List Char) : Option Toml :=
  let s := match s with
    | '\uFEFF' :: rest => rest
    | s => s
  (statements (s.length + 1) ⟨[], []⟩ s).map fun d => .table .header d.members

end Playbook.Toml
