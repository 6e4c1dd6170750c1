import Playbook.Strategy.Problem

/-!
# Playbook.Strategy.Checked

Values read from a document, or the list of all problems that reading met.

* `both` reads two things beside each other and keeps the problems of both, in
  order; everything that can be read is read, so one pass finds all problems;
* `whenOk` is for what cannot be read without another value: it is left out,
  without problems of its own, if that value is missing.

Each field reader takes the place and the value there; `Fields.required` and
`Fields.optional` find them.
-/

namespace Playbook

/-- A value, or the problems that stood in its way. -/
abbrev Checked (α : Type) := Except (List Problem) α

namespace Checked

variable {α β : Type}

/-- The problems, none if there is a value. -/
def problems : Checked α → List Problem
  | .ok _ => []
  | .error ps => ps

/-- Two values, or the problems of both. -/
def both : Checked α → Checked β → Checked (α × β)
  | .ok a, .ok b => .ok (a, b)
  | a, b => .error (a.problems ++ b.problems)

/-- What depends on a value; left out if there is none. -/
def whenOk (a : Checked α) (read : α → Checked β) : Checked β :=
  match a with
  | .ok v => read v
  | .error _ => .error []

/-- A value that has to satisfy a condition. -/
def demand (ok : Bool) (path : Path) (cause : Cause) (value : α) : Checked α :=
  if ok then .ok value else .error [⟨path, cause⟩]

/-- A value that may be missing. -/
def ofOption (value : Option α) (path : Path) (cause : Cause) : Checked α :=
  match value with
  | some v => .ok v
  | none => .error [⟨path, cause⟩]

end Checked

/-! ## Values at a place -/

/-- A reader of the value at a place. -/
abbrev Reader (α : Type) := Path → Json → Checked α

/-- An object at a place of a document. -/
structure Fields where
  path : Path
  members : List (String × Json)

namespace Reader

variable {α β : Type}

/-- The fields of an object. -/
def object : Reader Fields := fun path v =>
  match v with
  | .object members => .ok ⟨path, members⟩
  | v => .error [⟨path, .wrongKind .object v.kind⟩]

/-- A text. -/
def string : Reader String := fun path v =>
  match v with
  | .string s => .ok s
  | v => .error [⟨path, .wrongKind .string v.kind⟩]

/-- A finite number. -/
def number : Reader Float := fun path v =>
  match v.float?.filter Float.isFinite with
  | some x => .ok x
  | none => .error [⟨path, .wrongKind .number v.kind⟩]

/-- A number that satisfies a condition. -/
def numberThat (rule : NumberRule) : Reader Float := fun path v =>
  (number path v).bind fun x => Checked.demand (rule.admits x) path (.outOfRange rule) x

/-- A whole number in a range. -/
def whole (range : WholeRange) : Reader Nat := fun path v =>
  (number path v).bind fun x =>
    Checked.ofOption ((Number.natural? x).filter range.contains) path (.notWhole range)

/-- One of some texts, each with a meaning. -/
def choice (named : List (String × α)) : Reader α := fun path v =>
  (string path v).bind fun s =>
    Checked.ofOption (named.lookup s) path (.unknownChoice s (named.map Prod.fst))

end Reader

namespace Fields

variable {α β : Type}

/-- The place of a field. -/
def place (f : Fields) (name : String) : Path := f.path ++ [name]

/-- The value of a field; null counts as absent. -/
def value? (f : Fields) (name : String) : Option Json :=
  (f.members.lookup name).filter fun v => v.kind ≠ .null

/-- Read a field that has to be there. -/
def required (f : Fields) (name : String) (read : Reader α) : Checked α :=
  match f.value? name with
  | some v => read (f.place name) v
  | none => .error [⟨f.place name, .missing⟩]

/-- Read a field that may be absent. -/
def optional (f : Fields) (name : String) (absent : α) (read : Reader α) : Checked α :=
  match f.value? name with
  | some v => read (f.place name) v
  | none => .ok absent

/-- Read the field `method`, and then what the method asks for. -/
def method (f : Fields) (methods : List (String × (Fields → Checked α))) : Checked α :=
  (f.required "method" (Reader.choice methods)).bind fun read => read f

/-- Read an object in a field that has to be there. -/
def requiredObject (f : Fields) (name : String) (read : Fields → Checked α) : Checked α :=
  (f.required name Reader.object).bind read

end Fields

end Playbook
