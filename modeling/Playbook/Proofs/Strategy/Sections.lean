import Playbook.Proofs.Json.Valued
import Playbook.Proofs.Strategy.Explained

/-!
# Playbook.Proofs.Strategy.Sections

The problems of a document, section by section.

Each section has problems of its own, which depend on its field alone; those of the
entry depend on the pattern as well, and without a pattern the entry is not read.  The
problems of a document are those of its sections, one after the other
(`Strategy.problems_by_section`).
-/

namespace Playbook

variable {α β : Type}

/-! ## problems of checked values -/

namespace Checked

/-- The problems of a pair stand one after the other. -/
theorem problems_both (a : Checked α) (b : Checked β) :
    (a.both b).problems = a.problems ++ b.problems := by
  cases a with
  | ok x => cases b <;> rfl
  | error ps => rfl

/-- What is done with a value leaves the problems alone. -/
theorem problems_map (a : Checked α) (f : α → β) : problems (a.map f) = a.problems := by
  cases a <;> rfl

/-- What depends on a value that is missing has no problems. -/
theorem problems_whenOk (a : Checked α) (f : α → Checked β) :
    (a.whenOk f).problems = a.toOption.elim [] fun x => (f x).problems := by
  cases a <;> rfl

end Checked

open Checked

/-- Read a field of a document from its value, which has to be there. -/
def Reader.alone (read : Reader α) (name : String) (v : Option Json) : Checked α :=
  v.elim (.error [⟨[name], .missing⟩]) (read [name])

namespace Fields

variable (o : List (String × Json)) (name : String)

/-- A required field of a document is read from its value alone. -/
theorem required_eq_alone (read : Reader α) :
    required ⟨[], o⟩ name read = read.alone name (value? ⟨[], o⟩ name) :=
  required_eq_elim _ name read

theorem requiredObject_eq_alone (read : Fields → Checked α) :
    requiredObject ⟨[], o⟩ name read = (Reader.inside read).alone name (value? ⟨[], o⟩ name) :=
  (requiredObject_eq_required _ name read).trans (required_eq_elim _ name _)

end Fields

/-! ## sections -/

/-- The sections of a document. -/
inductive Section where
  | pattern
  | instrument
  | direction
  | entry
  | risk
  | session
deriving DecidableEq

namespace Section

/-- The sections in the order in which they are read. -/
def all : List Section := [.pattern, .instrument, .direction, .entry, .risk, .session]

/-- The field of a section. -/
def name : Section → String
  | .pattern => "pattern"
  | .instrument => "instrument"
  | .direction => "direction"
  | .entry => "entry"
  | .risk => "risk"
  | .session => "session"

theorem mem_all (x : Section) : x ∈ all := by
  cases x <;> decide

/-- Different sections have different fields. -/
theorem name_injective {x y : Section} (h : x.name = y.name) : x = y := by
  cases x <;> cases y <;> first | rfl | exact absurd h (by decide)

/-- The pattern that the value of its field names. -/
def patternOf (v : Option Json) : Option Pattern := (Pattern.reader.alone "pattern" v).toOption

/-- The problems of a section with the value of its field, for a pattern. -/
def problems (pattern : Option Pattern) (v : Option Json) : Section → List Problem
  | .pattern => (Pattern.reader.alone "pattern" v).problems
  | .instrument =>
    ((Reader.inside fun f => f.required "symbol" Symbol.reader).alone "instrument" v).problems
  | .direction => ((Reader.choice Direction.named).alone "direction" v).problems
  | .entry => pattern.elim [] fun p =>
    ((Reader.inside (EntryRules.ofFields p)).alone "entry" v).problems
  | .risk => ((Reader.inside Risk.ofFields).alone "risk" v).problems
  | .session => ((Reader.inside Session.ofFields).alone "session" v).problems

/-- The value of the field of a section in a document; null counts as absent. -/
def field (o : List (String × Json)) (x : Section) : Option Json := Fields.value? ⟨[], o⟩ x.name

/-- The problems of a section in a document. -/
def report (o : List (String × Json)) (x : Section) : List Problem :=
  problems (patternOf (field o .pattern)) (field o x) x

variable {o o' : List (String × Json)} {x y : Section}

/-- A section other than the entry does not look at the pattern. -/
theorem report_congr (hfield : field o' x = field o x)
    (hpattern : x = .entry → patternOf (field o' .pattern) = patternOf (field o .pattern)) :
    report o' x = report o x := by
  rw [report, report, hfield]
  cases x with
  | entry => rw [hpattern rfl]
  | _ => rfl

/-- A new value for one section is not that of another one. -/
theorem field_put_of_ne (h : y ≠ x) (v : Json) : field (Json.put o x.name v) y = field o y := by
  have hname : y.name ≠ x.name := fun heq => h (name_injective heq)
  rw [field, Fields.value?, Json.lookup_put, if_neg hname]
  rfl

/-- Another value for a section leaves the other sections alone. -/
theorem report_put_of_ne (hx : x ≠ .pattern) (h : y ≠ x) (v : Json) :
    report (Json.put o x.name v) y = report o y :=
  report_congr (field_put_of_ne h v) fun _ => by rw [field_put_of_ne hx.symm v]

/-- Without the problems of one section, those of the others are left. -/
theorem flatMap_of_valid {f g : Section → List Problem} (hx : f x = [])
    (h : ∀ y, y ≠ x → f y = g y) (xs : List Section) :
    xs.flatMap f = (xs.filter (· ≠ x)).flatMap g := by
  induction xs with
  | nil => rfl
  | cons y xs ih =>
      rw [List.flatMap_cons, ih]
      by_cases hy : y = x
      · rw [hy, hx, List.nil_append, List.filter_cons_of_neg (by simp)]
      · rw [h y hy, List.filter_cons_of_pos (by simpa using hy), List.flatMap_cons]

end Section

/-! ## documents -/

namespace Strategy

/-- Sections are read in their order, and each adds its own problems. -/
theorem problems_ofFields (o : List (String × Json)) :
    (ofFields ⟨[], o⟩).problems = Section.all.flatMap (Section.report o) := by
  simp only [ofFields, problems_map, problems_both, problems_whenOk, Fields.required_eq_alone,
    Fields.requiredObject_eq_alone]
  simp only [Section.all, List.flatMap_cons, List.flatMap_nil, List.append_nil]
  rfl

/-- **Problems are local**: the problems of a document are those of its sections in their
order, and a document without problems is accepted.  The problems of a section depend on its
field alone, those of the entry on the pattern too, and without a pattern it has none.  So
with another value for a section that is not the pattern, the problems of the other sections
stay, and if the value is a valid one, they are all that is left. -/
theorem problems_by_section (o : List (String × Json)) :
    (ofJson (.object o)).problems = Section.all.flatMap (Section.report o) ∧
      ((∃ s, ofJson (.object o) = .ok s) ↔ ∀ x, Section.report o x = []) ∧
      (∀ o' x, Section.field o' x = Section.field o x →
        (x = .entry → Section.patternOf (Section.field o' .pattern) =
          Section.patternOf (Section.field o .pattern)) →
        Section.report o' x = Section.report o x) ∧
      (Section.patternOf (Section.field o .pattern) = none → Section.report o .entry = []) ∧
      ∀ x ≠ Section.pattern, ∀ v, Section.report (Json.put o x.name v) x = [] →
        (ofJson (.object (Json.put o x.name v))).problems =
          (Section.all.filter (· ≠ x)).flatMap (Section.report o) := by
  refine ⟨problems_ofFields o, ⟨?_, ?_⟩, fun o' x => Section.report_congr, ?_, ?_⟩
  · intro h x
    obtain ⟨s, hs⟩ := h
    have hproblems := problems_ofFields o
    rw [show ofFields ⟨[], o⟩ = .ok s from hs, problems] at hproblems
    exact List.flatMap_eq_nil_iff.mp hproblems.symm x x.mem_all
  · intro h
    refine (explained_ofJson (.object o)).exists_ok ((problems_ofFields o).trans ?_)
    exact List.flatMap_eq_nil_iff.mpr fun x _ => h x
  · intro h
    rw [Section.report, h]
    rfl
  · intro x hx v hvalid
    refine (problems_ofFields _).trans (Section.flatMap_of_valid hvalid (fun y hy => ?_) _)
    exact Section.report_put_of_ne hx hy v

end Strategy

end Playbook
