import Playbook.Proofs.Json.Path

/-!
# Playbook.Proofs.Json.Outline

The parts of a document that count for a reader.

An `Outline` is a tree of names.  Two documents agree on it if they show the same at the end
of every path in it (`Outline.AgreeOn`): numbers and texts as they are, of objects and arrays
only that they are there, and of null nothing.  A name that is not known at its place can be
given a value or be taken away, and nothing of that shows (`Outline.agreeOn_of_not_mem_names`).
-/

namespace Playbook.Json

/-! ## what shows of a value -/

/-- What shows of a value: nothing of null, and of an array or an object only that it is one. -/
def shown : Json → Option Json
  | .null => none
  | .array _ => some (.array [])
  | .object _ => some (.object [])
  | v => some v

/-- What shows at the end of a path. -/
def seen (v : Json) (path : List String) : Option Json := (v.at? path).bind shown

/-- The value of a member; null if there is none. -/
def part (v : Json) (name : String) : Json := (v.get? name).getD .null

/-- The characters of a text. -/
def string? : Json → Option String
  | .string s => some s
  | _ => none

/-- Take the member at the end of a path away.  If there is none, nothing changes. -/
def removeAt (v : Json) (path : List String) : Json :=
  match path, v with
  | name :: path, .object members =>
    if path = [] then .object (members.filter fun m => m.1 ≠ name)
    else match members.lookup name with
      | some w => .object (put members name (w.removeAt path))
      | none => .object members
  | _, v => v

section

variable {v v' new : Json} {name : String} {path q : List String}
  {members members' : List (String × Json)}

/-- What is seen of an object below a name is seen of its member. -/
theorem seen_object (members : List (String × Json)) (name : String) (path : List String) :
    (object members).seen (name :: path) = (members.lookup name).bind fun w => w.seen path := by
  rw [seen, at?_object]
  cases members.lookup name <;> rfl

/-- A value shows its kind. -/
theorem kind_eq_of_shown (h : v'.shown = v.shown) : v'.kind = v.kind := by
  have hkind : ∀ v : Json, (v.shown.getD .null).kind = v.kind := fun v => by cases v <;> rfl
  rw [← hkind v', ← hkind v, h]

theorem kind_eq_object_iff : v.kind = .object ↔ ∃ members, v = .object members := by
  cases v <;> simp [kind]

/-- A path with two names goes through the part with the first one. -/
theorem at?_cons_cons (v : Json) (name n : String) (path : List String) :
    v.at? (name :: n :: path) = (v.part name).at? (n :: path) := by
  rw [at?, part]
  cases v.get? name <;> rfl

/-- A part is a text exactly if the object has that text. -/
theorem part_eq_string_iff {s : String} :
    v.part name = .string s ↔ v.at? [name] = some (.string s) := by
  rw [part, at?]
  cases v.get? name <;> simp [at?]

theorem string?_eq_some_iff {s : String} : v.string? = some s ↔ v = .string s := by
  cases v <;> simp [string?]

/-- The other members are found where a name is taken out. -/
theorem lookup_filter_ne (members : List (String × Json)) (name n : String) :
    (members.filter fun m => m.1 ≠ name).lookup n =
      if n = name then none else members.lookup n := by
  induction members with
  | nil => simp
  | cons m members ih =>
      obtain ⟨k, w⟩ := m
      rw [List.filter_cons, lookup_cons_eq_ite]
      split
      · next hk =>
        rw [lookup_cons_eq_ite, ih]
        have hk : k ≠ name := by simpa using hk
        split
        · next hn => rw [if_neg (hn ▸ hk)]
        · rfl
      · next hk =>
        have hk : k = name := by simpa using hk
        rw [ih, hk]
        split
        · rfl
        · rfl

/-! ## changes at one place -/

/-- What is taken away is gone. -/
theorem at?_removeAt (hpath : path ≠ []) : (v.removeAt path).at? path = none := by
  induction path generalizing v with
  | nil => contradiction
  | cons name path ih =>
      cases v with
      | object members =>
          rw [removeAt]
          split
          · rw [at?_object, lookup_filter_ne, if_pos rfl, Option.bind_none]
          · next hpath =>
            cases hname : members.lookup name with
            | none => rw [at?_object, hname, Option.bind_none]
            | some w =>
                dsimp only
                rw [at?_object, lookup_put, if_pos rfl, Option.bind_some, ih hpath]
      | _ => rfl

/-- A change of one member shows only there. -/
theorem seen_object_congr (hne : ∀ n ≠ name, members'.lookup n = members.lookup n)
    (hname : ∀ q, ¬path <+: q →
      ((members'.lookup name).bind fun w => w.seen q) = (members.lookup name).bind fun w => w.seen q)
    (hq : ¬(name :: path) <+: q) : (object members').seen q = (object members).seen q := by
  cases q with
  | nil => rfl
  | cons n q =>
      rw [seen_object, seen_object]
      by_cases hn : n = name
      · rw [hn, List.cons_prefix_cons, not_and] at hq
        rw [hn]
        exact hname q (hq rfl)
      · rw [hne n hn]

/-- A value that is put somewhere is seen there and below, and nowhere else. -/
theorem seen_putAt (hq : ¬path <+: q) : (v.putAt path new).seen q = v.seen q := by
  induction path generalizing v q with
  | nil => exact absurd List.nil_prefix hq
  | cons name path ih =>
      cases v with
      | object members =>
          obtain ⟨members', hput, hlookup⟩ := putAt_object members name path new
          rw [hput]
          refine seen_object_congr (fun n hn => by rw [hlookup, if_neg hn]) (fun q hq => ?_) hq
          rw [hlookup, if_pos rfl]
          cases members.lookup name with
          | some w => exact ih hq
          -- The path goes on, and there is no object for it to go on in.
          | none =>
              have hpath : path ≠ [] := fun h => hq (h ▸ List.nil_prefix)
              rw [putBelow, if_neg hpath]
      | _ => rfl

/-- So it is with a value that is taken out. -/
theorem seen_removeAt (hq : ¬path <+: q) : (v.removeAt path).seen q = v.seen q := by
  induction path generalizing v q with
  | nil => exact absurd List.nil_prefix hq
  | cons name path ih =>
      cases v with
      | object members =>
          rw [removeAt]
          split
          · next hpath =>
            refine seen_object_congr (fun n hn => ?_) (fun q hq => ?_) hq
            · rw [lookup_filter_ne, if_neg hn]
            · exact absurd List.nil_prefix (hpath ▸ hq)
          · cases hname : members.lookup name with
            | none => rfl
            | some w =>
                refine seen_object_congr (fun n hn => ?_) (fun q hq => ?_) hq
                · rw [lookup_put, if_neg hn]
                · rw [lookup_put, if_pos rfl, hname]
                  exact ih hq
      | _ => rfl

end

/-! ## outlines -/

/-- A tree of names. -/
inductive Outline where
  | fields (inner : List (String × Outline))

namespace Outline

/-- A value that is not looked into. -/
def leaf : Outline := .fields []

/-- An object with members that are not looked into. -/
def flat (names : List String) : Outline := .fields (names.map fun name => (name, leaf))

/-- Whether a path is in the tree. -/
def reads : Outline → List String → Bool
  | _, [] => true
  | .fields inner, name :: path => (inner.lookup name).any fun t => t.reads path

/-- The names that are known at a place. -/
def names : Outline → List String → List String
  | .fields inner, [] => inner.map Prod.fst
  | .fields inner, name :: path => (inner.lookup name).elim [] fun t => t.names path

/-- Two values that show the same at the end of every path. -/
def AgreeOn (t : Outline) (v v' : Json) : Prop := ∀ path, t.reads path → v'.seen path = v.seen path

variable {t : Outline} {inner : List (String × Outline)} {v v' : Json} {name : String}
  {place rest : List String} {o o' : List (String × Json)}

/-- A path is in an outline if its first name is, and its rest is in the outline below that. -/
theorem reads_cons_iff {path : List String} : (fields inner).reads (name :: path) ↔
    ∃ t, inner.lookup name = some t ∧ t.reads path := by
  rw [reads]
  cases inner.lookup name <;> simp

/-- A flat outline has nothing below its names. -/
theorem lookup_flat (names : List String) (name : String) :
    (names.map fun n => (n, leaf)).lookup name = if name ∈ names then some leaf else none := by
  induction names with
  | nil => rfl
  | cons n names ih =>
      rw [List.map_cons, lookup_cons_eq_ite, ih]
      by_cases hn : name = n
      · rw [if_pos hn, if_pos (hn ▸ List.mem_cons_self)]
      · simp only [List.mem_cons, hn, false_or, if_false]

/-- The names of a flat outline are the ones it is made of. -/
theorem names_flat (ns : List String) : (flat ns).names [] = ns := by
  rw [flat, names, List.map_map]
  exact List.map_id ns

theorem reads_flat_cons_iff {names path : List String} :
    (flat names).reads (name :: path) ↔ name ∈ names ∧ path = [] := by
  rw [flat, reads_cons_iff, lookup_flat]
  constructor
  · rintro ⟨t, ht, hpath⟩
    obtain ⟨hname, ht⟩ := Option.ite_none_right_eq_some.mp ht
    obtain rfl := Option.some.inj ht
    cases path with
    | nil => exact ⟨hname, rfl⟩
    | cons n path => exact absurd hpath (by simp [leaf, reads])
  · rintro ⟨hname, rfl⟩
    exact ⟨leaf, if_pos hname, rfl⟩

/-- On a path only known names follow each other. -/
theorem mem_names_of_reads (h : t.reads (place ++ name :: rest)) : name ∈ t.names place := by
  induction place generalizing t with
  | nil =>
      obtain ⟨inner⟩ := t
      obtain ⟨t, ht, -⟩ := reads_cons_iff.mp h
      obtain ⟨before, after, rfl, -⟩ := List.lookup_eq_some_iff.mp ht
      rw [names]
      simp
  | cons n place ih =>
      obtain ⟨inner⟩ := t
      obtain ⟨t, ht, hrest⟩ := reads_cons_iff.mp h
      rw [names, ht]
      exact ih hrest

theorem AgreeOn.shown_eq (h : t.AgreeOn v v') : v'.shown = v.shown := h [] (by cases t; rfl)

/-- Objects that agree on a tree have members that agree on what is below. -/
theorem AgreeOn.seen_member {path : List String}
    (h : (fields inner).AgreeOn (.object o) (.object o')) (ht : inner.lookup name = some t)
    (hpath : t.reads path) :
    ((o'.lookup name).bind fun w => w.seen path) = (o.lookup name).bind fun w => w.seen path := by
  have hname := h (name :: path) (reads_cons_iff.mpr ⟨t, ht, hpath⟩)
  rwa [seen_object, seen_object] at hname

/-- Values that agree on some names agree on fewer. -/
theorem AgreeOn.flat_of_subset {names names' : List String} (h : (flat names).AgreeOn v v')
    (hsub : names' ⊆ names) : (flat names').AgreeOn v v' := by
  intro path hpath
  cases path with
  | nil => exact h [] rfl
  | cons name path =>
      obtain ⟨hname, hnil⟩ := reads_flat_cons_iff.mp hpath
      exact h _ (reads_flat_cons_iff.mpr ⟨hsub hname, hnil⟩)

/-- A name that is not known can be given any value, and can be taken away. -/
theorem agreeOn_of_not_mem_names (hname : name ∉ t.names place) (v new : Json) :
    t.AgreeOn v (v.putAt (place ++ [name]) new) ∧ t.AgreeOn v (v.removeAt (place ++ [name])) := by
  have hbeside : ∀ path, t.reads path → ¬place ++ [name] <+: path := by
    rintro path hpath ⟨rest, rfl⟩
    rw [List.append_assoc] at hpath
    exact hname (mem_names_of_reads hpath)
  exact ⟨fun path hpath => seen_putAt (hbeside path hpath),
    fun path hpath => seen_removeAt (hbeside path hpath)⟩

end Outline

end Playbook.Json
