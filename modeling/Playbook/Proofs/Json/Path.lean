import Playbook.Proofs.Json.Valued

/-!
# Playbook.Proofs.Json.Path

Values inside objects, at the ends of paths of names, and documents that take over such
values from others.

`putAt` replaces or adds the value at one path and leaves what is beside the path alone
(`at?_putAt`, `at?_putAt_of_not_prefix`).  `adopt` takes over the values of another document
at any paths, one after the other; afterwards they are there (`at?_adopt`).  What one value
taken over does to a document is said once, without paths, by `Takes.cases`.
-/

namespace Playbook.Json

/-! ## values at paths -/

/-- The value at the end of a path, from object to object. -/
def at? (v : Json) : List String → Option Json
  | [] => some v
  | name :: path => (v.get? name).bind fun w => w.at? path

/-- All that is in front of the end of a path is an object. -/
def HasPlace (v : Json) (path : List String) : Prop :=
  ∀ parent, parent <+: path → parent ≠ path → ∃ members, v.at? parent = some (.object members)

/-- Replace or add the value at the end of a path.  If there is no object for it, nothing
changes. -/
def putAt (v : Json) (path : List String) (new : Json) : Json :=
  match path, v with
  | [], _ => new
  | name :: path, .object members =>
    match members.lookup name with
    | some w => .object (put members name (w.putAt path new))
    | none => if path = [] then .object (put members name new) else .object members
  | _, v => v

section

variable {v new : Json} {name : String} {path : List String} {members : List (String × Json)}

/-- A path into an object goes on below the member of its first name. -/
theorem at?_object (members : List (String × Json)) (name : String) (path : List String) :
    (object members).at? (name :: path) = (members.lookup name).bind fun w => w.at? path := rfl

/-- There is always a place for the value as a whole. -/
theorem hasPlace_nil (v : Json) : v.HasPlace [] := fun _ hprefix hne =>
  absurd (List.prefix_nil.mp hprefix) hne

/-- There is a place below a name if objects lead up to it; the last member need not be there. -/
theorem hasPlace_cons_iff : v.HasPlace (name :: path) ↔
    ∃ members, v = .object members ∧
      (path = [] ∨ ∃ w, members.lookup name = some w ∧ w.HasPlace path) := by
  constructor
  · intro h
    obtain ⟨members, hv⟩ := h [] List.nil_prefix nofun
    obtain rfl := Option.some.inj hv
    refine ⟨members, rfl, or_iff_not_imp_left.mpr fun hpath => ?_⟩
    have hne : [name] ≠ name :: path := fun heq => hpath (List.cons.inj heq).2.symm
    obtain ⟨inner, hinner⟩ := h [name] (List.prefix_append [name] path) hne
    obtain ⟨w, hw, -⟩ := Option.bind_eq_some_iff.mp hinner
    refine ⟨w, hw, fun parent hprefix hne => ?_⟩
    obtain ⟨found, hfound⟩ := h (name :: parent) (List.cons_prefix_cons.mpr ⟨rfl, hprefix⟩)
      (by simpa using hne)
    rw [at?, hw, Option.bind_some] at hfound
    exact ⟨found, hfound⟩
  · rintro ⟨members, rfl, hpath⟩ parent hprefix hne
    cases parent with
    | nil => exact ⟨members, rfl⟩
    | cons n parent =>
        obtain ⟨rfl, hparent⟩ := List.cons_prefix_cons.mp hprefix
        obtain rfl | ⟨w, hw, hplace⟩ := hpath
        · obtain rfl := List.prefix_nil.mp hparent
          contradiction
        · obtain ⟨found, hfound⟩ := hplace parent hparent fun h => hne (congrArg _ h)
          rw [at?_object, hw]
          exact ⟨found, hfound⟩

/-- A path that leads somewhere leads through objects. -/
theorem HasPlace.of_at? (h : v.at? path = some new) : v.HasPlace path := by
  induction path generalizing v with
  | nil => exact hasPlace_nil v
  | cons name path ih =>
      obtain ⟨w, hw, hpath⟩ := Option.bind_eq_some_iff.mp h
      cases v with
      | object members => exact hasPlace_cons_iff.mpr ⟨members, rfl, .inr ⟨w, hw, ih hpath⟩⟩
      | _ => contradiction

/-! ## one value -/

/-- To put a value where it is changes nothing. -/
theorem put_of_lookup {w : Json} (h : members.lookup name = some w) :
    put members name w = members := by
  induction members with
  | nil => contradiction
  | cons m members ih =>
      obtain ⟨n, v⟩ := m
      rw [lookup_cons_eq_ite] at h
      rw [put]
      split
      · next hn =>
        rw [if_pos hn.symm] at h
        rw [hn, Option.some.inj h]
      · next hn =>
        rw [if_neg (Ne.symm hn)] at h
        rw [ih h]

/-- What a member becomes when a value is put below it. -/
def putBelow (w : Option Json) (path : List String) (new : Json) : Option Json :=
  match w with
  | some w => some (w.putAt path new)
  | none => if path = [] then some new else none

/-- Only the member of the first name is changed, and it is made if it is not there. -/
theorem putAt_object (members : List (String × Json)) (name : String) (path : List String)
    (new : Json) : ∃ members', (object members).putAt (name :: path) new = .object members' ∧
      ∀ n, members'.lookup n =
        if n = name then putBelow (members.lookup name) path new else members.lookup n := by
  rw [putAt]
  cases hlookup : members.lookup name with
  | some w => exact ⟨_, rfl, fun n => lookup_put members name n _⟩
  | none =>
      by_cases hpath : path = []
      · simp only [if_pos hpath, putBelow]
        exact ⟨_, rfl, fun n => lookup_put members name n _⟩
      · simp only [if_neg hpath, putBelow]
        refine ⟨members, rfl, fun n => ?_⟩
        split
        · next hn => rw [hn, hlookup]
        · rfl

/-- What is no object has no place below it, and stays. -/
theorem putAt_of_not_object (h : ∀ members, v ≠ .object members) :
    v.putAt (name :: path) new = v := by
  cases v with
  | object members => exact absurd rfl (h members)
  | _ => rfl

/-- A value that is put at its place is there. -/
theorem at?_putAt (h : v.HasPlace path) : (v.putAt path new).at? path = some new := by
  induction path generalizing v with
  | nil => rfl
  | cons name path ih =>
      obtain ⟨members, rfl, hpath⟩ := hasPlace_cons_iff.mp h
      obtain ⟨members', hput, hlookup⟩ := putAt_object members name path new
      rw [hput, at?_object, hlookup, if_pos rfl]
      cases hname : members.lookup name with
      | some w =>
          have hplace : w.HasPlace path := by
            obtain rfl | ⟨w', hw', hplace⟩ := hpath
            · exact hasPlace_nil w
            · rwa [Option.some.inj (hname.symm.trans hw')]
          exact ih hplace
      | none =>
          obtain rfl | ⟨w', hw', -⟩ := hpath
          · rfl
          · rw [hname] at hw'
            contradiction

/-- What is not on the way to a place, nor behind it, stays as it is. -/
theorem at?_putAt_of_not_prefix {q : List String} (hpath : ¬path <+: q) (hq : ¬q <+: path) :
    (v.putAt path new).at? q = v.at? q := by
  induction path generalizing v q with
  | nil => exact absurd List.nil_prefix hpath
  | cons name path ih =>
      cases q with
      | nil => exact absurd List.nil_prefix hq
      | cons n q =>
          cases v with
          | object members =>
              obtain ⟨members', hput, hlookup⟩ := putAt_object members name path new
              rw [hput, at?_object, at?_object, hlookup]
              split
              · next hn =>
                rw [hn] at hpath hq ⊢
                rw [List.cons_prefix_cons, not_and] at hpath hq
                cases members.lookup name with
                | some w => exact ih (hpath rfl) (hq rfl)
                | none =>
                    have hne : path ≠ [] := by
                      rintro rfl
                      exact hpath rfl List.nil_prefix
                    rw [putBelow, if_neg hne]
              · rfl
          | _ => rfl

/-- To put a value where it is changes nothing. -/
theorem putAt_of_at? (h : v.at? path = some new) : v.putAt path new = v := by
  induction path generalizing v with
  | nil => exact (Option.some.inj h).symm
  | cons name path ih =>
      obtain ⟨w, hw, hpath⟩ := Option.bind_eq_some_iff.mp h
      cases v with
      | object members =>
          have hlookup : members.lookup name = some w := hw
          rw [putAt, hlookup]
          dsimp only
          rw [ih hpath, put_of_lookup hlookup]
      | _ => contradiction

end

/-! ## values of another document -/

section

variable {v other new : Json} {path q : List String}

/-- One value that another document has at the end of a path is taken over. -/
def Takes (other v v' : Json) : Prop :=
  ∃ path new, other.at? path = some new ∧ v' = v.putAt path new

/-- Each member is as before or as in the other document, or one value in it is taken over. -/
def Mixed (other old members : List (String × Json)) : Prop :=
  ∀ name, members.lookup name = old.lookup name ∨ members.lookup name = other.lookup name ∨
    ∃ w v v', other.lookup name = some w ∧ old.lookup name = some v ∧
      members.lookup name = some v' ∧ Takes w v v'

/-- Either one document is left, or members of objects are mixed. -/
theorem Takes.cases {v' : Json} (h : Takes other v v') :
    v' = other ∨ v' = v ∨ ∃ new old members, other = .object new ∧ v = .object old ∧
      v' = .object members ∧ Mixed new old members := by
  obtain ⟨path, taken, htaken, rfl⟩ := h
  cases path with
  | nil => exact .inl (Option.some.inj htaken).symm
  | cons name path =>
      obtain ⟨w, hw, hpath⟩ := Option.bind_eq_some_iff.mp htaken
      cases other with
      | object new =>
          cases v with
          | object old =>
              obtain ⟨members, hput, hlookup⟩ := putAt_object old name path taken
              refine .inr (.inr ⟨new, old, members, rfl, rfl, hput, fun n => ?_⟩)
              by_cases hn : n = name
              · have hw : new.lookup name = some w := hw
                rw [hn, hlookup, if_pos rfl, hw]
                cases old.lookup name with
                | some v => exact .inr (.inr ⟨w, v, _, rfl, rfl, rfl, path, taken, hpath, rfl⟩)
                | none =>
                    by_cases hlast : path = []
                    · rw [hlast] at hpath
                      rw [putBelow, if_pos hlast]
                      exact .inr (.inl hpath.symm)
                    · rw [putBelow, if_neg hlast]
                      exact .inl rfl
              · exact .inl (by rw [hlookup, if_neg hn])
          | _ => exact .inr (.inl (putAt_of_not_object nofun))
      | _ => contradiction

/-- A value that is the same in both documents stays. -/
theorem Takes.at?_eq {v' : Json} (h : Takes other v v') (heq : v.at? path = other.at? path) :
    v'.at? path = other.at? path := by
  obtain ⟨q, new, hq, rfl⟩ := h
  induction q generalizing v other path with
  | nil => rw [putAt, Option.some.inj hq]
  | cons name q ih =>
      obtain ⟨w, hw, hrest⟩ := Option.bind_eq_some_iff.mp hq
      cases path with
      | nil => rw [Option.some.inj heq, putAt_of_at? hq]
      | cons n path =>
          cases v with
          | object members =>
              obtain ⟨members', hput, hlookup⟩ := putAt_object members name q new
              rw [at?_object, at?] at heq
              rw [hput, at?_object, at?, hlookup]
              split
              · next hn =>
                rw [hn, hw, Option.bind_some] at heq ⊢
                cases hname : members.lookup name with
                | some v =>
                    rw [hname] at heq
                    exact ih heq hrest
                -- Without the member there was nothing here, so there is nothing in the other
                -- document either, whether the member is added now or not.
                | none =>
                    rw [hname] at heq
                    by_cases hlast : q = []
                    · rw [hlast] at hrest
                      rw [putBelow, if_pos hlast, Option.bind_some, Option.some.inj hrest]
                    · rwa [putBelow, if_neg hlast]
              · exact heq
          | _ => exact heq

/-- A place for a value that can be taken over is still one. -/
theorem Takes.hasPlace {v' : Json} (h : Takes other v v') (hplace : v.HasPlace path)
    (hpath : other.at? path = some new) : v'.HasPlace path := by
  obtain ⟨q, taken, hq, rfl⟩ := h
  induction q generalizing v other path with
  | nil =>
      rw [putAt, ← Option.some.inj hq]
      exact .of_at? hpath
  | cons name q ih =>
      obtain ⟨w, hw, hrest⟩ := Option.bind_eq_some_iff.mp hq
      cases path with
      | nil => exact hasPlace_nil _
      | cons n path =>
          obtain ⟨members, rfl, hinner⟩ := hasPlace_cons_iff.mp hplace
          obtain ⟨members', hput, hlookup⟩ := putAt_object members name q taken
          refine hasPlace_cons_iff.mpr ⟨members', hput, hinner.imp_right ?_⟩
          rintro ⟨v, hv, hbelow⟩
          rw [hlookup]
          split
          · next hn =>
            rw [hn] at hv hpath
            rw [hv]
            rw [at?, hw, Option.bind_some] at hpath
            exact ⟨_, rfl, ih hbelow hpath hrest⟩
          · exact ⟨v, hv, hbelow⟩

/-! ## values at several paths -/

/-- Take over the value of another document at the end of a path, if it has one there. -/
def adoptAt (other v : Json) (path : List String) : Json :=
  (other.at? path).elim v (v.putAt path)

/-- Take over the values of another document at several paths. -/
def adopt (v other : Json) (paths : List (List String)) : Json := paths.foldl (adoptAt other) v

/-- One path at a time: nothing is taken over where the other document has nothing. -/
theorem adoptAt_eq_or_takes (other v : Json) (path : List String) :
    adoptAt other v path = v ∨ Takes other v (adoptAt other v path) := by
  rw [adoptAt]
  cases hpath : other.at? path with
  | none => exact .inl rfl
  | some new => exact .inr ⟨path, new, hpath, rfl⟩

/-- What one value taken over preserves is preserved by any number of them. -/
theorem adopt_induction {motive : Json → Prop}
    (step : ∀ v v', Takes other v v' → motive v → motive v') (h : motive v)
    (paths : List (List String)) : motive (v.adopt other paths) := by
  induction paths generalizing v with
  | nil => exact h
  | cons path paths ih =>
      refine ih ?_
      obtain heq | htakes := adoptAt_eq_or_takes other v path
      · rwa [heq]
      · exact step v _ htakes h

/-- The values taken over are there. -/
theorem at?_adopt {paths : List (List String)} (hmem : path ∈ paths)
    (hpath : other.at? path = some new) (hplace : v.HasPlace path) :
    (v.adopt other paths).at? path = some new := by
  induction paths generalizing v with
  | nil => contradiction
  | cons q paths ih =>
      cases hmem with
      | head =>
          have hput : (adoptAt other v path).at? path = other.at? path := by
            rw [adoptAt, hpath]
            exact at?_putAt hplace
          exact (adopt_induction (fun _ _ h => h.at?_eq) hput paths).trans hpath
      | tail _ hmem =>
          have hplace' : (adoptAt other v q).HasPlace path := by
            obtain heq | htakes := adoptAt_eq_or_takes other v q
            · rwa [heq]
            · exact htakes.hasPlace hplace hpath
          exact ih hmem hplace'

/-- Beside the paths nothing changes. -/
theorem at?_adopt_of_not_prefix {paths : List (List String)}
    (h : ∀ path ∈ paths, ¬path <+: q ∧ ¬q <+: path) : (v.adopt other paths).at? q = v.at? q := by
  induction paths generalizing v with
  | nil => rfl
  | cons path paths ih =>
      obtain ⟨⟨hpath, hq⟩, hpaths⟩ := List.forall_mem_cons.mp h
      have hstep : (adoptAt other v path).at? q = v.at? q := by
        rw [adoptAt]
        cases other.at? path with
        | none => rfl
        | some new => exact at?_putAt_of_not_prefix hpath hq
      exact (ih hpaths).trans hstep

end

end Playbook.Json
