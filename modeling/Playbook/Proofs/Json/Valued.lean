import Playbook.Json.Reader
import Playbook.Proofs.Json.Ordered

/-!
# Playbook.Proofs.Json.Valued

The texts that have values: those whose literals all have one, if they are not nested
too deeply (`isSome_read_iff`).  A member of a value is the last one of its name in the
text (`lookup_ofMembers?`, `lookup_put`).
-/

namespace Playbook.Json

open Literal (text? number? characters?)

/-! ## texts with values -/

mutual

/-- Every number and every string of a tree has a value. -/
def Tree.Valued : Tree → Prop
  | .number literal => (number? literal).isSome
  | .string body => (text? body).isSome
  | .array items => Tree.ValuedItems items
  | .object members => Tree.ValuedMembers members
  | _ => True

/-- Every number and every string of some trees has a value. -/
def Tree.ValuedItems : List Tree → Prop
  | [] => True
  | t :: rest => Tree.Valued t ∧ Tree.ValuedItems rest

/-- Every number and every string of some members, their names included, has a value. -/
def Tree.ValuedMembers : List (List Char × Tree) → Prop
  | [] => True
  | (name, t) :: rest => (text? name).isSome ∧ Tree.Valued t ∧ Tree.ValuedMembers rest

end

mutual

/-- A tree has a value exactly if all its literals have. -/
theorem isSome_ofTree?_iff (t : Tree) : (ofTree? t).isSome ↔ t.Valued := by
  cases t with
  | null => exact iff_of_true rfl trivial
  | bool b => exact iff_of_true rfl trivial
  | number literal => exact Iff.rfl
  | string body => rw [ofTree?, Option.isSome_map, Tree.Valued]
  | array items => rw [ofTree?, Option.isSome_map, isSome_ofItems?_iff items, Tree.Valued]
  | object members => rw [ofTree?, Option.isSome_map, isSome_ofMembers?_iff members [], Tree.Valued]

theorem isSome_ofItems?_iff (ts : List Tree) : (ofItems? ts).isSome ↔ Tree.ValuedItems ts := by
  match ts with
  | [] => exact iff_of_true rfl trivial
  | t :: ts =>
      rw [ofItems?, Tree.ValuedItems, ← isSome_ofTree?_iff t, ← isSome_ofItems?_iff ts]
      cases ofTree? t <;> cases ofItems? ts <;> simp

/-- Members have values one by one, whatever is repeated among them. -/
theorem isSome_ofMembers?_iff (ms : List (List Char × Tree)) (done : List (String × Json)) :
    (ofMembers? done ms).isSome ↔ Tree.ValuedMembers ms := by
  match ms with
  | [] => exact iff_of_true rfl trivial
  | (name, t) :: ms =>
      rw [ofMembers?, Tree.ValuedMembers, ← isSome_ofTree?_iff t]
      cases text? name with
      | none => simp
      | some n =>
          cases ofTree? t with
          | none => simp
          | some v => simpa using isSome_ofMembers?_iff ms (put done n v)

end

/-- The depth of a text is tested before its literals are. -/
theorem read_eq_ite {s : List Char} {t : Tree} (ht : Tree.read s = some t) :
    read s = if t.depth ≤ maxDepth then ofTree? t else none := by
  rw [read, readWithin, ht, Option.bind_some]

/-- **Which texts have values.** -/
theorem isSome_read_iff {s : List Char} {t : Tree} (ht : Tree.read s = some t) :
    (read s).isSome ↔ t.Valued ∧ t.depth ≤ maxDepth := by
  rw [read_eq_ite ht]
  split
  · next hdepth => rw [isSome_ofTree?_iff, and_iff_left hdepth]
  · next hdepth => exact iff_of_false nofun fun h => hdepth h.2

/-- A string without escapes stands for its characters. -/
theorem text?_of_plain {body : List Char} (h : '\\' ∉ body) :
    text? body = some (String.ofList body) := by
  have hcharacters : characters? none body = some body := by
    induction body with
    | nil => rfl
    | cons c body ih =>
        obtain ⟨hc, hbody⟩ := not_or.mp (mt List.mem_cons.mpr h)
        rw [characters?, ih hbody]
        · rfl
        · exact fun _ _ _ _ _ hc' => absurd hc'.symm hc
        · exact fun _ _ hc' => absurd hc'.symm hc
  rw [text?, hcharacters, Option.map_some]

/-! ## members of values -/

/-- A value that is put is found under its own name. -/
theorem lookup_put (ms : List (String × Json)) (n name : String) (v : Json) :
    (put ms n v).lookup name = if name = n then some v else ms.lookup name := by
  induction ms with
  | nil => rw [put, lookup_cons_eq_ite]
  | cons m ms ih =>
      obtain ⟨k, w⟩ := m
      rw [put]
      split
      · next hk => rw [lookup_cons_eq_ite, lookup_cons_eq_ite, hk]; split <;> rfl
      · next hk =>
        rw [lookup_cons_eq_ite, ih, lookup_cons_eq_ite]
        by_cases h : name = k
        · rw [if_pos h, if_neg (h ▸ hk), if_pos h]
        · rw [if_neg h, if_neg h]

/-- Members of other names leave a member alone. -/
theorem lookup_ofMembers? {ms : List (List Char × Tree)} {done out : List (String × Json)}
    {n : String} (hout : ofMembers? done ms = some out) (hms : ∀ m ∈ ms, text? m.1 ≠ some n) :
    out.lookup n = done.lookup n := by
  induction ms generalizing done with
  | nil => rw [← Option.some.inj hout]
  | cons m ms ih =>
      obtain ⟨name, t⟩ := m
      obtain ⟨hname, hrest⟩ := List.forall_mem_cons.mp hms
      rw [ofMembers?] at hout
      split at hout
      · next k v hk hv =>
        have hne : n ≠ k := fun h => hname (h ▸ hk)
        rw [ih hout hrest, lookup_put, if_neg hne]
      · contradiction

/-- A name that is there stays there. -/
theorem isSome_lookup_ofMembers? {ms : List (List Char × Tree)} {done out : List (String × Json)}
    {n : String} (hout : ofMembers? done ms = some out) (hn : (done.lookup n).isSome) :
    (out.lookup n).isSome := by
  induction ms generalizing done with
  | nil => rwa [← Option.some.inj hout]
  | cons m ms ih =>
      obtain ⟨name, t⟩ := m
      rw [ofMembers?] at hout
      split at hout
      · next k v hk hv =>
        refine ih hout ?_
        rw [lookup_put]
        split
        · rfl
        · exact hn
      · contradiction

end Playbook.Json
