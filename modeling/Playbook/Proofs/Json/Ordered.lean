import Playbook.Proofs.Json.Token

/-!
# Playbook.Proofs.Json.Ordered

Members in the order of their names are the same members: a look-up finds the same
ones (`lookup_orderedMembers`), also where a name is repeated, since the order of
members of one name is kept.
-/

namespace Playbook.Json

/-! ## look-ups -/

variable {α β : Type}

theorem lookup_cons_eq_ite (n name : String) (v : α) (ms : List (String × α)) :
    ((n, v) :: ms).lookup name = if name = n then some v else ms.lookup name := by
  rw [List.lookup_cons]
  by_cases h : name = n
  · rw [if_pos h, beq_iff_eq.mpr h]
  · rw [if_neg h, beq_eq_false_iff_ne.mpr h]

/-- Looking up a name finds every pair of a list without repeated names. -/
theorem lookup_eq_some_iff_mem {l : List (String × α)} (h : (l.map Prod.fst).Nodup) {s : String}
    {x : α} : l.lookup s = some x ↔ (s, x) ∈ l := by
  induction l with
  | nil => simp only [List.lookup_nil, reduceCtorEq, List.not_mem_nil]
  | cons p l ih =>
      obtain ⟨s', x'⟩ := p
      rw [List.map_cons, List.nodup_cons] at h
      rw [List.lookup_cons, List.mem_cons, Prod.mk.injEq]
      by_cases hs : s = s'
      · subst hs
        have hmem : (s, x) ∉ l := fun hmem => h.1 (List.mem_map.mpr ⟨_, hmem, rfl⟩)
        simp only [BEq.rfl, Option.some.injEq, true_and, hmem, or_false, eq_comm]
      · have hbeq : (s == s') = false := beq_eq_false_iff_ne.mpr hs
        simp only [hbeq, hs, false_and, false_or, ih h.2]

/-- A look-up finds what was made of a value. -/
theorem lookup_map (g : String → α → β) (named : List (String × α)) (s : String) :
    (named.map fun p => (p.1, g p.1 p.2)).lookup s = (named.lookup s).map (g s) := by
  induction named with
  | nil => rfl
  | cons p named ih =>
      rw [List.map_cons, List.lookup_cons, List.lookup_cons]
      by_cases h : s = p.1
      · rw [beq_iff_eq.mpr h, h]
        rfl
      · rw [beq_eq_false_iff_ne.mpr h]
        exact ih

/-! ## members in order -/

/-- A member is inserted in front of the members with its name. -/
theorem lookup_insertByName (n name : String) (v : Json) (ms : List (String × Json)) :
    (insertByName (n, v) ms).lookup name = if name = n then some v else ms.lookup name := by
  induction ms with
  | nil => rw [insertByName, lookup_cons_eq_ite]
  | cons m ms ih =>
      obtain ⟨k, w⟩ := m
      rw [insertByName]
      split
      · next hlt =>
        have hne : k ≠ n := fun h => String.lt_irrefl _ (h ▸ hlt)
        rw [lookup_cons_eq_ite, ih, lookup_cons_eq_ite]
        by_cases h : name = k
        · rw [if_pos h, if_neg (h ▸ hne), if_pos h]
        · rw [if_neg h, if_neg h]
      · rw [lookup_cons_eq_ite]

/-- **Order does not matter for looking up members.** -/
theorem lookup_orderedMembers (ms : List (String × Json)) (name : String) :
    (orderedMembers ms).lookup name = (ms.lookup name).map ordered := by
  induction ms with
  | nil => rfl
  | cons m ms ih =>
      obtain ⟨n, v⟩ := m
      rw [orderedMembers, lookup_insertByName, ih, lookup_cons_eq_ite]
      split <;> rfl

/-! ## printable values -/

/-- A member is put in its place, and the others stay. -/
theorem insertByName_perm (m : String × Json) (ms : List (String × Json)) :
    (insertByName m ms).Perm (m :: ms) := by
  induction ms with
  | nil => exact .refl _
  | cons n ms ih =>
      rw [insertByName]
      split
      · exact (ih.cons n).trans (.swap m n ms)
      · exact .refl _

/-- The same members are there, in another order. -/
theorem orderedMembers_perm (ms : List (String × Json)) :
    (orderedMembers ms).Perm (ms.map fun m => (m.1, m.2.ordered)) := by
  induction ms with
  | nil => exact .refl _
  | cons m ms ih =>
      obtain ⟨n, v⟩ := m
      rw [orderedMembers]
      exact (insertByName_perm _ _).trans (ih.cons _)

/-- Names are the same before and after, so they are as different as they were. -/
theorem names_orderedMembers (ms : List (String × Json)) :
    ((orderedMembers ms).map Prod.fst).Perm (ms.map Prod.fst) := by
  have h := (orderedMembers_perm ms).map Prod.fst
  rwa [List.map_map] at h

theorem printableMembers_insertByName {m : String × Json} {ms : List (String × Json)}
    (hm : Printable m.2) (hms : PrintableMembers ms) : PrintableMembers (insertByName m ms) := by
  induction ms with
  | nil => exact ⟨hm, trivial⟩
  | cons n ms ih =>
      rw [insertByName]
      split
      · exact ⟨hms.1, ih hms.2⟩
      · exact ⟨hm, hms⟩

mutual

/-- A value in order can be written if the value could. -/
theorem printable_ordered (v : Json) (h : Printable v) : Printable v.ordered := by
  cases v with
  | array items => exact printableItems_ordered items h
  | object members =>
      exact ⟨(names_orderedMembers members).nodup_iff.mpr h.1, printableMembers_ordered members h.2⟩
  | _ => exact h

theorem printableItems_ordered (vs : List Json) (h : PrintableItems vs) :
    PrintableItems (orderedItems vs) := by
  match vs with
  | [] => trivial
  | v :: vs => exact ⟨printable_ordered v h.1, printableItems_ordered vs h.2⟩

/-- Members in order can be written, since their names are still different. -/
theorem printableMembers_ordered (ms : List (String × Json)) (h : PrintableMembers ms) :
    PrintableMembers (orderedMembers ms) := by
  match ms with
  | [] => trivial
  | (_, v) :: ms =>
      exact printableMembers_insertByName (printable_ordered v h.1)
        (printableMembers_ordered ms h.2)

end

end Playbook.Json
