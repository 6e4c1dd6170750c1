import Playbook.Proofs.Zone.Description

/-!
# Playbook.Proofs.Zone.Spelling

The spelling of a description does not matter beyond its normal form
(`ofDescription?_respelled`): letter case, blanks and fillers at the end never change the
zone.

The one stage of a resolution that looks at the text itself is that for the exact name of
a zone.  It says nothing that the next stage would not say, because names differ in more
than letter case (`ofFolded?_of_ofText?`); so what a description means can be told from
its normal form alone (`ofDescription?_eq_ofNormalForm?`).
-/

namespace Playbook.ZoneName

open Text

/-! ## normal forms -/

/-- Blanks around a description do not matter. -/
theorem normalForm_trim (s : List Char) : normalForm (trim s) = normalForm s := by
  rw [normalForm, normalForm, words_trim]

/-- Fillers are dropped while another word is left. -/
theorem dropFillers_eq_nil_iff {ws : List (List Char)} : dropFillers ws = [] ↔ ws = [] := by
  induction ws using dropFillers.induct with
  | case1 w v rest hw ih =>
      rw [dropFillers, if_pos hw, ih]
      exact iff_of_false (List.cons_ne_nil v rest) (List.cons_ne_nil w _)
  | case2 w v rest hw => rw [dropFillers, if_neg hw]
  | case3 ws hws =>
      rw [dropFillers]
      exact hws

/-- Words that are put together make a text, if there are any. -/
theorem intercalate_eq_nil_iff {ws : List (List Char)} (h : ∀ w ∈ ws, w ≠ []) :
    [' '].intercalate ws = [] ↔ ws = [] := by
  cases ws with
  | nil => exact iff_of_true rfl rfl
  | cons w ws =>
      have hw : w ≠ [] := h w List.mem_cons_self
      refine iff_of_false ?_ (List.cons_ne_nil w ws)
      cases ws with
      | nil => rwa [List.intercalate_singleton]
      | cons v ws =>
          rw [List.intercalate_cons_cons, List.append_assoc]
          exact List.append_ne_nil_of_left_ne_nil hw _

/-- Only a blank text has an empty normal form. -/
theorem normalForm_eq_nil_iff {s : List Char} : normalForm s = [] ↔ trim s = [] := by
  have hne : ∀ w ∈ (dropFillers ((words s).map lower).reverse).reverse, w ≠ [] := by
    intro w hw
    have hw := List.mem_reverse.mp (mem_of_mem_dropFillers (List.mem_reverse.mp hw))
    obtain ⟨v, hv, rfl⟩ := List.mem_map.mp hw
    exact mt List.map_eq_nil_iff.mp (ne_nil_of_mem_words hv)
  rw [normalForm, intercalate_eq_nil_iff hne, List.reverse_eq_nil_iff, dropFillers_eq_nil_iff,
    List.reverse_eq_nil_iff, List.map_eq_nil_iff, words_eq_nil_iff]

/-- A filler behind other words is dropped. -/
theorem normalForm_of_filler {s t w : List Char} (hs : words s ≠ []) (hw : lower w ∈ fillers)
    (ht : words t = words s ++ [w]) : normalForm t = normalForm s := by
  have hne : ((words s).map lower).reverse ≠ [] :=
    mt List.reverse_eq_nil_iff.mp (mt List.map_eq_nil_iff.mp hs)
  obtain ⟨v, ws, hws⟩ := List.exists_cons_of_ne_nil hne
  rw [normalForm, normalForm, ht, List.map_append, List.map_singleton, List.reverse_append,
    List.reverse_singleton, List.singleton_append, hws, dropFillers, if_pos hw]

/-! ## exact names -/

/-- Every zone is among those that are searched. -/
theorem mem_all (z : ZoneName) : z ∈ all :=
  List.mem_map.mpr ⟨⟨z.text, z.listed⟩, List.mem_attach _ _, rfl⟩

/-- A zone is found by its name in lower case, and no other zone is. -/
theorem ofFolded?_lower (z : ZoneName) : ofFolded? (lower z.text.toList) = some z := by
  rw [ofFolded?]
  cases hfind : all.find? fun z' => sameFolded z'.text.toList (lower z.text.toList) with
  | none =>
      have hself : sameFolded z.text.toList (lower z.text.toList) = true :=
        beq_iff_eq.mpr (lower_lower _).symm
      exact absurd hself (List.find?_eq_none.mp hfind z z.mem_all)
  | some z' =>
      have hfound := List.find?_some hfind
      have hlower := lower_eq_of_sameFolded hfound
      rw [lower_lower] at hlower
      rw [eq_of_lower_eq hlower]

/-- A zone that is found by its exact name is found by the normal form as well. -/
theorem ofFolded?_of_ofText? {s : List Char} {z : ZoneName}
    (h : ofText? (String.ofList s) = some z) :
    ofFolded? (underscored (normalForm s)) = some z := by
  obtain ⟨hne, hblank⟩ := z.no_blank
  have htext := text_of_ofText? h
  rw [← String.toList_inj, String.toList_ofList] at htext
  subst htext
  have hlower : ' ' ∉ lower z.text.toList := by
    intro hmem
    obtain ⟨c, hc, hspace⟩ := List.mem_map.mp hmem
    have hnone := hblank c hc
    rw [← isBlank_toLower, hspace] at hnone
    contradiction
  rw [normalForm_of_no_blank hne hblank, underscored_of_no_blank hlower, ofFolded?_lower]

/-! ## descriptions -/

/-- The zone that a normal form means. -/
def ofNormalForm? (key : List Char) : Option ZoneName :=
  if key = [] then none
  else ofAbbreviation? key <|> ofFolded? (underscored key) <|> ofCity? (underscored key)

/-- A description means what its normal form means. -/
theorem ofDescription?_eq_ofNormalForm? (s : String) :
    ofDescription? s = ofNormalForm? (normalForm s.toList) := by
  have hexact : ((ofText? (String.ofList (trim s.toList))).or
      ((ofFolded? (underscored (normalForm s.toList))).or
        (ofCity? (underscored (normalForm s.toList))))) =
      (ofFolded? (underscored (normalForm s.toList))).or
        (ofCity? (underscored (normalForm s.toList))) := by
    cases hz : ofText? (String.ofList (trim s.toList)) with
    | none => rw [Option.none_or]
    | some z =>
        have hfolded := ofFolded?_of_ofText? hz
        rw [normalForm_trim] at hfolded
        rw [hfolded, Option.some_or, Option.some_or]
  simp only [ofDescription?, ← underscored.eq_1, normalForm_trim, ofNormalForm?,
    Option.orElse_eq_orElse, Option.orElse_eq_or, hexact, normalForm_eq_nil_iff]

/-- **What a description means depends on its normal form only.**  So it does not matter
how words are written in upper and lower case and what blanks stand around them, nor
whether there is a filler behind them. -/
theorem ofDescription?_respelled :
    (∀ s t : String, normalForm s.toList = normalForm t.toList →
        ofDescription? s = ofDescription? t) ∧
      (∀ s t : String, (words s.toList).map lower = (words t.toList).map lower →
        ofDescription? s = ofDescription? t) ∧
      ∀ (s t : String) (w : List Char), words s.toList ≠ [] → lower w ∈ fillers →
        words t.toList = words s.toList ++ [w] → ofDescription? t = ofDescription? s := by
  have hnormal (s t : String) (h : normalForm s.toList = normalForm t.toList) :
      ofDescription? s = ofDescription? t := by
    rw [ofDescription?_eq_ofNormalForm?, ofDescription?_eq_ofNormalForm?, h]
  refine ⟨hnormal, fun s t h => hnormal s t ?_, fun s t w hs hw ht => hnormal t s ?_⟩
  · rw [normalForm, normalForm, h]
  · exact normalForm_of_filler hs hw ht

/-- New York by its name, with capitals, blanks and fillers, and once more with a filler. -/
theorem ofDescription?_respelled_newYork :
    normalForm "America/New_York".toList =
        normalForm "\tAMERICA/new_york  Standard TIME ".toList ∧
      ofDescription? "America/New_York" = ofDescription? "\tAMERICA/new_york  Standard TIME " ∧
      (words "New York".toList).map lower = (words " new  YORK".toList).map lower ∧
      ofDescription? "New York" = ofDescription? " new  YORK" ∧
      words "New York".toList ≠ [] ∧ lower "Time".toList ∈ fillers ∧
      words "New York Time".toList = words "New York".toList ++ ["Time".toList] ∧
      ofDescription? "New York Time" = ofDescription? "New York" := by
  have hnormal : normalForm "America/New_York".toList =
      normalForm "\tAMERICA/new_york  Standard TIME ".toList := by decide +kernel
  have hcase : (words "New York".toList).map lower = (words " new  YORK".toList).map lower := by
    decide +kernel
  have hsome : words "New York".toList ≠ [] := by decide +kernel
  have hfiller : lower "Time".toList ∈ fillers := by decide +kernel
  have hwords : words "New York Time".toList = words "New York".toList ++ ["Time".toList] := by
    decide +kernel
  obtain ⟨hform, hletters, hdropped⟩ := ofDescription?_respelled
  exact ⟨hnormal, hform _ _ hnormal, hcase, hletters _ _ hcase, hsome, hfiller, hwords,
    hdropped _ _ _ hsome hfiller hwords⟩

end Playbook.ZoneName
