import Playbook.Proofs.Zone.Name
import Playbook.Zone.Description

/-!
# Playbook.Proofs.Zone.Description

The name of a zone describes the zone, although abbreviations go first.

Some zones are hidden by an abbreviation: `EST` is the name of a zone, and it
means another one.  A zone that any description means is not hidden
(`ofDescription?_text`), because what led to it is no abbreviation.
-/

namespace Playbook.ZoneName

open Text

/-! ## normal form -/

/-- Dropping fillers leaves some of the words. -/
theorem mem_of_mem_dropFillers {w : List Char} {ws : List (List Char)} (h : w ∈ dropFillers ws) :
    w ∈ ws := by
  induction ws using dropFillers.induct with
  | case1 v v' rest hv ih =>
      rw [dropFillers, if_pos hv] at h
      exact List.mem_cons_of_mem v (ih h)
  | case2 v v' rest hv => rwa [dropFillers, if_neg hv] at h
  | case3 ws hws =>
      rw [dropFillers] at h
      · exact h
      · exact hws

/-- Between words there is one blank, and no other character. -/
theorem mem_of_mem_intercalate {c : Char} {ws : List (List Char)}
    (h : c ∈ [' '].intercalate ws) : c = ' ' ∨ ∃ w ∈ ws, c ∈ w := by
  induction ws with
  | nil => contradiction
  | cons w ws ih =>
      cases ws with
      | nil =>
          rw [List.intercalate_singleton] at h
          exact .inr ⟨w, List.mem_cons_self, h⟩
      | cons w' ws =>
          rw [List.intercalate_cons_cons, List.mem_append, List.mem_append] at h
          obtain (h | h) | h := h
          · exact .inr ⟨w, List.mem_cons_self, h⟩
          · exact .inl (List.mem_singleton.mp h)
          · refine (ih h).imp id ?_
            intro hword
            obtain ⟨v, hv, hc⟩ := hword
            exact ⟨v, List.mem_cons_of_mem w hv, hc⟩

/-- A single word is in normal form but for its letter case. -/
theorem normalForm_of_no_blank {s : List Char} (hne : s ≠ []) (h : ∀ c ∈ s, isBlank c = false) :
    normalForm s = lower s := by
  have hwords : words s = [s] := by
    rw [words, List.splitOnP_eq_singleton h]
    cases s with
    | nil => contradiction
    | cons c s => rfl
  rw [normalForm, hwords]
  exact List.append_nil _

/-- A normal form has no capitals. -/
theorem lower_normalForm (s : List Char) : lower (normalForm s) = normalForm s := by
  refine (List.map_congr_left fun c hc => ?_).trans (List.map_id _)
  obtain rfl | ⟨w, hw, hc⟩ := mem_of_mem_intercalate hc
  · decide
  · have hw := List.mem_reverse.mp (mem_of_mem_dropFillers (List.mem_reverse.mp hw))
    obtain ⟨v, -, rfl⟩ := List.mem_map.mp hw
    obtain ⟨d, -, rfl⟩ := List.mem_map.mp hc
    exact d.toLower_toLower_eq_toLower

/-- Lower case keeps all characters but capitals. -/
theorem mem_lower {c : Char} {s : List Char} (hc : c.toLower = c) (h : c ∈ s) : c ∈ lower s :=
  List.mem_map.mpr ⟨c, h, hc⟩

/-! ## abbreviations -/

/-- No abbreviation has a slash or an underscore. -/
theorem abbreviations_plain :
    ∀ p ∈ abbreviations, '/' ∉ p.1.toList ∧ '_' ∉ p.1.toList := by decide +kernel

/-- Abbreviations mean zones with a slash in their names, or universal time.  Byte
47 is the slash. -/
theorem abbreviations_targets :
    ∀ p ∈ abbreviations, 47 ∈ p.2.toByteArray.data.toList ∨ p.2 = "UTC" := by decide +kernel

theorem mem_of_lookup {k v : String} {l : List (String × String)} (h : l.lookup k = some v) :
    (k, v) ∈ l := by
  obtain ⟨l₁, l₂, rfl, -⟩ := List.lookup_eq_some_iff.mp h
  exact List.mem_append_right l₁ List.mem_cons_self

/-- A text with a slash or an underscore is no abbreviation. -/
theorem ofAbbreviation?_eq_none {key : List Char} (h : '/' ∈ key ∨ '_' ∈ key) :
    ofAbbreviation? key = none := by
  unfold ofAbbreviation?
  cases hlookup : abbreviations.lookup (String.ofList key) with
  | none => rfl
  | some v =>
      have hplain := abbreviations_plain _ (mem_of_lookup hlookup)
      rw [String.toList_ofList] at hplain
      exact absurd h (not_or.mpr hplain)

/-- An abbreviation means universal time or a zone with a slash in its name. -/
theorem slash_of_ofAbbreviation? {key : List Char} {z : ZoneName}
    (h : ofAbbreviation? key = some z) : '/' ∈ z.text.toList ∨ z.text = "UTC" := by
  obtain ⟨v, hlookup, hv⟩ := Option.bind_eq_some_iff.mp h
  rw [text_of_ofText? hv]
  refine (abbreviations_targets _ (mem_of_lookup hlookup)).imp (fun hbyte => ?_) id
  obtain ⟨c, hc, hslash⟩ := exists_of_mem_bytes hbyte (by decide)
  rwa [show c = '/' from Char.toNat_inj.mp hslash] at hc

/-! ## descriptions -/

/-- A zone is not hidden if its name is no abbreviation, or one for the zone itself. -/
def Visible (z : ZoneName) : Prop :=
  ofAbbreviation? (lower z.text.toList) = none ∨ ofAbbreviation? (lower z.text.toList) = some z

/-- The name of a visible zone describes the zone. -/
theorem ofDescription?_of_visible {z : ZoneName} (h : z.Visible) :
    ofDescription? z.text = some z := by
  obtain ⟨hne, hblank⟩ := z.no_blank
  have htrim : trim z.text.toList = z.text.toList := trim_eq_self (tight_of_no_blank hblank)
  rw [ofDescription?, htrim, normalForm_of_no_blank hne hblank, if_neg hne, String.ofList_toList,
    ofText?_text]
  obtain h | h := h
  · rw [h]
    rfl
  · rw [h]
    rfl

/-- A name with a slash is not hidden, since no abbreviation has one. -/
theorem visible_of_slash {z : ZoneName} (h : '/' ∈ z.text.toList) : z.Visible :=
  .inl (ofAbbreviation?_eq_none (.inl (mem_lower (by decide) h)))

/-- A key with underscores for blanks. -/
def underscored (key : List Char) : List Char := key.map fun c => if c = ' ' then '_' else c

/-- A text of one word is the same with underscores. -/
theorem underscored_of_no_blank {key : List Char} (h : ' ' ∉ key) : underscored key = key := by
  refine (List.map_congr_left fun c hc => ?_).trans (List.map_id _)
  exact if_neg fun hblank => h (by rwa [hblank] at hc)

/-- What a description means was found in one of four ways, and abbreviations go
first. -/
theorem ways_of_ofDescription? {s : String} {z : ZoneName} (h : ofDescription? s = some z) :
    ofAbbreviation? (normalForm (trim s.toList)) = some z ∨
      ofAbbreviation? (normalForm (trim s.toList)) = none ∧
        (ofText? (String.ofList (trim s.toList)) = some z ∨
          ofFolded? (underscored (normalForm (trim s.toList))) = some z ∨
            ofCity? (underscored (normalForm (trim s.toList))) = some z) := by
  simp only [ofDescription?, ← underscored.eq_1] at h
  by_cases hne : trim s.toList = []
  · rw [if_pos hne] at h
    contradiction
  · rw [if_neg hne] at h
    simp only [Option.orElse_eq_orElse, Option.orElse_eq_or, Option.or_eq_some_iff] at h
    exact h.imp id fun h => ⟨h.1, h.2.imp id fun h => h.2.imp id fun h => h.2⟩

/-- Universal time is the zone that its abbreviation means. -/
theorem visible_of_utc {z : ZoneName} (h : z.text = "UTC") : z.Visible := by
  have hlookup : abbreviations.lookup (String.ofList (lower "UTC".toList)) = some "UTC" := by
    decide +kernel
  refine .inr ?_
  rw [ofAbbreviation?, h, hlookup, Option.bind_some, ← h, ofText?_text]

/-- A zone that is found by its name up to letter case has the normal form as its
name, with underscores for blanks. -/
theorem visible_of_ofFolded? {key : List Char} {z : ZoneName} (hlower : lower key = key)
    (habbreviation : ofAbbreviation? key = none) (h : ofFolded? (underscored key) = some z) :
    z.Visible := by
  rw [ofFolded?] at h
  have hfolded := List.find?_some h
  refine .inl ?_
  rw [lower_eq_of_sameFolded hfolded]
  by_cases hblank : ' ' ∈ key
  · refine ofAbbreviation?_eq_none (.inr (mem_lower (by decide) ?_))
    exact List.mem_map.mpr ⟨' ', hblank, if_pos rfl⟩
  · rw [underscored_of_no_blank hblank, hlower, habbreviation]

theorem slash_of_ofCity? {key : List Char} {z : ZoneName} (h : ofCity? key = some z) :
    '/' ∈ z.text.toList := by
  rw [ofCity?] at h
  have hcity := List.find?_some h
  rw [city?] at hcity
  split at hcity
  · assumption
  · contradiction

/-- **The name of a zone describes it**, if anything does: resolving a description
and then the name of the zone gives the same zone. -/
theorem ofDescription?_text {s : String} {z : ZoneName} (h : ofDescription? s = some z) :
    ofDescription? z.text = some z := by
  apply ofDescription?_of_visible
  obtain habbreviation | ⟨habbreviation, htext | hfolded | hcity⟩ := ways_of_ofDescription? h
  · obtain hslash | hutc := slash_of_ofAbbreviation? habbreviation
    · exact visible_of_slash hslash
    · exact visible_of_utc hutc
  · obtain ⟨hne, hblank⟩ := z.no_blank
    have htrim := text_of_ofText? htext
    rw [← String.toList_inj, String.toList_ofList] at htrim
    rw [← htrim, normalForm_of_no_blank hne hblank] at habbreviation
    exact .inl habbreviation
  · exact visible_of_ofFolded? (lower_normalForm _) habbreviation hfolded
  · exact visible_of_slash (slash_of_ofCity? hcity)

end Playbook.ZoneName
