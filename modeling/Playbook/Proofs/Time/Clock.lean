import Playbook.Proofs.Text.Blank
import Playbook.Proofs.Text.Numeral
import Playbook.Time.Clock

/-!
# Playbook.Proofs.Time.Clock

The texts that tell a clock time.  `Clock.Tells` describes them, `Clock.read`
accepts exactly these (`read_eq_some_iff`), and `Clock.write` writes one of them.
-/

namespace Playbook.Time

open Text

/-! ## pairs of digits -/

/-- One or two digits, blanks allowed in front. -/
def TellsPair (s : List Char) (n : Nat) : Prop :=
  ∃ b ds, s = b ++ ds ∧ AllBlank b ∧ IsNumeral 2 ds n

/-- No blank stands in front of a numeral, whatever follows it. -/
theorem first_of_isNumeral {most n : Nat} {ds t : List Char} (h : IsNumeral most ds n) :
    ∀ c ∈ (ds ++ t).head?, isBlank c = false := by
  obtain ⟨d, ds', rfl⟩ := List.exists_cons_of_ne_nil h.nonempty
  intro c hc
  obtain rfl : d = c := Option.some.inj hc
  exact isBlank_of_isDigit (h.digits d List.mem_cons_self)

theorem last_of_isNumeral {most n : Nat} {ds t : List Char} (h : IsNumeral most ds n) :
    ∀ c ∈ (t ++ ds).getLast?, isBlank c = false := by
  intro c hc
  rw [List.getLast?_append, List.getLast?_eq_some_getLast h.nonempty, Option.some_or] at hc
  obtain rfl := Option.some.inj hc
  exact isBlank_of_isDigit (h.digits _ (List.getLast_mem h.nonempty))

/-- What is read as a pair of digits tells its number. -/
theorem exists_of_takePair {s rest : List Char} {n : Nat} (h : Date.takePair s = some (n, rest)) :
    ∃ p, TellsPair p n ∧ s = p ++ rest := by
  obtain ⟨ds, hds, hs⟩ := exists_of_numberUpTo h
  obtain ⟨⟨b, hb, hb'⟩, -⟩ := trimStart_spec s
  refine ⟨b ++ ds, ⟨b, ds, rfl, hb, hds⟩, ?_⟩
  rw [List.append_assoc, ← hs, ← hb']

/-- A text that tells a number is read up to its end, if no digit follows. -/
theorem takePair_append {p rest : List Char} {n : Nat} (h : TellsPair p n)
    (hrest : ∀ c ∈ rest.head?, c.isDigit = false) :
    Date.takePair (p ++ rest) = some (n, rest) := by
  obtain ⟨b, ds, rfl, hb, hds⟩ := h
  rw [Date.takePair, List.append_assoc, trimStart_append hb (first_of_isNumeral hds),
    numberUpTo_append hds hrest]

/-- Two digits tell a number below a hundred. -/
theorem tellsPair_padded {n : Nat} (hn : n < 100) : TellsPair (padded 2 n) n :=
  ⟨[], padded 2 n, rfl, allBlank_nil, isNumeral_padded (by decide) hn⟩

namespace Clock

/-! ## texts of clock times -/

/-- A text tells the hour and the minute of a clock time in one or two digits
each, with a colon between them.  Blanks may stand in front of the numbers and
at the end, but not in front of the colon. -/
def Tells (s : List Char) (c : Clock) : Prop :=
  c.second = 0 ∧ c.leap = false ∧
    ∃ hour minute b, s = hour ++ ':' :: minute ++ b ∧ TellsPair hour c.hour ∧
      TellsPair minute c.minute ∧ AllBlank b

/-- An hour and a minute make a time without seconds. -/
theorem ofParts?_eq_some_iff {hour minute : Nat} {c : Clock} :
    ofParts? hour minute 0 = some c ↔
      c.second = 0 ∧ c.leap = false ∧ hour = c.hour ∧ minute = c.minute := by
  unfold ofParts?
  constructor
  · intro h
    split at h
    · obtain rfl := Option.some.inj h
      exact ⟨rfl, rfl, rfl, rfl⟩
    · contradiction
  · intro h
    obtain ⟨hsecond, hleap, rfl, rfl⟩ := h
    rw [dif_pos ⟨c.hour.isLt, c.minute.isLt, by decide⟩]
    obtain ⟨hour, minute, second, leap⟩ := c
    obtain rfl : second = 0 := hsecond
    obtain rfl : leap = false := hleap
    rfl

/-- A time that is read has an hour, a colon and a minute. -/
theorem exists_of_take {s rest : List Char} {hour minute : Nat}
    (h : take s = some ((hour, minute), rest)) :
    ∃ p q, TellsPair p hour ∧ TellsPair q minute ∧ s = p ++ ':' :: q ++ rest := by
  simp only [take, Option.bind_eq_bind, Option.bind_eq_some_iff, Option.pure_def,
    Option.some.injEq, Prod.mk.injEq, Prod.exists] at h
  obtain ⟨hour', s', hhour, s'', hmark, minute', rest', hminute, ⟨rfl, rfl⟩, rfl⟩ := h
  obtain ⟨p, hp, rfl⟩ := exists_of_takePair hhour
  obtain ⟨q, hq, rfl⟩ := exists_of_takePair hminute
  refine ⟨p, q, hp, hq, ?_⟩
  have hmark : s' = ':' :: (q ++ rest') := by
    cases s' with
    | nil => contradiction
    | cons c s' =>
        rw [Date.takeMark] at hmark
        split at hmark
        · next hc => rw [hc, Option.some.inj hmark]
        · contradiction
  rw [hmark, List.append_assoc, List.cons_append]

theorem take_append {p q : List Char} {hour minute : Nat} (hp : TellsPair p hour)
    (hq : TellsPair q minute) : take (p ++ ':' :: q) = some ((hour, minute), []) := by
  have hminute : Date.takePair (q ++ []) = some (minute, []) := takePair_append hq (by simp)
  rw [List.append_nil] at hminute
  rw [take, takePair_append hp (by simp)]
  simp only [Option.bind_eq_bind, Option.bind_some, Date.takeMark, if_true, hminute,
    Option.pure_def]

/-- **Clock times** are read from the texts that tell them, and from no others. -/
theorem read_eq_some_iff (s : List Char) (c : Clock) : read s = some c ↔ Tells s c := by
  constructor
  · intro h
    unfold read at h
    split at h
    · next hour minute htake =>
      obtain ⟨hsecond, hleap, rfl, rfl⟩ := ofParts?_eq_some_iff.mp h
      obtain ⟨p, q, ⟨b₁, ds, rfl, hb₁, hds⟩, hq, hs⟩ := exists_of_take htake
      obtain ⟨b, b', hb, -, hb', hs'⟩ := trim_spec s
      refine ⟨hsecond, hleap, b ++ (b₁ ++ ds), q, b', ?_, ⟨b ++ b₁, ds, ?_, ?_, hds⟩, hq, hb'⟩
      · rw [hs', hs]
        simp only [List.append_assoc, List.append_nil, List.cons_append]
      · rw [List.append_assoc]
      · intro c hc
        exact (List.mem_append.mp hc).elim (hb c) (hb₁ c)
    · contradiction
  · intro h
    obtain ⟨hsecond, hleap, hour, minute, b, rfl, ⟨b₁, ds, rfl, hb₁, hds⟩, hminute, hb⟩ := h
    obtain ⟨b₂, ds', rfl, hb₂, hds'⟩ := hminute
    have htight : Tight (ds ++ ':' :: (b₂ ++ ds')) := by
      constructor
      · exact first_of_isNumeral hds
      · have hassoc : ds ++ ':' :: (b₂ ++ ds') = (ds ++ ':' :: b₂) ++ ds' := by simp
        rw [hassoc]
        exact last_of_isNumeral hds'
    have htrim : trim (b₁ ++ ds ++ ':' :: (b₂ ++ ds') ++ b) = ds ++ ':' :: (b₂ ++ ds') := by
      rw [List.append_assoc b₁]
      exact trim_append hb₁ htight hb
    have htake : take (ds ++ ':' :: (b₂ ++ ds')) = some ((c.hour.val, c.minute.val), []) :=
      take_append ⟨[], ds, rfl, allBlank_nil, hds⟩ ⟨b₂, ds', rfl, hb₂, hds'⟩
    rw [read, htrim, htake]
    exact ofParts?_eq_some_iff.mpr ⟨hsecond, hleap, rfl, rfl⟩

/-- The written form tells the time. -/
theorem tells_write {c : Clock} (hsecond : c.second = 0) (hleap : c.leap = false) :
    Tells c.write.toList c := by
  refine ⟨hsecond, hleap, padded 2 c.hour, padded 2 c.minute, [], ?_, ?_, ?_, allBlank_nil⟩
  · rw [write, String.toList_ofList, writeMinutes, List.append_nil]
  · exact tellsPair_padded (by omega)
  · exact tellsPair_padded (by omega)

end Clock

end Playbook.Time
