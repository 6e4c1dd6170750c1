import Playbook.Proofs.Text.Blank
import Playbook.Zone.Name

/-!
# Playbook.Proofs.Zone.Name

What the names of zones are made of: printable ASCII characters without blanks.
Names differ in more than letter case (`eq_of_lower_eq`).

The list of names is checked byte by byte, because a text is stored as bytes;
`toNat_of_printable` leads from the bytes of a text to its characters.
-/

namespace Playbook

open Text

/-! ## bytes of characters -/

/-- The bytes of a text are the bytes of its characters. -/
theorem toList_toByteArray (s : String) :
    s.toByteArray.data.toList = s.toList.flatMap String.utf8EncodeChar := by
  rw [← String.utf8Encode_toList, List.utf8Encode, List.toList_data_toByteArray]

/-- A byte of ASCII is a character of its own, never a part of a longer one. -/
theorem toNat_of_mem_utf8EncodeChar {c : Char} {b : UInt8} (hb : b ∈ String.utf8EncodeChar c)
    (h : b.toNat < 128) : c.toNat = b.toNat := by
  rw [← Char.toNat_val]
  unfold String.utf8EncodeChar at hb
  dsimp only at hb
  repeat' split at hb
  all_goals
    simp only [List.mem_cons, List.not_mem_nil, or_false] at hb
    grind [UInt8.toNat_ofNat']

/-- A character of ASCII is one byte. -/
theorem utf8EncodeChar_of_lt {c : Char} (h : c.toNat < 128) :
    String.utf8EncodeChar c = [c.toNat.toUInt8] := by
  rw [← Char.toNat_val] at h
  unfold String.utf8EncodeChar
  dsimp only
  rw [if_pos (Nat.le_of_lt_succ h)]
  rfl

/-- A byte of ASCII in a text is a character of the text. -/
theorem exists_of_mem_bytes {s : String} {b : UInt8} (hb : b ∈ s.toByteArray.data.toList)
    (h : b.toNat < 128) : ∃ c ∈ s.toList, c.toNat = b.toNat := by
  rw [toList_toByteArray] at hb
  obtain ⟨c, hc, hb⟩ := List.mem_flatMap.mp hb
  exact ⟨c, hc, toNat_of_mem_utf8EncodeChar hb h⟩

/-! ## printable texts -/

/-- A byte of a printable ASCII character other than the blank. -/
def isPrintable (b : UInt8) : Bool := 33 ≤ b && b ≤ 126

/-- A text that is not empty and made of printable characters. -/
def printable (s : String) : Bool :=
  match s.toByteArray.data.toList with
  | [] => false
  | b :: bs => isPrintable b && bs.all isPrintable

/-- A text is printable if it has characters, none of which is blank or a control character. -/
theorem toNat_of_printable {s : String} (h : printable s = true) :
    s.toList ≠ [] ∧ ∀ c ∈ s.toList, 33 ≤ c.toNat ∧ c.toNat ≤ 126 := by
  rw [printable, toList_toByteArray] at h
  split at h
  · contradiction
  · next b bs heq =>
    have hall : ∀ b ∈ s.toList.flatMap String.utf8EncodeChar, isPrintable b = true := by
      rw [heq, ← List.all_eq_true, List.all_cons]
      exact h
    constructor
    · intro hnil
      rw [hnil] at heq
      contradiction
    · intro c hc
      obtain ⟨b, hb⟩ := List.exists_mem_of_ne_nil _ (String.utf8EncodeChar_ne_nil (c := c))
      have hprintable := hall b (List.mem_flatMap.mpr ⟨c, hc, hb⟩)
      simp only [isPrintable, Bool.and_eq_true, decide_eq_true_eq,
        UInt8.le_iff_toNat_le] at hprintable
      obtain ⟨hlow, hhigh⟩ := hprintable
      have hhigh : b.toNat ≤ 126 := hhigh
      rw [toNat_of_mem_utf8EncodeChar hb (by omega)]
      exact ⟨hlow, hhigh⟩

/-- The characters that the bytes of a text are. -/
def byteChars (s : String) : List Char := s.toByteArray.data.toList.map fun b => Char.ofNat b.toNat

/-- The bytes of such a text are its characters, so that names can be looked at byte by byte. -/
theorem byteChars_eq {s : String} (h : printable s = true) : byteChars s = s.toList := by
  have hchars := (toNat_of_printable h).2
  rw [byteChars, toList_toByteArray]
  generalize s.toList = cs at hchars
  induction cs with
  | nil => rfl
  | cons c cs ih =>
      obtain ⟨hc, hcs⟩ := List.forall_mem_cons.mp hchars
      have hbyte : c.toNat.toUInt8.toNat = c.toNat := Nat.mod_eq_of_lt (by omega)
      rw [List.flatMap_cons, List.map_append, ih hcs, utf8EncodeChar_of_lt (by omega),
        List.map_singleton, hbyte, Char.ofNat_toNat, List.singleton_append]

/-! ## names of zones -/

theorem zoneNames_printable : zoneNames.all printable = true := by decide +kernel

namespace ZoneName

/-- **Names of zones** are not empty and have no blanks. -/
theorem no_blank (z : ZoneName) : z.text.toList ≠ [] ∧ ∀ c ∈ z.text.toList, isBlank c = false := by
  have h := toNat_of_printable (List.all_eq_true.mp zoneNames_printable z.text z.listed)
  refine ⟨h.1, fun c hc => ?_⟩
  obtain ⟨hc, hc'⟩ := h.2 c hc
  exact isBlank_of_printable hc hc'

/-- A zone is found by its own name. -/
theorem ofText?_text (z : ZoneName) : ofText? z.text = some z := by
  rw [ofText?, dif_pos z.listed]

/-- Only the zone with a name is found by it. -/
theorem text_of_ofText? {s : String} {z : ZoneName} (h : ofText? s = some z) : z.text = s := by
  unfold ofText? at h
  split at h
  · rw [← Option.some.inj h]
  · contradiction

/-! ## names up to letter case -/

/-- A text as a number to base 256.  Up to forty characters the numbers are ordered as
the texts are, so that names nearly come in ascending order. -/
def rank (cs : List Char) : Nat :=
  cs.foldl (fun n c => n * 256 + c.toNat) 0 * 256 ^ (40 - cs.length)

/-- The number of a text in lower case. -/
def foldedRank (s : String) : Nat := rank (lower (byteChars s))

/-- In order, every number is above the one in front, which is quicker to see than that
all numbers differ. -/
theorem foldedRanks_ascending :
    ((zoneNames.map foldedRank).insertionSort (· ≤ ·)).IsChain (· < ·) := by decide +kernel

/-- No two names differ in the case of their letters only: their ranks ascend. -/
theorem nodup_foldedRanks : (zoneNames.map foldedRank).Nodup :=
  (List.perm_insertionSort (· ≤ ·) _).nodup_iff.mp
    (foldedRanks_ascending.pairwise.imp fun h => Nat.ne_of_lt h)

/-- **Names of zones differ in more than letter case.** -/
theorem eq_of_lower_eq {z z' : ZoneName} (h : lower z.text.toList = lower z'.text.toList) :
    z = z' := by
  have hrank (z : ZoneName) : foldedRank z.text = rank (lower z.text.toList) := by
    rw [foldedRank, byteChars_eq (List.all_eq_true.mp zoneNames_printable z.text z.listed)]
  have htext : z.text = z'.text :=
    List.inj_on_of_nodup_map nodup_foldedRanks z.listed z'.listed (by rw [hrank, hrank, h])
  obtain ⟨text, listed⟩ := z
  obtain ⟨text', listed'⟩ := z'
  obtain rfl : text = text' := htext
  rfl

end ZoneName

end Playbook
