import Playbook.Text

/-!
# Playbook.Json.Token

The tokens of a JSON text.  Numbers and strings are kept as they are written:
what a literal stands for is decided where it is used, so that a part of a
text that nobody reads need not have a value.

* `scan` cuts a text into tokens; it fails on a character that starts none,
  on a string that is not closed, and on an escape of unknown form.
-/

namespace Playbook.Json

/-- A token.  A string is kept without its quotes, escapes unresolved. -/
inductive Token where
  | openBrace
  | closeBrace
  | openBracket
  | closeBracket
  | comma
  | colon
  | word (letters : List Char)
  | number (literal : List Char)
  | string (body : List Char)

namespace Token

/-- The blanks of JSON are four, whatever else is blank elsewhere. -/
def isSpace (c : Char) : Bool := c = ' ' || c = '\t' || c = '\n' || c = '\r'

/-- The token that one character is. -/
def punctuation : Char → Option Token
  | '\x7b' => some .openBrace
  | '\x7d' => some .closeBrace
  | '[' => some .openBracket
  | ']' => some .closeBracket
  | ',' => some .comma
  | ':' => some .colon
  | _ => none

/-- The characters that numbers consist of. -/
def inNumber (c : Char) : Bool :=
  c.isDigit || c = '-' || c = '+' || c = '.' || c = 'e' || c = 'E'

/-- The character that may follow a backslash, other than the one that starts
a code point. -/
def isShortEscape (c : Char) : Bool := "\"\\/bfnrt".toList.contains c

/-- Put characters in front of the first of two texts. -/
def inFront (cs : List Char) (s : List Char × List Char) : List Char × List Char :=
  (cs ++ s.1, s.2)

/-- Split a text behind an opening quote at the closing quote.  A control
character has to be escaped. -/
def takeBody : List Char → Option (List Char × List Char)
  | [] => none
  | '"' :: rest => some ([], rest)
  | '\\' :: 'u' :: a :: b :: c :: d :: rest =>
    if (Text.hexQuad a b c d).isSome then (takeBody rest).map (inFront ['\\', 'u', a, b, c, d])
    else none
  | '\\' :: e :: rest =>
    if isShortEscape e then (takeBody rest).map (inFront ['\\', e]) else none
  | c :: rest =>
    if c.toNat < 0x20 ∨ c = '\\' then none else (takeBody rest).map (inFront [c])

/-- What stands in front of the first text does not change the second. -/
private theorem eq_of_map_inFront {r : Option (List Char × List Char)} {cs body rest : List Char}
    (h : r.map (inFront cs) = some (body, rest)) : ∃ b, r = some (b, rest) ∧ body = cs ++ b := by
  obtain ⟨⟨b, tail⟩, hr, he⟩ := Option.map_eq_some_iff.1 h
  obtain ⟨rfl, rfl⟩ := Prod.mk.inj he
  exact ⟨b, hr, rfl⟩

/-- What is left behind a string is not longer than the text. -/
theorem length_le_of_takeBody {s body rest : List Char} (h : takeBody s = some (body, rest)) :
    rest.length ≤ s.length := by
  fun_induction takeBody s generalizing body rest with
  | case1 | case4 | case6 | case7 => simp at h
  | case2 => simp_all
  | case3 _ _ _ _ tail _ ih =>
    obtain ⟨b, hb, -⟩ := eq_of_map_inFront h
    exact Nat.le_add_right_of_le (k := 6) (ih hb)
  | case5 _ tail _ _ ih =>
    obtain ⟨b, hb, -⟩ := eq_of_map_inFront h
    exact Nat.le_add_right_of_le (k := 2) (ih hb)
  | case8 _ tail _ _ _ _ ih =>
    obtain ⟨b, hb, -⟩ := eq_of_map_inFront h
    exact Nat.le_succ_of_le (ih hb)

/-- Cut a text into tokens. -/
def scan : List Char → Option (List Token)
  | [] => some []
  | c :: rest =>
    if isSpace c then scan rest
    else
      match punctuation c with
      | some t => (scan rest).map (t :: ·)
      | none =>
        if c = '"' then
          match h : takeBody rest with
          | some (body, tail) =>
            have := length_le_of_takeBody h
            (scan tail).map (.string body :: ·)
          | none => none
        else if inNumber c then
          have := (rest.dropWhile_suffix inNumber).length_le
          (scan (rest.dropWhile inNumber)).map (.number (c :: rest.takeWhile inNumber) :: ·)
        else if c.isLower then
          have := (rest.dropWhile_suffix Char.isLower).length_le
          (scan (rest.dropWhile Char.isLower)).map (.word (c :: rest.takeWhile Char.isLower) :: ·)
        else none
termination_by s => s.length

end Token

end Playbook.Json
