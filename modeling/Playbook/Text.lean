/-!
# Playbook.Text

Characters and numerals.  All functions work on `List Char`, so that the lemmas
about lists apply to them.

* Blank characters (the Unicode property `White_Space`), trimming, and the words
  of a text.
* Letter case is folded for ASCII letters only: names of contracts and of time
  zones are ASCII, and `Char.toLower` changes nothing else.
* Natural numbers are written and read in decimal and hexadecimal: `decimal`
  writes without leading zeros, `padded` with at least a given width; `value`
  reads a run of ASCII digits, `numberUpTo` at most so many of them at the front
  of a text.
-/

namespace Playbook.Text

/-! ## Blank characters -/

/-- The inclusive ranges of code points with the property `White_Space`. -/
def blankRanges : List (Nat × Nat) :=
  [(0x09, 0x0D), (0x20, 0x20), (0x85, 0x85), (0xA0, 0xA0), (0x1680, 0x1680),
    (0x2000, 0x200A), (0x2028, 0x2029), (0x202F, 0x202F), (0x205F, 0x205F), (0x3000, 0x3000)]

/-- Whether a character is blank. -/
def isBlank (c : Char) : Bool :=
  blankRanges.any fun r => r.1 ≤ c.toNat && c.toNat ≤ r.2

/-! ## Trimming -/

/-- Drop the blanks in front. -/
def trimStart (s : List Char) : List Char := s.dropWhile isBlank

/-- Drop the blanks at the end. -/
def trimEnd (s : List Char) : List Char := (s.reverse.dropWhile isBlank).reverse

/-- Drop the blanks at both ends. -/
def trim (s : List Char) : List Char := trimEnd (trimStart s)

/-! ## Words -/

/-- The maximal runs of characters that are not blank, in order. -/
def words (s : List Char) : List (List Char) :=
  (s.splitOnP isBlank).filter fun w => !w.isEmpty

/-! ## Letter case -/

/-- Lower-case ASCII letters; all other characters stay. -/
def lower (s : List Char) : List Char := s.map Char.toLower

/-- Equality up to the case of ASCII letters. -/
def sameFolded (s t : List Char) : Bool := lower s == lower t

/-! ## Numerals written -/

/-- The decimal digits of `n`, without leading zeros. -/
def decimal (n : Nat) : List Char := Nat.toDigits 10 n

/-- The decimal digits of `n`, filled up with zeros in front to `width`. -/
def padded (width n : Nat) : List Char :=
  List.replicate (width - (decimal n).length) '0' ++ decimal n

/-- The decimal digits of an integer, with a sign if it is negative. -/
def decimalInt : Int → List Char
  | .ofNat n => decimal n
  | .negSucc n => '-' :: decimal (n + 1)

/-! ## Numerals read -/

/-- The value of a run of decimal digits. -/
def value (ds : List Char) : Nat := Nat.ofDigitChars 10 ds 0

/-- The longest run of digits in front, cut at `most` digits, and the rest. -/
def digitsUpTo : Nat → List Char → List Char × List Char
  | most + 1, c :: rest =>
    if c.isDigit then
      let (ds, tail) := digitsUpTo most rest
      (c :: ds, tail)
    else ([], c :: rest)
  | _, rest => ([], rest)

/-- Read one to `most` digits in front. -/
def numberUpTo (most : Nat) (s : List Char) : Option (Nat × List Char) :=
  match digitsUpTo most s with
  | ([], _) => none
  | (ds, rest) => some (value ds, rest)

/-- Read a numeral that is the whole text: digits only, at least one, and no
zero in front of another digit. -/
def plainNumeral (s : List Char) : Option Nat :=
  match s with
  | ['0'] => some 0
  | '0' :: _ => none
  | [] => none
  | _ => if s.all Char.isDigit then some (value s) else none

/-! ## Hexadecimal digits -/

/-- The value of one hexadecimal digit, in either case. -/
def hexDigit (c : Char) : Option Nat :=
  if c.isDigit then some (c.toNat - 48)
  else if 'a' ≤ c ∧ c ≤ 'f' then some (c.toNat - 87)
  else if 'A' ≤ c ∧ c ≤ 'F' then some (c.toNat - 55)
  else none

/-- The value of four hexadecimal digits. -/
def hexQuad (a b c d : Char) : Option Nat := do
  let a ← hexDigit a
  let b ← hexDigit b
  let c ← hexDigit c
  let d ← hexDigit d
  return ((a * 16 + b) * 16 + c) * 16 + d

/-- A byte as two lower-case hexadecimal digits. -/
def hexByte (b : UInt8) : List Char :=
  [Nat.digitChar (b.toNat / 16), Nat.digitChar (b.toNat % 16)]

end Playbook.Text
