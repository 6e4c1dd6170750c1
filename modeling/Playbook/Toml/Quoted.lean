import Playbook.Text

/-!
# Playbook.Toml.Quoted

The characters of TOML documents, and texts in quotes.

* `takeBasic` and `takeLiteral` read a text on one line, with and without
  escapes;
* `takeLongBasic` and `takeLongLiteral` read a text between three quotes, which
  may have several lines.

All four start behind the opening quotes and give back what follows the closing
ones.
-/

namespace Playbook.Toml

/-! ## Characters -/

/-- The blanks inside a line. -/
def isGap (c : Char) : Bool := c = ' ' || c = '\t'

/-- Drop blanks in front. -/
def skip (s : List Char) : List Char := s.dropWhile isGap

/-- Whether a character may stand in a text or a comment. -/
def isPrintable (c : Char) : Bool := c = '\t' || (0x20 ≤ c.toNat && c.toNat ≠ 0x7F)

/-- Drop one end of a line in front: a line feed, with a carriage return or
without. -/
def takeBreak : List Char → Option (List Char)
  | '\n' :: rest => some rest
  | '\r' :: '\n' :: rest => some rest
  | _ => none

/-- Put characters in front of a text that was read. -/
def inFront (cs : List Char) (s : List Char × List Char) : List Char × List Char :=
  (cs ++ s.1, s.2)

/-! ## Escapes -/

/-- The character that an escape of one letter stands for. -/
def shortEscape : Char → Option Char
  | 'b' => some '\x08'
  | 't' => some '\t'
  | 'n' => some '\n'
  | 'f' => some '\x0c'
  | 'r' => some '\r'
  | '"' => some '"'
  | '\\' => some '\\'
  | _ => none

/-- The character with a code point. -/
def character (n : Nat) : Option Char := if n.isValidChar then some (Char.ofNat n) else none

/-- The character with a code point in four digits. -/
def shortCode (a b c d : Char) : Option Char := (Text.hexQuad a b c d).bind character

/-- The character with a code point in eight digits. -/
def longCode (a b c d e f g h : Char) : Option Char := do
  let high ← Text.hexQuad a b c d
  let low ← Text.hexQuad e f g h
  character (high * 0x10000 + low)

/-! ## Texts on one line -/

/-- Read up to the closing quote of a text with escapes. -/
def takeBasic : List Char → Option (List Char × List Char)
  | [] => none
  | '"' :: rest => some ([], rest)
  | '\\' :: 'u' :: a :: b :: c :: d :: rest =>
    (shortCode a b c d).bind fun x => (takeBasic rest).map (inFront [x])
  | '\\' :: 'U' :: a :: b :: c :: d :: e :: f :: g :: h :: rest =>
    (longCode a b c d e f g h).bind fun x => (takeBasic rest).map (inFront [x])
  | '\\' :: e :: rest => (shortEscape e).bind fun x => (takeBasic rest).map (inFront [x])
  | c :: rest => if isPrintable c then (takeBasic rest).map (inFront [c]) else none

/-- Read up to the closing apostrophe of a text without escapes. -/
def takeLiteral : List Char → Option (List Char × List Char)
  | [] => none
  | '\'' :: rest => some ([], rest)
  | c :: rest => if isPrintable c then (takeLiteral rest).map (inFront [c]) else none

/-! ## Texts on several lines -/

/-- What follows three quotes: up to two more quotes in front of the closing
ones belong to the text. -/
def closeLong (quote : Char) (s : List Char) : List Char × List Char :=
  let extra := (s.take 2).takeWhile (· = quote)
  (extra, s.drop extra.length)

/-- Whether nothing but blanks is left of a line that does not end the text. -/
def isBroken (s : List Char) : Bool := (takeBreak (skip s)).isSome

/-- Read up to the closing quotes of a long text with escapes.  While `joining`,
blanks and ends of lines are left out: a backslash at the end of a line joins it
to what follows. -/
def takeLongBasic (joining : Bool) : List Char → Option (List Char × List Char)
  | [] => none
  | '"' :: '"' :: '"' :: rest => some (closeLong '"' rest)
  | '\\' :: 'u' :: a :: b :: c :: d :: rest =>
    (shortCode a b c d).bind fun x => (takeLongBasic false rest).map (inFront [x])
  | '\\' :: 'U' :: a :: b :: c :: d :: e :: f :: g :: h :: rest =>
    (longCode a b c d e f g h).bind fun x => (takeLongBasic false rest).map (inFront [x])
  | '\\' :: e :: rest =>
    if isBroken (e :: rest) then takeLongBasic true (e :: rest)
    else (shortEscape e).bind fun x => (takeLongBasic false rest).map (inFront [x])
  | '\r' :: '\n' :: rest =>
    if joining then takeLongBasic true rest else (takeLongBasic false rest).map (inFront ['\n'])
  | c :: rest =>
    if joining ∧ (isGap c ∨ c = '\n') then takeLongBasic true rest
    else if isPrintable c ∨ c = '\n' then (takeLongBasic false rest).map (inFront [c])
    else none

/-- Read up to the closing apostrophes of a long text without escapes. -/
def takeLongLiteral : List Char → Option (List Char × List Char)
  | [] => none
  | '\'' :: '\'' :: '\'' :: rest => some (closeLong '\'' rest)
  | '\r' :: '\n' :: rest => (takeLongLiteral rest).map (inFront ['\n'])
  | c :: rest =>
    if isPrintable c ∨ c = '\n' then (takeLongLiteral rest).map (inFront [c]) else none

/-- Read a text in quotes.  An end of a line right behind three opening quotes is
no part of the text. -/
def takeText : List Char → Option (List Char × List Char)
  | '"' :: '"' :: '"' :: rest => takeLongBasic false ((takeBreak rest).getD rest)
  | '"' :: rest => takeBasic rest
  | '\'' :: '\'' :: '\'' :: rest => takeLongLiteral ((takeBreak rest).getD rest)
  | '\'' :: rest => takeLiteral rest
  | _ => none

end Playbook.Toml
