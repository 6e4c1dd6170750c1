import Playbook.Number.Numeral
import Playbook.Time.Clock
import Playbook.Toml.Value

/-!
# Playbook.Toml.Scalar

Values that are written without quotes and brackets: truth values, numbers,
dates and clock times.

Underscores may stand between two digits.  Integers have 64 bits; they are
decimal, or have one of the signs `0x`, `0o` and `0b` in front.
-/

namespace Playbook.Toml

open Number (Numeral)
open Time (Clock Civil Date)

/-! ## Numbers -/

/-- Whether every underscore stands between two digits of some kind. -/
def underscoresInside (isDigit : Char → Bool) : List Char → Bool
  | '_' :: _ => false
  | [_, '_'] => false
  | a :: '_' :: b :: rest => isDigit a && isDigit b && underscoresInside isDigit (b :: rest)
  | _ :: rest => underscoresInside isDigit rest
  | [] => true

/-- An integer, if it fits into 64 bits. -/
def integer? (n : Int) : Option Toml :=
  if -0x8000000000000000 ≤ n ∧ n < 0x8000000000000000 then some (.integer n) else none

/-- An integer in a base of at most sixteen. -/
def inBase? (base : Nat) (s : List Char) : Option Toml :=
  let isDigit (c : Char) := (Text.hexDigit c).any (· < base)
  let digits := s.filter (· ≠ '_')
  if digits ≠ [] ∧ underscoresInside isDigit s ∧ digits.all isDigit then
    integer? (digits.foldl (fun n c => n * base + (Text.hexDigit c).getD 0) 0 : Nat)
  else none

/-- Whether a whole part has digits, and no zero in front of another one. -/
def isWholePart (ds : List Char) : Bool :=
  ds ≠ [] && (ds.head? ≠ some '0' || ds.length = 1)

/-- A decimal number.  One that is too large for binary64 is no number, unless
it has a minus sign. -/
def decimal? (s : List Char) : Option Toml :=
  if underscoresInside Char.isDigit s then
    (Numeral.read (s.filter (· ≠ '_'))).bind fun n =>
      if !isWholePart n.whole || n.fraction = some [] then none
      else if n.isInteger then
        let v : Int := Text.value n.whole
        integer? (if n.sign = .minus then -v else v)
      else if n.toFloat == 1.0 / 0.0 then none
      else some (.real n.toFloat)
  else none

/-- An infinity or a NaN. -/
def special? (s : List Char) : Option Toml :=
  let (_, name) := Numeral.takeSign s
  if name = "inf".toList ∨ name = "nan".toList then (Number.readFree s).map .real else none

/-- A number. -/
def number? : List Char → Option Toml
  | '0' :: 'x' :: ds => inBase? 16 ds
  | '0' :: 'o' :: ds => inBase? 8 ds
  | '0' :: 'b' :: ds => inBase? 2 ds
  | s => special? s <|> decimal? s

/-! ## Dates and clock times -/

/-- Whether a text is a date. -/
def isDate : List Char → Bool
  | [a, b, c, d, '-', e, f, '-', g, h] =>
    [a, b, c, d, e, f, g, h].all Char.isDigit &&
      (Date.ofCivil? ⟨Text.value [a, b, c, d], Text.value [e, f], Text.value [g, h]⟩).isSome
  | _ => false

/-- Drop a fraction of a second. -/
def dropFraction : List Char → List Char
  | '.' :: c :: rest => if c.isDigit then rest.dropWhile Char.isDigit else '.' :: c :: rest
  | s => s

/-- The rest behind a clock time, if there is one in front. -/
def dropTime : List Char → Option (List Char)
  | a :: b :: ':' :: c :: d :: ':' :: e :: f :: rest =>
    if [a, b, c, d, e, f].all Char.isDigit ∧
        (Clock.ofParts? (Text.value [a, b]) (Text.value [c, d]) (Text.value [e, f])).isSome then
      some (dropFraction rest)
    else none
  | _ => none

/-- Whether a text is a distance from universal time, or empty. -/
def isOffset : List Char → Bool
  | [] => true
  | [c] => c = 'Z' || c = 'z'
  | [sign, a, b, ':', c, d] =>
    (sign = '+' || sign = '-') && [a, b, c, d].all Char.isDigit
      && (Clock.ofParts? (Text.value [a, b]) (Text.value [c, d]) 0).isSome
  | _ => false

/-- Whether a text is a clock time that may follow a date. -/
def isTimeOfDate (s : List Char) : Bool := (dropTime s).any isOffset

/-- Whether a text is a date, a clock time, or both with a letter between them. -/
def isMoment (s : List Char) : Bool :=
  isDate s || dropTime s = some [] ||
    match s.drop 10 with
    | c :: time => isDate (s.take 10) && (c = 'T' || c = 't') && isTimeOfDate time
    | [] => false

/-! ## Words -/

/-- Whether a character belongs to a word. -/
def inWord (c : Char) : Bool := !(" \t\n\r#,]\x7d".toList.contains c)

/-- The value that a word stands for. -/
def word? (s : List Char) : Option Toml :=
  if s = "true".toList then some (.bool true)
  else if s = "false".toList then some (.bool false)
  else if isMoment s then some .moment
  else number? s

/-- Read a value without quotes and brackets.  Between a date and a clock time
there may be a blank. -/
def takeWord (s : List Char) : Option (Toml × List Char) :=
  let (word, rest) := s.span inWord
  match rest with
  | ' ' :: more =>
    let (time, tail) := more.span inWord
    if isDate word ∧ isTimeOfDate time then some (.moment, tail)
    else (word? word).map fun v => (v, rest)
  | _ => (word? word).map fun v => (v, rest)

end Playbook.Toml
