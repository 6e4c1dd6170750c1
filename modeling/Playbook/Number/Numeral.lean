import Playbook.Number.Shortest
import Playbook.Text

/-!
# Playbook.Number.Numeral

Decimal numerals taken apart: a sign, digits, a fraction, an exponent.  Each
format that contains numerals says which of them it admits, and how it computes
their values: `toFloat` is the nearest binary64 number.
-/

namespace Playbook.Number

/-- The sign in front of a numeral or of an exponent. -/
inductive Sign where
  | absent
  | plus
  | minus
deriving DecidableEq

/-- The parts of a numeral. -/
structure Numeral where
  sign : Sign
  whole : List Char
  fraction : Option (List Char)
  exponent : Option (Sign × List Char)

namespace Numeral

/-- Split off a sign. -/
def takeSign : List Char → Sign × List Char
  | '+' :: rest => (.plus, rest)
  | '-' :: rest => (.minus, rest)
  | rest => (.absent, rest)

/-- Split off the digits in front. -/
def takeDigits (s : List Char) : List Char × List Char := s.span Char.isDigit

/-- Split off a point and the digits behind it. -/
def takeFraction : List Char → Option (List Char) × List Char
  | '.' :: rest => let (ds, rest) := takeDigits rest; (some ds, rest)
  | rest => (none, rest)

/-- Split off an exponent. -/
def takeExponent : List Char → Option (Sign × List Char) × List Char
  | c :: rest =>
    if c = 'e' ∨ c = 'E' then
      let (sign, rest) := takeSign rest
      let (ds, rest) := takeDigits rest
      (some (sign, ds), rest)
    else (none, c :: rest)
  | [] => (none, [])

/-- Take a text apart that is a numeral as a whole.  An exponent has digits;
the other digits may be missing. -/
def read (s : List Char) : Option Numeral :=
  let (sign, rest) := takeSign s
  let (whole, rest) := takeDigits rest
  let (fraction, rest) := takeFraction rest
  let (exponent, rest) := takeExponent rest
  match exponent, rest with
  | some (_, []), _ => none
  | _, _ :: _ => none
  | _, [] => some { sign, whole, fraction, exponent }

/-- Whether the numeral has neither a fraction nor an exponent. -/
def isInteger (n : Numeral) : Bool := n.fraction.isNone && n.exponent.isNone

/-- The power of ten that an exponent names. -/
def power (n : Numeral) : Int :=
  match n.exponent with
  | none => 0
  | some (.minus, ds) => -(Text.value ds : Int)
  | some (_, ds) => Text.value ds

/-- The decimal that a numeral names, without its sign. -/
def decimal (n : Numeral) : Decimal :=
  let fraction := n.fraction.getD []
  ⟨Text.value (n.whole ++ fraction), n.power - fraction.length⟩

/-- Put the sign of a numeral in front of a number. -/
def signed (n : Numeral) (x : Float) : Float := if n.sign = .minus then -x else x

/-- The binary64 number nearest to a numeral.  The sign of zero is kept. -/
def toFloat (n : Numeral) : Float := n.signed n.decimal.toFloat

end Numeral

/-- Read a number as it is given on a command line: a numeral with a digit on
at least one side of the point, or the name of an infinity or of NaN. -/
def readFree (s : List Char) : Option Float :=
  let (sign, rest) := Numeral.takeSign s
  let signed (x : Float) := if sign = .minus then -x else x
  let name := rest.map Char.toLower
  if name = "nan".toList then some (signed (0.0 / 0.0))
  else if name = "inf".toList ∨ name = "infinity".toList then some (signed (1.0 / 0.0))
  else
    match Numeral.read s with
    | some n => if n.whole = [] ∧ n.fraction.getD [] = [] then none else some n.toFloat
    | none => none

end Playbook.Number
