import Playbook.Number.Shortest
import Playbook.Text

/-!
# Playbook.Number.Layout

The text of a binary64 number.  The digits are the fewest that identify it;
a `Layout` says how they are laid out.

* `document` is the layout of numbers in JSON: positional from `10 ^ -5` up
  to below `10 ^ 16`, always with a fraction, otherwise scientific;
* `message` is the layout of numbers in sentences: always positional, and a
  whole number has no fraction.

Amounts of money are written with a fixed number of places instead.
-/

namespace Playbook.Number

/-- The decisions of a layout. -/
structure Layout where
  /-- Whether a first digit at this power of ten is written positionally. -/
  positional : Int → Bool
  /-- Whether a whole number gets the fraction `.0`. -/
  wholeFraction : Bool
  tie : Tie
  notANumber : List Char
  infinity : List Char
  negativeInfinity : List Char

namespace Layout

/-- Numbers in a document. -/
def document : Layout where
  positional e := -5 ≤ e && e ≤ 15
  wholeFraction := true
  tie := .toEven
  notANumber := "null".toList
  infinity := "null".toList
  negativeInfinity := "null".toList

/-- Numbers in a message. -/
def message : Layout where
  positional _ := true
  wholeFraction := false
  tie := .up
  notANumber := "NaN".toList
  infinity := "inf".toList
  negativeInfinity := "-inf".toList

/-- Digits in front of the point and behind it, for digits whose first one
stands at the power `order` of ten. -/
def split (ds : List Char) (order : Int) : List Char × List Char :=
  if order < 0 then
    (['0'], List.replicate (-order - 1).toNat '0' ++ ds)
  else
    let n := order.toNat + 1
    (ds.take n ++ List.replicate (n - ds.length) '0', ds.drop n)

/-- Join a whole part and a fraction. -/
def joined (layout : Layout) : List Char × List Char → List Char
  | (whole, []) => if layout.wholeFraction then whole ++ ['.', '0'] else whole
  | (whole, fraction) => whole ++ '.' :: fraction

/-- A power of ten; its sign is always written. -/
def power (e : Int) : List Char :=
  'e' :: (if e < 0 then '-' else '+') :: Text.decimal e.natAbs

/-- Lay out a decimal. -/
def decimal (layout : Layout) (d : Decimal) : List Char :=
  if layout.positional d.order then layout.joined (split d.digits d.order)
  else
    match d.digits with
    | [] => []
    | [c] => c :: power d.order
    | c :: cs => c :: '.' :: cs ++ power d.order

/-- The text of a number. -/
def render (layout : Layout) (x : Float) : List Char :=
  match Exact.ofFloat? x with
  | none =>
    if x.isNaN then layout.notANumber
    else if x < 0.0 then layout.negativeInfinity
    else layout.infinity
  | some v =>
    let body := layout.decimal (if v.mantissa = 0 then ⟨0, 0⟩ else shortest layout.tie v x.abs)
    if v.negative then '-' :: body else body

end Layout

/-! ## Fixed places -/

/-- A quotient of natural numbers rounded to the nearest, a half to the even
neighbour. -/
def roundDiv (n d : Nat) : Nat :=
  let q := n / d
  let r := n % d
  if 2 * r < d then q
  else if d < 2 * r then q + 1
  else q + q % 2

/-- A finite number with `places` digits behind the point. -/
def fixed (places : Nat) (x : Float) : List Char :=
  match Exact.ofFloat? x with
  | none => Layout.message.render x
  | some v =>
    let unit := Nat.pow 10 places
    let n := roundDiv (v.numerator * unit) v.denominator
    let body := Text.decimal (n / unit) ++
      (if places = 0 then [] else '.' :: Text.padded places (n % unit))
    if v.negative then '-' :: body else body

end Playbook.Number
