import PageRouting.Number.Binary64

namespace PageRouting
namespace Number

/-!
The fewest decimal digits that read back as the same number.  Every number has
an interval of reals that round to it, with the ends included when its
significand is even.  On the decimal grid of each length the two neighbours of
the number are tried; the first grid with a neighbour in the interval is used,
and of two neighbours in the interval the nearer one is taken.
-/

/-- A positive decimal: `digits` times ten to the power of `scale`. -/
structure Decimal where
  digits : Nat
  scale : Int
deriving DecidableEq, Repr

namespace Binary64

/-- A quarter of the last binary place, counted in units in which a decimal of
the given scale becomes an integer as well. -/
private def quarterUnit (number : Binary64) (scale : Int) : Nat :=
  Nat.pow 2 (number.exponent - 2).toNat * Nat.pow 10 (-scale).toNat

private def decimalUnit (number : Binary64) (scale : Int) : Nat :=
  Nat.pow 10 scale.toNat * Nat.pow 2 (2 - number.exponent).toNat

/-- Whether a decimal with the given digits and scale reads back as the number. -/
def readsBack (number : Binary64) (digits : Nat) (scale : Int) : Bool :=
  let unit := quarterUnit number scale
  let value := digits * decimalUnit number scale
  let center := 4 * number.significand
  let below := if number.significand = Nat.pow 2 52 ∧ -1074 < number.exponent then 1 else 2
  let low := (center - below) * unit
  let high := (center + 2) * unit
  if number.significand % 2 = 0 then
    low ≤ value && value ≤ high
  else
    low < value && value < high

/-- Distance of a decimal from the number, in the units of `readsBack`. -/
private def distance (number : Binary64) (digits : Nat) (scale : Int) : Nat :=
  let center := 4 * number.significand * quarterUnit number scale
  let value := digits * decimalUnit number scale
  (center - value) + (value - center)

/-- The neighbour on the grid of the given scale that reads back, if one does. -/
def onGrid? (number : Binary64) (scale : Int) : Option Nat :=
  let lower :=
    4 * number.significand * quarterUnit number scale / decimalUnit number scale
  let upper := lower + 1
  match readsBack number lower scale, readsBack number upper scale with
  | true, true =>
      if distance number upper scale < distance number lower scale then some upper
      else if distance number upper scale = distance number lower scale ∧ lower % 2 = 1 then
        some upper
      else some lower
  | true, false => some lower
  | false, true => some upper
  | false, false => none

/-- A power of ten above every digit of a nonzero number. -/
private def leadingScale (number : Binary64) : Int :=
  let bits : Int := number.exponent + Nat.log2 number.significand
  bits * 30103 / 100000 + 2

/-- The first grid, from coarse to fine, on which a neighbour reads back. -/
private def search (number : Binary64) : Nat → Int → Decimal
  | 0, scale => ⟨0, scale⟩
  | steps + 1, scale =>
      match onGrid? number scale with
      | some (digits + 1) => ⟨digits + 1, scale⟩
      | _ => search number steps (scale - 1)

/-- Digits of a nonzero number. -/
def shortest (number : Binary64) : Decimal :=
  search number 24 (leadingScale number)

end Binary64

end Number
end PageRouting
