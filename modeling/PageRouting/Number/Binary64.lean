namespace PageRouting
namespace Number

/-!
Finite binary numbers with 53 significant bits.  The nonnegative ones are
counted from zero upwards, and a number is kept as its sign and the place of its
magnitude in that count.  Rounding upwards past a power of two is then a step to
the next place like any other, and a magnitude too large to be represented is
one whose place lies beyond the last.
-/

/-- Number of representable magnitudes. -/
def magnitudeCount : Nat := 2047 * Nat.pow 2 52

structure Binary64 where
  negative : Bool
  rank : Nat
  rank_lt : rank < magnitudeCount
deriving DecidableEq, Repr

namespace Binary64

def zero (negative : Bool) : Binary64 where
  negative := negative
  rank := 0
  rank_lt := by decide

def isZero (number : Binary64) : Bool :=
  number.rank == 0

/-- Numerical equality: the two zeros are equal, and other numbers are equal
only to themselves. -/
def same (left right : Binary64) : Bool :=
  (left.isZero && right.isZero) || left == right

/-- Integer part of the magnitude's binary form, with the exponent beside it:
the magnitude is `significand` times two to the power of `exponent`. -/
def significand (number : Binary64) : Nat :=
  if number.rank < Nat.pow 2 52 then number.rank else Nat.pow 2 52 + number.rank % Nat.pow 2 52

def exponent (number : Binary64) : Int :=
  (max (number.rank / Nat.pow 2 52) 1 : Nat) - 1075

/-- Nearest integer to a quotient; a half goes to the even neighbour. -/
def roundedQuotient (numerator denominator : Nat) : Nat :=
  let quotient := numerator / denominator
  let remainder := numerator % denominator
  if 2 * remainder < denominator then quotient
  else if 2 * remainder = denominator ∧ quotient % 2 = 0 then quotient
  else quotient + 1

/-- The power of two to which a positive quotient is rounded: the one that
leaves 53 bits, but never below the smallest available. -/
def roundingExponent (numerator denominator : Nat) : Int :=
  let estimate : Int := (Nat.log2 numerator : Int) - Nat.log2 denominator - 53
  let exact :=
    if denominator * Nat.pow 2 (53 + estimate).toNat ≤
        numerator * Nat.pow 2 (-(53 + estimate)).toNat then
      estimate + 1
    else
      estimate
  max (-1074) exact

/-- Nearest number to a quotient, or nothing if that would exceed the largest. -/
def ofQuotient? (negative : Bool) (numerator denominator : Nat) : Option Binary64 :=
  if numerator = 0 then
    some (zero negative)
  else
    let power := roundingExponent numerator denominator
    let rounded :=
      roundedQuotient (numerator * Nat.pow 2 (-power).toNat) (denominator * Nat.pow 2 power.toNat)
    let rank := (power + 1074).toNat * Nat.pow 2 52 + rounded
    if inRange : rank < magnitudeCount then
      some ⟨negative, rank, inRange⟩
    else
      none

/-- Nearest number to `digits` times ten to the power of `scale`.  A scale far
outside the representable range is decided without computing the power. -/
def ofDecimal? (negative : Bool) (digits : Nat) (scale : Int) : Option Binary64 :=
  if digits = 0 then
    some (zero negative)
  else
    let magnitude := scale + (Nat.toDigits 10 digits).length
    if 400 < magnitude then none
    else if magnitude < -400 then some (zero negative)
    else if 0 ≤ scale then ofQuotient? negative (digits * Nat.pow 10 scale.toNat) 1
    else ofQuotient? negative digits (Nat.pow 10 (-scale).toNat)

end Binary64

end Number
end PageRouting
