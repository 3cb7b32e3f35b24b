import PageRouting.Number.Shortest

namespace PageRouting
namespace Number

/-!
The decimal text of a number.  Between one hundred-thousandth and ten to the
sixteenth power the notation is positional and always shows a point; outside,
it is a mantissa with a signed exponent.  Zero keeps its sign.
-/

namespace Binary64

private def zeros (count : Nat) : List Char :=
  List.replicate count '0'

/-- Positional notation of digits whose last stands at the given power of ten. -/
def positional (digits : List Char) (scale : Int) : List Char :=
  if 0 ≤ scale then
    digits ++ zeros scale.toNat ++ ['.', '0']
  else
    let places := (-scale).toNat
    if digits.length ≤ places then
      ['0', '.'] ++ zeros (places - digits.length) ++ digits
    else
      digits.take (digits.length - places) ++ '.' :: digits.drop (digits.length - places)

/-- Mantissa with one digit before the point, and a signed exponent. -/
def scientific (digits : List Char) (exponent : Int) : List Char :=
  let mantissa :=
    match digits with
    | first :: second :: rest => first :: '.' :: second :: rest
    | digits => digits
  let sign := if exponent < 0 then '-' else '+'
  mantissa ++ 'e' :: sign :: Nat.toDigits 10 exponent.natAbs

def magnitudeText (number : Binary64) : List Char :=
  if number.isZero then
    ['0', '.', '0']
  else
    let decimal := number.shortest
    let digits := Nat.toDigits 10 decimal.digits
    let exponent := decimal.scale + digits.length - 1
    if -5 ≤ exponent ∧ exponent < 16 then
      positional digits decimal.scale
    else
      scientific digits exponent

def text (number : Binary64) : String :=
  String.ofList (if number.negative then '-' :: number.magnitudeText else number.magnitudeText)

end Binary64

end Number
end PageRouting
