import PageRouting.Number.Notation

namespace PageRouting
namespace Json

/-!
Numbers of structured values.  An integer and a finite binary number are
different numbers even when they have the same magnitude: which of the two a
value holds is decided by how it was written and is kept from then on.
-/

inductive Number where
  | integer (value : Int)
  | binary (value : PageRouting.Number.Binary64)
deriving DecidableEq, Repr

namespace Number

/-- Equality of numbers: within a kind, and with the two binary zeros equal. -/
def same : Number → Number → Bool
  | .integer left, .integer right => left == right
  | .binary left, .binary right => left.same right
  | _, _ => false

def text : Number → String
  | .integer value =>
      if value < 0 then
        String.ofList ('-' :: Nat.toDigits 10 value.natAbs)
      else
        String.ofList (Nat.toDigits 10 value.natAbs)
  | .binary value => value.text

theorem same_refl (number : Number) : number.same number = true := by
  cases number <;> simp [same, PageRouting.Number.Binary64.same]

end Number

end Json
end PageRouting
