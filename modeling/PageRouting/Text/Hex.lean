namespace PageRouting
namespace Text

/-!
Hexadecimal digits.  Reading accepts both cases; writing chooses one.
-/

/-- Value of a hexadecimal digit. -/
def hexValue? (c : Char) : Option Nat :=
  if '0' ≤ c ∧ c ≤ '9' then some (c.toNat - '0'.toNat)
  else if 'a' ≤ c ∧ c ≤ 'f' then some (c.toNat - 'a'.toNat + 10)
  else if 'A' ≤ c ∧ c ≤ 'F' then some (c.toNat - 'A'.toNat + 10)
  else none

/-- Number written by a nonempty sequence of hexadecimal digits. -/
def hexNumber? : List Char → Option Nat
  | [] => none
  | digits => digits.foldl (fun number c => do
      let n ← number
      let digit ← hexValue? c
      pure (16 * n + digit)) (some 0)

/-- The digit of a value below sixteen, in lower case. -/
def lowerHexDigit (value : Nat) : Char :=
  if value < 10 then Char.ofNat ('0'.toNat + value) else Char.ofNat ('a'.toNat + value - 10)

/-- The digit of a value below sixteen, in upper case. -/
def upperHexDigit (value : Nat) : Char :=
  if value < 10 then Char.ofNat ('0'.toNat + value) else Char.ofNat ('A'.toNat + value - 10)

theorem hexValue?_upperHexDigit :
    ∀ value, value < 16 → hexValue? (upperHexDigit value) = some value := by
  decide

end Text
end PageRouting
