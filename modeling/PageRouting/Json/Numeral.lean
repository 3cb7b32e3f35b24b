import PageRouting.Json.Number

namespace PageRouting
namespace Json

/-!
Numerals as they are written.  A numeral without a fraction and without an
exponent denotes an integer if that fits into 64 bits, with a sign bit if it is
negative and without one otherwise.  Every other numeral denotes the nearest
binary number, and so does a zero with a minus sign, since only a binary zero
has a sign.
-/

structure Numeral where
  negative : Bool
  whole : List Char
  fraction : List Char
  exponent : Option Int
deriving DecidableEq, Repr

namespace Numeral

def isDigit (c : Char) : Bool :=
  '0' ≤ c && c ≤ '9'

/-- A sequence of digits as long as possible, but not empty. -/
def readDigits? (text : List Char) : Option (List Char × List Char) :=
  if (text.takeWhile isDigit).isEmpty then
    none
  else
    some (text.takeWhile isDigit, text.dropWhile isDigit)

/-- Whether there is a minus sign, and what follows. -/
def readMinus : List Char → Bool × List Char
  | '-' :: rest => (true, rest)
  | text => (false, text)

/-- The part before the point.  Nothing can follow a zero in it. -/
def readWhole? : List Char → Option (List Char × List Char)
  | '0' :: rest => some (['0'], rest)
  | text => readDigits? text

def readFraction? : List Char → Option (List Char × List Char)
  | '.' :: rest => readDigits? rest
  | text => some ([], text)

/-- Number denoted by a sequence of digits. -/
def digitsValue (digits : List Char) : Nat :=
  digits.foldl (fun value c => 10 * value + (c.toNat - '0'.toNat)) 0

/-- The digits of an exponent, behind its letter. -/
def readScale? : List Char → Option (Int × List Char)
  | '-' :: rest => (readDigits? rest).map fun (digits, rest) => (-(digitsValue digits : Int), rest)
  | '+' :: rest => (readDigits? rest).map fun (digits, rest) => (digitsValue digits, rest)
  | text => (readDigits? text).map fun (digits, rest) => (digitsValue digits, rest)

def readExponent? : List Char → Option (Option Int × List Char)
  | 'e' :: rest => (readScale? rest).map fun (scale, rest) => (some scale, rest)
  | 'E' :: rest => (readScale? rest).map fun (scale, rest) => (some scale, rest)
  | text => some (none, text)

/-- The numeral at the beginning of a text, and what follows. -/
def read? (text : List Char) : Option (Numeral × List Char) :=
  match readWhole? (readMinus text).2 with
  | none => none
  | some (whole, afterWhole) =>
      match readFraction? afterWhole with
      | none => none
      | some (fraction, afterFraction) =>
          (readExponent? afterFraction).map fun (exponent, rest) =>
            (⟨(readMinus text).1, whole, fraction, exponent⟩, rest)

/-- The nearest binary number, unless that would be too large. -/
def binary? (numeral : Numeral) : Option Number :=
  (Number.Binary64.ofDecimal? numeral.negative (digitsValue (numeral.whole ++ numeral.fraction))
    (numeral.exponent.getD 0 - numeral.fraction.length)).map .binary

/-- The integer, if the numeral has the form of one and it fits. -/
def integer? (numeral : Numeral) : Option Number :=
  let magnitude := digitsValue numeral.whole
  if !numeral.fraction.isEmpty || numeral.exponent.isSome then
    none
  else if numeral.negative then
    if 0 < magnitude ∧ magnitude ≤ Nat.pow 2 63 then some (.integer (-magnitude)) else none
  else if magnitude < Nat.pow 2 64 then
    some (.integer magnitude)
  else
    none

/-- The number that the numeral denotes, if there is one. -/
def number? (numeral : Numeral) : Option Number :=
  numeral.integer?.or numeral.binary?

theorem length_readDigits? {text digits rest : List Char}
    (found : readDigits? text = some (digits, rest)) : rest.length < text.length := by
  unfold readDigits? at found
  split at found
  · simp at found
  · next nonempty =>
      simp only [Option.some.injEq, Prod.mk.injEq] at found
      obtain ⟨-, rfl⟩ := found
      have whole := congrArg List.length
        (List.takeWhile_append_dropWhile (p := isDigit) (l := text))
      have positive : 0 < (text.takeWhile isDigit).length :=
        List.length_pos_iff.mpr (by simpa using nonempty)
      rw [List.length_append] at whole
      omega

theorem length_readMinus (text : List Char) : (readMinus text).2.length ≤ text.length := by
  unfold readMinus
  split <;> simp

theorem length_readWhole? {text whole rest : List Char}
    (found : readWhole? text = some (whole, rest)) : rest.length < text.length := by
  unfold readWhole? at found
  split at found
  · simp only [Option.some.injEq, Prod.mk.injEq] at found
    obtain ⟨-, rfl⟩ := found
    simp
  · exact length_readDigits? found

theorem length_readFraction? {text fraction rest : List Char}
    (found : readFraction? text = some (fraction, rest)) : rest.length ≤ text.length := by
  unfold readFraction? at found
  split at found
  · have := length_readDigits? found
    simp only [List.length_cons]
    omega
  · simp_all

theorem length_readScale? {text rest : List Char} {scale : Int}
    (found : readScale? text = some (scale, rest)) : rest.length ≤ text.length := by
  unfold readScale? at found
  split at found <;>
    simp only [Option.map_eq_some_iff, Prod.exists, Prod.mk.injEq] at found <;>
    obtain ⟨digits, after, read, -, rfl⟩ := found <;>
    have shorter := length_readDigits? read
  · simpa using Nat.le_succ_of_le (Nat.le_of_lt shorter)
  · simpa using Nat.le_succ_of_le (Nat.le_of_lt shorter)
  · exact Nat.le_of_lt shorter

theorem length_readExponent? {text rest : List Char} {exponent : Option Int}
    (found : readExponent? text = some (exponent, rest)) : rest.length ≤ text.length := by
  unfold readExponent? at found
  split at found
  · simp only [Option.map_eq_some_iff, Prod.exists, Prod.mk.injEq] at found
    obtain ⟨scale, after, read, -, rfl⟩ := found
    have := length_readScale? read
    simp only [List.length_cons]
    omega
  · simp only [Option.map_eq_some_iff, Prod.exists, Prod.mk.injEq] at found
    obtain ⟨scale, after, read, -, rfl⟩ := found
    have := length_readScale? read
    simp only [List.length_cons]
    omega
  · simp_all

/-- A numeral is not empty. -/
theorem length_read? {text rest : List Char} {numeral : Numeral}
    (found : read? text = some (numeral, rest)) : rest.length < text.length := by
  unfold read? at found
  split at found
  · simp at found
  · next whole afterWhole readWhole =>
      split at found
      · simp at found
      · next fraction afterFraction readFraction =>
          simp only [Option.map_eq_some_iff, Prod.exists, Prod.mk.injEq] at found
          obtain ⟨exponent, after, readExponent, -, rfl⟩ := found
          have := length_readMinus text
          have := length_readWhole? readWhole
          have := length_readFraction? readFraction
          have := length_readExponent? readExponent
          omega

end Numeral

/-- The number that a text denotes, if it is a numeral. -/
def Number.ofText? (text : String) : Option Number :=
  match Numeral.read? text.toList with
  | some (numeral, []) => numeral.number?
  | _ => none

end Json
end PageRouting
