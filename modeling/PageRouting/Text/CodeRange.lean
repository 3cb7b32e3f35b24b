import PageRouting.Text.Hex
import PageRouting.Text.Split

namespace PageRouting
namespace Text

/-!
Inclusive ranges of character codes.  The tables of this library are written as
text, one range as `41-5A` and a single code as `5F`, separated by blanks or
line breaks.  A word of any other form is skipped, so a table holds exactly the
ranges that can be read.

The codes from U+D800 to U+DFFF belong to no character.  Stepping from one code
to its neighbour leaps over them.
-/

/-- An inclusive range of codes. -/
structure CodeRange where
  first : Nat
  last : Nat
deriving DecidableEq, Repr

namespace CodeRange

def contains (range : CodeRange) (c : Char) : Bool :=
  range.first ≤ c.toNat && c.toNat ≤ range.last

/-- The range between two codes, whichever is the smaller. -/
def between (one other : Nat) : CodeRange where
  first := min one other
  last := max one other

/-- The largest code of a character. -/
def maxCode : Nat := 0x10FFFF

def codeAfter (code : Nat) : Nat :=
  if code = 0xD7FF then 0xE000 else code + 1

def codeBefore (code : Nat) : Nat :=
  if code = 0xE000 then 0xD7FF else code - 1

/-- Codes common to two ranges. -/
def overlap? (left right : CodeRange) : Option CodeRange :=
  let first := max left.first right.first
  let last := min left.last right.last
  if first ≤ last then some ⟨first, last⟩ else none

/-- What is left of a range without some ascending ranges. -/
def cut (range : CodeRange) : List CodeRange → List CodeRange
  | [] => [range]
  | hole :: holes =>
      if hole.last < range.first then
        cut range holes
      else if range.last < hole.first then
        [range]
      else
        let before := if range.first < hole.first then [⟨range.first, codeBefore hole.first⟩] else []
        before ++ if hole.last < range.last then cut ⟨codeAfter hole.last, range.last⟩ holes else []

/-- Range written as a word of a table. -/
def read? (word : List Char) : Option CodeRange :=
  match cutAt '-' word with
  | (first, none) => do
      let code ← hexNumber? first
      pure ⟨code, code⟩
  | (first, some last) => do
      pure ⟨← hexNumber? first, ← hexNumber? last⟩

/-- All ranges written in a table. -/
def readAll (table : String) : List CodeRange :=
  (splitOn '\n' table.toList).flatMap fun line => (splitOn ' ' line).filterMap read?

end CodeRange

end Text
end PageRouting
