import PageRouting.Json.Value

namespace PageRouting
namespace Query

/-!
Objects that are arrays.  A nonempty object whose keys are all numerals of small
indices is turned into an array of its values in the order of the indices;
values under equal indices, such as `0` and `00`, keep the order of their
entries.  The object that is the whole query is never turned into an array.
-/

open Json (Value Object)

/-- Largest index that is recognised in a key. -/
def maxArrayIndex : Nat := 20

/-- The number a text of decimal digits denotes. -/
def decimalValue (digits : List Char) : Nat :=
  digits.foldl (fun number digit => 10 * number + (digit.toNat - '0'.toNat)) 0

/-- The index a key denotes, if it consists of digits and is small enough. -/
def arrayIndex? (key : String) : Option Nat :=
  let digits := key.toList
  if digits.isEmpty || !digits.all Char.isDigit then
    none
  else
    let index := decimalValue digits
    if index ≤ maxArrayIndex then some index else none

/-- Entries with their indices, if there are any and all have one. -/
def indexedEntries? : List (String × Value) → Option (List (Nat × Value))
  | [] => none
  | entries => entries.mapM fun entry => do
      let index ← arrayIndex? entry.1
      pure (index, entry.2)

/-- The array or object made of compacted entries. -/
def compactObject (entries : List (String × Value)) : Value :=
  match indexedEntries? entries with
  | some indexed =>
      .array ((indexed.mergeSort fun left right => left.1 ≤ right.1).map fun entry => entry.2)
  | none => .object entries

mutual

def compact : Value → Value
  | .object entries => compactObject (compactEntries entries)
  | .array items => .array (compactItems items)
  | .null => .null
  | .bool value => .bool value
  | .number value => .number value
  | .string value => .string value

def compactItems : List Value → List Value
  | [] => []
  | item :: items => compact item :: compactItems items

def compactEntries : List (String × Value) → List (String × Value)
  | [] => []
  | (key, value) :: rest => (key, compact value) :: compactEntries rest

end

end Query
end PageRouting
