import PageRouting.Json.Writer
import PageRouting.Text.Percent
import PageRouting.Text.Split

namespace PageRouting
namespace Query

/-!
Writing a nested object as a query.  Every leaf becomes one pair, in depth-first
order; its key is the key of the outermost entry followed by the inner keys and
array positions in encoded brackets.  An empty array or object has no leaf and
leaves no trace.
-/

open Json (Value Object)

/-- Text of a leaf: a string itself, nothing for null, otherwise the JSON text. -/
def leafText : Value → String
  | .null => ""
  | .string text => text
  | leaf => leaf.text

def openBracket : List Char := ['%', '5', 'B']

def closeBracket : List Char := ['%', '5', 'D']

/-- An encoded key with one more bracketed segment. -/
def bracketed (key segment : List Char) : List Char :=
  key ++ openBracket ++ segment ++ closeBracket

def encodeText (text : String) : List Char :=
  text.toList.flatMap Text.Percent.encodeChar

def leafPair (key : List Char) (leaf : Value) : List Char :=
  key ++ '=' :: encodeText (leafText leaf)

mutual

/-- Pairs of the leaves of a value whose encoded key is given. -/
def valuePairs (key : List Char) : Value → List (List Char)
  | .object entries => entryPairs key entries
  | .array items => itemPairs key 0 items
  | .null => [leafPair key .null]
  | .bool value => [leafPair key (.bool value)]
  | .number value => [leafPair key (.number value)]
  | .string value => [leafPair key (.string value)]

def itemPairs (key : List Char) (position : Nat) : List Value → List (List Char)
  | [] => []
  | item :: items =>
      valuePairs (bracketed key (Nat.toDigits 10 position)) item ++
        itemPairs key (position + 1) items

def entryPairs (key : List Char) : List (String × Value) → List (List Char)
  | [] => []
  | (name, value) :: rest =>
      valuePairs (bracketed key (encodeText name)) value ++ entryPairs key rest

end

/-- Pairs of a whole object, whose keys stand without brackets. -/
def pairs : Object → List (List Char)
  | [] => []
  | (name, value) :: rest => valuePairs (encodeText name) value ++ pairs rest

/-- The query of an object. -/
def write (object : Object) : String :=
  String.ofList (Text.joinWith '&' (pairs object))

end Query
end PageRouting
