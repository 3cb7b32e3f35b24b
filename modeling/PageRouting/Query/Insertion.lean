import PageRouting.Json.Value

namespace PageRouting
namespace Query

/-!
Placing a value in a nested object.  No value placed earlier is lost: a key that
is met again at its end collects its values in an array, and a value that stands
where an object is needed becomes the first element of an array whose last
element is that object.  An empty segment stands for the number of entries
already present, so that `[]` repeated counts upwards.
-/

open Json (Value Object)

/-- The key an empty segment stands for is the number of entries. -/
def segmentKey (segment : String) (target : Object) : String :=
  if segment.isEmpty then String.ofList (Nat.toDigits 10 target.length) else segment

/-- The value kept under a key once `value` has been added to what was there. -/
def collect (value : Value) : Option Value → Value
  | none => value
  | some (.array items) => .array (items ++ [value])
  | some existing => .array [existing, value]

/-- The items with `change` applied to the object at the end, which is first
added if the last item is no object. -/
def descendLast (change : Object → Object) : List Value → List Value
  | [] => [.object (change [])]
  | [.object entries] => [.object (change entries)]
  | item :: items => item :: descendLast change items

/-- The value kept under a key once `change` has been applied to the object in it. -/
def descend (change : Object → Object) : Option Value → Value
  | none => .object (change [])
  | some (.object entries) => .object (change entries)
  | some (.array items) => .array (descendLast change items)
  | some scalar => .array [scalar, .object (change [])]

/-- Place a value at the end of a path.  An empty path places nothing. -/
def insert (value : Value) : List String → Object → Object
  | [], target => target
  | [segment], target => target.alter (segmentKey segment target) (collect value)
  | segment :: next :: rest, target =>
      target.alter (segmentKey segment target) (descend (insert value (next :: rest)))

end Query
end PageRouting
