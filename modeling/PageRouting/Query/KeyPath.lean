import PageRouting.Text.Split

namespace PageRouting
namespace Query

/-!
Keys of a query name a place in a nested object: `a[b][c]` is the entry `c` of
the entry `b` of `a`.  At most `maxKeyDepth` brackets are opened; whatever
follows them is one last, literal segment.  A key whose first bracket stands at
its start, or is never closed, is a single literal segment as a whole.
-/

/-- Number of brackets that are read as nesting. -/
def maxKeyDepth : Nat := 5

/-- Segments of the bracketed part of a key. -/
def bracketSegments : Nat → List Char → List (List Char)
  | depth + 1, '[' :: inner =>
      match Text.cutAt ']' inner with
      | (segment, some rest) => segment :: bracketSegments depth rest
      | (_, none) => ['[' :: inner]
  | _, [] => []
  | _, rest => [rest]

/-- The segments a decoded key is read as.  There is always at least one, and
the first is empty only if the key is. -/
def keySegments (key : List Char) : List (List Char) :=
  match Text.cutAt '[' key with
  | (head, some inner) =>
      if head.isEmpty || !inner.contains ']' then
        [key]
      else
        head :: bracketSegments maxKeyDepth ('[' :: inner)
  | (_, none) => [key]

/-- The path of object keys for a decoded key. -/
def keyPath (key : List Char) : List String :=
  (keySegments key).map String.ofList

example : keyPath "a[b][]".toList = ["a", "b", ""] := by decide

example : keyPath "a[b".toList = ["a[b"] := by decide

example : keyPath "a[b]c[d]".toList = ["a", "b", "c[d]"] := by decide

end Query
end PageRouting
