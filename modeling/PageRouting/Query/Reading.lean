import PageRouting.Query.Compaction
import PageRouting.Query.Insertion
import PageRouting.Query.KeyPath
import PageRouting.Text.Percent

namespace PageRouting
namespace Query

/-!
Reading a search text.  One leading `?` is dropped; the rest is a sequence of
pairs separated by `&`, each cut at its first `=`.  Pairs without text and pairs
whose key decodes to nothing are skipped.  The values of the others are placed
in one object, in order, and the objects below it that are arrays become arrays.
-/

open Json (Value Object)

/-- A pair as it stands in a search text: its key, and what follows the `=`. -/
structure RawPair where
  key : List Char
  value : List Char
deriving DecidableEq, Repr

def RawPair.read (text : List Char) : RawPair :=
  match Text.cutAt '=' text with
  | (key, value) => ⟨key, value.getD []⟩

/-- The search text without one leading `?`. -/
def withoutMark : List Char → List Char
  | '?' :: rest => rest
  | search => search

/-- A decoded pair. -/
structure Pair where
  key : List Char
  value : String
deriving DecidableEq, Repr

/-- The decoded pair, unless its key is empty. -/
def RawPair.decode? (raw : RawPair) : Option Pair :=
  let key := Text.Percent.decode raw.key
  if key.isEmpty then none else some ⟨key, String.ofList (Text.Percent.decode raw.value)⟩

/-- Pairs of a search text that carry a value, in order. -/
def readPairs (search : String) : List Pair :=
  (Text.splitOn '&' (withoutMark search.toList)).filterMap fun text =>
    if text.isEmpty then none else (RawPair.read text).decode?

/-- The object with the pair's value placed in it. -/
def placePair (target : Object) (pair : Pair) : Object :=
  insert (.string pair.value) (keyPath pair.key) target

/-- The nested object of a sequence of pairs. -/
def ofPairs (pairs : List Pair) : Object :=
  compactEntries (pairs.foldl placePair [])

/-- The nested object denoted by a search text. -/
def read (search : String) : Object :=
  ofPairs (readPairs search)

end Query
end PageRouting
