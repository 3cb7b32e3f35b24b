import PageRouting.Proofs.Text.Encoding
import PageRouting.Proofs.Text.Split
import PageRouting.Query.Reading
import PageRouting.Query.Writing

namespace PageRouting
namespace Query

open Json (Value Object)

/-!
# A query as the list of its leaves

Writing an object lists its leaves, each with the keys and positions that lead
to it, and reading begins by finding exactly these again.  Nothing is lost
between the two: what a written query says is the list of leaves, and what
reading makes of an object depends on that list alone.
-/

/-- The key under which an item of an array is written. -/
def positionKey (position : Nat) : String :=
  String.ofList (Nat.toDigits 10 position)

/-- A leaf, with the keys and positions on the way to it. -/
structure Leaf where
  path : List String
  value : Value

/-- The leaf as it stands one level further out. -/
def Leaf.under (key : String) (leaf : Leaf) : Leaf :=
  ⟨key :: leaf.path, leaf.value⟩

mutual

/-- Leaves of a value, depth first. -/
def valueLeaves : Value → List Leaf
  | .object entries => entryLeaves entries
  | .array items => itemLeaves 0 items
  | .null => [⟨[], .null⟩]
  | .bool value => [⟨[], .bool value⟩]
  | .number value => [⟨[], .number value⟩]
  | .string value => [⟨[], .string value⟩]

def itemLeaves (position : Nat) : List Value → List Leaf
  | [] => []
  | item :: items =>
      (valueLeaves item).map (Leaf.under (positionKey position)) ++ itemLeaves (position + 1) items

/-- Leaves of an object, in the order in which they are written. -/
def entryLeaves : List (String × Value) → List Leaf
  | [] => []
  | (key, value) :: rest => (valueLeaves value).map (Leaf.under key) ++ entryLeaves rest

end

/-- Keys in brackets. -/
def brackets (keys : List String) : List Char :=
  keys.flatMap fun key => '[' :: key.toList ++ [']']

/-- A path as the text of one key. -/
def pathText : List String → List Char
  | [] => []
  | key :: keys => key.toList ++ brackets keys

/-- The pair that is written for a leaf. -/
def Leaf.pair (leaf : Leaf) : List Char :=
  leafPair ((pathText leaf.path).flatMap Text.Percent.encodeChar) leaf.value

/-! ## Writing lists the leaves -/

theorem flatMap_encodeChar_brackets_cons (key : String) (keys : List String) :
    (brackets (key :: keys)).flatMap Text.Percent.encodeChar =
      openBracket ++ encodeText key ++ closeBracket ++
        (brackets keys).flatMap Text.Percent.encodeChar := by
  have opening : Text.Percent.encodeChar '[' = openBracket := by decide
  have closing : Text.Percent.encodeChar ']' = closeBracket := by decide
  simp only [brackets, List.flatMap_cons, List.flatMap_append, opening, closing, encodeText,
    List.nil_append, List.cons_append, List.append_assoc]

/-- Digits are written as they are. -/
theorem encodeText_positionKey (position : Nat) :
    encodeText (positionKey position) = Nat.toDigits 10 position := by
  have digits : ∀ c ∈ Nat.toDigits 10 position, Text.Percent.encodeChar c = [c] := by
    intro c member
    have digit := Nat.isDigit_of_mem_toDigits (by decide) (by decide) member
    have unreserved : Text.Percent.isUnreserved c = true := by
      simp only [Text.Percent.isUnreserved, Char.isAlphanum, digit, Bool.or_true, Bool.true_or]
    exact if_pos unreserved
  simp only [encodeText, positionKey, String.toList_ofList]
  generalize Nat.toDigits 10 position = text at digits
  induction text with
  | nil => rfl
  | cons c rest ih =>
      rw [List.flatMap_cons, digits c List.mem_cons_self,
        ih fun other member => digits other (List.mem_cons_of_mem _ member)]
      rfl

/-- The pair of a leaf, given the encoded key of the value it is in. -/
def innerPair (key : List Char) (leaf : Leaf) : List Char :=
  leafPair (key ++ (brackets leaf.path).flatMap Text.Percent.encodeChar) leaf.value

theorem innerPair_under (key : List Char) (segment : String) (leaf : Leaf) :
    innerPair key (leaf.under segment) =
      innerPair (bracketed key (encodeText segment)) leaf := by
  simp only [innerPair, Leaf.under, flatMap_encodeChar_brackets_cons, bracketed,
    List.append_assoc]

mutual

theorem valuePairs_eq (key : List Char) (value : Value) :
    valuePairs key value = (valueLeaves value).map (innerPair key) := by
  cases value with
  | object entries => exact entryPairs_eq key entries
  | array items => exact itemPairs_eq key 0 items
  | null => simp [valuePairs, valueLeaves, innerPair, brackets]
  | bool value => simp [valuePairs, valueLeaves, innerPair, brackets]
  | number value => simp [valuePairs, valueLeaves, innerPair, brackets]
  | string value => simp [valuePairs, valueLeaves, innerPair, brackets]

theorem itemPairs_eq (key : List Char) (position : Nat) (items : List Value) :
    itemPairs key position items = (itemLeaves position items).map (innerPair key) := by
  cases items with
  | nil => rfl
  | cons item items =>
      simp only [itemPairs, itemLeaves, List.map_append, List.map_map,
        valuePairs_eq _ item, itemPairs_eq key _ items, ← encodeText_positionKey]
      congr 1
      apply List.map_congr_left
      intro leaf _
      exact (innerPair_under key _ leaf).symm

theorem entryPairs_eq (key : List Char) (entries : List (String × Value)) :
    entryPairs key entries = (entryLeaves entries).map (innerPair key) := by
  match entries with
  | [] => rfl
  | (name, value) :: rest =>
      simp only [entryPairs, entryLeaves, List.map_append, List.map_map,
        valuePairs_eq _ value, entryPairs_eq key rest]
      congr 1
      apply List.map_congr_left
      intro leaf _
      exact (innerPair_under key name leaf).symm

end

/-- One pair is written for each leaf, in their order. -/
theorem pairs_eq (object : Object) : pairs object = (entryLeaves object).map Leaf.pair := by
  induction object with
  | nil => rfl
  | cons entry rest ih =>
      rcases entry with ⟨name, value⟩
      simp only [pairs, entryLeaves, List.map_append, List.map_map, valuePairs_eq, ih]
      congr 1
      apply List.map_congr_left
      intro leaf _
      simp only [Function.comp, innerPair, Leaf.pair, Leaf.under, pathText, List.flatMap_append,
        encodeText]

/-! ## Reading finds the leaves -/

theorem not_mem_flatMap_encodeChar {text : List Char} {c : Char}
    (separates : Text.Percent.isWritten c = false) :
    c ∉ text.flatMap Text.Percent.encodeChar := by
  intro member
  rw [Text.Percent.isWritten_of_mem_flatMap member] at separates
  exact absurd separates (by decide)

/-- What is read from the pair of a leaf: nothing if its whole key is empty. -/
def Leaf.read? (leaf : Leaf) : Option Pair :=
  if (pathText leaf.path).isEmpty then none else some ⟨pathText leaf.path, leafText leaf.value⟩

/-- The pair of a leaf is cut into its encoded key and its encoded text. -/
theorem read_pair (leaf : Leaf) :
    RawPair.read leaf.pair =
      ⟨(pathText leaf.path).flatMap Text.Percent.encodeChar, encodeText (leafText leaf.value)⟩ := by
  have cut : Text.cutAt '=' leaf.pair =
      ((pathText leaf.path).flatMap Text.Percent.encodeChar,
        some (encodeText (leafText leaf.value))) :=
    Text.cutAt_append_cons (not_mem_flatMap_encodeChar (by decide)) _
  simp only [RawPair.read, cut, Option.getD_some]

theorem decode?_read_pair (leaf : Leaf) : (RawPair.read leaf.pair).decode? = leaf.read? := by
  simp only [read_pair, RawPair.decode?, encodeText, Text.Percent.decode_flatMap_encodeChar,
    String.ofList_toList, Leaf.read?]

/-- A pair holds one `=` and encoded text. -/
theorem isWritten_of_mem_pair {leaf : Leaf} {c : Char} (member : c ∈ leaf.pair) :
    c = '=' ∨ Text.Percent.isWritten c = true := by
  rcases List.mem_append.mp member with key | rest
  · exact Or.inr (Text.Percent.isWritten_of_mem_flatMap key)
  · rcases List.mem_cons.mp rest with mark | value
    · exact Or.inl mark
    · exact Or.inr (Text.Percent.isWritten_of_mem_flatMap value)

theorem amp_not_mem_pair (leaf : Leaf) : '&' ∉ leaf.pair := by
  intro member
  rcases isWritten_of_mem_pair member with mark | written
  · exact absurd mark (by decide)
  · exact absurd written (by decide)

theorem pair_ne_nil (leaf : Leaf) : leaf.pair ≠ [] := by
  simp [Leaf.pair, leafPair]

/-- Characters of a written query: those of components and the two separators. -/
theorem isWritten_of_mem_write {object : Object} {c : Char}
    (member : c ∈ (write object).toList) :
    c = '&' ∨ c = '=' ∨ Text.Percent.isWritten c = true := by
  rw [write, String.toList_ofList, pairs_eq] at member
  rcases Text.mem_joinWith member with mark | ⟨piece, among, inside⟩
  · exact Or.inl mark
  · rcases List.mem_map.mp among with ⟨leaf, _, rfl⟩
    exact Or.inr (isWritten_of_mem_pair inside)

/-- A written query does not begin with the mark that reading drops. -/
theorem withoutMark_toList_write (object : Object) :
    withoutMark (write object).toList = (write object).toList := by
  unfold withoutMark
  split
  · next rest begins =>
      have member : '?' ∈ (write object).toList := begins ▸ List.mem_cons_self
      rcases isWritten_of_mem_write member with mark | mark | written
      · exact absurd mark (by decide)
      · exact absurd mark (by decide)
      · exact absurd written (by decide)
  · rfl

/-- The pairs read from a written query are those of its leaves, whether or not
the query is announced by the mark. -/
theorem readPairs_write (object : Object) :
    readPairs (write object) = (entryLeaves object).filterMap Leaf.read? ∧
      readPairs ("?" ++ write object) = (entryLeaves object).filterMap Leaf.read? := by
  have listed : (Text.splitOn '&' (write object).toList).filterMap (fun text =>
      if text.isEmpty then none else (RawPair.read text).decode?) =
      (entryLeaves object).filterMap Leaf.read? := by
    simp only [write, String.toList_ofList, pairs_eq]
    by_cases none : entryLeaves object = []
    · simp [none, Text.joinWith, Text.splitOn]
    · rw [Text.splitOn_joinWith (by simpa using none)
          (by simpa using fun leaf _ => amp_not_mem_pair leaf), List.filterMap_map]
      congr 1
      funext leaf
      simp only [Function.comp, List.isEmpty_iff, pair_ne_nil, if_false, decode?_read_pair]
  constructor
  · rw [readPairs, withoutMark_toList_write, listed]
  · rw [readPairs, String.toList_append]
    exact listed

end Query
end PageRouting
