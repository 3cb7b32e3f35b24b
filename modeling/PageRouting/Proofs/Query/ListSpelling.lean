import PageRouting.Proofs.Query.Exactness
import PageRouting.Proofs.Query.SearchText

namespace PageRouting
namespace Query

open Json (Value Object)

/-!
# Two spellings of a list

A list of texts can be given by repeating a key, or by repeating a key with an
empty pair of brackets.  The first spelling collects the texts in an array as
they come, so it serves lists of any length.

The second places each text under the number of entries before it and leaves it
to compaction to find the array.  Compaction knows indices up to `maxArrayIndex`
only.  A longer list therefore stays an object of positions, with all its texts
in it, and the two spellings no longer agree.
-/

/-- A search text that gives the same key, as it is spelled, to each of the texts. -/
def repeated (spelledKey : List Char) (texts : List String) : String :=
  joined (texts.map fun text => spelledKey ++ '=' :: encodeText text)

/-- Empty brackets, as they stand or encoded. -/
def emptyBrackets : List (List Char) :=
  [['[', ']'], openBracket ++ closeBracket]

/-- Texts as values. -/
def textValues (texts : List String) : List Value :=
  texts.map .string

/-! ## Reading a key again and again -/

/-- A spelled key that cannot be taken for several parts, for a key and a text, or for a mark. -/
def IsUnbroken (spelledKey : List Char) : Prop :=
  ∀ c ∈ spelledKey, c ≠ '&' ∧ c ≠ '=' ∧ c ≠ '?'

theorem isUnbroken_of_isWritten {text : List Char}
    (written : ∀ c ∈ text, Text.Percent.isWritten c = true) : IsUnbroken text := by
  intro c member
  have here := written c member
  refine ⟨?_, ?_, ?_⟩
  all_goals
    rintro rfl
    exact absurd here (by decide)

theorem isUnbroken_encodeText (text : String) : IsUnbroken (encodeText text) :=
  isUnbroken_of_isWritten fun _ member => Text.Percent.isWritten_of_mem_flatMap member

theorem isUnbroken_append {first second : List Char} (left : IsUnbroken first)
    (right : IsUnbroken second) : IsUnbroken (first ++ second) :=
  fun c member => (List.mem_append.mp member).elim (left c) (right c)

theorem isUnbroken_emptyBrackets : ∀ marks ∈ emptyBrackets, IsUnbroken marks := by
  intro marks member
  rcases List.mem_cons.mp member with rfl | later
  · intro c inside
    rcases List.mem_cons.mp inside with rfl | inside
    · decide
    · rw [List.mem_singleton.mp inside]
      decide
  · rw [List.mem_singleton.mp later]
    exact isUnbroken_of_isWritten (List.all_eq_true.mp (by decide))

/-- Each text is placed at the path that the key denotes. -/
theorem read_repeated {spelledKey : List Char} (unbroken : IsUnbroken spelledKey)
    (keyed : Text.Percent.decode spelledKey ≠ []) (texts : List String) :
    read (repeated spelledKey texts) = ofLeaves
      (texts.map fun text => ⟨keyPath (Text.Percent.decode spelledKey), .string text⟩) := by
  have whole : '=' ∉ spelledKey := fun member => (unbroken _ member).2.1 rfl
  have within : ∀ text c, c ∈ spelledKey ++ '=' :: encodeText text → c ≠ '&' ∧ c ≠ '?' := by
    intro text c member
    rcases List.mem_append.mp member with inKey | later
    · exact ⟨(unbroken c inKey).1, (unbroken c inKey).2.2⟩
    · rcases List.mem_cons.mp later with rfl | inText
      · decide
      · have encoded := isUnbroken_encodeText text c inText
        exact ⟨encoded.1, encoded.2.2⟩
  have pieces : parts (repeated spelledKey texts) =
      texts.map fun text => spelledKey ++ '=' :: encodeText text := by
    apply parts_joined
    · intro piece member
      rcases List.mem_map.mp member with ⟨text, _, rfl⟩
      simp
    · intro piece member among
      rcases List.mem_map.mp member with ⟨text, _, rfl⟩
      exact (within text _ among).1 rfl
    · intro piece member among
      rcases List.mem_map.mp member with ⟨text, _, rfl⟩
      exact (within text _ among).2 rfl
  have key : ∀ text, decodedKey (spelledKey ++ '=' :: encodeText text) =
      Text.Percent.decode spelledKey := fun text => by
    rw [decodedKey, (partKey_append_cons whole _).1]
  have leaf : ∀ text, partLeaf (spelledKey ++ '=' :: encodeText text) =
      ⟨keyPath (Text.Percent.decode spelledKey), .string text⟩ := by
    intro text
    rw [partLeaf, partPath, key, (partKey_append_cons whole _).2, encodeText,
      Text.Percent.decode_flatMap_encodeChar, String.ofList_toList]
  rw [read_eq_ofLeaves, pieces, leavesOf, List.filter_eq_self.mpr, List.map_map]
  · exact congrArg ofLeaves (List.map_congr_left fun text _ => leaf text)
  · intro piece member
    rcases List.mem_map.mp member with ⟨text, _, rfl⟩
    rw [key, List.isEmpty_eq_false_iff.mpr keyed, Bool.not_false]

/-! ## Texts that meet under one key -/

theorem foldl_placeLeaf_array {key : String} (named : key ≠ "") (texts : List String)
    (items : List Value) :
    (texts.map fun text => ⟨[key], .string text⟩).foldl placeLeaf [(key, .array items)] =
      [(key, .array (items ++ textValues texts))] := by
  induction texts generalizing items with
  | nil => rw [textValues, List.map_nil, List.map_nil, List.foldl_nil, List.append_nil]
  | cons text rest ih =>
      have placed : placeLeaf [(key, .array items)] ⟨[key], .string text⟩ =
          [(key, .array (items ++ [.string text]))] := by
        simp only [placeLeaf, insert, segmentKey_of_ne named, Object.alter, beq_self_eq_true,
          if_true, collect]
      rw [List.map_cons, List.foldl_cons, placed, ih, textValues, textValues, List.map_cons,
        List.append_assoc, List.singleton_append]

/-- The second text opens the array, and further ones are put behind. -/
theorem foldl_placeLeaf_repeated {key : String} (named : key ≠ "") {texts : List String}
    (several : 2 ≤ texts.length) :
    (texts.map fun text => ⟨[key], .string text⟩).foldl placeLeaf [] =
      [(key, .array (textValues texts))] := by
  match texts with
  | [] => exact absurd several (by simp)
  | [_] => exact absurd several (by simp)
  | first :: second :: rest =>
      have opened : placeLeaf (placeLeaf [] ⟨[key], .string first⟩) ⟨[key], .string second⟩ =
          [(key, .array [.string first, .string second])] := by
        simp only [placeLeaf, insert, segmentKey_of_ne named, Object.alter, beq_self_eq_true,
          if_true, collect]
      rw [List.map_cons, List.map_cons, List.foldl_cons, List.foldl_cons, opened,
        foldl_placeLeaf_array named]
      rfl

theorem map_compact_textValues (texts : List String) :
    (textValues texts).map compact = textValues texts := by
  rw [textValues, List.map_map]
  rfl

theorem ofLeaves_repeated {key : String} (named : key ≠ "") {texts : List String}
    (several : 2 ≤ texts.length) :
    ofLeaves (texts.map fun text => ⟨[key], .string text⟩) =
      [(key, .array (textValues texts))] := by
  rw [ofLeaves, foldl_placeLeaf_repeated named several, compactEntries_eq, List.map_singleton,
    compact, compactItems_eq, map_compact_textValues]

/-! ## Texts that are counted -/

theorem positionEntries_append (position : Nat) (first second : List Value) :
    positionEntries position (first ++ second) =
      positionEntries position first ++ positionEntries (position + first.length) second := by
  induction first generalizing position with
  | nil => rfl
  | cons value values ih =>
      rw [List.cons_append, positionEntries, ih, positionEntries, List.length_cons,
        List.cons_append, Nat.add_right_comm, Nat.add_assoc]

/-- The key after the last position is free. -/
theorem positionKey_not_mem_keys (values : List Value) :
    positionKey values.length ∉ Object.keys (positionEntries 0 values) := by
  intro member
  rcases Object.mem_keys.mp member with ⟨value, among⟩
  rcases mem_positionEntries.mp among with ⟨position, same, found⟩
  have inside := (List.getElem?_eq_some_iff.mp found).1
  have equal := positionKey_injective same
  omega

/-- A value without a key goes to the next position. -/
theorem placeLeaf_counted (values : List Value) (value : Value) :
    placeLeaf (positionEntries 0 values) ⟨[""], value⟩ = positionEntries 0 (values ++ [value]) := by
  have counted : segmentKey "" (positionEntries 0 values) = positionKey values.length := by
    rw [segmentKey, length_positionEntries]
    rfl
  have placed := alter_append_of_not_mem (positionKey_not_mem_keys values) [] (collect value)
  rw [List.append_nil] at placed
  rw [placeLeaf, insert, counted, placed, positionEntries_append, Nat.zero_add]
  rfl

theorem foldl_placeLeaf_counted (texts : List String) (values : List Value) :
    (texts.map fun text => ⟨[""], .string text⟩).foldl placeLeaf (positionEntries 0 values) =
      positionEntries 0 (values ++ textValues texts) := by
  induction texts generalizing values with
  | nil => rw [textValues, List.map_nil, List.map_nil, List.foldl_nil, List.append_nil]
  | cons text rest ih =>
      rw [List.map_cons, List.foldl_cons, placeLeaf_counted, ih, textValues, textValues,
        List.map_cons, List.append_assoc, List.singleton_append]

/-- Counted texts are compacted as the object of their positions is. -/
theorem ofLeaves_counted {key : String} (named : key ≠ "") {texts : List String}
    (some : texts ≠ []) :
    ofLeaves (texts.map fun text => ⟨[key, ""], .string text⟩) =
      [(key, compactObject (positionEntries 0 (textValues texts)))] := by
  have under : (texts.map fun text => (⟨[key, ""], .string text⟩ : Leaf)) =
      (texts.map fun text => ⟨[""], .string text⟩).map (Leaf.under key) := by
    rw [List.map_map]
    rfl
  have deeper : ∀ leaf ∈ texts.map fun text => (⟨[""], .string text⟩ : Leaf), leaf.path ≠ [] := by
    intro leaf member
    rcases List.mem_map.mp member with ⟨text, _, rfl⟩
    exact List.cons_ne_nil _ _
  have counted := foldl_placeLeaf_counted texts []
  rw [positionEntries, List.nil_append] at counted
  rw [under, ofLeaves_under named (mt List.map_eq_nil_iff.mp some) deeper, ofLeaves, counted,
    compactEntries_positionEntries, map_compact_textValues]

/-! ## Lists under a key -/

section Spelled

variable {key : String} (named : key ≠ "") (plain : IsPlainKey key)

include named plain

theorem read_repeated_key {texts : List String} (several : 2 ≤ texts.length) :
    read (repeated (encodeText key) texts) = [(key, .array (textValues texts))] := by
  have decoded : Text.Percent.decode (encodeText key) = key.toList :=
    Text.Percent.decode_flatMap_encodeChar _
  have path : keyPath key.toList = [key] := by
    have alone := keyPath_pathText (List.forall_mem_singleton.mpr plain) (List.cons_ne_nil _ _)
      (fun same => named (Option.some.inj same))
    rwa [pathText, brackets, List.flatMap_nil, List.append_nil] at alone
  have keyed : key.toList ≠ [] := mt String.toList_eq_nil_iff.mp named
  rw [read_repeated (isUnbroken_encodeText key) (decoded ▸ keyed), decoded, path,
    ofLeaves_repeated named several]

theorem read_repeated_brackets {marks : List Char} (empty : marks ∈ emptyBrackets)
    {texts : List String} (some : texts ≠ []) :
    read (repeated (encodeText key ++ marks) texts) =
      [(key, compactObject (positionEntries 0 (textValues texts)))] := by
  have opened : ∀ marks ∈ emptyBrackets, Text.Percent.decode marks = ['[', ']'] := by decide
  have decoded : Text.Percent.decode (encodeText key ++ marks) = key.toList ++ ['[', ']'] := by
    rw [encodeText, Text.Percent.decode_flatMap_encodeChar_append, opened marks empty]
  have path : keyPath (key.toList ++ ['[', ']']) = [key, ""] := by
    have nothing : IsPlainKey "" := ⟨List.not_mem_nil, List.not_mem_nil⟩
    have both : ∀ segment ∈ [key, ""], IsPlainKey segment :=
      List.forall_mem_cons.mpr ⟨plain, List.forall_mem_singleton.mpr nothing⟩
    exact keyPath_pathText both (List.cons_ne_nil _ _) fun same => named (Option.some.inj same)
  have unbroken := isUnbroken_append (isUnbroken_encodeText key)
    (isUnbroken_emptyBrackets marks empty)
  have keyed : key.toList ++ ['[', ']'] ≠ [] :=
    List.append_ne_nil_of_right_ne_nil _ (List.cons_ne_nil _ _)
  rw [read_repeated unbroken (decoded ▸ keyed), decoded, path, ofLeaves_counted named some]

/-- A repeated key gives the array of the texts.  A key with empty brackets gives it as long as the
last position is an index, and otherwise an object that holds the texts under their positions. -/
theorem read_spelled_list {texts : List String} (several : 2 ≤ texts.length) :
    read (repeated (encodeText key) texts) = [(key, .array (textValues texts))] ∧
    ∀ marks ∈ emptyBrackets,
      read (repeated (encodeText key ++ marks) texts) =
        [(key, if texts.length ≤ maxArrayIndex + 1 then .array (textValues texts)
          else .object (positionEntries 0 (textValues texts)))] := by
  have some : texts ≠ [] := by
    rintro rfl
    exact absurd several (by decide)
  have values : textValues texts ≠ [] := mt List.map_eq_nil_iff.mp some
  have length : (textValues texts).length = texts.length := List.length_map _
  refine ⟨read_repeated_key named plain several, fun marks empty => ?_⟩
  rw [read_repeated_brackets named plain empty some]
  split
  · next short => rw [compactObject_positionEntries values (length ▸ short)]
  · next long => rw [compactObject_positionEntries_of_long (by omega)]

end Spelled

theorem read_spelled_list_encodedKey :
    "é" ≠ "" ∧ IsPlainKey "é" ∧ 2 ≤ ["a b", "&", ""].length ∧
      read "%C3%A9=a%20b&%C3%A9=%26&%C3%A9=" =
        [("é", .array [.string "a b", .string "&", .string ""])] ∧
      read "%C3%A9[]=a%20b&%C3%A9[]=%26&%C3%A9[]=" =
        [("é", .array [.string "a b", .string "&", .string ""])] := by
  have named : "é" ≠ "" := by decide
  have plain : IsPlainKey "é" := by
    unfold IsPlainKey
    decide
  have several : 2 ≤ ["a b", "&", ""].length := by decide
  rcases read_spelled_list named plain several with ⟨repeating, counting⟩
  have spelled : repeated (encodeText "é") ["a b", "&", ""] =
      "%C3%A9=a%20b&%C3%A9=%26&%C3%A9=" := by
    decide
  have bracketed : repeated (encodeText "é" ++ ['[', ']']) ["a b", "&", ""] =
      "%C3%A9[]=a%20b&%C3%A9[]=%26&%C3%A9[]=" := by
    decide
  have first := counting _ List.mem_cons_self
  rw [spelled] at repeating
  rw [bracketed] at first
  exact ⟨named, plain, several, repeating, first⟩

/-- One text more than there are indices, under a key with empty brackets, is not read as an array,
though the same texts under the key alone are. -/
theorem read_overlongList :
    read (repeated (encodeText "a" ++ ['[', ']']) (List.replicate 22 "x")) ≠
        [("a", .array (textValues (List.replicate 22 "x")))] ∧
      read (repeated (encodeText "a") (List.replicate 22 "x")) =
        [("a", .array (textValues (List.replicate 22 "x")))] := by
  have named : "a" ≠ "" := by decide
  have plain : IsPlainKey "a" := by
    unfold IsPlainKey
    decide
  refine ⟨?_, read_repeated_key named plain (by decide)⟩
  rw [read_repeated_brackets named plain List.mem_cons_self (by decide),
    compactObject_positionEntries_of_long (by decide)]
  simp

end Query
end PageRouting
