import PageRouting.Proofs.Query.Conservation

namespace PageRouting
namespace Query

open Json (Value Object)

/-!
# Search texts as lists of parts

A search text is read part by part: what its key and its text decode to is
placed as one leaf, and a part whose key decodes to nothing is passed over.  So
what is read depends on the list of parts alone, and every list of parts that
hold something and no separator is the list of some search text.

The mark in front belongs to no part.  It is needed if the first part begins
with a mark itself, which would be dropped otherwise.
-/

/-- The parts of a search text that hold anything, in order. -/
def parts (search : String) : List (List Char) :=
  (Text.splitOn '&' (withoutMark search.toList)).filter fun part => !part.isEmpty

/-- Parts joined to a text. -/
def joined (pieces : List (List Char)) : String :=
  String.ofList (Text.joinWith '&' pieces)

/-- The decoded key of a part. -/
def decodedKey (part : List Char) : List Char :=
  Text.Percent.decode (partKey part)

/-- The path that the key of a part is read as. -/
def partPath (part : List Char) : List String :=
  keyPath (decodedKey part)

/-- The leaf that a part places. -/
def partLeaf (part : List Char) : Leaf where
  path := partPath part
  value := .string (String.ofList (Text.Percent.decode (partValue part)))

/-- The leaves that are read from parts: those of the parts with a key. -/
def leavesOf (pieces : List (List Char)) : List Leaf :=
  (pieces.filter fun part => !(decodedKey part).isEmpty).map partLeaf

/-- The object that leaves are read as. -/
def ofLeaves (leaves : List Leaf) : Object :=
  compactEntries (leaves.foldl placeLeaf [])

/-- Leaves under one key are read as one entry. -/
theorem ofLeaves_under {key : String} (named : key ≠ "") {inside : List Leaf}
    (filled : inside ≠ []) (deeper : ∀ leaf ∈ inside, leaf.path ≠ []) :
    ofLeaves (inside.map (Leaf.under key)) = [(key, compactObject (ofLeaves inside))] := by
  have fresh : key ∉ Object.keys [] := List.not_mem_nil
  rw [ofLeaves, foldl_placeLeaf_under fresh named filled deeper, List.nil_append,
    compactEntries_eq, List.map_singleton, compact, ofLeaves]

/-! ## Reading depends on the parts -/

theorem foldl_placePair_readPairs_eq (search : String) (target : Object) :
    (readPairs search).foldl placePair target =
      (leavesOf (parts search)).foldl placeLeaf target := by
  rw [readPairs, leavesOf, parts]
  generalize Text.splitOn '&' (withoutMark search.toList) = pieces
  induction pieces generalizing target with
  | nil => rfl
  | cons piece rest ih =>
      cases hollow : piece.isEmpty with
      | true =>
          simp only [List.filterMap_cons, List.filter_cons, hollow, if_true, Bool.not_true,
            Bool.false_eq_true, if_false, ih]
      | false =>
          cases keyless : (decodedKey piece).isEmpty with
          | true =>
              have passed : (RawPair.read piece).decode? = none := by
                rw [read_part, RawPair.decode?]
                exact if_pos keyless
              simp only [List.filterMap_cons, List.filter_cons, hollow, passed, keyless,
                Bool.not_false, Bool.not_true, Bool.false_eq_true, if_true, if_false, ih]
          | false =>
              have decoded : (RawPair.read piece).decode? =
                  some ⟨decodedKey piece,
                    String.ofList (Text.Percent.decode (partValue piece))⟩ := by
                rw [read_part, RawPair.decode?]
                exact if_neg (Bool.eq_false_iff.mp keyless)
              simp only [List.filterMap_cons, List.filter_cons, hollow, decoded, keyless,
                Bool.not_false, Bool.false_eq_true, if_true, if_false, List.map_cons,
                List.foldl_cons, ih]
              rfl

/-- What is read is made of the leaves of the parts. -/
theorem read_eq_ofLeaves (search : String) : read search = ofLeaves (leavesOf (parts search)) := by
  rw [read, ofPairs, foldl_placePair_readPairs_eq, ofLeaves]

/-- A part whose key holds no `=` is cut behind its key. -/
theorem partKey_append_cons {key : List Char} (whole : '=' ∉ key) (text : List Char) :
    partKey (key ++ '=' :: text) = key ∧ partValue (key ++ '=' :: text) = text := by
  have cut : RawPair.read (key ++ '=' :: text) = ⟨key, text⟩ := by
    simp only [RawPair.read, Text.cutAt_append_cons whole, Option.getD_some]
  exact RawPair.mk.inj ((read_part _).symm.trans cut)

/-! ## Search texts made of parts -/

theorem parts_filled {search : String} {part : List Char} (member : part ∈ parts search) :
    part ≠ [] := by
  have filled := (List.mem_filter.mp member).2
  rintro rfl
  exact Bool.false_ne_true filled

theorem parts_whole {search : String} {part : List Char} (member : part ∈ parts search) :
    '&' ∉ part :=
  Text.not_mem_of_mem_splitOn (List.mem_filter.mp member).1

section Joining

variable {pieces : List (List Char)} (filled : ∀ piece ∈ pieces, piece ≠ [])
  (whole : ∀ piece ∈ pieces, '&' ∉ piece)

include filled whole

theorem filter_splitOn_joinWith :
    ((Text.splitOn '&' (Text.joinWith '&' pieces)).filter fun part => !part.isEmpty) = pieces := by
  by_cases none : pieces = []
  · rw [none]
    rfl
  · rw [Text.splitOn_joinWith none whole, List.filter_eq_self]
    intro piece member
    rw [List.isEmpty_eq_false_iff.mpr (filled piece member), Bool.not_false]

/-- Behind the mark, the parts are found as they were joined. -/
theorem parts_marked : parts ("?" ++ joined pieces) = pieces := by
  simp only [parts, joined, String.toList_append, String.toList_ofList]
  exact filter_splitOn_joinWith filled whole

/-- Without the mark as well, if no part holds one. -/
theorem parts_joined (unmarked : ∀ piece ∈ pieces, '?' ∉ piece) :
    parts (joined pieces) = pieces := by
  have kept : withoutMark (Text.joinWith '&' pieces) = Text.joinWith '&' pieces := by
    unfold withoutMark
    split
    · next rest begins =>
        have member : '?' ∈ Text.joinWith '&' pieces := begins ▸ List.mem_cons_self
        rcases Text.mem_joinWith member with mark | ⟨piece, among, inside⟩
        · exact absurd mark (by decide)
        · exact absurd inside (unmarked piece among)
    · rfl
  rw [parts, joined, String.toList_ofList, kept, filter_splitOn_joinWith filled whole]

end Joining

/-- Some of the parts of a search text, taken by themselves. -/
theorem parts_marked_filter (passes : List Char → Bool) (search : String) :
    parts ("?" ++ joined ((parts search).filter passes)) = (parts search).filter passes :=
  parts_marked (fun _ member => parts_filled (List.mem_filter.mp member).1)
    fun _ member => parts_whole (List.mem_filter.mp member).1

end Query
end PageRouting
