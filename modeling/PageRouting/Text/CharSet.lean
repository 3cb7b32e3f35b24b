import PageRouting.Text.CodeRange

namespace PageRouting
namespace Text

/-!
Sets of characters as ascending lists of ranges.  The ranges of a set neither
overlap nor touch, so sets with the same members have the same ranges, but for
one exception: ranges that end at U+D7FF and begin at U+E000 do not touch by
their codes, although no character lies between them.  The gap between such
ranges is written from U+E000 back to U+D7FF, and holds these two characters.
-/

structure CharSet where
  ranges : List CodeRange
deriving DecidableEq, Repr

namespace CharSet

def contains (set : CharSet) (c : Char) : Bool :=
  set.ranges.any fun range => range.contains c

def isEmpty (set : CharSet) : Bool :=
  set.ranges.isEmpty

def empty : CharSet := ⟨[]⟩

def all : CharSet := ⟨[⟨0, CodeRange.maxCode⟩]⟩

/-- The set of one range, whose first code is not above its last. -/
def ofRange (first last : Nat) : CharSet := ⟨[⟨first, last⟩]⟩

def single (c : Char) : CharSet := ofRange c.toNat c.toNat

def ascii : CharSet := ofRange 0 0x7F

/-- The set written in a table, whose ranges ascend and do not touch. -/
def ofTable (table : String) : CharSet := ⟨CodeRange.readAll table⟩

/-- Put together ranges that overlap or touch, in an ascending list. -/
def joinFrom (current : CodeRange) : List CodeRange → List CodeRange
  | [] => [current]
  | next :: rest =>
      if next.first ≤ current.last + 1 then
        joinFrom ⟨current.first, max current.last next.last⟩ rest
      else
        current :: joinFrom next rest

def join : List CodeRange → List CodeRange
  | [] => []
  | range :: rest => joinFrom range rest

/-- Two ascending lists in one. -/
def interleave : List CodeRange → List CodeRange → List CodeRange
  | [], others => others
  | range :: ranges, others =>
      let before := others.takeWhile fun other => other.first < range.first
      let after := others.dropWhile fun other => other.first < range.first
      before ++ range :: interleave ranges after

def union (left right : CharSet) : CharSet :=
  ⟨join (interleave left.ranges right.ranges)⟩

def unionAll (sets : List CharSet) : CharSet :=
  sets.foldl union empty

/-- The set of some codes, in any order. -/
def ofCodes (codes : List Nat) : CharSet :=
  ⟨join ((codes.map fun code => ⟨code, code⟩).mergeSort fun left right =>
    left.first ≤ right.first)⟩

def commonRanges : List CodeRange → List CodeRange → List CodeRange
  | [], _ => []
  | range :: ranges, others =>
      let others := others.dropWhile fun other => other.last < range.first
      (others.takeWhile fun other => other.first ≤ range.last).filterMap range.overlap? ++
        commonRanges ranges others

def intersection (left right : CharSet) : CharSet :=
  ⟨commonRanges left.ranges right.ranges⟩

def remainingRanges : List CodeRange → List CodeRange → List CodeRange
  | [], _ => []
  | range :: ranges, others =>
      let others := others.dropWhile fun other => other.last < range.first
      range.cut (others.takeWhile fun other => other.first ≤ range.last) ++
        remainingRanges ranges others

def difference (left right : CharSet) : CharSet :=
  ⟨remainingRanges left.ranges right.ranges⟩

def symmetricDifference (left right : CharSet) : CharSet :=
  (left.union right).difference (left.intersection right)

/-- Ranges after a code that leave out the given ones. -/
def gapsAfter (code : Nat) : List CodeRange → List CodeRange
  | [] =>
      if code < CodeRange.maxCode then [⟨CodeRange.codeAfter code, CodeRange.maxCode⟩] else []
  | range :: ranges =>
      CodeRange.between (CodeRange.codeAfter code) (CodeRange.codeBefore range.first) ::
        gapsAfter range.last ranges

def complement (set : CharSet) : CharSet :=
  match set.ranges with
  | [] => all
  | range :: ranges =>
      let before := if 0 < range.first then [⟨0, CodeRange.codeBefore range.first⟩] else []
      ⟨before ++ gapsAfter range.last ranges⟩

@[simp] theorem contains_ofRange (first last : Nat) (c : Char) :
    (ofRange first last).contains c = (decide (first ≤ c.toNat) && decide (c.toNat ≤ last)) := by
  simp [ofRange, contains, CodeRange.contains]

theorem contains_single (member c : Char) :
    (single member).contains c = (c == member) := by
  by_cases same : c = member
  · simp [single, same]
  · have different : c.toNat ≠ member.toNat :=
      fun equal => same (Char.ext (UInt32.toNat_inj.mp equal))
    simp only [single, contains_ofRange, beq_eq_false_iff_ne.mpr same, Bool.and_eq_false_iff,
      decide_eq_false_iff_not]
    omega

end CharSet

end Text
end PageRouting
