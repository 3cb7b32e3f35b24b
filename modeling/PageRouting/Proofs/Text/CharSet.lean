import PageRouting.Text.BinaryProperty
import PageRouting.Text.Blank

namespace PageRouting
namespace Text

/-!
# Members of a complement

A complement is made of the gaps between the ranges of a set.  It holds exactly
the characters that the set does not hold, as long as the ranges ascend and there
is a character in each gap between two of them.
-/

namespace CodeRange

/-- Each range ends before the next one begins, with a character between them. -/
def Ascends : List CodeRange → Prop
  | [] => True
  | [range] => range.first ≤ range.last
  | range :: next :: ranges =>
      range.first ≤ range.last ∧ range.last < next.first ∧
        codeAfter range.last ≤ codeBefore next.first ∧ Ascends (next :: ranges)

instance decidableAscends : (ranges : List CodeRange) → Decidable (Ascends ranges)
  | [] => inferInstanceAs (Decidable True)
  | [range] => inferInstanceAs (Decidable (range.first ≤ range.last))
  | range :: next :: ranges =>
      have := decidableAscends (next :: ranges)
      inferInstanceAs (Decidable (range.first ≤ range.last ∧ range.last < next.first ∧
        codeAfter range.last ≤ codeBefore next.first ∧ Ascends (next :: ranges)))

theorem Ascends.le {range : CodeRange} {ranges : List CodeRange}
    (ascends : Ascends (range :: ranges)) : range.first ≤ range.last := by
  cases ranges with
  | nil => exact ascends
  | cons next ranges => exact ascends.1

/-- What later ranges hold comes after the first one. -/
theorem Ascends.lt_of_any_contains {range : CodeRange} {ranges : List CodeRange}
    (ascends : Ascends (range :: ranges)) {c : Char}
    (later : ranges.any (fun other => other.contains c) = true) : range.last < c.toNat := by
  induction ranges generalizing range with
  | nil => exact absurd later Bool.false_ne_true
  | cons next ranges ih =>
      rcases ascends with ⟨_, apart, _, ascends⟩
      rw [List.any_cons, Bool.or_eq_true] at later
      rcases later with here | later
      · rw [CodeRange.contains, Bool.and_eq_true, decide_eq_true_eq] at here
        exact Nat.lt_of_lt_of_le apart here.1
      · exact Nat.lt_trans (Nat.lt_of_lt_of_le apart ascends.le) (ih ascends later)

/-- Codes of characters are not those of surrogates. -/
theorem toNat_bounds (c : Char) :
    (c.toNat ≤ 0xD7FF ∨ 0xE000 ≤ c.toNat) ∧ c.toNat ≤ maxCode := by
  have valid := c.valid
  change c.toNat < 0xD800 ∨ 0xDFFF < c.toNat ∧ c.toNat < 0x110000 at valid
  unfold maxCode
  omega

theorem codeAfter_le_iff (code : Nat) (c : Char) : codeAfter code ≤ c.toNat ↔ code < c.toNat := by
  have bounds := toNat_bounds c
  unfold codeAfter
  split
  · omega
  · omega

theorem le_codeBefore_iff {code : Nat} (positive : 0 < code) (c : Char) :
    c.toNat ≤ codeBefore code ↔ c.toNat < code := by
  have bounds := toNat_bounds c
  unfold codeBefore
  split
  · omega
  · omega

end CodeRange

namespace CharSet

open CodeRange

/-- The gaps after a range hold what comes after it and is in none of the later ranges. -/
theorem any_contains_gapsAfter {range : CodeRange} {ranges : List CodeRange}
    (ascends : Ascends (range :: ranges)) (c : Char) :
    (gapsAfter range.last ranges).any (fun gap => gap.contains c) =
      (decide (range.last < c.toNat) && !ranges.any fun later => later.contains c) := by
  induction ranges generalizing range with
  | nil =>
      have bounds := toNat_bounds c
      have after := codeAfter_le_iff range.last c
      rw [gapsAfter, List.any_nil, Bool.not_false, Bool.and_true]
      split
      · simp only [List.any_cons, List.any_nil, Bool.or_false, CodeRange.contains,
          decide_eq_true bounds.2, Bool.and_true, after]
      · rw [List.any_nil, eq_comm, decide_eq_false_iff_not]
        omega
  | cons next ranges ih =>
      rcases ascends with ⟨_, apart, gap, ascends⟩
      have before := le_codeBefore_iff (Nat.zero_lt_of_lt apart) c
      have after := codeAfter_le_iff range.last c
      have le := ascends.le
      have inGap : (between (codeAfter range.last) (codeBefore next.first)).contains c =
          (decide (range.last < c.toNat) && decide (c.toNat < next.first)) := by
        simp only [between, CodeRange.contains, Nat.min_eq_left gap, Nat.max_eq_right gap, after,
          before]
      rw [gapsAfter, List.any_cons, List.any_cons, inGap, ih ascends, CodeRange.contains]
      cases inLater : ranges.any fun later => later.contains c with
      | true =>
          have beyond := ascends.lt_of_any_contains inLater
          simp only [Bool.not_true, Bool.and_false, Bool.or_false, Bool.or_true,
            Bool.and_eq_false_iff, decide_eq_false_iff_not]
          omega
      | false =>
          rw [Bool.eq_iff_iff]
          simp only [Bool.not_false, Bool.and_true, Bool.or_false, Bool.or_eq_true,
            Bool.and_eq_true, Bool.not_eq_true', Bool.and_eq_false_iff, decide_eq_true_eq,
            decide_eq_false_iff_not]
          omega

/-- A complement holds what the set does not hold. -/
theorem contains_complement {set : CharSet} (ascends : Ascends set.ranges) (c : Char) :
    set.complement.contains c = !set.contains c := by
  rcases set with ⟨_ | ⟨range, ranges⟩⟩
  · have bounds := toNat_bounds c
    simp [complement, contains, all, CodeRange.contains, bounds.2]
  · have after := any_contains_gapsAfter ascends c
    have le := ascends.le
    have inFront : (if 0 < range.first then [⟨0, codeBefore range.first⟩] else []).any
        (fun gap : CodeRange => gap.contains c) = decide (c.toNat < range.first) := by
      split
      · next positive =>
          simp only [List.any_cons, List.any_nil, Bool.or_false, CodeRange.contains,
            Nat.zero_le, decide_true, Bool.true_and, le_codeBefore_iff positive]
      · rw [List.any_nil, eq_comm, decide_eq_false_iff_not]
        omega
    have gaps : (complement ⟨range :: ranges⟩).contains c =
        (decide (c.toNat < range.first) ||
          (decide (range.last < c.toNat) && !ranges.any fun later => later.contains c)) := by
      rw [← inFront, ← after]
      exact List.any_append
    rw [gaps, contains, List.any_cons, CodeRange.contains]
    cases inLater : ranges.any fun later => later.contains c with
    | true =>
        have beyond := ascends.lt_of_any_contains inLater
        simp only [Bool.not_true, Bool.and_false, Bool.or_false, Bool.or_true,
          decide_eq_false_iff_not]
        omega
    | false =>
        rw [Bool.eq_iff_iff]
        simp only [Bool.not_false, Bool.and_true, Bool.or_false, Bool.or_eq_true,
          Bool.not_eq_true', Bool.and_eq_false_iff, decide_eq_true_eq, decide_eq_false_iff_not]
        omega

/-- The complement of a single character. -/
theorem contains_complement_single (member c : Char) :
    (single member).complement.contains c = (c != member) := by
  have ascends : Ascends (single member).ranges := Nat.le_refl member.toNat
  rw [contains_complement ascends, contains_single]
  rfl

/-- The blanks of patterns are those of texts. -/
theorem contains_whiteSpace (c : Char) :
    BinaryProperty.whiteSpace.contains c = isBlank c := by
  have ranges : BinaryProperty.whiteSpace.ranges =
      [⟨0x09, 0x0D⟩, ⟨0x20, 0x20⟩, ⟨0x85, 0x85⟩, ⟨0xA0, 0xA0⟩, ⟨0x1680, 0x1680⟩,
        ⟨0x2000, 0x200A⟩, ⟨0x2028, 0x2029⟩, ⟨0x202F, 0x202F⟩, ⟨0x205F, 0x205F⟩,
        ⟨0x3000, 0x3000⟩] := by decide +kernel
  rw [Bool.eq_iff_iff]
  simp only [contains, ranges, isBlank, isBlankCode, List.any_cons, List.any_nil,
    CodeRange.contains, Bool.or_eq_true, Bool.and_eq_true, decide_eq_true_eq, beq_iff_eq,
    Bool.false_eq_true, or_false]
  omega

theorem ascends_whiteSpace : Ascends BinaryProperty.whiteSpace.ranges := by
  decide +kernel

end CharSet
end Text
end PageRouting
