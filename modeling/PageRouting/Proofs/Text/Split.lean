import PageRouting.Text.Split

namespace PageRouting
namespace Text

/-!
# Cutting where the separator first occurs

Reading undoes joining as long as no piece holds the separator.  The statements
on `cutAt` are about its first occurrence only: what follows it is returned as
it is, further separators included.
-/

variable {Item : Type} [BEq Item] [LawfulBEq Item]

private theorem beq_head_of_not_mem {separator item : Item} {items : List Item}
    (absent : separator ∉ item :: items) : (item == separator) = false := by
  apply beq_eq_false_iff_ne.mpr
  intro same
  exact absent (same ▸ List.mem_cons_self)

theorem splitOn_of_not_mem {separator : Item} {items : List Item}
    (absent : separator ∉ items) : splitOn separator items = [items] := by
  induction items with
  | nil => rfl
  | cons item items ih =>
      have different := beq_head_of_not_mem absent
      have later : separator ∉ items := fun member => absent (List.mem_cons_of_mem _ member)
      simp only [splitOn, different, ih later, Bool.false_eq_true, if_false]

theorem splitOn_append_cons {separator : Item} {piece : List Item}
    (absent : separator ∉ piece) (rest : List Item) :
    splitOn separator (piece ++ separator :: rest) = piece :: splitOn separator rest := by
  induction piece with
  | nil => simp only [List.nil_append, splitOn, beq_self_eq_true, if_true]
  | cons item items ih =>
      have different := beq_head_of_not_mem absent
      have later : separator ∉ items := fun member => absent (List.mem_cons_of_mem _ member)
      simp only [List.cons_append, splitOn, different, ih later, Bool.false_eq_true, if_false]

/-- Pieces without the separator are found again.  No pieces at all are joined
to the empty text, which is read as one empty piece. -/
theorem splitOn_joinWith {separator : Item} {pieces : List (List Item)} (some : pieces ≠ [])
    (absent : ∀ piece ∈ pieces, separator ∉ piece) :
    splitOn separator (joinWith separator pieces) = pieces := by
  induction pieces with
  | nil => exact absurd rfl some
  | cons piece others ih =>
      have here := absent piece List.mem_cons_self
      cases others with
      | nil => exact splitOn_of_not_mem here
      | cons next rest =>
          change splitOn separator (piece ++ separator :: joinWith separator (next :: rest)) =
            piece :: next :: rest
          rw [splitOn_append_cons here, ih (List.cons_ne_nil _ _)]
          intro other member
          exact absent other (List.mem_cons_of_mem _ member)

/-- No piece holds the separator. -/
theorem not_mem_of_mem_splitOn {separator : Item} {items piece : List Item}
    (member : piece ∈ splitOn separator items) : separator ∉ piece := by
  induction items generalizing piece with
  | nil =>
      rw [List.mem_singleton.mp member]
      exact List.not_mem_nil
  | cons item items ih =>
      unfold splitOn at member
      split at member
      · rcases List.mem_cons.mp member with first | later
        · exact first ▸ List.not_mem_nil
        · exact ih later
      · next different =>
          have other : separator ≠ item := fun same => different (beq_iff_eq.mpr same.symm)
          cases cut : splitOn separator items with
          | nil => exact absurd cut (splitOn_ne_nil separator items)
          | cons next rest =>
              rw [cut] at ih
              simp only [cut] at member
              rcases List.mem_cons.mp member with first | later
              · rw [first, List.mem_cons, not_or]
                exact ⟨other, ih List.mem_cons_self⟩
              · exact ih (List.mem_cons_of_mem _ later)

/-- What is joined to the pieces by a further separator is cut by itself. -/
theorem splitOn_joinWith_append_cons {separator : Item} {pieces : List (List Item)}
    (some : pieces ≠ []) (absent : ∀ piece ∈ pieces, separator ∉ piece) (rest : List Item) :
    splitOn separator (joinWith separator pieces ++ separator :: rest) =
      pieces ++ splitOn separator rest := by
  induction pieces with
  | nil => exact absurd rfl some
  | cons piece others ih =>
      have here := absent piece List.mem_cons_self
      cases others with
      | nil => exact splitOn_append_cons here rest
      | cons next later =>
          change splitOn separator
              ((piece ++ separator :: joinWith separator (next :: later)) ++ separator :: rest) =
            piece :: (next :: later ++ splitOn separator rest)
          rw [List.append_assoc, List.cons_append, splitOn_append_cons here,
            ih (List.cons_ne_nil _ _)]
          intro other member
          exact absent other (List.mem_cons_of_mem _ member)

/-- What comes after a separator is cut by itself. -/
theorem splitOn_append_separator (separator : Item) (items rest : List Item) :
    splitOn separator (items ++ separator :: rest) =
      splitOn separator items ++ splitOn separator rest := by
  have joined := splitOn_joinWith_append_cons (splitOn_ne_nil separator items)
    (fun _ member => not_mem_of_mem_splitOn member) rest
  rwa [joinWith_splitOn] at joined

theorem splitOn_injective (separator : Item) : Function.Injective (splitOn separator) :=
  Function.LeftInverse.injective (joinWith_splitOn separator)

/-- The pieces of a text come first in those of another one if this goes on with a separator. -/
theorem splitOn_isPrefix_splitOn_iff {separator : Item} {items others : List Item} :
    splitOn separator items <+: splitOn separator others ↔
      others = items ∨ items ++ [separator] <+: others := by
  constructor
  · rintro ⟨further, cut⟩
    by_cases whole : further = []
    · rw [whole, List.append_nil] at cut
      exact Or.inl (splitOn_injective separator cut.symm)
    · -- the pieces that are left are those of the text they are joined to
      have absent : ∀ piece ∈ further, separator ∉ piece := fun piece member =>
        not_mem_of_mem_splitOn (cut ▸ List.mem_append_right _ member)
      have joined : splitOn separator (items ++ separator :: joinWith separator further) =
          splitOn separator others := by
        rw [splitOn_append_separator, splitOn_joinWith whole absent, cut]
      refine Or.inr ⟨joinWith separator further, ?_⟩
      rw [List.append_assoc, List.singleton_append]
      exact splitOn_injective separator joined
  · rintro (rfl | ⟨rest, rfl⟩)
    · exact List.prefix_rfl
    · rw [List.append_assoc, List.singleton_append, splitOn_append_separator]
      exact List.prefix_append _ _

omit [BEq Item] [LawfulBEq Item] in
theorem joinWith_concat (separator : Item) {pieces : List (List Item)} (some : pieces ≠ [])
    (last : List Item) :
    joinWith separator (pieces ++ [last]) = joinWith separator pieces ++ separator :: last := by
  induction pieces with
  | nil => exact absurd rfl some
  | cons piece others ih =>
      cases others with
      | nil => rfl
      | cons next rest =>
          change piece ++ separator :: joinWith separator (next :: rest ++ [last]) =
            (piece ++ separator :: joinWith separator (next :: rest)) ++ separator :: last
          rw [ih (List.cons_ne_nil _ _), List.append_assoc, List.cons_append]

omit [BEq Item] [LawfulBEq Item] in
/-- Joining adds nothing but separators. -/
theorem mem_joinWith {separator item : Item} {pieces : List (List Item)}
    (member : item ∈ joinWith separator pieces) :
    item = separator ∨ ∃ piece ∈ pieces, item ∈ piece := by
  induction pieces with
  | nil => exact absurd member List.not_mem_nil
  | cons piece others ih =>
      cases others with
      | nil => exact Or.inr ⟨piece, List.mem_cons_self, member⟩
      | cons next rest =>
          rcases List.mem_append.mp member with here | later
          · exact Or.inr ⟨piece, List.mem_cons_self, here⟩
          · rcases List.mem_cons.mp later with mark | later
            · exact Or.inl mark
            · rcases ih later with mark | ⟨other, among, inside⟩
              · exact Or.inl mark
              · exact Or.inr ⟨other, List.mem_cons_of_mem _ among, inside⟩

theorem cutAt_of_not_mem {separator : Item} {items : List Item} (absent : separator ∉ items) :
    cutAt separator items = (items, none) := by
  induction items with
  | nil => rfl
  | cons item items ih =>
      have different := beq_head_of_not_mem absent
      have later : separator ∉ items := fun member => absent (List.mem_cons_of_mem _ member)
      simp only [cutAt, different, ih later, Bool.false_eq_true, if_false]

theorem cutAt_append_cons {separator : Item} {before : List Item}
    (absent : separator ∉ before) (after : List Item) :
    cutAt separator (before ++ separator :: after) = (before, some after) := by
  induction before with
  | nil => simp only [List.nil_append, cutAt, beq_self_eq_true, if_true]
  | cons item items ih =>
      have different := beq_head_of_not_mem absent
      have later : separator ∉ items := fun member => absent (List.mem_cons_of_mem _ member)
      simp only [List.cons_append, cutAt, different, ih later, Bool.false_eq_true, if_false]

omit [LawfulBEq Item] in
/-- What is cut off is what stands before the first separator and what stands behind it. -/
theorem cutAt_eq_takeWhile (separator : Item) (items : List Item) :
    (cutAt separator items).1 = items.takeWhile (· != separator) ∧
      (cutAt separator items).2.getD [] = (items.dropWhile (· != separator)).drop 1 := by
  induction items with
  | nil => exact ⟨rfl, rfl⟩
  | cons item items ih =>
      cases mark : item == separator with
      | true =>
          simp only [cutAt, mark, if_true, List.takeWhile_cons, List.dropWhile_cons, bne,
            Bool.not_true, Bool.false_eq_true, if_false, Option.getD_some, List.drop_succ_cons,
            List.drop_zero, and_self]
      | false =>
          simp only [cutAt, mark, Bool.false_eq_true, if_false, List.takeWhile_cons,
            List.dropWhile_cons, bne, Bool.not_false, if_true]
          exact ⟨congrArg _ ih.1, ih.2⟩

end Text
end PageRouting
