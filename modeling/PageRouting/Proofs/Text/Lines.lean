import PageRouting.Proofs.Text.Split
import PageRouting.Text.Lines

namespace PageRouting
namespace Text

/-!
# Lines that are read as they were written

Joined by line feeds, lines are read back if none of them is empty or ends with a
carriage return.  An empty line would be lost only at the end of the text, and a
carriage return would be lost everywhere else.
-/

/-- A line that keeps its form wherever it stands in a text. -/
structure IsFirmLine (line : List Char) : Prop where
  nonempty : line ≠ []
  unbroken : '\n' ∉ line
  ends : line.getLast? ≠ some '\r'

theorem withoutReturn_eq_self {line : List Char} (ends : line.getLast? ≠ some '\r') :
    withoutReturn line = line := by
  induction line with
  | nil => rfl
  | cons c rest ih =>
      cases rest with
      | nil =>
          have ordinary : c ≠ '\r' := fun same => ends (congrArg some same)
          rw [withoutReturn, withoutReturn]
          exact fun same => absurd same ordinary
      | cons next rest =>
          rw [withoutReturn, ih]
          · rwa [List.getLast?_cons_cons] at ends
          · simp

theorem closeLines_eq_self {lines : List (List Char)} (firm : ∀ line ∈ lines, IsFirmLine line) :
    closeLines lines = lines := by
  induction lines with
  | nil => rfl
  | cons line more ih =>
      have here := firm line List.mem_cons_self
      cases more with
      | nil => simp only [closeLines, List.isEmpty_iff, here.nonempty, if_false]
      | cons next rest =>
          rw [closeLines, withoutReturn_eq_self here.ends, ih]
          · exact fun other member => firm other (List.mem_cons_of_mem _ member)
          · simp

theorem lines_joinWith {written : List (List Char)} (firm : ∀ line ∈ written, IsFirmLine line) :
    lines (joinWith '\n' written) = written := by
  cases written with
  | nil => rfl
  | cons line more =>
      rw [lines, splitOn_joinWith (List.cons_ne_nil _ _) fun other member =>
        (firm other member).unbroken]
      exact closeLines_eq_self firm

/-! ## A text after another one -/

theorem closeLines_append (pieces : List (List Char)) {others : List (List Char)}
    (some : others ≠ []) :
    closeLines (pieces ++ others) = pieces.map withoutReturn ++ closeLines others := by
  induction pieces with
  | nil => rfl
  | cons piece pieces ih =>
      rw [List.map_cons, List.cons_append, List.cons_append, ← ih, closeLines]
      exact fun none => some (List.append_eq_nil_iff.mp none).2

/-- The last piece of a text ends as the text does. -/
theorem getLast?_ne_of_splitOn {text last : List Char} {front : List (List Char)} {c : Char}
    (pieces : splitOn '\n' text = front ++ [last]) (ends : text.getLast? ≠ some c) :
    last.getLast? ≠ some c := by
  intro slashed
  have whole := joinWith_splitOn '\n' text
  rw [pieces] at whole
  cases front with
  | nil =>
      have only : last = text := whole
      exact ends (only ▸ slashed)
  | cons piece front =>
      rw [joinWith_concat '\n' (List.cons_ne_nil _ _)] at whole
      rw [← whole, List.getLast?_append, List.getLast?_cons, slashed] at ends
      exact ends rfl

/-- After a line feed the lines of a further text follow, unless the carriage return at the end of
the text is taken for a part of the ending.  A text that ends in a line feed, or is empty, has an
empty line more. -/
theorem exists_lines_append {text : List Char} (ends : text.getLast? ≠ some '\r')
    (more : List Char) :
    ∃ blank, (blank = [] ∨ blank = [[]]) ∧
      lines (text ++ '\n' :: more) = lines text ++ (blank ++ lines more) := by
  obtain ⟨front, last, pieces⟩ : ∃ front last, splitOn '\n' text = front ++ [last] :=
    ⟨_, _, (List.dropLast_concat_getLast (splitOn_ne_nil '\n' text)).symm⟩
  have kept := withoutReturn_eq_self (getLast?_ne_of_splitOn pieces ends)
  have both : lines (text ++ '\n' :: more) =
      front.map withoutReturn ++ ([last] ++ lines more) := by
    rw [lines, splitOn_append_separator, closeLines_append _ (splitOn_ne_nil '\n' more), pieces,
      List.map_append, List.map_singleton, kept, List.append_assoc]
    rfl
  have alone : lines text = front.map withoutReturn ++ closeLines [last] := by
    rw [lines, pieces, closeLines_append front (List.cons_ne_nil _ _)]
  cases last with
  | nil =>
      refine ⟨[[]], .inr rfl, ?_⟩
      rw [both, alone, closeLines, List.isEmpty_nil, if_pos rfl, List.append_nil]
  | cons c last =>
      refine ⟨[], .inl rfl, ?_⟩
      rw [both, alone, List.append_assoc]
      rfl

end Text
end PageRouting
