namespace PageRouting
namespace Text

/-!
Cutting a sequence at a separator.  A sequence with `n` separators has `n + 1`
pieces, so the empty sequence has one empty piece, and the pieces joined by the
separator give the sequence back.
-/

/-- Pieces of `items` between occurrences of `separator`. -/
def splitOn {α : Type} [BEq α] (separator : α) : List α → List (List α)
  | [] => [[]]
  | item :: items =>
      if item == separator then
        [] :: splitOn separator items
      else
        match splitOn separator items with
        | [] => [[item]]
        | piece :: pieces => (item :: piece) :: pieces

theorem splitOn_ne_nil {α : Type} [BEq α] (separator : α) (items : List α) :
    splitOn separator items ≠ [] := by
  cases items with
  | nil => simp [splitOn]
  | cons item items =>
      simp only [splitOn]
      split
      · simp
      · split <;> simp

/-- Pieces joined by a separator. -/
def joinWith {α : Type} (separator : α) : List (List α) → List α
  | [] => []
  | [piece] => piece
  | piece :: pieces => piece ++ separator :: joinWith separator pieces

theorem joinWith_splitOn {α : Type} [BEq α] [LawfulBEq α] (separator : α)
    (items : List α) : joinWith separator (splitOn separator items) = items := by
  induction items with
  | nil => rfl
  | cons item items ih =>
      simp only [splitOn]
      split
      · next same =>
          cases pieces : splitOn separator items with
          | nil => exact absurd pieces (splitOn_ne_nil separator items)
          | cons piece rest =>
              rw [pieces] at ih
              simp [joinWith, ih, eq_of_beq same]
      · cases pieces : splitOn separator items with
        | nil => exact absurd pieces (splitOn_ne_nil separator items)
        | cons piece rest =>
            rw [pieces] at ih
            cases rest with
            | nil => simpa [joinWith] using ih
            | cons next rest => simpa [joinWith] using ih

/-- Text before the first separator and, if there is one, the text after it. -/
def cutAt {α : Type} [BEq α] (separator : α) : List α → List α × Option (List α)
  | [] => ([], none)
  | item :: items =>
      if item == separator then
        ([], some items)
      else
        let (before, after) := cutAt separator items
        (item :: before, after)

end Text
end PageRouting
