import Mathlib.Data.List.Forall2
import PageRouting.History.Stack

namespace PageRouting
namespace History

/-!
# Histories as zippers

A browsing history in the abstract is a place in a sequence: the entries before
the current one, the current one, and the entries after it.  The stack of a
history shows these three, and its operations are those of the zipper, also in
the cases in which moving fails.

Nothing is said about the entries, so that a history of locations can be
compared with one of what is found there.
-/

/-- A current entry with those before it and those after it, the nearest first on both sides. -/
structure Zipper (α : Type) where
  past : List α
  current : α
  future : List α
deriving DecidableEq, Repr

namespace Zipper

variable {α β : Type}

/-- The history that has visited one entry. -/
def start (first : α) : Zipper α := ⟨[], first, []⟩

/-- Visit an entry.  Those after the current one are forgotten. -/
def push (zipper : Zipper α) (next : α) : Zipper α :=
  ⟨zipper.current :: zipper.past, next, []⟩

/-- Put an entry in the place of the current one. -/
def replace (zipper : Zipper α) (next : α) : Zipper α :=
  { zipper with current := next }

/-- Move to the entry before, if there is one. -/
def back? : Zipper α → Option (Zipper α)
  | ⟨[], _, _⟩ => none
  | ⟨previous :: past, current, future⟩ => some ⟨past, previous, current :: future⟩

/-- Move to the entry after, if there is one. -/
def forward? : Zipper α → Option (Zipper α)
  | ⟨_, _, []⟩ => none
  | ⟨past, current, next :: future⟩ => some ⟨current :: past, next, future⟩

/-- Number of entries. -/
def length (zipper : Zipper α) : Nat :=
  zipper.past.length + 1 + zipper.future.length

/-- Options are related only if both have a value or neither has one. -/
theorem isSome_eq_of_rel {related : α → β → Prop} {left : Option α} {right : Option β}
    (pairs : Option.Rel related left right) : left.isSome = right.isSome := by
  cases pairs with
  | some _ => rfl
  | none => rfl

/-- Entries that stand in the same places are related. -/
structure Matches (related : α → β → Prop) (left : Zipper α) (right : Zipper β) : Prop where
  past : List.Forall₂ related left.past right.past
  current : related left.current right.current
  future : List.Forall₂ related left.future right.future

namespace Matches

variable {related : α → β → Prop} {left : Zipper α} {right : Zipper β}

theorem start {one : α} {other : β} (here : related one other) :
    Matches related (.start one) (.start other) :=
  ⟨.nil, here, .nil⟩

theorem push (pairs : Matches related left right) {one : α} {other : β} (here : related one other) :
    Matches related (left.push one) (right.push other) :=
  ⟨.cons pairs.current pairs.past, here, .nil⟩

theorem replace (pairs : Matches related left right) {one : α} {other : β}
    (here : related one other) : Matches related (left.replace one) (right.replace other) :=
  ⟨pairs.past, here, pairs.future⟩

/-- Either both sides can move back or neither can. -/
theorem back? (pairs : Matches related left right) :
    Option.Rel (Matches related) left.back? right.back? := by
  rcases left with ⟨leftPast, leftCurrent, leftFuture⟩
  rcases right with ⟨rightPast, rightCurrent, rightFuture⟩
  rcases pairs with ⟨past, current, future⟩
  cases past with
  | nil => exact .none
  | cons previous earlier => exact .some ⟨earlier, previous, .cons current future⟩

/-- Either both sides can move forward or neither can. -/
theorem forward? (pairs : Matches related left right) :
    Option.Rel (Matches related) left.forward? right.forward? := by
  rcases left with ⟨leftPast, leftCurrent, leftFuture⟩
  rcases right with ⟨rightPast, rightCurrent, rightFuture⟩
  rcases pairs with ⟨past, current, future⟩
  cases future with
  | nil => exact .none
  | cons next later => exact .some ⟨.cons current past, next, later⟩

theorem length_eq (pairs : Matches related left right) : left.length = right.length := by
  rw [length, length, pairs.past.length_eq, pairs.future.length_eq]

end Matches

end Zipper

/-! ## The zipper of a stack -/

namespace Stack

/-- What a stack shows of its entries. -/
def zipper (stack : Stack) : Zipper Location :=
  ⟨stack.past.reverse, stack.current, stack.future⟩

theorem zipper_ofLocation (location : Location) :
    (ofLocation location).zipper = .start location := rfl

theorem zipper_push (stack : Stack) (location : Location) :
    (stack.push location).zipper = stack.zipper.push location := by
  simp only [zipper, past_push, current_push, future_push, List.reverse_append,
    List.reverse_singleton, List.singleton_append, Zipper.push]

theorem zipper_replace (stack : Stack) (location : Location) :
    (stack.replace location).zipper = stack.zipper.replace location := by
  simp only [zipper, past_replace, current_replace, future_replace, Zipper.replace]

theorem length_zipper (stack : Stack) : stack.zipper.length = stack.length := by
  have whole := congrArg List.length stack.entries_eq
  rw [List.length_append, List.length_cons] at whole
  rw [length, whole, Zipper.length, zipper, List.length_reverse, Nat.add_assoc,
    Nat.add_comm 1]

/-- A stack whose place is not the first one shows the place before it. -/
theorem map_zipper_back? (stack : Stack) : stack.back?.map zipper = stack.zipper.back? := by
  rcases stack with ⟨entries, cursor, inside⟩
  cases cursor with
  | zero => rfl
  | succ cursor =>
      have before : cursor < entries.length := Nat.lt_of_succ_lt inside
      have past : entries.take (cursor + 1) = entries.take cursor ++ [entries[cursor]] :=
        List.take_succ_eq_append_getElem before
      have future : entries.drop (cursor + 1) =
          entries[cursor + 1] :: entries.drop (cursor + 1 + 1) :=
        List.drop_eq_getElem_cons inside
      simp only [back?, zipper, Stack.past, Stack.current, Stack.future, List.get_eq_getElem, past,
        List.reverse_append, List.reverse_singleton, List.singleton_append, Zipper.back?,
        Nat.add_sub_cancel, Nat.add_one_ne_zero, if_false, Option.map_some, future]

/-- A stack whose place is not the last one shows the place after it. -/
theorem map_zipper_forward? (stack : Stack) :
    stack.forward?.map zipper = stack.zipper.forward? := by
  rcases stack with ⟨entries, cursor, inside⟩
  by_cases last : entries.length ≤ cursor + 1
  · have future : entries.drop (cursor + 1) = [] := List.drop_eq_nil_of_le last
    simp only [forward?, Nat.not_lt.mpr last, dif_neg, not_false_eq_true, Option.map_none, zipper,
      Stack.future, future, Zipper.forward?]
  · have after : cursor + 1 < entries.length := Nat.lt_of_not_le last
    have past : entries.take (cursor + 1) = entries.take cursor ++ [entries[cursor]] :=
      List.take_succ_eq_append_getElem inside
    have future : entries.drop (cursor + 1) =
        entries[cursor + 1] :: entries.drop (cursor + 1 + 1) :=
      List.drop_eq_getElem_cons after
    simp only [forward?, after, dif_pos, Option.map_some, zipper, Stack.past, Stack.current,
      Stack.future, List.get_eq_getElem, past, future, List.reverse_append,
      List.reverse_singleton, List.singleton_append, Zipper.forward?]

end Stack

end History
end PageRouting
