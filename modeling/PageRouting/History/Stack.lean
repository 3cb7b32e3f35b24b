import PageRouting.Route

namespace PageRouting
namespace History

/-!
The stack of a browsing history: the visited locations in order, and the place
of the current one among them.  There is always a current location.  Moving back
and forward changes the place only; a new location takes the place of all those
after the current one.

The locations before and after the current one, `past` and `future`, determine
the stack together with the current one, and each operation is described by what
it does to these three.
-/

structure Stack where
  entries : List Location
  cursor : Nat
  cursor_lt : cursor < entries.length
deriving Repr

namespace Stack

/-- A history that has visited one location. -/
def ofLocation (location : Location) : Stack where
  entries := [location]
  cursor := 0
  cursor_lt := Nat.zero_lt_one

def current (stack : Stack) : Location :=
  stack.entries.get ⟨stack.cursor, stack.cursor_lt⟩

def length (stack : Stack) : Nat :=
  stack.entries.length

/-- Locations before the current one, in order. -/
def past (stack : Stack) : List Location :=
  stack.entries.take stack.cursor

/-- Locations after the current one, in order. -/
def future (stack : Stack) : List Location :=
  stack.entries.drop (stack.cursor + 1)

/-- Visit a location.  Those after the current one are forgotten. -/
def push (stack : Stack) (location : Location) : Stack where
  entries := stack.entries.take (stack.cursor + 1) ++ [location]
  cursor := stack.cursor + 1
  cursor_lt := by
    have := stack.cursor_lt
    simp only [List.length_append, List.length_take, List.length_singleton]
    omega

/-- Put a location in the place of the current one. -/
def replace (stack : Stack) (location : Location) : Stack where
  entries := stack.entries.set stack.cursor location
  cursor := stack.cursor
  cursor_lt := by simpa using stack.cursor_lt

/-- Move to the location before, if there is one. -/
def back? (stack : Stack) : Option Stack :=
  if stack.cursor = 0 then
    none
  else
    some
      { stack with
        cursor := stack.cursor - 1
        cursor_lt := Nat.lt_of_le_of_lt (Nat.sub_le _ _) stack.cursor_lt }

/-- Move to the location after, if there is one. -/
def forward? (stack : Stack) : Option Stack :=
  if inside : stack.cursor + 1 < stack.entries.length then
    some { stack with cursor := stack.cursor + 1, cursor_lt := inside }
  else
    none

theorem entries_eq (stack : Stack) :
    stack.entries = stack.past ++ stack.current :: stack.future := by
  simp [past, future, current]

@[simp] theorem past_push (stack : Stack) (location : Location) :
    (stack.push location).past = stack.past ++ [stack.current] := by
  have inside := stack.cursor_lt
  simp only [past, push, current, List.get_eq_getElem]
  rw [List.take_append_of_le_length (by simp only [List.length_take]; omega), List.take_take,
    Nat.min_self, List.take_add_one]
  simp [List.getElem?_eq_getElem inside]

@[simp] theorem current_push (stack : Stack) (location : Location) :
    (stack.push location).current = location := by
  have inside := stack.cursor_lt
  simp only [current, push, List.get_eq_getElem]
  rw [List.getElem_append_right (by simp only [List.length_take]; omega)]
  simp

@[simp] theorem future_push (stack : Stack) (location : Location) :
    (stack.push location).future = [] := by
  have inside := stack.cursor_lt
  apply List.drop_eq_nil_of_le
  simp only [push, List.length_append, List.length_take, List.length_singleton]
  omega

@[simp] theorem past_replace (stack : Stack) (location : Location) :
    (stack.replace location).past = stack.past := by
  simp [past, replace, List.take_set_of_le]

@[simp] theorem current_replace (stack : Stack) (location : Location) :
    (stack.replace location).current = location := by
  simp [current, replace]

@[simp] theorem future_replace (stack : Stack) (location : Location) :
    (stack.replace location).future = stack.future := by
  simp [future, replace, List.drop_set_of_lt]

end Stack

end History
end PageRouting
