import PageRouting.Pattern.Program

namespace PageRouting
namespace Pattern

/-!
Running a program.  A thread stands at an instruction and at a place of the text.
The threads still to be run wait on a stack: the thread on top is run first, and
the ways on from its instruction take its place in their order of preference.  So
the first thread to run off the end of the program has taken the preferred way.
A match may begin anywhere in the text, and the earliest beginning wins: the
stack holds at first one thread for every place, in order.

What becomes of a thread depends on its instruction and its place alone.  Where
one thread has been, another one that comes there later can be dropped: if the
first had led to a match, the search would have ended.  This also ends the rounds
of a repetition that consume nothing.
-/

/-- A way through the program so far. -/
structure Thread where
  /-- Where in the program the thread stands. -/
  instruction : Nat
  /-- How many characters have been gone past. -/
  position : Nat
  previous : Option Char
  rest : List Char
  /-- Indices of the groups entered so far and the positions of it, latest first. -/
  entered : List (Nat × Nat)
  /-- The same for the ends of groups. -/
  left : List (Nat × Nat)
deriving DecidableEq, Repr

namespace Thread

/-- Go to the instruction at an offset. -/
def moveBy (thread : Thread) (offset : Int) : Thread :=
  { thread with instruction := (thread.instruction + offset).toNat }

def next (thread : Thread) : Thread :=
  { thread with instruction := thread.instruction + 1 }

/-- Go past the next character and on to the next instruction. -/
def advance (thread : Thread) (c : Char) (rest : List Char) : Thread :=
  { thread.next with position := thread.position + 1, previous := some c, rest := rest }

/-- The ways on from an instruction, the preferred one first. -/
def follow (thread : Thread) : Instruction → List Thread
  | .take members =>
      match thread.rest with
      | [] => []
      | c :: rest => if members.contains c then [thread.advance c rest] else []
  | .check condition =>
      if condition.holds thread.previous thread.rest.head? then [thread.next] else []
  | .enter index => [{ thread.next with entered := (index, thread.position) :: thread.entered }]
  | .leave index => [{ thread.next with left := (index, thread.position) :: thread.left }]
  | .jump offset => [thread.moveBy offset]
  | .fork preferred other => [thread.moveBy preferred, thread.moveBy other]

theorem length_follow_le (thread : Thread) (instruction : Instruction) :
    (thread.follow instruction).length ≤ 2 := by
  unfold follow
  split
  · split
    · simp
    · split <;> simp
  · split <;> simp
  · simp
  · simp
  · simp
  · simp

/-- Where the last round of a group begins and ends, if the thread has been there. -/
def bounds? (thread : Thread) (index : Nat) : Option (Nat × Nat) := do
  pure (← thread.entered.lookup index, ← thread.left.lookup index)

/-- Threads that begin at each place of a text. -/
def starts (position : Nat) (previous : Option Char) : List Char → List Thread
  | [] => [⟨0, position, previous, [], [], []⟩]
  | c :: rest =>
      ⟨0, position, previous, c :: rest, [], []⟩ :: starts (position + 1) (some c) rest

end Thread

/-- A set of numbers below a bound, a bit for each. -/
structure Visited where
  words : Array Nat

namespace Visited

/-- Number of bits in a word. -/
def wordSize : Nat := 32

/-- The empty set, with room for the numbers below the bound. -/
def empty (bound : Nat) : Visited :=
  ⟨Array.replicate (bound / wordSize + 1) 0⟩

def contains (visited : Visited) (number : Nat) : Bool :=
  (visited.words.getD (number / wordSize) 0).testBit (number % wordSize)

def insert (visited : Visited) (number : Nat) : Visited :=
  ⟨visited.words.modify (number / wordSize) fun word => word ||| 1 <<< (number % wordSize)⟩

end Visited

/-- Run the threads of a stack until one of them has matched.  The number bounds
the steps. -/
def run (program : Array Instruction) : Nat → Visited → List Thread → Option Thread
  | 0, _, _ => none
  | _ + 1, _, [] => none
  | bound + 1, visited, thread :: others =>
      match program[thread.instruction]? with
      | none => some thread
      | some instruction =>
          let number := thread.position * program.size + thread.instruction
          if visited.contains number then
            run program bound visited others
          else
            run program bound (visited.insert number) (thread.follow instruction ++ others)

/-- The preferred match of a program in a text.  Each instruction is run at most
once at each place and leaves at most two threads. -/
def search (program : Array Instruction) (text : List Char) : Option Thread :=
  let places := text.length + 1
  let visits := program.size * places
  run program (2 * visits + places + 1) (.empty visits) (Thread.starts 0 none text)

end Pattern

/-- A pattern that has been read, with its program. -/
structure Pattern where
  root : Pattern.Node
  program : Array Pattern.Instruction
  program_eq : program = root.program.toArray

namespace Pattern

def ofNode (root : Node) : Pattern where
  root := root
  program := root.program.toArray
  program_eq := rfl

/-- Number of groups that a match has a text for. -/
def groupCount (pattern : Pattern) : Nat :=
  pattern.root.lastGroup

/-- Whether the pattern matches somewhere in the text. -/
def matchesText (pattern : Pattern) (text : String) : Bool :=
  (search pattern.program text.toList).isSome

/-- Texts of the groups of the match, from the first index to the largest; the
last round of a repeated group counts.  A group that took no part has no text. -/
def captures? (pattern : Pattern) (text : String) : Option (List (Option String)) :=
  (search pattern.program text.toList).map fun thread =>
    (List.range pattern.groupCount).map fun offset =>
      (thread.bounds? (offset + 1)).map fun (first, last) =>
        String.ofList ((text.toList.drop first).take (last - first))

theorem captures?_isSome (pattern : Pattern) (text : String) :
    (pattern.captures? text).isSome = pattern.matchesText text := by
  simp [captures?, matchesText]

end Pattern
end PageRouting
