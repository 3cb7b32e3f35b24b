import PageRouting.Text.CharSet

namespace PageRouting
namespace Pattern

/-!
Counting the states of a machine.  Machines that read bytes are not built here,
only counted: a state takes a fixed room, and what leads on from it takes more.
A part of a machine is a measure, which adds what the part takes to what has been
counted before.  Counting stops once the sum exceeds the room there is, so a large
number of repetitions costs no time.
-/

/-- What has been counted of a machine. -/
structure Tally where
  states : Nat
  /-- Room taken in addition to the states themselves. -/
  links : Nat
deriving DecidableEq, Repr

namespace Tally

def empty : Tally := ⟨0, 0⟩

/-- Room of a state. -/
def stateSize : Nat := 32

/-- Room of a way on from a state under a range of bytes. -/
def transitionSize : Nat := 8

/-- Room of a way on from a state without a byte. -/
def branchSize : Nat := 4

/-- Room for a whole machine. -/
def room : Nat := 10 * Nat.pow 2 20

def size (tally : Tally) : Nat :=
  stateSize * tally.states + tally.links

def exceeds (tally : Tally) : Bool :=
  room < tally.size

/-- One more state with a number of ways on under bytes. -/
def addState (tally : Tally) (transitions : Nat) : Tally where
  states := tally.states + 1
  links := tally.links + transitionSize * transitions

def addBranches (tally : Tally) (branches : Nat) : Tally :=
  { tally with links := tally.links + branchSize * branches }

end Tally

/-- What a part of a machine adds to a tally. -/
structure Measure where
  apply : Tally → Tally

namespace Measure

def nothing : Measure := ⟨fun tally => tally⟩

/-- A state with a number of ways on under bytes. -/
def state (transitions : Nat) : Measure := ⟨fun tally => tally.addState transitions⟩

/-- A state that is passed without a byte. -/
def plain : Measure := state 0

/-- Ways on without a byte from states that are counted elsewhere. -/
def branches (count : Nat) : Measure := ⟨fun tally => tally.addBranches count⟩

def andThen (first second : Measure) : Measure :=
  ⟨fun tally => second.apply (first.apply tally)⟩

def all (measures : List Measure) : Measure :=
  measures.foldr andThen nothing

/-- Apply a measure a number of times or until the room is exceeded. -/
def applyTimes (measure : Measure) : Nat → Tally → Tally
  | 0, tally => tally
  | count + 1, tally =>
      if tally.exceeds then tally else applyTimes measure count (measure.apply tally)

def times (count : Nat) (measure : Measure) : Measure :=
  ⟨measure.applyTimes count⟩

/-- Whether a machine has enough room. -/
def fits (measure : Measure) : Bool :=
  !(measure.apply .empty).exceeds

end Measure

end Pattern
end PageRouting
