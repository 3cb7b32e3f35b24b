import PageRouting.Pattern.Tally
import PageRouting.Text.ByteRange
import Std.Data.TreeMap.Basic

namespace PageRouting
namespace Pattern

open Text (ByteRange)

/-!
The part of a machine that reads one character of a set, byte by byte.  States
that go on in the same way are meant to be shared, and a state is looked for among
those built so far before another one is built.  They are remembered in a table of
limited size, in which a later state may take the place of an earlier one.  What
has been displaced is built again when it is needed, so the number of states
depends on the numbers that the states go by.
-/

/-- A hash of some numbers, to which more can be added. -/
structure Digest where
  value : UInt64

namespace Digest

def start : Digest := ⟨14695981039346656037⟩

def add (digest : Digest) (number : Nat) : Digest :=
  ⟨(digest.value ^^^ number.toUInt64) * 1099511628211⟩

/-- A slot of a table with the given number of slots. -/
def slot (digest : Digest) (slots : Nat) : Nat :=
  digest.value.toNat % slots

end Digest

/-- A way on from a state: any byte of the range leads to the state of that number. -/
structure Transition where
  bytes : ByteRange
  target : Nat
deriving DecidableEq, Repr

/-- The hash of some ways on, of which the latest comes first. -/
def Transition.digest (transitions : List Transition) : Digest :=
  transitions.foldr
    (fun transition digest =>
      ((digest.add transition.bytes.first).add transition.bytes.last).add transition.target)
    .start

/-- A state under construction.  It is not known yet where the latest range of
bytes leads. -/
structure OpenState where
  /-- Ways on that are complete, the latest first. -/
  transitions : List Transition
  latest : Option ByteRange

namespace OpenState

/-- Let the latest range lead to a state. -/
def freeze (state : OpenState) (target : Nat) : OpenState :=
  match state.latest with
  | none => state
  | some bytes => ⟨⟨bytes, target⟩ :: state.transitions, none⟩

end OpenState

/-- A set under construction from its first bytes on. -/
structure OpenSet where
  tally : Tally
  /-- States built before, with their numbers, by slots. -/
  known : Std.TreeMap Nat (List Transition × Nat)
  /-- The state reached after the last character. -/
  finish : Nat
  /-- States along the latest sequence of bytes, the last one first. -/
  path : List OpenState

namespace OpenSet

/-- Number of slots for states built before. -/
def slots : Nat := 10000

/-- The number of a state with the given ways on, built if it is not known. -/
def build (set : OpenSet) (transitions : List Transition) : OpenSet × Nat :=
  let slot := (Transition.digest transitions).slot slots
  let fresh : OpenSet × Nat :=
    ({ set with
      tally := set.tally.addState transitions.length
      known := set.known.insert slot (transitions, set.tally.states) }, set.tally.states)
  match set.known.get? slot with
  | some (others, number) => if others = transitions then (set, number) else fresh
  | none => fresh

/-- Let the last state of the path lead to a state. -/
def freezeLast (set : OpenSet) (target : Nat) : OpenSet :=
  match set.path with
  | [] => set
  | state :: states => { set with path := state.freeze target :: states }

/-- Build the last states of the path, as many as said, each of them leading to
the one after it. -/
def close (target : Nat) : Nat → OpenSet → OpenSet
  | 0, set => set.freezeLast target
  | count + 1, set =>
      match set.path with
      | [] => set
      | state :: states =>
          let (set, number) := { set with path := states }.build (state.freeze target).transitions
          close number count set

/-- Number of ranges that a sequence begins with as the path does. -/
def commonLength : List ByteRange → List OpenState → Nat
  | bytes :: sequence, state :: states =>
      if state.latest = some bytes then commonLength sequence states + 1 else 0
  | _, _ => 0

/-- Go on along a sequence from the last state of the path. -/
def extend (set : OpenSet) : List ByteRange → OpenSet
  | [] => set
  | bytes :: sequence =>
      match set.path with
      | [] => set
      | state :: states =>
          { set with
            path := (sequence.map fun bytes => ⟨[], some bytes⟩).reverse ++
              { state with latest := some bytes } :: states }

/-- Add a sequence, after all that come before it in order. -/
def add (set : OpenSet) (sequence : List ByteRange) : OpenSet :=
  let common := commonLength sequence set.path.reverse
  (close set.finish (set.path.length - (common + 1)) set).extend (sequence.drop common)

/-- Build the states along some sequences. -/
def ofSequences (sequences : List (List ByteRange)) (tally : Tally) : OpenSet :=
  let opened : OpenSet := ⟨tally.addState 0, {}, tally.states, [⟨[], none⟩]⟩
  let set := sequences.foldl add opened
  close set.finish set.path.length set

end OpenSet

/-- A set under construction from its last bytes on. -/
structure BackwardSet where
  tally : Tally
  known : Std.TreeMap Nat (Transition × Nat)

namespace BackwardSet

def slots : Nat := 1000

/-- The number of a state with one way on. -/
def build (set : BackwardSet) (transition : Transition) : BackwardSet × Nat :=
  let digest := ((Digest.start.add transition.target).add transition.bytes.first).add
    transition.bytes.last
  let slot := digest.slot slots
  let fresh : BackwardSet × Nat :=
    (⟨set.tally.addState 0, set.known.insert slot (transition, set.tally.states)⟩,
      set.tally.states)
  match set.known.get? slot with
  | some (other, number) => if other = transition then (set, number) else fresh
  | none => fresh

/-- Build the states along a sequence and branch to the last of them. -/
def add (finish : Nat) (set : BackwardSet) (sequence : List ByteRange) : BackwardSet :=
  let (set, _) := sequence.foldl
    (fun (set, target) bytes => set.build ⟨bytes, target⟩) (set, finish)
  { set with tally := set.tally.addBranches 1 }

end BackwardSet

/-- The states for one character of a set.  Bytes are enough if the set is not
meant for the full character set, or holds ASCII only. -/
def setMeasure (backward wide : Bool) (members : Text.CharSet) : Measure :=
  if !wide || members.ranges.all fun range => range.last < 0x80 then
    .andThen .plain (.state members.ranges.length)
  else
    let sequences := members.ranges.flatMap Text.CodeRange.byteSequences
    if backward then
      ⟨fun tally =>
        if tally.exceeds then tally
        else
          let opened := (tally.addState 0).addState 0
          (sequences.foldl (BackwardSet.add (tally.states + 1)) ⟨opened, {}⟩).tally⟩
    else
      ⟨fun tally =>
        if tally.exceeds then tally else (OpenSet.ofSequences sequences tally).tally⟩

end Pattern
end PageRouting
