import PageRouting.Pattern.Node

namespace PageRouting
namespace Pattern

/-!
Patterns as programs.  A program is a list of instructions; it is begun at its
first instruction, and one that runs off its end has matched.  Jumps are counted
from the instruction that makes them, so the program of a node can stand at any
place of a larger one, and the program of a node that follows another is their
concatenation.

A fork has two ways on, of which the first is preferred.  A repetition whose
part always consumes something comes back to the fork in front of it.  A part
that may match the empty text is entered once before the fork behind it decides
on another round.
-/

inductive Instruction where
  /-- Go past one character of the set. -/
  | take (members : Text.CharSet)
  /-- Go on only where the condition holds. -/
  | check (condition : Assertion)
  /-- The text of a group begins here. -/
  | enter (index : Nat)
  /-- The text of a group ends here. -/
  | leave (index : Nat)
  | jump (offset : Int)
  | fork (preferred other : Int)
deriving DecidableEq, Repr

namespace Instruction

/-- A fork that prefers the first way if `greedy` says so, and else the second. -/
def forkBy (greedy : Bool) (again stop : Int) : Instruction :=
  if greedy then .fork again stop else .fork stop again

/-- The program of a part that may be left out. -/
def optional (greedy : Bool) (body : List Instruction) : List Instruction :=
  forkBy greedy 1 (body.length + 1) :: body

/-- The program of a part up to a number of times, each time inside the last. -/
def upTo (greedy : Bool) (body : List Instruction) : Nat → List Instruction
  | 0 => []
  | count + 1 => optional greedy (body ++ upTo greedy body count)

/-- A part as often as possible, tried at least once. -/
def onceOrMore (greedy : Bool) (body : List Instruction) : List Instruction :=
  body ++ [forkBy greedy (-body.length) 1]

/-- A part that always consumes something, any number of times. -/
def anyTimes (greedy : Bool) (body : List Instruction) : List Instruction :=
  optional greedy (body ++ [.jump (-(body.length + 1))])

/-- The program of a part repeated; `consumes` says that the part always consumes
something. -/
def repeated (repetition : Repetition) (consumes : Bool) (body : List Instruction) :
    List Instruction :=
  match repetition.least, repetition.most with
  | 0, none =>
      if consumes then anyTimes repetition.greedy body
      else optional repetition.greedy (onceOrMore repetition.greedy body)
  | least + 1, none =>
      (List.replicate least body).flatten ++ onceOrMore repetition.greedy body
  | least, some most =>
      (List.replicate least body).flatten ++ upTo repetition.greedy body (most - least)

end Instruction

/-- The program of a node. -/
def Node.program : Node → List Instruction
  | .empty => []
  | .literal text => text.map fun c => .take (.single c)
  | .one members _ => [.take members]
  | .assertion condition => [.check condition]
  | .sequence first second => first.program ++ second.program
  | .choice preferred other =>
      let preferred := preferred.program
      let other := other.program
      .fork 1 (preferred.length + 2) :: preferred ++ .jump (other.length + 1) :: other
  | .group index body => .enter index :: body.program ++ [.leave index]
  | .repeated repetition body =>
      Instruction.repeated repetition body.alwaysConsumes body.program

end Pattern
end PageRouting
