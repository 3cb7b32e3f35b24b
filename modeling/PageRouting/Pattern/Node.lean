import PageRouting.Pattern.NamedClass

namespace PageRouting
namespace Pattern

/-!
Patterns as trees.  A tree has no flags: they have been used up in reading, and
every node says by itself what it accepts.  Groups carry the index under which
their text is kept.

Trees are built in a normal form.  A sequence or a choice of several parts is
nested to the right and has no such part at its left; texts that follow each
other are one text; a choice of characters is a set; and what all branches of a
choice begin with stands in front of it.  The normal form keeps the language of
the tree, and it is part of what the tree means: it settles which of several
matches is preferred, and how large a machine the tree takes.
-/

open Text (CharSet)

/-- Conditions on the place between two characters. -/
inductive Assertion where
  | textStart
  | textEnd
  | lineStart
  | lineEnd
  /-- Start of a line where a carriage return ends lines too. -/
  | returnLineStart
  | returnLineEnd
  | wordBoundary (wide : Bool)
  | notWordBoundary (wide : Bool)
  | wordStart (wide : Bool)
  | wordEnd (wide : Bool)
  | wordStartHalf (wide : Bool)
  | wordEndHalf (wide : Bool)
deriving DecidableEq, Repr

namespace Assertion

private def isWordAt (wide : Bool) : Option Char → Bool
  | none => false
  | some c => if wide then Text.isWord c else Text.isAsciiWord c

/-- Whether the condition holds between `previous` and `next`, either of which
may be missing at the ends of the text. -/
def holds (assertion : Assertion) (previous next : Option Char) : Bool :=
  match assertion with
  | .textStart => previous.isNone
  | .textEnd => next.isNone
  | .lineStart => previous.isNone || previous == some '\n'
  | .lineEnd => next.isNone || next == some '\n'
  | .returnLineStart =>
      previous.isNone || previous == some '\n' ||
        (previous == some '\r' && next != some '\n')
  | .returnLineEnd =>
      next.isNone || next == some '\r' || (next == some '\n' && previous != some '\r')
  | .wordBoundary wide => isWordAt wide previous != isWordAt wide next
  | .notWordBoundary wide => isWordAt wide previous == isWordAt wide next
  | .wordStart wide => !isWordAt wide previous && isWordAt wide next
  | .wordEnd wide => isWordAt wide previous && !isWordAt wide next
  | .wordStartHalf wide => !isWordAt wide previous
  | .wordEndHalf wide => !isWordAt wide next

end Assertion

/-- How often a part is repeated, and whether more repetitions are preferred. -/
structure Repetition where
  least : Nat
  most : Option Nat
  greedy : Bool
deriving DecidableEq, Repr

/-- The repetition of a part that matches only the empty text: once says all. -/
def Repetition.onceAtMost (repetition : Repetition) : Repetition where
  least := min repetition.least 1
  most := some (min (repetition.most.getD 1) 1)
  greedy := repetition.greedy

inductive Node where
  | empty
  | literal (text : List Char)
  /-- One character of a set; `wide` says whether the set was written with the full
  character set in mind. -/
  | one (members : CharSet) (wide : Bool)
  | assertion (condition : Assertion)
  | sequence (first second : Node)
  | choice (preferred other : Node)
  | group (index : Nat) (body : Node)
  | repeated (repetition : Repetition) (body : Node)
deriving DecidableEq, Repr

namespace Node

instance : Inhabited Node := ⟨.empty⟩

/-- One character of a set.  The set of a single character is its text, and the
empty set is the same whatever it was written for. -/
def ofSet (members : CharSet) (wide : Bool) : Node :=
  match members.ranges with
  | [] => .one .empty false
  | [range] =>
      if range.first = range.last then .literal [Char.ofNat range.first]
      else .one members wide
  | _ => .one members wide

/-- Parts that follow each other in a node. -/
def parts : Node → List Node
  | .empty => []
  | .sequence first second => first :: second.parts
  | node => [node]

/-- Texts that follow each other put together. -/
def joinLiterals : List Node → List Node
  | [] => []
  | .literal text :: nodes =>
      match joinLiterals nodes with
      | .literal next :: others => .literal (text ++ next) :: others
      | others => .literal text :: others
  | node :: nodes => node :: joinLiterals nodes

def sequenceOf : List Node → Node
  | [] => .empty
  | [node] => node
  | node :: nodes => .sequence node (sequenceOf nodes)

/-- All nodes one after the other. -/
def concat (nodes : List Node) : Node :=
  sequenceOf (joinLiterals (nodes.flatMap parts))

/-- Branches that a node chooses from. -/
def branches : Node → List Node
  | .choice preferred other => preferred :: other.branches
  | node => [node]

def choiceOf : List Node → Node
  | [] => .one .empty false
  | [node] => node
  | node :: nodes => .choice node (choiceOf nodes)

/-- The character of a node that is the text of one character. -/
def character? : Node → Option Char
  | .literal [c] => some c
  | _ => none

/-- The set of a node that is one. -/
def set? : Node → Option CharSet
  | .one members _ => some members
  | _ => none

/-- One of at least two branches, as a set if all of them are characters or all of
them are sets. -/
def choose (branches : List Node) : Node :=
  match branches.mapM character? with
  | some characters => ofSet (.ofCodes (characters.map Char.toNat)) true
  | none =>
      match branches.mapM set? with
      | some sets => ofSet (.unionAll sets) true
      | none => choiceOf branches

/-- What two lists have in common at their beginning. -/
def commonStart : List Node → List Node → List Node
  | left :: lefts, right :: rights =>
      if left = right then left :: commonStart lefts rights else []
  | _, _ => []

/-- What all branches begin with, if each of them has several parts. -/
def sharedStart : List Node → List Node
  | [] => []
  | [branch] => if branch.parts.length < 2 then [] else branch.parts
  | branch :: branches =>
      if branch.parts.length < 2 then [] else commonStart branch.parts (sharedStart branches)

/-- One of the branches, earlier ones preferred. -/
def alternation (nodes : List Node) : Node :=
  match nodes.flatMap branches with
  | [] => choiceOf []
  | [branch] => branch
  | branches =>
      match choose branches with
      | .choice preferred other =>
          match sharedStart branches with
          | [] => .choice preferred other
          | start =>
              let rests := branches.map fun branch => concat (branch.parts.drop start.length)
              concat (start ++ [choose (rests.flatMap Node.branches)])
      | node => node

/-- Whether a node matches no character at all. -/
def matchesOnlyEmpty : Node → Bool
  | .empty => true
  | .literal text => text.isEmpty
  | .one _ _ => false
  | .assertion _ => true
  | .sequence first second => first.matchesOnlyEmpty && second.matchesOnlyEmpty
  | .choice preferred other => preferred.matchesOnlyEmpty && other.matchesOnlyEmpty
  | .group _ body => body.matchesOnlyEmpty
  | .repeated _ body => body.matchesOnlyEmpty

/-- The least number of characters in a match; none if some part can never match. -/
def leastLength? : Node → Option Nat
  | .empty => some 0
  | .literal text => some text.length
  | .one members _ => if members.isEmpty then none else some 1
  | .assertion _ => some 0
  | .sequence first second => do pure ((← first.leastLength?) + (← second.leastLength?))
  | .choice preferred other => do pure (min (← preferred.leastLength?) (← other.leastLength?))
  | .group _ body => body.leastLength?
  | .repeated repetition body => body.leastLength?.map (repetition.least * ·)

/-- Whether a match has at least one character; this is not said of a node with a
part that can never match. -/
def alwaysConsumes (node : Node) : Bool :=
  node.leastLength?.any (0 < ·)

/-- A repetition.  Repeating at most zero times leaves nothing of the body, the
groups in it included, and repeating just once changes nothing. -/
def withRepetition (repetition : Repetition) (body : Node) : Node :=
  let repetition :=
    if body.matchesOnlyEmpty then repetition.onceAtMost else repetition
  if repetition.least = 0 ∧ repetition.most = some 0 then .empty
  else if repetition.least = 1 ∧ repetition.most = some 1 then body
  else .repeated repetition body

/-- Largest index of a group, or zero if there is none. -/
def lastGroup : Node → Nat
  | .empty => 0
  | .literal _ => 0
  | .one _ _ => 0
  | .assertion _ => 0
  | .sequence first second => max first.lastGroup second.lastGroup
  | .choice preferred other => max preferred.lastGroup other.lastGroup
  | .group index body => max index body.lastGroup
  | .repeated _ body => body.lastGroup

/-- Whether a match can only begin at the start of the text. -/
def beginsAtStart : Node → Bool
  | .assertion condition => condition = .textStart
  | .sequence first second =>
      first.beginsAtStart || (first.matchesOnlyEmpty && second.beginsAtStart)
  | .choice preferred other => preferred.beginsAtStart && other.beginsAtStart
  | .group _ body => body.beginsAtStart
  | .repeated repetition body => 0 < repetition.least && body.beginsAtStart
  | _ => false

/-- Whether a match can only end at the end of the text. -/
def endsAtEnd : Node → Bool
  | .assertion condition => condition = .textEnd
  | .sequence first second =>
      second.endsAtEnd || (second.matchesOnlyEmpty && first.endsAtEnd)
  | .choice preferred other => preferred.endsAtEnd && other.endsAtEnd
  | .group _ body => body.endsAtEnd
  | .repeated repetition body => 0 < repetition.least && body.endsAtEnd
  | _ => false

end Node

end Pattern
end PageRouting
