import PageRouting.Pattern.Node
import PageRouting.Pattern.SetMachine

namespace PageRouting
namespace Pattern

/-!
How large the machines of a pattern are.  A pattern needs one machine that reads
a text from its start and one that reads it from its end; the latter does not
follow groups.  A pattern is too large if either of them is.  A choice of very
many texts and nothing else needs no machine, since the texts can be looked up.
-/

/-- The states for a choice of texts, which share what they have in common at
their beginning.  Where one text ends another may go on, and what is added to a
state after a text has ended there is not shared with what was there before. -/
structure Branching where
  /-- The ways on under a byte, with the rests of the texts that go on there;
  a list for each of the texts that end in between. -/
  chunks : List (List (UInt8 × List (List UInt8)))
  /-- Number of texts that end here; repetitions do not count at the beginning. -/
  ends : Nat

namespace Branching

/-- Add a rest to those that go on under the same byte. -/
def insertRest (byte : UInt8) (rest : List UInt8) :
    List (UInt8 × List (List UInt8)) → List (UInt8 × List (List UInt8))
  | [] => [(byte, [rest])]
  | (other, rests) :: entries =>
      if other = byte then (other, rests ++ [rest]) :: entries
      else (other, rests) :: insertRest byte rest entries

/-- Add a text; the current chunk comes first. -/
def add (branching : Branching) : List UInt8 → Branching
  | [] =>
      if branching.chunks.all List.isEmpty && branching.ends != 0 then branching
      else ⟨[] :: branching.chunks, branching.ends + 1⟩
  | byte :: rest =>
      match branching.chunks with
      | [] => { branching with chunks := [[(byte, [rest])]] }
      | chunk :: chunks => { branching with chunks := insertRest byte rest chunk :: chunks }

def ofTexts (texts : List (List UInt8)) : Branching :=
  texts.foldl add ⟨[[]], 0⟩

/-- Ways on in all chunks. -/
def entries (branching : Branching) : List (UInt8 × List (List UInt8)) :=
  branching.chunks.flatten

/-- The states of this place alone: one for each chunk that is not empty, and one
that branches to them. -/
def measure (branching : Branching) : Measure :=
  let chunks := branching.chunks.filter fun chunk => !chunk.isEmpty
  .all
    [.all (chunks.map fun chunk => .state (if chunk.length < 2 then 0 else chunk.length)),
     .plain, .branches (chunks.length + branching.ends)]

end Branching

/-- The states for a choice of texts, none of them longer than the bound.  Where
all texts end there are none. -/
def textsMeasure : Nat → List (List UInt8) → Measure
  | 0, _ => .nothing
  | bound + 1, texts =>
      if texts.all List.isEmpty then .nothing
      else
        let branching := Branching.ofTexts texts
        .andThen (.all (branching.entries.map fun entry => textsMeasure bound entry.2))
          branching.measure

namespace Node

/-- The bytes of a text. -/
def text? : Node → Option (List UInt8)
  | .literal text => some (Text.Utf8.encode text)
  | _ => none

/-- The states for a choice of texts, which are followed from their ends if
`backward` says so. -/
def choiceOfTexts (backward : Bool) (texts : List (List UInt8)) : Measure :=
  let texts := if backward then texts.map List.reverse else texts
  let longest := texts.foldl (fun longest text => max longest text.length) 0
  .andThen .plain (textsMeasure longest texts)

/-- The states of a node from the measures of its branches. -/
def ofBranches (backward : Bool) (node : Node) (measures : List Measure) : Measure :=
  match measures with
  | first :: second :: others =>
      match node.branches.mapM text? with
      | some texts => choiceOfTexts backward texts
      | none => .all [first, second, .plain, .plain, .all others, .branches (others.length + 2)]
  | measures => .all measures

/-- The states of a repetition; `consumes` says that the part always consumes
something. -/
def repeatedMeasure (repetition : Repetition) (consumes : Bool) (body : Measure) : Measure :=
  match repetition.least, repetition.most with
  | 0, none =>
      if consumes then .all [.plain, body, .branches 2]
      else .all [body, .plain, .plain, .plain, .branches 4]
  | least + 1, none => .all [.times least body, body, .plain, .branches 2]
  | 0, some 1 => .all [.plain, body, .plain, .branches 2]
  | least, some most =>
      let required := if least = 0 then .plain else .times least body
      if least = most then required
      else .all [required, .plain, .times (most - least) (.all [.plain, body, .branches 2])]

/-- The measures of the branches of a node. -/
def branchMeasures (backward : Bool) : Node → List Measure
  | .empty => [.plain]
  | .literal text => [.times (Text.Utf8.encode text).length .plain]
  | .one members wide => [setMeasure backward wide members]
  | .assertion _ => [.plain]
  | .sequence first second =>
      let first := ofBranches backward first (branchMeasures backward first)
      let second := ofBranches backward second (branchMeasures backward second)
      [if backward then .andThen second first else .andThen first second]
  | .choice preferred other =>
      ofBranches backward preferred (branchMeasures backward preferred) ::
        branchMeasures backward other
  | .group _ body =>
      let body := ofBranches backward body (branchMeasures backward body)
      [if backward then body else .all [.plain, body, .plain]]
  | .repeated repetition body =>
      [repeatedMeasure repetition body.alwaysConsumes
        (ofBranches backward body (branchMeasures backward body))]

/-- The states of a whole machine.  It begins with a loop that finds the place of
a match, unless there is only one place.  Reading from the start of the text, the
match is followed like a group. -/
def machineMeasure (backward : Bool) (root : Node) : Measure :=
  let settled := if backward then root.endsAtEnd else root.beginsAtStart
  let finding := if settled then .plain else .all [.plain, .plain, .state 1, .branches 2]
  let body := ofBranches backward root (branchMeasures backward root)
  .all [finding, if backward then body else .all [.plain, body, .plain], .plain]

/-- Number of texts from which on a choice of them is looked up. -/
def lexiconSize : Nat := 3000

/-- Whether a node is a choice of very many texts. -/
def isLexicon (root : Node) : Bool :=
  let branches := root.branches
  lexiconSize ≤ branches.length && branches.all fun branch => branch.text?.isSome

/-- Whether both machines have enough room, or none is needed. -/
def fits (root : Node) : Bool :=
  root.isLexicon || ((machineMeasure false root).fits && (machineMeasure true root).fits)

end Node

end Pattern
end PageRouting
