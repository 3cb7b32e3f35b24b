import PageRouting.Pattern.Escape

namespace PageRouting
namespace Pattern

open Text (CharSet)

/-!
Bracketed classes.  Inside the brackets stand characters, ranges, escapes,
nested classes and named ASCII classes, whose union is taken; between such
unions `&&`, `--` and `~~` form intersections, differences and symmetric
differences from left to right.  Hyphens at the very start are characters, and
so is a closing bracket that comes first.
-/

/-- Operators between the unions of a class. -/
inductive SetOperator where
  | intersection
  | difference
  | symmetricDifference
deriving DecidableEq, Repr

def SetOperator.apply : SetOperator → CharSet → CharSet → CharSet
  | .intersection => CharSet.intersection
  | .difference => CharSet.difference
  | .symmetricDifference => CharSet.symmetricDifference

/-- How much of a class has been read: nothing, only hyphens, or more. -/
inductive ClassStage where
  | fresh
  | hyphens
  | body
deriving DecidableEq, Repr

/-- How high the parts of a pattern may be nested. -/
def maxHeight : Nat := 250

/-- A set with the height of the text that it was read from: how many classes,
operators and unions of several items are nested in it. -/
structure ReadSet where
  members : CharSet
  height : Nat

/-- A union whose items are being read. -/
structure OpenUnion where
  members : CharSet
  count : Nat
  /-- Height of the highest item. -/
  height : Nat

namespace OpenUnion

def empty : OpenUnion := ⟨.empty, 0, 0⟩

def add (items : OpenUnion) (item : ReadSet) : OpenUnion where
  members := items.members.union item.members
  count := items.count + 1
  height := max items.height item.height

/-- A single item is no higher than by itself. -/
def read (items : OpenUnion) : ReadSet where
  members := items.members
  height := if items.count < 2 then items.height else items.height + 1

end OpenUnion

/-- A class that has not been closed yet. -/
structure OpenClass where
  negated : Bool
  /-- The left side of the operator whose right side is being read. -/
  pending : Option (SetOperator × ReadSet)
  items : OpenUnion
  stage : ClassStage

namespace OpenClass

def opened (negated : Bool) : OpenClass where
  negated := negated
  pending := none
  items := .empty
  stage := .fresh

def add (opening : OpenClass) (item : ReadSet) : OpenClass :=
  { opening with items := opening.items.add item, stage := .body }

/-- Add a set that is no higher than a character. -/
def addFlat (opening : OpenClass) (members : CharSet) : OpenClass :=
  opening.add ⟨members, 0⟩

/-- The set read so far.  Case is folded on both sides of an operator. -/
def value (opening : OpenClass) (flags : Flags) : ReadSet :=
  let right := opening.items.read
  match opening.pending with
  | none => right
  | some (operator, left) =>
      ⟨operator.apply (flags.foldCase left.members) (flags.foldCase right.members),
        max left.height right.height + 1⟩

/-- Go on to the right side of an operator. -/
def operate (opening : OpenClass) (flags : Flags) (operator : SetOperator) : OpenClass :=
  { opening with
    pending := some (operator, opening.value flags)
    items := .empty
    stage := .body }

/-- The closed class, if it is not too high: case is folded before the complement
is taken, and outside the full character set there is no complement. -/
def close? (opening : OpenClass) (flags : Flags) : Option ReadSet :=
  let value := opening.value flags
  let members := flags.foldCase value.members
  if maxHeight ≤ value.height then none
  else if !opening.negated then some ⟨members, value.height + 1⟩
  else if flags.wide then some ⟨members.complement, value.height + 1⟩
  else none

end OpenClass

/-- A character of a class.  Outside the full character set it must be ASCII. -/
def classLiteral? (flags : Flags) (c : Char) : Option Char :=
  if flags.wide || c.toNat < 128 then some c else none

/-- A character or escape of a class. -/
def readClassItem (flags : Flags) : List Char → Option (Atom × List Char)
  | [] => none
  | '\\' :: rest => readEscape flags rest
  | c :: rest => some (.literal c false, rest)

/-- The set of a single item; a condition is no item of a class. -/
def itemSet? (flags : Flags) : Atom → Option CharSet
  | .literal c _ => (classLiteral? flags c).map CharSet.single
  | .set members => some members
  | .assertion _ => none

/-- The character that decides whether a hyphen forms a range: the next one, and
in verbose mode the next one that is neither blank nor a first comment mark. -/
def afterHyphen (flags : Flags) (rest : List Char) : Option Char :=
  if flags.verbose then
    let text := rest.dropWhile Text.isBlank
    let text :=
      match text with
      | '#' :: comment => comment.dropWhile Text.isBlank
      | text => text
    text.head? <|> rest.head?
  else
    rest.head?

/-- Read an item or a range. -/
def readClassRange (flags : Flags) (text : List Char) : Option (CharSet × List Char) := do
  let (first, rest) ← readClassItem flags text
  match flags.skipBlanks rest with
  | [] => none
  | '-' :: rest =>
      let following := afterHyphen flags rest
      if following == some ']' || following == some '-' then
        pure (← itemSet? flags first, '-' :: rest)
      else
        let (last, rest) ← readClassItem flags (flags.skipBlanks rest)
        match first, last with
        | .literal low _, .literal high _ =>
            let low ← classLiteral? flags low
            let high ← classLiteral? flags high
            if low ≤ high then some (CharSet.ofRange low.toNat high.toNat, rest) else none
        | _, _ => none
  | rest => pure (← itemSet? flags first, rest)

/-- A named ASCII class, after its opening bracket.  Anything else that begins
with a bracket is a nested class. -/
def readNamedClass? (flags : Flags) : List Char → Option (CharSet × List Char)
  | ':' :: text =>
      let (negated, text) :=
        match text with
        | '^' :: rest => (true, rest)
        | text => (false, text)
      match Text.cutAt ':' text with
      | (name, some (']' :: rest)) =>
          (NamedClass.named? (String.ofList name)).map fun members =>
            let folded := flags.foldCase members
            (if negated then folded.complement else folded, rest)
      | _ => none
  | _ => none

/-- Read the negation of a class, after its opening bracket. -/
def openClass (flags : Flags) (text : List Char) : OpenClass × List Char :=
  match flags.skipBlanks text with
  | '^' :: rest => (.opened true, rest)
  | rest => (.opened false, rest)

/-- What one step of reading a class leads to. -/
inductive ClassStep where
  /-- The innermost class goes on, with the classes around it. -/
  | more (current : OpenClass) (outer : List OpenClass) (rest : List Char)
  | finished (read : ReadSet) (rest : List Char)

/-- Read one part of a class. -/
def stepClass (flags : Flags) (current : OpenClass) (outer : List OpenClass) :
    List Char → Option ClassStep
  | [] => none
  | c :: rest =>
      if c == '-' && current.stage != .body then
        some (.more { current.addFlat (.single '-') with stage := .hyphens } outer rest)
      else if c == ']' && current.stage == .fresh then
        some (.more (current.addFlat (.single ']')) outer rest)
      else
        match c, rest with
        | '[', rest =>
            match readNamedClass? flags rest with
            | some (members, after) =>
                -- the complement of a named class needs the full character set
                if flags.wide || rest.take 2 != [':', '^'] then
                  some (.more (current.addFlat members) outer after)
                else
                  none
            | none =>
                let (inner, after) := openClass flags rest
                some (.more inner ({ current with stage := .body } :: outer) after)
        | ']', rest => do
            let closed ← current.close? flags
            match outer with
            | [] => some (.finished closed rest)
            | enclosing :: outer => some (.more (enclosing.add closed) outer rest)
        | '&', '&' :: rest => some (.more (current.operate flags .intersection) outer rest)
        | '-', '-' :: rest => some (.more (current.operate flags .difference) outer rest)
        | '~', '~' :: rest =>
            some (.more (current.operate flags .symmetricDifference) outer rest)
        | c, rest => do
            let (members, rest) ← readClassRange flags (c :: rest)
            some (.more (current.addFlat members) outer rest)

/-- Read parts of a class until it is closed.  Every part takes at least one
character, so a bound above the length of the text is never used up. -/
def readClassParts (flags : Flags) :
    Nat → OpenClass → List OpenClass → List Char → Option (ReadSet × List Char)
  | 0, _, _, _ => none
  | bound + 1, current, outer, text =>
      match stepClass flags current outer (flags.skipBlanks text) with
      | none => none
      | some (.finished read rest) => some (read, rest)
      | some (.more current outer rest) => readClassParts flags bound current outer rest

/-- Read a bracketed class, after its opening bracket. -/
def readClass (flags : Flags) (text : List Char) : Option (ReadSet × List Char) :=
  let (current, rest) := openClass flags text
  readClassParts flags (rest.length + 1) current [] rest

end Pattern
end PageRouting
