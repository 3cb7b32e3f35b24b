import PageRouting.Pattern.CharClass
import PageRouting.Pattern.Footprint
import PageRouting.Pattern.Search
import PageRouting.Text.Recent

namespace PageRouting
namespace Pattern

/-!
Reading a pattern.  The text is read part by part, from left to right, into the
alternatives of the innermost open group; the groups around it wait on a stack.
A directive changes the flags up to the end of its group, across alternatives,
and is nothing a repetition could apply to.  A text is rejected as soon as one
part cannot be read or is nested too high, and at the end if a group is still
open or the pattern is too large.
-/

/-- A part of a sequence.  A node comes with the height of its text: how many
groups, repetitions, classes, choices and sequences of several parts are nested
in it. -/
inductive Part where
  | piece (node : Node) (height : Nat)
  | directive

namespace Part

/-- The node of a part; a directive matches nothing. -/
def toNode : Part → Node
  | .piece node _ => node
  | .directive => .empty

def height : Part → Nat
  | .piece _ height => height
  | .directive => 0

end Part

/-- The height of a whole of several members, or of its only member. -/
def heightOver (heights : List Nat) : Nat :=
  let highest := heights.foldl max 0
  if heights.length < 2 then highest else highest + 1

/-- An alternative of a group. -/
structure Branch where
  node : Node
  height : Nat

/-- What has been read of a group. -/
structure Level where
  /-- Finished alternatives, the latest first. -/
  branches : List Branch := []
  /-- Parts of the current alternative, the latest first. -/
  parts : List Part := []

namespace Level

def add (level : Level) (part : Part) : Level :=
  { level with parts := part :: level.parts }

/-- The current alternative. -/
def branch (level : Level) : Branch where
  node := Node.concat (level.parts.reverse.map Part.toNode)
  height := heightOver (level.parts.map Part.height)

/-- Go on to the next alternative. -/
def nextBranch (level : Level) : Level where
  branches := level.branch :: level.branches
  parts := []

/-- Everything read of the group, unless it is nested too high. -/
def close? (level : Level) : Option Branch :=
  let branches := level.branch :: level.branches
  let height := heightOver (branches.map Branch.height)
  if height ≤ maxHeight then
    some ⟨Node.alternation (branches.reverse.map Branch.node), height⟩
  else
    none

end Level

/-- A group around the one being read. -/
structure Enclosing where
  /-- Index of the group that was opened in it, if that group keeps its text. -/
  index : Option Nat
  /-- The flags to return to. -/
  flags : Flags
  level : Level

/-- The state of reading. -/
structure Reader where
  flags : Flags := {}
  /-- Number of groups opened so far that keep their text. -/
  groups : Nat := 0
  names : List (List Char) := []
  level : Level := {}
  enclosing : List Enclosing := []

open Text (CharSet)

namespace Reader

/-- Add a part that is not nested too high. -/
def add? (reader : Reader) (node : Node) (height : Nat) : Option Reader :=
  if height ≤ maxHeight then
    some { reader with level := reader.level.add (.piece node height) }
  else
    none

/-- Add a part with nothing nested in it. -/
def addFlat (reader : Reader) (node : Node) : Reader :=
  { reader with level := reader.level.add (.piece node 0) }

/-- A literal character.  Outside the full character set one written as a byte
must be ASCII, and only ASCII letters have another case. -/
def literal? (flags : Flags) (c : Char) (isByte : Bool) : Option Node :=
  if isByte && !flags.wide && 128 ≤ c.toNat then none
  else some (.ofSet (flags.foldCase (.single c)) flags.wide)

/-- The node of an escape. -/
def atomNode? (flags : Flags) : Atom → Option Node
  | .literal c isByte => literal? flags c isByte
  | .set members => some (.ofSet members flags.wide)
  | .assertion condition => some (.assertion condition)

/-- Any character but those that end lines, or any at all.  Outside the full
character set this would cut characters apart and is not available. -/
def dot? (flags : Flags) : Option Node :=
  if !flags.wide then none
  else if flags.dotAll then some (.one .all true)
  else if flags.carriageReturns then
    some (.one ((CharSet.single '\n').union (.single '\r')).complement true)
  else some (.one (CharSet.single '\n').complement true)

def lineStart (flags : Flags) : Node :=
  .assertion
    (if !flags.multiLine then .textStart
     else if flags.carriageReturns then .returnLineStart else .lineStart)

def lineEnd (flags : Flags) : Node :=
  .assertion
    (if !flags.multiLine then .textEnd
     else if flags.carriageReturns then .returnLineEnd else .lineEnd)

/-- Open a group with the given flags. -/
def openGroup (reader : Reader) (index : Option Nat) (flags : Flags) : Reader :=
  { reader with
    flags := flags
    level := {}
    enclosing := ⟨index, reader.flags, reader.level⟩ :: reader.enclosing }

/-- Open a group that keeps its text. -/
def openCapture (reader : Reader) : Reader :=
  let index := reader.groups + 1
  { reader.openGroup (some index) reader.flags with groups := index }

/-- Close the innermost group, if one is open. -/
def closeGroup? (reader : Reader) : Option Reader :=
  match reader.enclosing with
  | [] => none
  | around :: enclosing => do
      let body ← reader.level.close?
      let node :=
        match around.index with
        | some index => .group index body.node
        | none => body.node
      let outer : Reader :=
        { reader with flags := around.flags, level := around.level, enclosing := enclosing }
      outer.add? node (body.height + 1)

/-- Whether a character may stand in the name of a group. -/
def isNameChar (first : Bool) (c : Char) : Bool :=
  c == '_' || Text.isAlphabetic c ||
    (!first && (c == '.' || c == '[' || c == ']' || Text.isNumber c))

/-- A name up to its closing angle bracket. -/
def readName (first : Bool) : List Char → Option (List Char × List Char)
  | [] => none
  | '>' :: rest => if first then none else some ([], rest)
  | c :: rest =>
      if isNameChar first c then
        (readName false rest).map fun (name, rest) => (c :: name, rest)
      else
        none

/-- Open a named group.  A name may be given only once. -/
def openNamed (reader : Reader) (text : List Char) : Option (Reader × List Char) := do
  let (name, rest) ← readName true text
  if reader.names.contains name then none
  else
    let opened := reader.openCapture
    some ({ opened with names := name :: opened.names }, rest)

/-- Read what follows an opening parenthesis. -/
def readGroup (reader : Reader) (text : List Char) : Option (Reader × List Char) :=
  match reader.flags.skipBlanks text with
  | '?' :: '=' :: _ => none
  | '?' :: '!' :: _ => none
  | '?' :: '<' :: '=' :: _ => none
  | '?' :: '<' :: '!' :: _ => none
  | '?' :: 'P' :: '<' :: rest => reader.openNamed rest
  | '?' :: '<' :: rest => reader.openNamed rest
  | '?' :: rest => do
      let (directive, rest) ← Directive.read [] true false rest
      let flags := reader.flags.setAll directive.settings
      if directive.opensGroup then
        some (reader.openGroup none flags, rest)
      else if directive.settings.isEmpty then
        none
      else
        some ({ reader with flags := flags, level := reader.level.add .directive }, rest)
  | text => some (reader.openCapture, text)

/-- Repeat the last part, unless there is none or it is a directive. -/
def repeatLast? (reader : Reader) (least : Nat) (most : Option Nat) (lazy : Bool) :
    Option Reader :=
  match reader.level.parts with
  | .piece node height :: parts =>
      let repetition : Repetition := ⟨least, most, lazy == reader.flags.swapGreed⟩
      let shortened : Reader := { reader with level := { reader.level with parts := parts } }
      shortened.add? (Node.withRepetition repetition node) (height + 1)
  | _ => none

/-- A question mark after a repetition makes it lazy. -/
def readLazy : List Char → Bool × List Char
  | '?' :: rest => (true, rest)
  | rest => (false, rest)

/-- Repeat the last part as a sign says, which may be followed by a question mark. -/
def readSign (reader : Reader) (least : Nat) (most : Option Nat) (text : List Char) :
    Option (Reader × List Char) :=
  let (lazy, rest) := readLazy text
  (reader.repeatLast? least most lazy).map fun reader => (reader, rest)

/-- Digits, with blanks and comments after each of them dropped in verbose mode. -/
def countDigits (verbose inComment : Bool) : List Char → List Char × List Char
  | [] => ([], [])
  | c :: rest =>
      if inComment then countDigits verbose (c != '\n') rest
      else if c.isDigit then
        let (digits, rest) := countDigits verbose false rest
        (c :: digits, rest)
      else if verbose && Text.isBlank c then countDigits verbose false rest
      else if verbose && c == '#' then countDigits verbose true rest
      else ([], c :: rest)

/-- Largest number of repetitions that can be written. -/
def maxCount : Nat := Nat.pow 2 32 - 1

/-- A number of repetitions, with blanks around it. -/
def readCount (flags : Flags) (text : List Char) : Option (Nat × List Char) :=
  match countDigits flags.verbose false (text.dropWhile Text.isBlank) with
  | ([], _) => none
  | (digits, rest) =>
      let count := digits.foldl (fun count c => 10 * count + (c.toNat - '0'.toNat)) 0
      if count ≤ maxCount then some (count, rest.dropWhile Text.isBlank) else none

/-- The bounds of a counted repetition, after its opening brace and up to and
including the closing one. -/
def readBounds (flags : Flags) (text : List Char) :
    Option ((Nat × Option Nat) × List Char) := do
  let (least, rest) ← readCount flags (flags.skipBlanks text)
  let (most, rest) ←
    match rest with
    | ',' :: rest =>
        match flags.skipBlanks rest with
        | '\x7d' :: rest => some (none, '\x7d' :: rest)
        | rest => (readCount flags rest).map fun (most, rest) => (some most, rest)
    | rest => some (some least, rest)
  match rest with
  | '\x7d' :: rest =>
      if most.all fun most => least ≤ most then some ((least, most), rest) else none
  | _ => none

/-- Repeat the last part between two bounds. -/
def readCounted (reader : Reader) (text : List Char) : Option (Reader × List Char) := do
  let ((least, most), rest) ← readBounds reader.flags text
  reader.readSign least most (reader.flags.skipBlanks rest)

/-- Read one part that begins with the given character. -/
def step (reader : Reader) (c : Char) (rest : List Char) : Option (Reader × List Char) :=
  match c with
  | '(' => reader.readGroup rest
  | ')' => reader.closeGroup?.map fun reader => (reader, rest)
  | '|' => some ({ reader with level := reader.level.nextBranch }, rest)
  | '[' => do
      let (read, rest) ← readClass reader.flags rest
      pure (← reader.add? (.ofSet read.members reader.flags.wide) read.height, rest)
  | '?' => reader.readSign 0 (some 1) rest
  | '*' => reader.readSign 0 none rest
  | '+' => reader.readSign 1 none rest
  | '\x7b' => reader.readCounted rest
  | '\\' => do
      let (atom, rest) ← readEscape reader.flags rest
      let node ← atomNode? reader.flags atom
      pure (reader.addFlat node, rest)
  | '.' => (dot? reader.flags).map fun node => (reader.addFlat node, rest)
  | '^' => some (reader.addFlat (lineStart reader.flags), rest)
  | '$' => some (reader.addFlat (lineEnd reader.flags), rest)
  | c => (literal? reader.flags c false).map fun node => (reader.addFlat node, rest)

/-- Read parts to the end of the text.  Every part takes at least one character,
so a bound above the length of the text is never used up. -/
def readParts : Nat → Reader → List Char → Option Reader
  | 0, _, _ => none
  | bound + 1, reader, text =>
      match reader.flags.skipBlanks text with
      | [] => some reader
      | c :: rest =>
          match reader.step c rest with
          | some (reader, rest) => readParts bound reader rest
          | none => none

end Reader

/-- The pattern written by a text, if it is well formed. -/
def ofChars? (text : List Char) : Option Pattern := do
  let reader ← Reader.readParts (text.length + 1) {} text
  let whole ← reader.level.close?
  if reader.enclosing.isEmpty && whole.node.fits then some (ofNode whole.node) else none

def ofString? (text : String) : Option Pattern :=
  ofChars? text.toList

end Pattern
end PageRouting
