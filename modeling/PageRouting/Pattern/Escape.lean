import PageRouting.Pattern.Flags
import PageRouting.Pattern.NamedClass
import PageRouting.Pattern.Node
import PageRouting.Pattern.Property

namespace PageRouting
namespace Pattern

/-!
Escapes.  After a backslash a punctuation character stands for itself, a letter
names a character, a class, a property or a condition, and a digit is an error.
The same escapes are read inside and outside bracketed classes; which of them
may stand in a class is decided there.
-/

/-- What an escape denotes. -/
inductive Atom where
  /-- A character; `isByte` marks one written by two digits, which outside the
  full character set must not exceed the ASCII range. -/
  | literal (c : Char) (isByte : Bool)
  | set (members : Text.CharSet)
  | assertion (condition : Assertion)

/-- Characters with a meaning of their own in patterns. -/
def isMeta (c : Char) : Bool :=
  ['\\', '.', '+', '*', '?', '(', ')', '|', '[', ']', '\x7b', '\x7d', '^', '$', '#', '&', '-',
    '~'].contains c

/-- Punctuation without a meaning that may be escaped all the same. -/
def isEscapable (c : Char) : Bool :=
  c.toNat < 128 && !c.isAlphanum && c != '<' && c != '>'

/-- Text up to a closing brace, without the blanks and comments of verbose mode. -/
def bracedContent (verbose inComment : Bool) : List Char → Option (List Char × List Char)
  | [] => none
  | c :: rest =>
      if inComment then bracedContent verbose (c != '\n') rest
      else if verbose && Text.isBlank c then bracedContent verbose false rest
      else if verbose && c == '#' then bracedContent verbose true rest
      else if c == '\x7d' then some ([], rest)
      else (bracedContent verbose false rest).map fun (content, rest) => (c :: content, rest)

/-- A fixed number of hexadecimal digits, with blanks between them in verbose mode. -/
def fixedDigits (flags : Flags) : Nat → List Char → Option (List Char × List Char)
  | 0, text => some ([], text)
  | _ + 1, [] => none
  | count + 1, c :: rest =>
      if (Text.hexValue? c).isSome then
        (fixedDigits flags count (flags.skipBlanks rest)).map fun (digits, rest) =>
          (c :: digits, rest)
      else
        none

/-- The character with the code written by the digits. -/
def charOfDigits? (digits : List Char) : Option Char := do
  let code ← Text.hexNumber? digits
  if code.isValidChar then some (Char.ofNat code) else none

/-- A character written by its code, after the letter that announces it. -/
def readCode (flags : Flags) (digitCount : Nat) (text : List Char) :
    Option (Atom × List Char) :=
  match flags.skipBlanks text with
  | [] => none
  | '\x7b' :: rest => do
      let (digits, rest) ← bracedContent flags.verbose false rest
      let c ← charOfDigits? digits
      pure (.literal c false, rest)
  | text => do
      let (digits, rest) ← fixedDigits flags digitCount text
      let c ← charOfDigits? digits
      pure (.literal c (digitCount == 2), rest)

/-- A property, after the letter that announces it.  Case is folded before the
complement is taken, and a capital letter and the sign `!=` cancel each other. -/
def readProperty (flags : Flags) (negated : Bool) (text : List Char) :
    Option (Atom × List Char) := do
  let (property, rest) ←
    match flags.skipBlanks text with
    | [] => none
    | '\x7b' :: rest => do
        let (content, rest) ← bracedContent flags.verbose false rest
        pure (← Property.braced? content, rest)
    | '\\' :: _ => none
    | c :: rest => do pure (⟨← Property.named? [c], false⟩, rest)
  if flags.wide then
    let folded := flags.foldCase property.members
    pure (.set (if negated != property.negated then folded.complement else folded), rest)
  else
    none

/-- A class named by a letter.  Outside the full character set the complement of
a class is not available. -/
def letterClass (flags : Flags) (negated : Bool) (members : Bool → Text.CharSet)
    (rest : List Char) : Option (Atom × List Char) :=
  if negated then
    if flags.wide then some (.set (members true).complement, rest) else none
  else
    some (.set (members flags.wide), rest)

/-- Conditions named between braces after `\b`. -/
def namedBoundary? (wide : Bool) (name : List Char) : Option Assertion :=
  match String.ofList name with
  | "start" => some (.wordStart wide)
  | "end" => some (.wordEnd wide)
  | "start-half" => some (.wordStartHalf wide)
  | "end-half" => some (.wordEndHalf wide)
  | _ => none

/-- The condition after `\b`.  A brace that does not open a name is left to be
read as a repetition. -/
def readBoundary (flags : Flags) (text : List Char) : Option (Atom × List Char) :=
  match text with
  | '\x7b' :: inner =>
      match flags.skipBlanks inner with
      | [] => none
      | c :: _ =>
          if c.isAlpha || c == '-' then do
            let (name, rest) ← bracedContent flags.verbose false inner
            let condition ← namedBoundary? flags.wide name
            pure (.assertion condition, rest)
          else
            some (.assertion (.wordBoundary flags.wide), text)
  | text => some (.assertion (.wordBoundary flags.wide), text)

/-- Read an escape, after its backslash. -/
def readEscape (flags : Flags) : List Char → Option (Atom × List Char)
  | [] => none
  | c :: rest =>
      match c with
      | 'x' => readCode flags 2 rest
      | 'u' => readCode flags 4 rest
      | 'U' => readCode flags 8 rest
      | 'p' => readProperty flags false rest
      | 'P' => readProperty flags true rest
      | 'd' => letterClass flags false NamedClass.digits rest
      | 's' => letterClass flags false NamedClass.blanks rest
      | 'w' => letterClass flags false NamedClass.words rest
      | 'D' => letterClass flags true NamedClass.digits rest
      | 'S' => letterClass flags true NamedClass.blanks rest
      | 'W' => letterClass flags true NamedClass.words rest
      | 'a' => some (.literal '\x07' false, rest)
      | 'f' => some (.literal '\x0c' false, rest)
      | 't' => some (.literal '\t' false, rest)
      | 'n' => some (.literal '\n' false, rest)
      | 'r' => some (.literal '\r' false, rest)
      | 'v' => some (.literal '\x0b' false, rest)
      | 'A' => some (.assertion .textStart, rest)
      | 'z' => some (.assertion .textEnd, rest)
      | 'b' => readBoundary flags rest
      | 'B' => some (.assertion (.notWordBoundary flags.wide), rest)
      | '<' => some (.assertion (.wordStart flags.wide), rest)
      | '>' => some (.assertion (.wordEnd flags.wide), rest)
      | c => if isMeta c || isEscapable c then some (.literal c false, rest) else none

/-- A text as a pattern that matches just this text. -/
def escapeText (text : List Char) : List Char :=
  text.flatMap fun c => if isMeta c then ['\\', c] else [c]

end Pattern
end PageRouting
