import PageRouting.Json.Numeral
import PageRouting.Text.Hex

namespace PageRouting
namespace Json

/-!
The tokens of a text.  Only the space, the tab and the two characters that end
lines may stand between tokens.

A string is kept in parts, because what is allowed as the form of a string need
not denote a text: an escape by number stands for a unit of a 16-bit encoding,
and a character outside the basic plane takes two of them, one from each half of
the range set aside for this purpose.  A half without the other denotes nothing.
-/

/-- A part of a written string: a character, or a unit given by its number. -/
inductive StringPart where
  | char (value : Char)
  | unit (code : Nat)
deriving DecidableEq, Repr

namespace StringPart

/-- The character of a two-character escape, given the second one. -/
def escaped? : Char → Option Char
  | '\"' => some '\"'
  | '\\' => some '\\'
  | '/' => some '/'
  | 'b' => some (Char.ofNat 8)
  | 'f' => some (Char.ofNat 12)
  | 'n' => some '\n'
  | 'r' => some '\r'
  | 't' => some '\t'
  | _ => none

/-- Parts of a string up to its closing quote, and what follows.  The control
characters below the space cannot stand for themselves. -/
def readAll? : List Char → Option (List StringPart × List Char)
  | [] => none
  | '\"' :: rest => some ([], rest)
  | '\\' :: 'u' :: first :: second :: third :: fourth :: rest =>
      match Text.hexNumber? [first, second, third, fourth] with
      | none => none
      | some code => (readAll? rest).map fun (parts, rest) => (.unit code :: parts, rest)
  | '\\' :: c :: rest =>
      match escaped? c with
      | none => none
      | some value => (readAll? rest).map fun (parts, rest) => (.char value :: parts, rest)
  | c :: rest =>
      if c.toNat < 32 ∨ c = '\\' then none
      else (readAll? rest).map fun (parts, rest) => (.char c :: parts, rest)

/-- Whether a unit is the first half of a character. -/
def isHighHalf (code : Nat) : Bool :=
  0xD800 ≤ code && code < 0xDC00

/-- Whether a unit is the second half of a character. -/
def isLowHalf (code : Nat) : Bool :=
  0xDC00 ≤ code && code < 0xE000

/-- The character of two halves. -/
def joined (high low : Nat) : Char :=
  Char.ofNat (0x10000 + (high - 0xD800) * 0x400 + (low - 0xDC00))

/-- Characters denoted by the parts of a string, if each half has the other. -/
def characters? : List StringPart → Option (List Char)
  | [] => some []
  | .char value :: parts => (characters? parts).map (value :: ·)
  | .unit high :: .unit low :: parts =>
      if isHighHalf high then
        if isLowHalf low then (characters? parts).map (joined high low :: ·) else none
      else if isLowHalf high then none
      else (characters? (.unit low :: parts)).map (Char.ofNat high :: ·)
  | .unit code :: parts =>
      if isHighHalf code || isLowHalf code then none
      else (characters? parts).map (Char.ofNat code :: ·)

/-- The text denoted by the parts of a string. -/
def text? (parts : List StringPart) : Option String :=
  (characters? parts).map String.ofList

theorem length_readAll? {text : List Char} {parts : List StringPart} {rest : List Char}
    (found : readAll? text = some (parts, rest)) : rest.length < text.length := by
  fun_induction readAll? text generalizing parts <;>
    simp_all only [reduceCtorEq, Option.some.injEq, Prod.mk.injEq, Option.map_eq_some_iff,
      Prod.exists, List.length_cons]
  · omega
  · next ih =>
      obtain ⟨parts, after, read, -, rfl⟩ := found
      have := ih read
      omega
  · next ih =>
      obtain ⟨parts, after, read, -, rfl⟩ := found
      have := ih read
      omega
  · next ih =>
      obtain ⟨parts, after, read, -, rfl⟩ := found
      have := ih read
      omega

end StringPart

inductive Token where
  | openArray
  | closeArray
  | openObject
  | closeObject
  | comma
  | colon
  | null
  | bool (value : Bool)
  | numeral (value : Numeral)
  | string (parts : List StringPart)
deriving DecidableEq, Repr

namespace Token

/-- Whether a character may stand between tokens. -/
def isGap (c : Char) : Bool :=
  c = ' ' || c = '\t' || c = '\n' || c = '\r'

/-- The token at the beginning of a text, and what follows. -/
def read? : List Char → Option (Token × List Char)
  | '[' :: rest => some (.openArray, rest)
  | ']' :: rest => some (.closeArray, rest)
  | '\x7b' :: rest => some (.openObject, rest)
  | '\x7d' :: rest => some (.closeObject, rest)
  | ',' :: rest => some (.comma, rest)
  | ':' :: rest => some (.colon, rest)
  | 'n' :: 'u' :: 'l' :: 'l' :: rest => some (.null, rest)
  | 't' :: 'r' :: 'u' :: 'e' :: rest => some (.bool true, rest)
  | 'f' :: 'a' :: 'l' :: 's' :: 'e' :: rest => some (.bool false, rest)
  | '\"' :: rest => (StringPart.readAll? rest).map fun (parts, rest) => (.string parts, rest)
  | text => (Numeral.read? text).map fun (value, rest) => (.numeral value, rest)

theorem length_read? {text rest : List Char} {token : Token}
    (found : read? text = some (token, rest)) : rest.length < text.length := by
  unfold read? at found
  split at found <;>
    simp only [Option.some.injEq, Prod.mk.injEq, Option.map_eq_some_iff, Prod.exists] at found
  case h_10 =>
    obtain ⟨parts, after, read, -, rfl⟩ := found
    have := StringPart.length_readAll? read
    simp only [List.length_cons]
    omega
  case h_11 =>
    obtain ⟨numeral, after, read, -, rfl⟩ := found
    exact Numeral.length_read? read
  all_goals
    obtain ⟨-, rfl⟩ := found
    simp only [List.length_cons]
    omega

/-- All tokens of a text, if it consists of tokens. -/
def readAll? (text : List Char) : Option (List Token) :=
  match text with
  | [] => some []
  | c :: rest =>
      if isGap c then
        readAll? rest
      else
        match _found : read? (c :: rest) with
        | none => none
        | some (token, after) => (readAll? after).map (token :: ·)
termination_by text.length
decreasing_by
  · simp
  · exact length_read? _found

end Token

end Json
end PageRouting
