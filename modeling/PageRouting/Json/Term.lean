import PageRouting.Json.Token
import PageRouting.Json.Value

namespace PageRouting
namespace Json

/-!
Texts as terms.  A term has the form of a value, but its strings and numerals
stand in it as they are written, so that a text can have this form without
denoting a value.  Reading goes once through the tokens and keeps the arrays and
objects that have not been closed; nesting is not limited here.
-/

inductive Term where
  | null
  | bool (value : Bool)
  | numeral (value : Numeral)
  | string (parts : List StringPart)
  | array (items : List Term)
  | object (entries : List (List StringPart × Term))

instance : Inhabited Term := ⟨.null⟩

/-- An array or object around the term being read, with what precedes that term
in it. -/
inductive Frame where
  | array (items : List Term)
  | object (entries : List (List StringPart × Term)) (key : List StringPart)

/-- Where reading has arrived. -/
inductive Place where
  /-- Before a term. -/
  | term
  /-- Behind the bracket that opens an array. -/
  | arrayStart
  /-- Before a key, with the entries before it.  An object without entries may
  also be closed here. -/
  | key (entries : List (List StringPart × Term))
  /-- Behind a key, with the entries before it. -/
  | colon (entries : List (List StringPart × Term)) (key : List StringPart)
  /-- Behind a term. -/
  | after (term : Term)

/-- A place in a text with the arrays and objects around it, the innermost first. -/
structure Reading where
  place : Place
  around : List Frame

namespace Reading

/-- Reading goes on with the token that begins a term. -/
def begin? (around : List Frame) : Token → Option Reading
  | .null => some ⟨.after .null, around⟩
  | .bool value => some ⟨.after (.bool value), around⟩
  | .numeral value => some ⟨.after (.numeral value), around⟩
  | .string parts => some ⟨.after (.string parts), around⟩
  | .openArray => some ⟨.arrayStart, around⟩
  | .openObject => some ⟨.key [], around⟩
  | _ => none

/-- Reading goes on with a token, if it may stand at this place. -/
def step? : Reading → Token → Option Reading
  | ⟨.term, around⟩, token => begin? around token
  | ⟨.arrayStart, around⟩, .closeArray => some ⟨.after (.array []), around⟩
  | ⟨.arrayStart, around⟩, token => begin? (.array [] :: around) token
  | ⟨.key [], around⟩, .closeObject => some ⟨.after (.object []), around⟩
  | ⟨.key entries, around⟩, .string key => some ⟨.colon entries key, around⟩
  | ⟨.colon entries key, around⟩, .colon => some ⟨.term, .object entries key :: around⟩
  | ⟨.after item, .array items :: around⟩, .comma =>
      some ⟨.term, .array (items ++ [item]) :: around⟩
  | ⟨.after item, .array items :: around⟩, .closeArray =>
      some ⟨.after (.array (items ++ [item])), around⟩
  | ⟨.after value, .object entries key :: around⟩, .comma =>
      some ⟨.key (entries ++ [(key, value)]), around⟩
  | ⟨.after value, .object entries key :: around⟩, .closeObject =>
      some ⟨.after (.object (entries ++ [(key, value)])), around⟩
  | _, _ => none

/-- The term that has been read, if reading is complete. -/
def term? : Reading → Option Term
  | ⟨.after term, []⟩ => some term
  | _ => none

end Reading

namespace Term

def ofTokens? (tokens : List Token) : Option Term :=
  (tokens.foldlM Reading.step? ⟨.term, []⟩).bind Reading.term?

/-- The term that a text is, if it is one. -/
def ofText? (text : String) : Option Term :=
  (Token.readAll? text.toList).bind ofTokens?

/-- The text that a term denotes, if it is a string. -/
def string? : Term → Option String
  | .string parts => StringPart.text? parts
  | _ => none

def bool? : Term → Option Bool
  | .bool value => some value
  | _ => none

mutual

/-- The value that a term denotes, if there is one: every string has to denote a
text and every numeral a number, and arrays and objects may be nested only so
many levels deep.  If a key occurs more than once, its last value takes the place
of the first. -/
def value? (levels : Nat) : Term → Option Value
  | .null => some .null
  | .bool value => some (.bool value)
  | .numeral written => written.number?.map .number
  | .string parts => (StringPart.text? parts).map .string
  | .array items =>
      match levels with
      | 0 => none
      | levels + 1 => (itemValues? levels items).map .array
  | .object entries =>
      match levels with
      | 0 => none
      | levels + 1 => (entryValues? levels [] entries).map .object

def itemValues? (levels : Nat) : List Term → Option (List Value)
  | [] => some []
  | item :: items =>
      match item.value? levels with
      | none => none
      | some value => (itemValues? levels items).map (value :: ·)

/-- Entries denoted by those of a term, behind the given ones. -/
def entryValues? (levels : Nat) (object : Object) :
    List (List StringPart × Term) → Option Object
  | [] => some object
  | (key, term) :: rest =>
      match StringPart.text? key, term.value? levels with
      | some key, some value => entryValues? levels (object.insert key value) rest
      | _, _ => none

end

/-- The object that a term denotes, if it denotes one. -/
def object? (levels : Nat) (term : Term) : Option Object :=
  match term.value? levels with
  | some (.object entries) => some entries
  | _ => none

end Term

end Json
end PageRouting
