import PageRouting.Text.Age
import PageRouting.Text.GraphemeBreak
import PageRouting.Text.Script
import PageRouting.Text.SentenceBreak
import PageRouting.Text.WordBreak

namespace PageRouting
namespace Pattern

/-!
Character properties named in a pattern.  Names are compared loosely: case,
blanks, hyphens and underscores do not matter, and a leading `is` is dropped.
A name alone is tried as a two-valued property, as a general category and as a
script.  A name with a value names one of the properties of more values.  The
sign `!=` between them asks for the characters without the property.
-/

namespace Property

open Text (CharSet)

/-- The loose form of a name. -/
def looseName (name : List Char) : String :=
  let (marked, body) :=
    match name with
    | first :: second :: rest =>
        if (first == 'i' || first == 'I') && (second == 's' || second == 'S') then
          (true, rest)
        else
          (false, name)
    | name => (false, name)
  let kept := body.filterMap fun c =>
    if c == ' ' || c == '_' || c == '-' || 128 ≤ c.toNat then none else some c.toLower
  -- a lone `c` left by the dropped `is` is the alias of an unsupported property
  if marked && kept == ['c'] then "isc" else String.ofList kept

private def generalCategory? (name : String) : Option CharSet :=
  match name with
  | "any" => some .all
  | "ascii" => some .ascii
  | "assigned" => some Text.GeneralCategory.unassignedMembers.complement
  | name => Text.GeneralCategory.named? name

private def script? (name : String) : Option CharSet :=
  (Text.Script.named? name).map Text.Script.members

private def scriptExtensions? (name : String) : Option CharSet :=
  (Text.Script.named? name).map Text.Script.extendedMembers

/-- The three names that are both a property and a category denote the category. -/
private def prefersCategory (name : String) : Bool :=
  name == "cf" || name == "sc" || name == "lc"

def named? (name : List Char) : Option CharSet :=
  let name := looseName name
  let binary := if prefersCategory name then none else Text.BinaryProperty.named? name
  binary <|> generalCategory? name <|> script? name

/-- Properties of more than two values, under their names. -/
def valued : List (List String × (String → Option CharSet)) :=
  [(["generalcategory", "gc"], generalCategory?),
   (["script", "sc"], script?),
   (["scriptextensions", "scx"], scriptExtensions?),
   (["age"], Text.Age.named?),
   (["graphemeclusterbreak", "gcb"], Text.GraphemeBreak.named?),
   (["wordbreak", "wb"], Text.WordBreak.named?),
   (["sentencebreak", "sb"], Text.SentenceBreak.named?)]

def withValue? (name value : List Char) : Option CharSet := do
  let entry ← valued.find? fun entry => entry.1.contains (looseName name)
  entry.2 (looseName value)

/-- The text before and after the first `!=`. -/
private def cutAtUnequal : List Char → Option (List Char × List Char)
  | [] => none
  | '!' :: '=' :: rest => some ([], rest)
  | c :: rest => (cutAtUnequal rest).map fun (before, after) => (c :: before, after)

/-- What stands between the braces of a property: a set, and whether the
characters outside are meant. -/
structure Braced where
  members : CharSet
  negated : Bool

/-- Read the text between the braces of a property. -/
def braced? (content : List Char) : Option Braced :=
  match cutAtUnequal content with
  | some (name, value) => (withValue? name value).map fun members => ⟨members, true⟩
  | none =>
      let members :=
        match Text.cutAt ':' content with
        | (name, some value) => withValue? name value
        | (_, none) =>
            match Text.cutAt '=' content with
            | (name, some value) => withValue? name value
            | (name, none) => named? name
      members.map fun members => ⟨members, false⟩

end Property

end Pattern
end PageRouting
