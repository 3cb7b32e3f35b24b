import PageRouting.Text.CaseFolding
import PageRouting.Text.Word

namespace PageRouting
namespace Pattern

/-!
Classes that patterns name by a letter or by a word: digits, blanks and word
characters, in the full character set or confined to ASCII, and the bracketed
ASCII classes.
-/

namespace NamedClass

open Text (CharSet)

/-- Decimal digits, of every script or of ASCII only. -/
def digits (wide : Bool) : CharSet :=
  if wide then Text.GeneralCategory.members .decimalNumber else .ofTable "30-39"

def blanks (wide : Bool) : CharSet :=
  if wide then Text.BinaryProperty.whiteSpace else .ofTable "9-D 20"

def words (wide : Bool) : CharSet :=
  if wide then Text.wordMembers else .ofTable "30-39 41-5A 5F 61-7A"

/-- The bracketed classes under their names. -/
def bracketed : List (String × CharSet) :=
  [("alnum", .ofTable "30-39 41-5A 61-7A"),
   ("alpha", .ofTable "41-5A 61-7A"),
   ("ascii", .ascii),
   ("blank", .ofTable "9 20"),
   ("cntrl", .ofTable "0-1F 7F"),
   ("digit", .ofTable "30-39"),
   ("graph", .ofTable "21-7E"),
   ("lower", .ofTable "61-7A"),
   ("print", .ofTable "20-7E"),
   ("punct", .ofTable "21-2F 3A-40 5B-60 7B-7E"),
   ("space", .ofTable "9-D 20"),
   ("upper", .ofTable "41-5A"),
   ("word", .ofTable "30-39 41-5A 5F 61-7A"),
   ("xdigit", .ofTable "30-39 41-46 61-66")]

/-- The bracketed class with the given name. -/
def named? (name : String) : Option CharSet :=
  (bracketed.find? fun entry => entry.1 == name).map fun entry => entry.2

end NamedClass

end Pattern
end PageRouting
