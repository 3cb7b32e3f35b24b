import PageRouting.Text.Split

namespace PageRouting
namespace Text

/-!
Lines of a text.  A line ends at a line feed, and one carriage return directly
before the line feed belongs to the ending.  A text that ends with a line feed
has no further, empty line; a carriage return at the very end of the text is an
ordinary character of the last line.
-/

/-- The line without a carriage return at its end. -/
def withoutReturn : List Char → List Char
  | [] => []
  | ['\r'] => []
  | c :: rest => c :: withoutReturn rest

/-- Lines from the texts between line feeds. -/
def closeLines : List (List Char) → List (List Char)
  | [] => []
  | [last] => if last.isEmpty then [] else [last]
  | line :: more => withoutReturn line :: closeLines more

/-- Lines of a text, without their endings. -/
def lines (text : List Char) : List (List Char) :=
  closeLines (splitOn '\n' text)

example : lines ['a', '\r', '\n', '\n', 'b', '\r'] = [['a'], [], ['b', '\r']] := by decide

end Text
end PageRouting
