import PageRouting.Text.BinaryProperty

namespace PageRouting
namespace Text

/-!
Word characters: letters, marks, decimal digits, connectors and joiners.  The
ASCII part is decided without a table, so names made of ASCII letters, digits
and `_` are recognised by evaluation alone.
-/

/-- ASCII letters, ASCII digits and `_`. -/
def isAsciiWord (c : Char) : Bool :=
  c.isAlphanum || c == '_'

def wordMembers : CharSet :=
  .unionAll
    [BinaryProperty.alphabetic, GeneralCategory.mark,
      GeneralCategory.union [.decimalNumber, .connectorPunctuation], .ofTable "200C-200D"]

def isWord (c : Char) : Bool :=
  if c.toNat < 128 then isAsciiWord c else wordMembers.contains c

end Text
end PageRouting
