namespace PageRouting
namespace Text

/-!
Blank characters: those with the white-space property, inside and outside
ASCII.  A text is blank when nothing else occurs in it.
-/

/-- Code points with the white-space property. -/
def isBlankCode (code : Nat) : Bool :=
  code == 0x20 || (0x09 ≤ code && code ≤ 0x0D) || code == 0x85 || code == 0xA0 ||
    code == 0x1680 || (0x2000 ≤ code && code ≤ 0x200A) || code == 0x2028 ||
    code == 0x2029 || code == 0x202F || code == 0x205F || code == 0x3000

def isBlank (c : Char) : Bool :=
  isBlankCode c.toNat

/-- Whether the text holds nothing but blank characters. -/
def isBlankText (text : String) : Bool :=
  text.toList.all isBlank

end Text
end PageRouting
