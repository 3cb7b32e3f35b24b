import PageRouting.Text.Recent

namespace PageRouting
namespace Text

/-!
Quoted text for diagnostics.  The text stands between double quotes; a double
quote and a backslash get a backslash, tab, carriage return, line feed and the
null character have one-letter escapes, and a character that would not show by
itself is written by its code.
-/

/-- Characters that do not show by themselves: controls, formats, private and
unassigned codes, separators other than the space, marks that extend the
character before, and fillers. -/
def hiddenMembers : CharSet :=
  (((CharSet.unionAll
      [GeneralCategory.other, GeneralCategory.separator, BinaryProperty.defaultIgnorable,
        BinaryProperty.graphemeExtend.difference
          (GeneralCategory.members .modifierLetter)]).difference
      Recent.members).union
    Recent.graphemeExtend).difference (.single ' ')

def isHidden (c : Char) : Bool :=
  if c.toNat < 128 then c.toNat < 32 || c.toNat == 127 else hiddenMembers.contains c

/-- One character inside the quotes. -/
def quoteChar (c : Char) : List Char :=
  match c with
  | '\"' => ['\\', '\"']
  | '\\' => ['\\', '\\']
  | '\t' => ['\\', 't']
  | '\r' => ['\\', 'r']
  | '\n' => ['\\', 'n']
  | '\x00' => ['\\', '0']
  | c =>
      if isHidden c then
        '\\' :: 'u' :: '\x7b' :: Nat.toDigits 16 c.toNat ++ ['\x7d']
      else
        [c]

def quoted (text : String) : String :=
  String.ofList ('\"' :: text.toList.flatMap quoteChar ++ ['\"'])

end Text
end PageRouting
