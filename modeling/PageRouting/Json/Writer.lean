import PageRouting.Json.Value
import PageRouting.Text.Hex

namespace PageRouting
namespace Json

/-!
The compact text of a value: no blanks, object entries in their order.  Inside
strings the quote, the backslash and the control characters below the space are
escaped, the common ones by a letter; everything else stands for itself.
-/

/-- One character inside a written string. -/
def escapeChar (c : Char) : List Char :=
  match c with
  | '\"' => ['\\', '\"']
  | '\\' => ['\\', '\\']
  | '\n' => ['\\', 'n']
  | '\r' => ['\\', 'r']
  | '\t' => ['\\', 't']
  | c =>
      if c.toNat = 8 then ['\\', 'b']
      else if c.toNat = 12 then ['\\', 'f']
      else if c.toNat < 32 then
        ['\\', 'u', '0', '0', Text.lowerHexDigit (c.toNat / 16), Text.lowerHexDigit (c.toNat % 16)]
      else [c]

def stringText (text : String) : List Char :=
  '\"' :: text.toList.flatMap escapeChar ++ ['\"']

mutual

def Value.write : Value → List Char
  | .null => ['n', 'u', 'l', 'l']
  | .bool true => ['t', 'r', 'u', 'e']
  | .bool false => ['f', 'a', 'l', 's', 'e']
  | .number number => number.text.toList
  | .string text => stringText text
  | .array items => '[' :: writeItems items ++ [']']
  | .object entries => '\x7b' :: writeEntries entries ++ ['\x7d']

def writeItems : List Value → List Char
  | [] => []
  | [item] => item.write
  | item :: items => item.write ++ ',' :: writeItems items

def writeEntries : List (String × Value) → List Char
  | [] => []
  | [(key, value)] => stringText key ++ ':' :: value.write
  | (key, value) :: rest => stringText key ++ ':' :: value.write ++ ',' :: writeEntries rest

end

/-- Text of a value. -/
def Value.text (value : Value) : String :=
  String.ofList value.write

/-- Text of an object. -/
def Object.text (object : Object) : String :=
  (Value.object object).text

end Json
end PageRouting
