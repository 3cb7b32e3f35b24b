import PageRouting.Text.Hex
import PageRouting.Text.Utf8

namespace PageRouting
namespace Text

/-!
Percent encoding of query components.  Letters, digits and the four marks
`-._~` stand for themselves; every other character is written as the bytes of
its encoding, each as `%` and two upper-case digits.  Decoding reads `+` as a
space and leaves a `%` that is not followed by two digits as it is.
-/

namespace Percent

/-- Characters that need no encoding. -/
def isUnreserved (c : Char) : Bool :=
  c.isAlphanum || c == '-' || c == '.' || c == '_' || c == '~'

/-- A byte as `%` and two digits. -/
def escapeByte (byte : UInt8) : List Char :=
  ['%', upperHexDigit (byte.toNat / 16), upperHexDigit (byte.toNat % 16)]

/-- A character as it stands in a component of a query. -/
def encodeChar (c : Char) : List Char :=
  if isUnreserved c then [c] else (Utf8.encodeChar c).flatMap escapeByte

/-- Bytes denoted by a text in which `%` and two digits stand for one byte. -/
def bytes : List Char → List UInt8
  | '%' :: high :: low :: rest =>
      match hexValue? high, hexValue? low with
      | some h, some l => UInt8.ofNat (16 * h + l) :: bytes rest
      | _, _ => Utf8.encodeChar '%' ++ bytes (high :: low :: rest)
  | c :: rest => Utf8.encodeChar c ++ bytes rest
  | [] => []

/-- The text denoted by a component of a query. -/
def decode (component : List Char) : List Char :=
  Utf8.decodeLossy (bytes (component.map fun c => if c == '+' then ' ' else c))

end Percent

end Text
end PageRouting
