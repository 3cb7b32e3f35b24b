import PageRouting.Text.CodeRange
import PageRouting.Text.Utf8

namespace PageRouting
namespace Text

/-!
Ranges of characters as sequences of ranges of bytes.  A range is cut until the
encodings in each piece are all the ways to take one byte from each range of a
sequence: characters of a piece have encodings of one length, and where two bytes
of them differ, all later bytes take every value.  Pieces stay in order.
-/

/-- An inclusive range of bytes. -/
structure ByteRange where
  first : Nat
  last : Nat
deriving DecidableEq, Repr

namespace CodeRange

/-- The range without the codes that belong to no character. -/
def cutSurrogates (range : CodeRange) : List CodeRange :=
  if range.first < 0xE000 ∧ 0xD7FF < range.last then
    [⟨range.first, 0xD7FF⟩, ⟨0xE000, range.last⟩]
  else
    [range]

/-- Cut a range that goes on after the code. -/
def cutAfter (code : Nat) (range : CodeRange) : List CodeRange :=
  if range.first ≤ code ∧ code < range.last then
    [⟨range.first, code⟩, ⟨code + 1, range.last⟩]
  else
    [range]

/-- Cut off an incomplete last block of the given size. -/
def cutLastBlock (size : Nat) (range : CodeRange) : List CodeRange :=
  let start := range.last / size * size
  if range.first < start ∧ range.last + 1 < start + size then
    [⟨range.first, start - 1⟩, ⟨start, range.last⟩]
  else
    [range]

/-- Cut off incomplete blocks of the given size at both ends. -/
def cutBlocks (size : Nat) (range : CodeRange) : List CodeRange :=
  let next := (range.first / size + 1) * size
  if next ≤ range.last ∧ range.first % size ≠ 0 then
    ⟨range.first, next - 1⟩ :: cutLastBlock size ⟨next, range.last⟩
  else
    cutLastBlock size range

/-- The ranges of bytes of a piece. -/
def zipBytes (range : CodeRange) : List ByteRange :=
  ((Utf8.encodeChar (Char.ofNat range.first)).zip
    (Utf8.encodeChar (Char.ofNat range.last))).map fun (first, last) =>
      ⟨first.toNat, last.toNat⟩

/-- The sequences of ranges of bytes for a range of characters. -/
def byteSequences (range : CodeRange) : List (List ByteRange) :=
  let pieces :=
    [0x7F, 0x7FF, 0xFFFF].foldl (fun pieces code => pieces.flatMap (cutAfter code))
      range.cutSurrogates
  let pieces := pieces.flatMap fun piece =>
    if piece.last ≤ 0x7F then [piece]
    else
      [0x40, 0x1000, 0x40000].foldl (fun pieces size => pieces.flatMap (cutBlocks size)) [piece]
  pieces.map zipBytes

example : byteSequences ⟨0x5A, 0x801⟩ =
    [[⟨0x5A, 0x7F⟩], [⟨0xC2, 0xDF⟩, ⟨0x80, 0xBF⟩], [⟨0xE0, 0xE0⟩, ⟨0xA0, 0xA0⟩, ⟨0x80, 0x81⟩]] := by
  decide

end CodeRange

end Text
end PageRouting
