import PageRouting.Pattern.Escape
import PageRouting.Text.Word

namespace PageRouting

/-!
Path templates.  A placeholder is a colon with the word characters directly
after it, as many as there are; all other text is literal, a colon without a
word character included.  A template is rendered by putting a text in the place
of each placeholder, and turned into the text of a pattern by putting a given
pattern there, between parentheses, and escaping the rest.
-/

/-- A maximal literal text, or a placeholder. -/
inductive Piece where
  | literal (text : List Char)
  | placeholder (name : List Char)
deriving DecidableEq, Repr

namespace Template

/-- Put literal text in front of pieces, joined with a literal that is there. -/
def addLiteral (text : List Char) (pieces : List Piece) : List Piece :=
  if text.isEmpty then
    pieces
  else
    match pieces with
    | .literal next :: rest => .literal (text ++ next) :: rest
    | pieces => .literal text :: pieces

/-- A template read from its end: the word characters at the front, which may
still turn out to be a name, and the pieces after them. -/
structure Scan where
  word : List Char
  pieces : List Piece

def scan : List Char → Scan
  | [] => ⟨[], []⟩
  | c :: rest =>
      let after := scan rest
      if Text.isWord c then
        ⟨c :: after.word, after.pieces⟩
      else if c == ':' && !after.word.isEmpty then
        ⟨[], .placeholder after.word :: after.pieces⟩
      else
        ⟨[], addLiteral (c :: after.word) after.pieces⟩

/-- Pieces of a template, in order. -/
def pieces (template : List Char) : List Piece :=
  let whole := scan template
  addLiteral whole.word whole.pieces

def Piece.name? : Piece → Option (List Char)
  | .literal _ => none
  | .placeholder name => some name

/-- Names of the placeholders, in order and with repetitions. -/
def names (template : String) : List String :=
  ((pieces template.toList).filterMap Piece.name?).map String.ofList

/-- The text of a piece, given the text of each name. -/
def pieceText (value : String → String) : Piece → List Char
  | .literal text => text
  | .placeholder name => (value (String.ofList name)).toList

/-- The template with a text in the place of each placeholder. -/
def render (value : String → String) (template : String) : String :=
  String.ofList ((pieces template.toList).flatMap (pieceText value))

/-- The pattern text of a piece. -/
def pieceSource (placeholderPattern : List Char) : Piece → List Char
  | .literal text => Pattern.escapeText text
  | .placeholder _ => '(' :: placeholderPattern ++ [')']

/-- The text of the pattern for a template: the whole path, with one more slash
allowed at its end. -/
def source (placeholderPattern : String) (template : String) : List Char :=
  '^' :: (pieces template.toList).flatMap (pieceSource placeholderPattern.toList) ++
    ['/', '?', '$']

example : names "/a:b/:c-:d:" = ["b", "c", "d"] := by decide

/-- Pieces put together again are the template. -/
def unread : List Piece → List Char
  | [] => []
  | .literal text :: rest => text ++ unread rest
  | .placeholder name :: rest => ':' :: name ++ unread rest

theorem unread_addLiteral (text : List Char) (pieces : List Piece) :
    unread (addLiteral text pieces) = text ++ unread pieces := by
  unfold addLiteral
  split
  · next empty => simp [List.isEmpty_iff.mp empty]
  · split <;> simp [unread]

theorem unread_pieces (template : List Char) : unread (pieces template) = template := by
  have scanned : (scan template).word ++ unread (scan template).pieces = template := by
    induction template with
    | nil => rfl
    | cons c rest ih =>
        simp only [scan]
        split
        · simpa using ih
        · split
          · next opens =>
              simp only [Bool.and_eq_true, beq_iff_eq] at opens
              simpa [unread, opens.1] using ih
          · simpa [unread_addLiteral] using ih
  rw [pieces, unread_addLiteral, scanned]

end Template

end PageRouting
