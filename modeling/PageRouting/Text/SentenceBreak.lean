import PageRouting.Text.BinaryProperty

namespace PageRouting
namespace Text

/-!
Classes of characters for cutting a text into sentences: what may end a
sentence, what may close it or go on with it, and the letters around.
-/

namespace SentenceBreak

def extending : CharSet :=
  .unionAll
    [BinaryProperty.graphemeExtend, GeneralCategory.members .spacingMark, .ofTable "200D"]

def separator : CharSet := .ofTable "85 2028-2029"

def format : CharSet :=
  (GeneralCategory.members .format).difference
    (.unionAll
      [extending, BinaryProperty.prependedConcatenationMark, .ofTable "200C-200D"])

def space : CharSet :=
  (BinaryProperty.whiteSpace.difference separator).difference (.ofTable "A D")

def lower : CharSet :=
  BinaryProperty.lowercase.difference
    (BinaryProperty.graphemeExtend.union (.ofTable "10D0-10FA 10FD-10FF"))

def upper : CharSet :=
  (BinaryProperty.uppercase.union BinaryProperty.titlecase).difference
    (.ofTable "1C90-1CBA 1CBD-1CBF")

def otherLetter : CharSet :=
  (BinaryProperty.alphabetic.union (.ofTable "5F3")).difference
    (.unionAll [lower, upper, extending])

/-- Digits, separators among them, and signs written before a number. -/
def numeric : CharSet :=
  .unionAll
    [GeneralCategory.members .decimalNumber, .ofTable "66B-66C",
      BinaryProperty.prependedConcatenationMark.difference (.ofTable "70F")]

/-- Full stops, which may also stand inside a sentence. -/
def fullStop : CharSet := .ofTable "2E 2024 FE52 FF0E"

def terminator : CharSet :=
  BinaryProperty.sentenceTerminal.difference fullStop

/-- Brackets and quotation marks. -/
def closing : CharSet :=
  (GeneralCategory.union
      [.openPunctuation, .closePunctuation, .initialPunctuation, .finalPunctuation]).union
    (.ofTable "22 27 275B-2760 2E00-2E01 2E06-2E08 2E0B 1F676-1F678")

/-- Every class under its names. -/
def names : List (List String × CharSet) :=
  [(["cr"], .ofTable "D"),
   (["lf"], .ofTable "A"),
   (["extend", "ex"], extending),
   (["sep", "se"], separator),
   (["format", "fo"], format),
   (["sp"], space),
   (["lower", "lo"], lower),
   (["upper", "up"], upper),
   (["oletter", "le"], otherLetter),
   (["numeric", "nu"], numeric),
   (["aterm", "at"], fullStop),
   (["scontinue", "sc"],
    .ofTable
      "2C-2D 3A-3B 37E 55D 60C-60D 7F8 1802 1808 2013-2014 3001 FE10-FE11 FE13-FE14 FE31-FE32
       FE50-FE51 FE54-FE55 FE58 FE63 FF0C-FF0D FF1A-FF1B FF64"),
   (["sterm", "st"], terminator),
   (["close", "cl"], closing)]

/-- Members of the class with the given name. -/
def named? (name : String) : Option CharSet :=
  (names.find? fun entry => entry.1.contains name).map fun entry => entry.2

end SentenceBreak

end Text
end PageRouting
