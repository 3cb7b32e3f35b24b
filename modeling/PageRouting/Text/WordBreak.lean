import PageRouting.Text.BinaryProperty
import PageRouting.Text.Script

namespace PageRouting
namespace Text

/-!
Classes of characters for cutting a text into words.  Letters of scripts that
are written without spaces between words, and ideographs, are in no class.
-/

namespace WordBreak

def joiner : CharSet := .ofTable "200D"

def scriptMembers (name : String) : CharSet :=
  ((Script.named? name).map Script.members).getD .empty

def extending : CharSet :=
  (CharSet.unionAll
    [BinaryProperty.graphemeExtend, GeneralCategory.members .spacingMark,
      BinaryProperty.emojiModifier]).difference joiner

def hebrewLetter : CharSet :=
  (scriptMembers "hebrew").intersection (GeneralCategory.members .otherLetter)

def katakana : CharSet :=
  ((scriptMembers "katakana").union
    (.ofTable "3031-3035 309B-309C 30A0 30FC FF70")).difference extending

/-- Letters of scripts written without spaces between words. -/
def unspaced : CharSet :=
  .ofTable
    "E01-E30 E32-E33 E40-E46 E81-E82 E84 E86-E8A E8C-EA3 EA5 EA7-EB0 EB2-EB3 EBD EC0-EC4 EC6
     EDC-EDF 1000-102A 103F 1050-1055 105A-105D 1061 1065-1066 106E-1070 1075-1081 108E
     1780-17B3 17D7 17DC 1950-196D 1970-1974 1980-19AB 19B0-19C9 1A20-1A54 1AA7 A9E0-A9E4
     A9E6-A9EF A9FA-A9FE AA60-AA76 AA7A AA7E-AAAF AAB1 AAB5-AAB6 AAB9-AABD AAC0 AAC2 AADB-AADD
     11700-1171A 11740-11746"

def letter : CharSet :=
  (BinaryProperty.alphabetic.union
    (.ofTable
      "2C2-2C5 2D2-2D7 2DE-2DF 2E5-2EB 2ED 2EF-2FF 55A-55C 55E 58A 5F3 70F A708-A716 A720-A721
       A789-A78A AB5B")).difference
    (.unionAll
      [BinaryProperty.ideographic, katakana, scriptMembers "hiragana", extending, hebrewLetter,
        unspaced])

/-- Digits, one separator among them, and signs written before a number. -/
def numeric : CharSet :=
  .unionAll
    [GeneralCategory.members .decimalNumber, .ofTable "66B",
      BinaryProperty.prependedConcatenationMark.difference (.ofTable "70F")]

def format : CharSet :=
  (GeneralCategory.members .format).difference
    (.unionAll
      [extending, BinaryProperty.prependedConcatenationMark, .ofTable "200B-200D"])

/-- Every class under its names. -/
def names : List (List String × CharSet) :=
  [(["cr"], .ofTable "D"),
   (["lf"], .ofTable "A"),
   (["newline", "nl"], .ofTable "B-C 85 2028-2029"),
   (["extend"], extending),
   (["zwj"], joiner),
   (["format", "fo"], format),
   (["katakana", "ka"], katakana),
   (["hebrewletter", "hl"], hebrewLetter),
   (["aletter", "le"], letter),
   (["singlequote", "sq"], .ofTable "27"),
   (["doublequote", "dq"], .ofTable "22"),
   (["midnumlet", "mb"], .ofTable "2E 2018-2019 2024 FE52 FF07 FF0E"),
   (["midletter", "ml"], .ofTable "3A B7 387 55F 5F4 2027 FE13 FE55 FF1A"),
   (["midnum", "mn"],
    .ofTable "2C 3B 37E 589 60C-60D 66C 7F8 2044 FE10 FE14 FE50 FE54 FF0C FF1B"),
   (["numeric", "nu"], numeric),
   (["extendnumlet", "ex"],
    (GeneralCategory.members .connectorPunctuation).union (.ofTable "202F")),
   (["regionalindicator", "ri"], .ofTable "1F1E6-1F1FF"),
   (["wsegspace"], .ofTable "20 1680 2000-2006 2008-200A 205F 3000")]

/-- Members of the class with the given name. -/
def named? (name : String) : Option CharSet :=
  (names.find? fun entry => entry.1.contains name).map fun entry => entry.2

end WordBreak

end Text
end PageRouting
