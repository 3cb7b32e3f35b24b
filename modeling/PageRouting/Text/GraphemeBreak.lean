import PageRouting.Text.BinaryProperty

namespace PageRouting
namespace Text

/-!
Classes of characters for cutting a text into graphemes.  Hangul letters have
classes of their own, as have marks by the side they attach to; characters that
are always a grapheme by themselves are in no class.
-/

namespace GraphemeBreak

def joiner : CharSet := .ofTable "200D"

def extending : CharSet :=
  (BinaryProperty.graphemeExtend.union BinaryProperty.emojiModifier).difference joiner

/-- Signs joined to the character after them. -/
def prepended : CharSet :=
  BinaryProperty.prependedConcatenationMark.union
    (.ofTable "D4E 111C2-111C3 113D1 1193F 11941 11A3A 11A84-11A89 11D46 11F02")

/-- Controls, separators of lines, and formats that are neither extending, nor
prepended, nor joiners; unassigned characters that are not shown count as controls. -/
def control : CharSet :=
  (CharSet.unionAll
    [GeneralCategory.union [.lineSeparator, .paragraphSeparator, .control, .format],
      GeneralCategory.unassignedMembers.intersection BinaryProperty.defaultIgnorable]).difference
    (CharSet.unionAll
      [.ofTable "A D 200C-200D", BinaryProperty.prependedConcatenationMark, extending])

def leadingConsonant : CharSet := .ofTable "1100-115F A960-A97C"

def vowel : CharSet := .ofTable "1160-11A7 D7B0-D7C6 16D63 16D67-16D6A"

def trailingConsonant : CharSet := .ofTable "11A8-11FF D7CB-D7FB"

/-- Syllables without a trailing consonant: every 28th of the block. -/
def openSyllable : CharSet :=
  .ofCodes ((List.range 399).map fun index => 0xAC00 + 28 * index)

def closedSyllable : CharSet :=
  (CharSet.ofRange 0xAC00 0xD7A3).difference openSyllable

/-- Spacing marks joined to the character before them. -/
def spacing : CharSet :=
  (((GeneralCategory.members .spacingMark).difference
      (.ofTable
        "102B-102C 1038 1062-1064 1067-106D 1083 1087-108C 108F 109A-109C 1A61 1A63-1A64 AA7B
         AA7D 11720-11721")).union
      (.ofTable "E33 EB3")).difference
    (extending.union vowel)

/-- Every class under its names. -/
def names : List (List String × CharSet) :=
  [(["cr"], .ofTable "D"),
   (["lf"], .ofTable "A"),
   (["control", "cn"], control),
   (["extend", "ex"], extending),
   (["zwj"], joiner),
   (["regionalindicator", "ri"], .ofTable "1F1E6-1F1FF"),
   (["prepend", "pp"], prepended),
   (["spacingmark", "sm"], spacing),
   (["l"], leadingConsonant),
   (["v"], vowel),
   (["t"], trailingConsonant),
   (["lv"], openSyllable),
   (["lvt"], closedSyllable)]

/-- Members of the class with the given name. -/
def named? (name : String) : Option CharSet :=
  (names.find? fun entry => entry.1.contains name).map fun entry => entry.2

end GraphemeBreak

end Text
end PageRouting
