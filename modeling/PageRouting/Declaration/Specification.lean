import PageRouting.Declaration.Line
import PageRouting.Declaration.Outline
import PageRouting.Text.Lines

namespace PageRouting
namespace Declaration

/-!
Specifications in several blocks.  A block of text declares its lines; mappers
given directly after a block belong to the last line that it declares.  Mappers
at the beginning, after a block that declares nothing, or after other mappers
belong to no line and are dropped.
-/

/-- A part of a specification. -/
inductive Block where
  | lines (text : String)
  | params (mappers : MapperTable)

/-- A declared line with the mappers given for it. -/
structure Entry where
  line : Line
  params : Option MapperTable

namespace Entry

def place (entry : Entry) : Placed where
  depth := entry.line.depth
  declaration :=
    { segment := entry.line.segment
      path := entry.line.path
      index := entry.line.index
      params := entry.params }

end Entry

/-- Lines declared by a text. -/
def readLines (text : String) : List Line :=
  (Text.lines text.toList).filterMap readLine?

/-- The entries with mappers given to the last of them. -/
def giveToLast (mappers : MapperTable) : List Entry → List Entry
  | [] => []
  | [entry] => [{ entry with params := some mappers }]
  | entry :: rest => entry :: giveToLast mappers rest

structure Specification where
  entries : List Entry
  /-- Whether the last block declared a line that has been given no mappers. -/
  awaiting : Bool

namespace Specification

def empty : Specification := ⟨[], false⟩

def add (specification : Specification) : Block → Specification
  | .lines text =>
      let declared := readLines text
      ⟨specification.entries ++ declared.map fun line => ⟨line, none⟩, !declared.isEmpty⟩
  | .params mappers =>
      if specification.awaiting then
        ⟨giveToLast mappers specification.entries, false⟩
      else
        specification

def ofBlocks (blocks : List Block) : Specification :=
  blocks.foldl add empty

/-- The trees declared by the specification. -/
def forest (specification : Specification) : List PageTree :=
  forestOf (specification.entries.map Entry.place)

end Specification

/-- The trees declared by a single text. -/
def readForest (text : String) : List PageTree :=
  (Specification.ofBlocks [.lines text]).forest

end Declaration
end PageRouting
