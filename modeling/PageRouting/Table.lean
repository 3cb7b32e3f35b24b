import PageRouting.Declaration.PageTree
import PageRouting.Row

namespace PageRouting

/-!
Routing tables.  A forest of declared pages becomes a list of rows, one for each
page.  The name of a page is made of the segments from its root down, and its
path of the paths declared on the way; mappers are inherited, and those declared
further down take the place of those above.

The row of a page comes before the rows of the pages below it.  A page with an
index has no template of its own: it takes over the row of the page the index
names, and stands after the rows of the pages below it, so that a path is found
under the name of the page that declares it.
-/

/-- Why a forest has no table.  Of a pattern that cannot be read it is said where it stands, and not
what is wrong with it. -/
inductive TableError where
  | unknownIndex (index page : String)
  | invalidPattern (path page : String)
deriving DecidableEq, Repr

namespace TableError

def message : TableError → String
  | .unknownIndex index page =>
      "index '" ++ index ++ "' of page '" ++ page ++ "' does not name a descendant page"
  | .invalidPattern path page =>
      "path template '" ++ path ++ "' of page '" ++ page ++ "' does not compile to a matcher"

end TableError

/-- The separator of the segments of a page name. -/
def pageSeparator : String := "."

/-- What the pages above contribute to a page. -/
structure Base where
  path : String
  page : String
  mappers : MapperTable

namespace Base

/-- The name of a page with the given segment.  A segment below a page without a
name stands alone. -/
def pageBelow (base : Base) (segment : String) : String :=
  if base.page.isEmpty then segment else base.page ++ pageSeparator ++ segment

/-- What a page and those above it contribute to the pages below. -/
def below (base : Base) (declaration : PageDeclaration) : Base where
  path := base.path ++ declaration.ownPath
  page := base.pageBelow declaration.segment
  mappers :=
    match declaration.params with
    | none => base.mappers
    | some own => base.mappers.override own

end Base

/-- Rows in the order in which paths are looked up. -/
structure Table where
  rows : List Row

namespace Table

/-- Rows of a page and of the pages below it, whose rows are given. -/
def pageRows (placeholderPattern : String) (here : Base) (index : Option String)
    (descendants : List Row) : Except TableError (List Row) :=
  match index with
  | some index =>
      match descendants.find? fun row => row.page == here.page ++ pageSeparator ++ index with
      | some row => .ok (descendants ++ [row.aliased here.page])
      | none => .error (.unknownIndex index here.page)
  | none =>
      match Row.compile? here.page here.path here.mappers placeholderPattern with
      | some row => .ok (row :: descendants)
      | none => .error (.invalidPattern here.path here.page)

mutual

/-- Rows of a tree.  The pages below are compiled first, so that an error below a
page is found before one of the page itself. -/
def treeRows (placeholderPattern : String) (base : Base) :
    PageTree → Except TableError (List Row)
  | .page declaration children =>
      match forestRows placeholderPattern (base.below declaration) children with
      | .error error => .error error
      | .ok descendants =>
          pageRows placeholderPattern (base.below declaration) declaration.index descendants

def forestRows (placeholderPattern : String) (base : Base) :
    List PageTree → Except TableError (List Row)
  | [] => .ok []
  | tree :: trees =>
      match treeRows placeholderPattern base tree with
      | .error error => .error error
      | .ok rows =>
          match forestRows placeholderPattern base trees with
          | .error error => .error error
          | .ok more => .ok (rows ++ more)

end

/-- The table of a forest. -/
def compile (forest : List PageTree) (params : MapperTable) (placeholderPattern : String) :
    Except TableError Table :=
  (forestRows placeholderPattern ⟨"", "", params⟩ forest).map Table.mk

/-- The first row with the name of the page. -/
def findByPage? (table : Table) (page : String) : Option Row :=
  table.rows.find? fun row => row.page == page

/-- The first row that accepts the path. -/
def findByPath? (table : Table) (pathname : String) : Option Row :=
  table.rows.find? fun row => row.matchesPath pathname

/-- The first row that accepts the path, with the data captured from it. -/
def capturePath? (table : Table) (pathname : String) : Option (Row × Json.Object) :=
  table.rows.findSome? fun row => (row.capture? pathname).map fun data => (row, data)

end Table

end PageRouting
