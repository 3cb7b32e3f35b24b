import PageRouting.Mapper
import PageRouting.Pattern.Reading
import PageRouting.Template

namespace PageRouting

/-!
Rows of a routing table: a page with its full path template, the mappers in
force for it, and the pattern that recognises its paths.
-/

structure Row where
  page : String
  path : String
  mappers : MapperTable
  pattern : Pattern

namespace Row

/-- The row of a page, unless its template with the placeholder pattern put in
does not read as a pattern. -/
def compile? (page path : String) (mappers : MapperTable) (placeholderPattern : String) :
    Option Row :=
  (Pattern.ofChars? (Template.source placeholderPattern path)).map fun pattern =>
    ⟨page, path, mappers, pattern⟩

/-- The same row under the name of another page. -/
def aliased (row : Row) (page : String) : Row :=
  { row with page := page }

def placeholders (row : Row) : List String :=
  Template.names row.path

def matchesPath (row : Row) (pathname : String) : Bool :=
  row.pattern.matchesText pathname

/-- The text put in the place of a placeholder.  A mapper is asked even if there
is no value, for the text of null; without mapper and value the text is empty. -/
def placeholderText (row : Row) (data : Json.Object) (name : String) : String :=
  match row.mappers.get? name, data.get? name with
  | some mapper, some value => mapper.encode value
  | some mapper, none => mapper.encode .null
  | none, some value => plainText value
  | none, none => ""

/-- The path with the values of its placeholders. -/
def renderPath (row : Row) (data : Json.Object) : String :=
  Template.render (row.placeholderText data) row.path

/-- The value that the text of a placeholder stands for. -/
def placeholderValue (row : Row) (name text : String) : Json.Value :=
  match row.mappers.get? name with
  | some mapper => mapper.decode text
  | none => .string text

/-- Data of the texts of the placeholders, in their order.  Of a name that occurs
more than once the last value is kept, in the place of the first. -/
def dataOf (row : Row) (texts : List (Option String)) : Json.Object :=
  (row.placeholders.zip texts).foldl
    (fun data (name, text) => data.insert name (row.placeholderValue name (text.getD ""))) []

/-- Data captured from a path, if the row accepts it. -/
def capture? (row : Row) (pathname : String) : Option Json.Object :=
  (row.pattern.captures? pathname).map row.dataOf

theorem capture?_isSome (row : Row) (pathname : String) :
    (row.capture? pathname).isSome = row.matchesPath pathname := by
  simp [capture?, matchesPath, Pattern.captures?_isSome]

@[simp] theorem renderPath_aliased (row : Row) (page : String) (data : Json.Object) :
    (row.aliased page).renderPath data = row.renderPath data := rfl

@[simp] theorem capture?_aliased (row : Row) (page pathname : String) :
    (row.aliased page).capture? pathname = row.capture? pathname := rfl

end Row

end PageRouting
