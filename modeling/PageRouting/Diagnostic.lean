import PageRouting.History.Run
import PageRouting.Selection

namespace PageRouting

/-!
One-line descriptions of histories and selectors for diagnosis.  Texts are
quoted, and a part that is not set is shown as such.
-/

namespace Diagnostic

/-- A name with its fields between braces. -/
def record (name : String) (fields : List (String × String)) : String :=
  name ++ " \x7b " ++ ", ".intercalate (fields.map fun (field, text) => field ++ ": " ++ text) ++
    " \x7d"

/-- A name with its parts between parentheses. -/
def tagged (name : String) (parts : List String) : String :=
  name ++ "(" ++ ", ".intercalate parts ++ ")"

def number (value : Nat) : String :=
  String.ofList (Nat.toDigits 10 value)

def optional {α : Type} (describe : α → String) : Option α → String
  | none => "None"
  | some value => tagged "Some" [describe value]

mutual

def value : Json.Value → String
  | .null => "Null"
  | .bool true => "Bool(true)"
  | .bool false => "Bool(false)"
  | .number number => "Number(" ++ number.text ++ ")"
  | .string text => "String(" ++ Text.quoted text ++ ")"
  | .array items => "Array [" ++ ", ".intercalate (values items) ++ "]"
  | .object items => "Object \x7b" ++ ", ".intercalate (entries items) ++ "\x7d"

def values : List Json.Value → List String
  | [] => []
  | item :: items => value item :: values items

def entries : List (String × Json.Value) → List String
  | [] => []
  | (key, item) :: rest => (Text.quoted key ++ ": " ++ value item) :: entries rest

end

def object (object : Json.Object) : String :=
  "\x7b" ++ ", ".intercalate (entries object) ++ "\x7d"

def location (location : Location) : String :=
  record "Location"
    [("pathname", Text.quoted location.pathname), ("search", Text.quoted location.search)]

def stack (stack : History.Stack) : String :=
  record "HistoryStack"
    [("entries", "[" ++ ", ".intercalate (stack.entries.map location) ++ "]"),
     ("cursor", number stack.cursor)]

def history {ε : Type} (history : History ε) : String :=
  record "MemoryHistory"
    [("inner", stack history.stack), ("listeners", number history.listeners.length)]

def patch (patch : RoutePatch) : String :=
  record "RoutePatch"
    [("page", optional Text.quoted patch.page), ("data", optional object patch.data),
     ("query", optional object patch.query)]

/-- A condition cannot be shown. -/
def selector : Selector → String
  | .within page => tagged "Page" [Text.quoted page]
  | .structured expected => tagged "Structured" [patch expected]
  | .predicate _ => tagged "Predicate" [".."]

end Diagnostic

end PageRouting
