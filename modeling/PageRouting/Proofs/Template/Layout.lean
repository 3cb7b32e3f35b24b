import PageRouting.Pattern.Search
import PageRouting.Template

namespace PageRouting

/-!
# The layout of a template

The pattern of a template has a node for each character of literal text and a
group for each placeholder, one after the other, and at its end a slash that may
be missing.  What stands in the groups is left open here.
-/

namespace Pattern

/-- The nodes that pieces of a template are read as.  The first group has the
index after the given one. -/
inductive Layout (Body : Nat → Node → Nat → Prop) : Nat → List Piece → List Node → Prop
  | nil (groups : Nat) : Layout Body groups [] []
  | literal {groups : Nat} {text : List Char} {pieces : List Piece} {nodes : List Node}
      (rest : Layout Body groups pieces nodes) :
      Layout Body groups (.literal text :: pieces) (text.map (fun c => .literal [c]) ++ nodes)
  | placeholder {groups last : Nat} {name : List Char} {body : Node} {pieces : List Piece}
      {nodes : List Node} (inside : Body (groups + 1) body last)
      (rest : Layout Body last pieces nodes) :
      Layout Body groups (.placeholder name :: pieces) (.group (groups + 1) body :: nodes)

namespace Reader

/-- The slash that may be added to a path. -/
def optionalSlash : Node :=
  .repeated ⟨0, some 1, true⟩ (.literal ['/'])

/-- The optional slash and the end of the text, as nodes. -/
def tailNodes : List Node :=
  [optionalSlash, .assertion .textEnd]

end Reader

/-- Instructions for one more slash and the end of the text. -/
def tailCode : List Instruction :=
  [.fork 1 2, .take (.single '/'), .check .textEnd]

/-- The program of a template with its group nodes: the whole text, with one more
slash allowed at its end. -/
def wholeProgram (nodes : List Node) : List Instruction :=
  .check .textStart :: (nodes.flatMap Node.program ++ tailCode)

end Pattern

end PageRouting
