import PageRouting.Mapper

namespace PageRouting

/-!
Trees of declared pages.  What a page declares by itself stands in its root; the
page's full name and path depend on the pages above it and are worked out when
the tree is compiled.
-/

/-- What one page declares. -/
structure PageDeclaration where
  segment : String
  path : Option String := none
  /-- The page below this one that is shown in its place. -/
  index : Option String := none
  params : Option MapperTable := none

namespace PageDeclaration

/-- The part of the path template that the page adds: the declared path, or a
slash and the segment. -/
def ownPath (declaration : PageDeclaration) : String :=
  match declaration.path with
  | some path => path
  | none => "/" ++ declaration.segment

/-- A segment by which the page can be told from others: not empty, and without
the dot that separates segments. -/
def hasValidSegment (declaration : PageDeclaration) : Bool :=
  !declaration.segment.isEmpty && !declaration.segment.toList.contains '.'

/-- Equality of declarations, with mappers compared by identity. -/
def same (left right : PageDeclaration) : Bool :=
  left.segment == right.segment && left.path == right.path && left.index == right.index &&
    match left.params, right.params with
    | none, none => true
    | some own, some other => own.same other
    | _, _ => false

end PageDeclaration

inductive PageTree where
  | page (declaration : PageDeclaration) (children : List PageTree)

namespace PageTree

instance : Inhabited PageTree := ⟨.page ⟨"", none, none, none⟩ []⟩

def declaration : PageTree → PageDeclaration
  | .page declaration _ => declaration

def children : PageTree → List PageTree
  | .page _ children => children

/-- Induction on forests by the first tree. -/
@[elab_as_elim]
theorem forestInduction {motive : List PageTree → Prop} (nil : motive [])
    (cons : ∀ declaration children siblings, motive children → motive siblings →
      motive (.page declaration children :: siblings)) : ∀ forest, motive forest
  | [] => nil
  | .page declaration children :: siblings =>
      cons declaration children siblings (forestInduction nil cons children)
        (forestInduction nil cons siblings)

mutual

/-- Equality of trees: equal declarations in equal places. -/
def same : PageTree → PageTree → Bool
  | .page left lefts, .page right rights => left.same right && sameForest lefts rights

def sameForest : List PageTree → List PageTree → Bool
  | [], [] => true
  | left :: lefts, right :: rights => left.same right && sameForest lefts rights
  | _, _ => false

end

mutual

/-- Declarations of a tree with their levels, a page before the pages below it. -/
def preorder (level : Nat) : PageTree → List (Nat × PageDeclaration)
  | .page declaration children => (level, declaration) :: preorderForest (level + 1) children

def preorderForest (level : Nat) : List PageTree → List (Nat × PageDeclaration)
  | [] => []
  | tree :: trees => tree.preorder level ++ preorderForest level trees

end

end PageTree

end PageRouting
