import PageRouting.Declaration.PageTree

namespace PageRouting
namespace Declaration

/-!
Trees from depths.  Declarations come one after the other, each with a depth;
a declaration belongs to the nearest one before it that is strictly less deep,
and is a root if there is none.  Depths need not be consecutive, and a
declaration may return to a depth at which nothing was declared before.
-/

/-- A declaration with its depth. -/
structure Placed where
  depth : Nat
  declaration : PageDeclaration

/-- A page to which further pages may still be added. -/
structure OpenPage where
  depth : Nat
  declaration : PageDeclaration
  /-- Finished trees below the page, in order. -/
  children : List PageTree

def OpenPage.tree (page : OpenPage) : PageTree :=
  .page page.declaration page.children

def OpenPage.addChildren (page : OpenPage) (trees : List PageTree) : OpenPage :=
  { page with children := page.children ++ trees }

/-- A forest of which the pages along the right edge are still open, the
innermost first. -/
structure Outline where
  roots : List PageTree
  openPages : List OpenPage

namespace Outline

def empty : Outline := ⟨[], []⟩

/-- Close the open pages that are at least as deep as `depth`.  The trees just
closed go to the next page outwards, and beyond the last page to the roots. -/
def closeFrom (depth : Nat) (roots closed : List PageTree) : List OpenPage → Outline
  | [] => ⟨roots ++ closed, []⟩
  | page :: outer =>
      let page := page.addChildren closed
      if depth ≤ page.depth then
        closeFrom depth roots [page.tree] outer
      else
        ⟨roots, page :: outer⟩

/-- Add a declaration to the outline. -/
def place (outline : Outline) (placed : Placed) : Outline :=
  let closed := closeFrom placed.depth outline.roots [] outline.openPages
  { closed with openPages := ⟨placed.depth, placed.declaration, []⟩ :: closed.openPages }

/-- All trees, with every page closed. -/
def forest (outline : Outline) : List PageTree :=
  (closeFrom 0 outline.roots [] outline.openPages).roots

end Outline

/-- The trees of a sequence of declarations. -/
def forestOf (placed : List Placed) : List PageTree :=
  (placed.foldl Outline.place Outline.empty).forest

end Declaration
end PageRouting
