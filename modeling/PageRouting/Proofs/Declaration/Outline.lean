import PageRouting.Declaration.Outline

namespace PageRouting
namespace Declaration

/-!
# Outlines of nested declarations

Declarations are nested in a forest if each is followed by those below it, which
are all deeper, and then by the next sibling, which is not.  Any declarations are
nested in some forest, and it is the one that they make up when they are placed.
What has been placed before does not matter beyond the pages that are still open:
closing at a depth after the declarations have been placed is attaching their
forest to the innermost open page, if none is open that is as deep as they are.

The listing of a forest gives each page with its level, and is nested as the
forest is.  So a forest is read off the levels of its pages, whereas in general
depths need not be levels.
-/

/-- The declarations of a forest in preorder.  Those below a page are deeper than it, and its next
sibling is not. -/
inductive Nests : List PageTree → List Placed → Prop where
  | nil : Nests [] []
  | cons {line : Placed} {children siblings : List PageTree} {below beside : List Placed}
      (deeper : ∀ other ∈ below, line.depth < other.depth)
      (returns : ∀ next ∈ beside.head?, next.depth ≤ line.depth)
      (inside : Nests children below) (after : Nests siblings beside) :
      Nests (.page line.declaration children :: siblings) (line :: (below ++ beside))

/-- Any declarations are nested in a forest: those that follow the first one are below it as long
as they are deeper. -/
theorem exists_nests : ∀ lines : List Placed, ∃ forest, Nests forest lines
  | [] => ⟨[], .nil⟩
  | line :: rest => by
      let isBelow := fun other : Placed => decide (line.depth < other.depth)
      rcases exists_nests (rest.takeWhile isBelow) with ⟨children, inside⟩
      rcases exists_nests (rest.dropWhile isBelow) with ⟨siblings, after⟩
      have deeper : ∀ other ∈ rest.takeWhile isBelow, line.depth < other.depth :=
        fun other member => of_decide_eq_true (List.all_eq_true.mp List.all_takeWhile other member)
      have returns : ∀ next ∈ (rest.dropWhile isBelow).head?, next.depth ≤ line.depth := by
        intro next first
        have stops := List.head?_dropWhile_not isBelow rest
        rw [Option.mem_def.mp first] at stops
        exact Nat.le_of_not_lt (of_decide_eq_false stops)
      have whole := Nests.cons deeper returns inside after
      rw [List.takeWhile_append_dropWhile] at whole
      exact ⟨_, whole⟩
termination_by lines => lines.length
decreasing_by
  · exact Nat.lt_succ_of_le (List.takeWhile_sublist _).length_le
  · exact Nat.lt_succ_of_le (List.dropWhile_sublist _).length_le

namespace Outline

/-- The outline with the pages closed that are at least as deep as `depth`. -/
def closedAt (depth : Nat) (outline : Outline) : Outline :=
  closeFrom depth outline.roots [] outline.openPages

/-- The outline with trees added below the innermost open page, or to the roots if
no page is open. -/
def attach (trees : List PageTree) : Outline → Outline
  | ⟨roots, []⟩ => ⟨roots ++ trees, []⟩
  | ⟨roots, page :: outer⟩ => ⟨roots, page.addChildren trees :: outer⟩

/-- No page is open at `depth` or deeper, judged by the innermost one. -/
def IsClosedAt (depth : Nat) : Outline → Prop
  | ⟨_, []⟩ => True
  | ⟨_, page :: _⟩ => page.depth < depth

@[simp] theorem attach_nil (outline : Outline) : outline.attach [] = outline := by
  rcases outline with ⟨roots, _ | ⟨page, outer⟩⟩
  · simp only [attach, List.append_nil]
  · simp only [attach, OpenPage.addChildren, List.append_nil]

theorem attach_attach (first second : List PageTree) (outline : Outline) :
    (outline.attach first).attach second = outline.attach (first ++ second) := by
  rcases outline with ⟨roots, _ | ⟨page, outer⟩⟩
  · simp only [attach, List.append_assoc]
  · simp only [attach, OpenPage.addChildren, List.append_assoc]

theorem closeFrom_of_le {depth : Nat} {page : OpenPage} (deep : depth ≤ page.depth)
    (roots trees : List PageTree) (outer : List OpenPage) :
    closeFrom depth roots trees (page :: outer) =
      closeFrom depth roots [(page.addChildren trees).tree] outer :=
  if_pos deep

theorem closeFrom_of_lt {depth : Nat} {page : OpenPage} (shallow : page.depth < depth)
    (roots trees : List PageTree) (outer : List OpenPage) :
    closeFrom depth roots trees (page :: outer) = ⟨roots, page.addChildren trees :: outer⟩ :=
  if_neg (Nat.not_le_of_lt shallow)

theorem closeFrom_eq_attach {depth : Nat} {outline : Outline} (closed : outline.IsClosedAt depth)
    (trees : List PageTree) :
    closeFrom depth outline.roots trees outline.openPages = outline.attach trees := by
  rcases outline with ⟨roots, _ | ⟨page, outer⟩⟩
  · rfl
  · exact closeFrom_of_lt closed roots trees outer

theorem isClosedAt_closeFrom (depth : Nat) (roots trees : List PageTree) (pages : List OpenPage) :
    (closeFrom depth roots trees pages).IsClosedAt depth := by
  induction pages generalizing trees with
  | nil => trivial
  | cons page outer ih =>
      rcases Nat.lt_or_ge page.depth depth with shallow | deep
      · rw [closeFrom_of_lt shallow]
        exact shallow
      · rw [closeFrom_of_le deep]
        exact ih _

/-- Closing at a depth after closing at a greater one is closing at once. -/
theorem closedAt_closeFrom {depth deeper : Nat} (le : depth ≤ deeper) (roots trees : List PageTree)
    (pages : List OpenPage) :
    (closeFrom deeper roots trees pages).closedAt depth = closeFrom depth roots trees pages := by
  induction pages generalizing trees with
  | nil => simp only [closeFrom, closedAt, List.append_nil]
  | cons page outer ih =>
      rcases Nat.lt_or_ge page.depth deeper with shallow | deep
      · -- the page has been left open with the trees, and is met again with no more of them
        have again : (page.addChildren trees).addChildren [] = page.addChildren trees := by
          simp only [OpenPage.addChildren, List.append_nil]
        rw [closeFrom_of_lt shallow, closedAt]
        simp only [closeFrom, again]
      · rw [closeFrom_of_le deep, closeFrom_of_le (Nat.le_trans le deep)]
        exact ih _

theorem closedAt_closedAt {depth deeper : Nat} (le : depth ≤ deeper) (outline : Outline) :
    (outline.closedAt deeper).closedAt depth = outline.closedAt depth :=
  closedAt_closeFrom le _ _ _

theorem closedAt_eq_self {depth : Nat} {outline : Outline} (closed : outline.IsClosedAt depth) :
    outline.closedAt depth = outline :=
  (closeFrom_eq_attach closed []).trans (attach_nil outline)

theorem IsClosedAt.mono {depth deeper : Nat} (le : depth ≤ deeper) {outline : Outline}
    (closed : outline.IsClosedAt depth) : outline.IsClosedAt deeper := by
  rcases outline with ⟨roots, _ | ⟨page, outer⟩⟩
  · trivial
  · exact Nat.lt_of_lt_of_le closed le

theorem IsClosedAt.attach {depth : Nat} {outline : Outline} (closed : outline.IsClosedAt depth)
    (trees : List PageTree) : (outline.attach trees).IsClosedAt depth := by
  rcases outline with ⟨roots, _ | ⟨page, outer⟩⟩
  · trivial
  · exact closed

/-- Placing a declaration closes what is as deep, so that it may have been closed before. -/
theorem place_closedAt {depth : Nat} {line : Placed} (shallow : line.depth ≤ depth)
    (outline : Outline) : (outline.closedAt depth).place line = outline.place line := by
  have same : closeFrom line.depth (outline.closedAt depth).roots []
      (outline.closedAt depth).openPages =
        closeFrom line.depth outline.roots [] outline.openPages :=
    closedAt_closedAt shallow outline
  simp only [place, same]

/-- Closing a page with its children attaches its tree. -/
theorem closedAt_attach_place (outline : Outline) (level : Nat) (declaration : PageDeclaration)
    (children : List PageTree) :
    ((outline.place ⟨level, declaration⟩).attach children).closedAt level =
      (outline.closedAt level).attach [.page declaration children] := by
  simp only [place, attach, closedAt, closeFrom, OpenPage.addChildren, OpenPage.tree,
    List.nil_append, List.append_nil, Nat.le_refl, if_true]
  exact closeFrom_eq_attach (isClosedAt_closeFrom _ _ _ _) _

/-- Placing declarations attaches the forest in which they are nested, if no page is open that is
as deep as one of them. -/
theorem closedAt_foldl_place {forest : List PageTree} {lines : List Placed}
    (nests : Nests forest lines) {depth : Nat} {outline : Outline}
    (closed : outline.IsClosedAt depth) (deep : ∀ line ∈ lines, depth ≤ line.depth) :
    (lines.foldl place outline).closedAt depth = outline.attach forest := by
  induction nests generalizing depth outline with
  | nil => rw [List.foldl_nil, closedAt_eq_self closed, attach_nil]
  | @cons line children siblings below beside deeper returns _ _ ihBelow ihBeside =>
      rcases List.forall_mem_cons.mp deep with ⟨here, others⟩
      have opened : (outline.place line).IsClosedAt (line.depth + 1) := Nat.lt_succ_self line.depth
      have inside := ihBelow opened deeper
      -- the page is still open for the declarations below it
      have tree : (below.foldl place (outline.place line)).closedAt line.depth =
          outline.attach [.page line.declaration children] := by
        rw [← closedAt_closedAt (Nat.le_succ line.depth), inside, closedAt_attach_place,
          closedAt_eq_self (closed.mono here)]
      -- and is closed by the next sibling, or at the end
      have onward : ((line :: (below ++ beside)).foldl place outline).closedAt depth =
          (beside.foldl place (outline.attach [.page line.declaration children])).closedAt
            depth := by
        rw [List.foldl_cons, List.foldl_append, ← tree]
        cases beside with
        | nil => exact (closedAt_closedAt here _).symm
        | cons next rest =>
            rw [List.foldl_cons, List.foldl_cons, place_closedAt (returns next rfl)]
      rw [onward, ihBeside (closed.attach _)
          (fun other member => others other (List.mem_append_right _ member)),
        attach_attach, List.singleton_append]

end Outline

/-- Declarations make up the forest in which they are nested. -/
theorem forestOf_eq_of_nests {forest : List PageTree} {lines : List Placed}
    (nests : Nests forest lines) : forestOf lines = forest := by
  have closed : Outline.empty.IsClosedAt 0 := trivial
  have placed := Outline.closedAt_foldl_place nests closed fun line _ => Nat.zero_le line.depth
  exact congrArg Outline.roots placed

theorem nests_forestOf (lines : List Placed) : Nests (forestOf lines) lines := by
  rcases exists_nests lines with ⟨forest, nests⟩
  rwa [forestOf_eq_of_nests nests]

/-! ## Levels -/

theorem level_le_of_mem_preorderForest {level : Nat} {forest : List PageTree}
    {entry : Nat × PageDeclaration} (member : entry ∈ PageTree.preorderForest level forest) :
    level ≤ entry.1 := by
  induction forest using PageTree.forestInduction generalizing level with
  | nil => exact absurd member List.not_mem_nil
  | cons declaration children siblings ihBelow ihBeside =>
      rw [PageTree.preorderForest, PageTree.preorder, List.cons_append] at member
      rcases List.mem_cons.mp member with rfl | further
      · exact Nat.le_refl _
      · rcases List.mem_append.mp further with inside | later
        · exact Nat.le_of_succ_le (ihBelow inside)
        · exact ihBeside later

/-- Pages with their levels are nested as in their forest. -/
theorem nests_preorderForest (level : Nat) (forest : List PageTree) :
    Nests forest ((PageTree.preorderForest level forest).map fun entry => ⟨entry.1, entry.2⟩) := by
  induction forest using PageTree.forestInduction generalizing level with
  | nil => exact .nil
  | cons declaration children siblings ihBelow ihBeside =>
      rw [PageTree.preorderForest, PageTree.preorder, List.map_append, List.map_cons,
        List.cons_append]
      refine @Nests.cons ⟨level, declaration⟩ children siblings _ _ ?_ ?_ (ihBelow (level + 1))
        (ihBeside level)
      · intro other member
        rcases List.mem_map.mp member with ⟨entry, among, rfl⟩
        exact level_le_of_mem_preorderForest among
      · intro next first
        rcases siblings with _ | ⟨⟨sibling, below⟩, others⟩
        · cases first
        · cases first
          exact Nat.le_refl level

/-- A forest is read off the levels of its pages. -/
theorem forestOf_preorderForest (forest : List PageTree) :
    forestOf ((PageTree.preorderForest 0 forest).map fun entry => ⟨entry.1, entry.2⟩) = forest :=
  forestOf_eq_of_nests (nests_preorderForest 0 forest)

end Declaration
end PageRouting
