import PageRouting.Proofs.Declaration.Outline

namespace PageRouting

/-!
# Parents of declarations

Declarations make up a forest that lists them in their order.  Each of them is
directly below the nearest one before it that is strictly less deep, and is a
root if there is none.  The order and the parents determine the forest, so this
says all that indentation means, also where a declaration returns to a depth at
which nothing was declared before.

Pages are numbered in preorder, which is the order of the declarations.
-/

namespace PageTree

mutual

/-- The number of the page directly above each page of a tree, in preorder.  The root of the tree
has the number `number`, and is directly below `above`. -/
def parents (above : Option Nat) (number : Nat) : PageTree → List (Option Nat)
  | .page _ children => above :: parentsForest (some number) (number + 1) children

def parentsForest (above : Option Nat) (number : Nat) : List PageTree → List (Option Nat)
  | [] => []
  | tree :: trees =>
      tree.parents above number ++
        parentsForest above (number + (tree.parents above number).length) trees

end

end PageTree

namespace Declaration

/-- The number of the declaration to which one of the given depth belongs: of those before it, the
last one that is strictly less deep, if there is one. -/
inductive BelongsTo (before : List Placed) (depth : Nat) : Option Nat → Prop where
  | root (deep : ∀ other ∈ before, depth ≤ other.depth) : BelongsTo before depth none
  | below {front between : List Placed} {parent : Placed}
      (split : before = front ++ parent :: between) (shallow : parent.depth < depth)
      (deep : ∀ other ∈ between, depth ≤ other.depth) : BelongsTo before depth (some front.length)

/-! ## Declarations that follow on others -/

/-- The declarations after `before` belong to those with the given numbers. -/
inductive AllBelong : List Placed → List Placed → List (Option Nat) → Prop where
  | nil {before : List Placed} : AllBelong before [] []
  | cons {before lines : List Placed} {line : Placed} {parent : Option Nat}
      {parents : List (Option Nat)} (first : BelongsTo before line.depth parent)
      (rest : AllBelong (before ++ [line]) lines parents) :
      AllBelong before (line :: lines) (parent :: parents)

namespace AllBelong

variable {before lines : List Placed} {parents : List (Option Nat)}

theorem length_eq (belong : AllBelong before lines parents) : parents.length = lines.length := by
  induction belong with
  | nil => rfl
  | cons _ _ ih => rw [List.length_cons, List.length_cons, ih]

theorem append {more : List Placed} {others : List (Option Nat)}
    (belong : AllBelong before lines parents) (further : AllBelong (before ++ lines) more others) :
    AllBelong before (lines ++ more) (parents ++ others) := by
  induction belong with
  | nil => rwa [List.append_nil] at further
  | cons first _ ih =>
      rw [List.append_cons] at further
      exact .cons first (ih further)

/-- Each declaration belongs to one with the number in its place. -/
theorem exists_belongsTo {front back : List Placed} {line : Placed}
    (belong : AllBelong before (front ++ line :: back) parents) :
    ∃ parent, parents[front.length]? = some parent ∧
      BelongsTo (before ++ front) line.depth parent := by
  induction front generalizing before parents with
  | nil =>
      cases belong with
      | @cons _ _ _ parent _ first _ => exact ⟨parent, rfl, by rwa [List.append_nil]⟩
  | cons other front ih =>
      cases belong with
      | cons _ rest =>
          rcases ih rest with ⟨parent, found, belongs⟩
          exact ⟨parent, found, by rwa [List.append_cons]⟩

end AllBelong

/-- The declarations up to a page, or none at all, with the number of that page.  It encloses what
follows directly and is deeper. -/
inductive Encloses : List Placed → Option Nat → Nat → Prop where
  | nothing {depth : Nat} : Encloses [] none depth
  | page {front : List Placed} {parent : Placed} {depth : Nat} (shallow : parent.depth < depth) :
      Encloses (front ++ [parent]) (some front.length) depth

/-- A declaration belongs to the page that encloses it, also after others that are as deep. -/
theorem Encloses.belongsTo {outer between : List Placed} {above : Option Nat} {depth : Nat}
    (encloses : Encloses outer above depth) (deep : ∀ other ∈ between, depth ≤ other.depth) :
    BelongsTo (outer ++ between) depth above := by
  cases encloses with
  | nothing => exact .root deep
  | page shallow => exact .below (List.append_cons ..).symm shallow deep

/-! ## Nested declarations -/

variable {forest : List PageTree} {lines : List Placed}

/-- A forest lists the declarations that are nested in it. -/
theorem Nests.map_preorderForest (nests : Nests forest lines) (level : Nat) :
    (PageTree.preorderForest level forest).map Prod.snd = lines.map Placed.declaration := by
  induction nests generalizing level with
  | nil => rfl
  | cons deeper returns _ _ ihBelow ihBeside =>
      rw [PageTree.preorderForest, PageTree.preorder, List.map_append, List.map_cons, ihBelow,
        ihBeside, List.map_cons, List.map_append, List.cons_append]

/-- Declarations that are nested in a forest belong to the pages above them.  Here `outer` ends
with the page that encloses the forest, and `between` has been declared below it since then. -/
theorem Nests.allBelong (nests : Nests forest lines) {outer between : List Placed}
    {above : Option Nat} (encloses : ∀ line ∈ lines, Encloses outer above line.depth)
    (deep : ∀ line ∈ lines.head?, ∀ other ∈ between, line.depth ≤ other.depth) :
    AllBelong (outer ++ between) lines
      (PageTree.parentsForest above (outer ++ between).length forest) := by
  induction nests generalizing outer between above with
  | nil => exact .nil
  | @cons line children siblings below beside deeper returns _ _ ihBelow ihBeside =>
      rcases List.forall_mem_cons.mp encloses with ⟨here, others⟩
      have earlier := deep line rfl
      have inside : AllBelong (outer ++ between ++ [line]) below
          (PageTree.parentsForest (some (outer ++ between).length) ((outer ++ between).length + 1)
            children) := by
        have enclosed : ∀ other ∈ below, Encloses (outer ++ between ++ [line])
            (some (outer ++ between).length) other.depth :=
          fun other member => .page (deeper other member)
        have next : (outer ++ between ++ [line]).length = (outer ++ between).length + 1 :=
          List.length_append
        have belong := ihBelow enclosed fun _ _ _ none => absurd none List.not_mem_nil
        rwa [List.append_nil, next] at belong
      have tree : AllBelong (outer ++ between) (line :: below)
          ((PageTree.page line.declaration children).parents above (outer ++ between).length) :=
        .cons (here.belongsTo earlier) inside
      -- the next sibling is not deeper than this page, and so not deeper than what is below it
      have apart : ∀ next ∈ beside.head?, ∀ other ∈ between ++ line :: below,
          next.depth ≤ other.depth := by
        intro next first other member
        have shallow := returns next first
        rcases List.mem_append.mp member with before | among
        · exact Nat.le_trans shallow (earlier other before)
        · rcases List.mem_cons.mp among with rfl | further
          · exact shallow
          · exact Nat.le_trans shallow (Nat.le_of_lt (deeper other further))
      have next : (outer ++ between ++ line :: below).length =
          (outer ++ between).length + (line :: below).length := List.length_append
      have after := ihBeside (fun other member => others other (List.mem_append_right _ member))
        apart
      rw [← List.append_assoc, next, ← tree.length_eq] at after
      exact tree.append after

/-- The trees of a sequence of declarations list them in their order, and each declaration is
directly below the nearest one before it that is strictly less deep, or is a root if there is
none. -/
theorem parents_forestOf (lines : List Placed) :
    (PageTree.preorderForest 0 (forestOf lines)).map Prod.snd = lines.map Placed.declaration ∧
      (PageTree.parentsForest none 0 (forestOf lines)).length = lines.length ∧
      ∀ before line after, lines = before ++ line :: after →
        ∃ parent, (PageTree.parentsForest none 0 (forestOf lines))[before.length]? = some parent ∧
          BelongsTo before line.depth parent := by
  have nests := nests_forestOf lines
  have belong : AllBelong [] lines (PageTree.parentsForest none 0 (forestOf lines)) :=
    @Nests.allBelong _ _ nests [] [] none (fun _ _ => .nothing)
      fun _ _ _ none => absurd none List.not_mem_nil
  refine ⟨nests.map_preorderForest 0, belong.length_eq, ?_⟩
  rintro before line after rfl
  exact belong.exists_belongsTo

/-- Depths that are no levels.  The page `faq` returns to a depth between those of the two pages
before it. -/
def raggedLines : List Placed :=
  [⟨4, ⟨"news", none, none, none⟩⟩, ⟨2, ⟨"docs", some "/d", some "guide", none⟩⟩,
    ⟨5, ⟨"guide", none, none, none⟩⟩, ⟨3, ⟨"faq", none, none, some []⟩⟩,
    ⟨3, ⟨"terms", none, none, none⟩⟩, ⟨0, ⟨"home", none, none, none⟩⟩,
    ⟨1, ⟨"search", none, none, none⟩⟩]

theorem parents_forestOf_raggedLines :
    PageTree.parentsForest none 0 (forestOf raggedLines) =
        [none, none, some 1, some 1, some 1, none, some 5] ∧
      ∃ before line after, raggedLines = before ++ line :: after ∧
        line.declaration.segment = "faq" ∧ BelongsTo before line.depth (some 1) := by
  have computed : PageTree.parentsForest none 0 (forestOf raggedLines) =
      [none, none, some 1, some 1, some 1, none, some 5] := by decide
  rcases (parents_forestOf raggedLines).2.2 (raggedLines.take 3) _ (raggedLines.drop 4) rfl with
    ⟨parent, found, belongs⟩
  rw [computed] at found
  cases found
  exact ⟨computed, _, _, _, rfl, rfl, belongs⟩

end Declaration
end PageRouting
