import Mathlib.Data.List.Forall2
import PageRouting.Proofs.Table.Places
import PageRouting.Proofs.Table.Redirection

namespace PageRouting

/-!
# The arrangement of a table

A table has one row for each place of its forest, in the order of rows.  So the
row of a page is the one that stands where the place of the page stands, and it
is given without names, which need not be distinct.  If they are, each row is
found by its name, and nothing is found by others.
-/

open PageTree

namespace Table

variable {placeholderPattern : String} {base : Base} {children siblings forest : List PageTree}
  {declaration : PageDeclaration} {rows all : List Row} {place : List Nat} {row : Row}

/-! ## The row of a page -/

/-- The row is compiled from what the pages on a trail contribute, or it is a copy of the row that
the index names. -/
inductive IsRowOf (placeholderPattern : String) (rows : List Row) (here : Base) :
    Option String → Row → Prop where
  | own {row : Row}
      (compiled : Row.compile? here.page here.path here.mappers placeholderPattern = some row) :
      IsRowOf placeholderPattern rows here none row
  | copy {index : String} {target : Row} (member : target ∈ rows)
      (named : target.page = here.page ++ pageSeparator ++ index) :
      IsRowOf placeholderPattern rows here (some index) (target.aliased here.page)

namespace IsRowOf

variable {here : Base} {index : Option String}

theorem mono (isRow : IsRowOf placeholderPattern rows here index row) (among : rows ⊆ all) :
    IsRowOf placeholderPattern all here index row := by
  cases isRow with
  | own compiled => exact .own compiled
  | copy member named => exact .copy (among member) named

theorem page_eq (isRow : IsRowOf placeholderPattern rows here index row) :
    row.page = here.page := by
  cases isRow with
  | own compiled => exact (Row.isCompiled_of_compile? compiled).2.1
  | copy member named => rfl

theorem path_eq (isRow : IsRowOf placeholderPattern rows here none row) :
    row.path = here.path := by
  cases isRow with
  | own compiled => exact (Row.isCompiled_of_compile? compiled).2.2.1

end IsRowOf

/-- The row is that of the page at the place. -/
def RowAt (placeholderPattern : String) (base : Base) (forest : List PageTree) (rows : List Row)
    (place : List Nat) (row : Row) : Prop :=
  ∃ trail, trailAt? forest place = some trail ∧
    IsRowOf placeholderPattern rows (base.along trail) (trailIndex? trail) row

theorem RowAt.below
    (isRow : RowAt placeholderPattern (base.below declaration) children rows place row)
    (among : rows ⊆ all) (siblings : List PageTree) :
    RowAt placeholderPattern base (.page declaration children :: siblings) all (0 :: place)
      row := by
  rcases isRow with ⟨trail, leads, isRow⟩
  have nonempty := ne_nil_of_mem_trailsForest (exists_trailAt?_iff.mp ⟨place, leads⟩)
  refine ⟨declaration :: trail, trailAt?_cons.mpr (.inr (.inl ⟨_, _, rfl, rfl, leads⟩)), ?_⟩
  rw [trailIndex?_cons nonempty]
  exact isRow.mono among

theorem RowAt.beside (isRow : RowAt placeholderPattern base siblings rows place row)
    (among : rows ⊆ all) (tree : PageTree) :
    RowAt placeholderPattern base (tree :: siblings) all (shifted place) row := by
  rcases isRow with ⟨trail, leads, isRow⟩
  exact ⟨trail, (trailAt?_shifted tree place).trans leads, isRow.mono among⟩

/-- The rows stand in the order of rows. -/
theorem HasRows.forall₂_rowAt (made : HasRows placeholderPattern base forest rows) :
    List.Forall₂ (RowAt placeholderPattern base forest rows) (rowPlacesForest forest) rows := by
  induction made with
  | nil => exact .nil
  | @own base declaration children siblings row descendants others unmarked compiled _ _ ihBelow
      ihBeside =>
      have here : RowAt placeholderPattern base (.page declaration children :: siblings)
          (row :: (descendants ++ others)) [0] row :=
        ⟨[declaration], rfl, by rw [trailIndex?_singleton, unmarked]; exact .own compiled⟩
      rw [rowPlacesForest_cons_of_none unmarked]
      refine .cons here (List.rel_append (List.forall₂_map_left_iff.mpr ?_)
        (List.forall₂_map_left_iff.mpr ?_))
      · refine ihBelow.imp fun _ _ isRow => isRow.below ?_ siblings
        exact fun _ member => List.mem_cons_of_mem _ (List.mem_append_left _ member)
      · refine ihBeside.imp fun _ _ isRow => isRow.beside ?_ _
        exact fun _ member => List.mem_cons_of_mem _ (List.mem_append_right _ member)
  | @indexed base declaration children siblings index target descendants others marked found _ _
      ihBelow ihBeside =>
      have here : RowAt placeholderPattern base (.page declaration children :: siblings)
          (descendants ++ target.aliased (base.below declaration).page :: others) [0]
          (target.aliased (base.below declaration).page) := by
        refine ⟨[declaration], rfl, ?_⟩
        rw [trailIndex?_singleton, marked]
        have named := List.find?_some found
        exact .copy (List.mem_append_left _ (List.mem_of_find?_eq_some found)) (eq_of_beq named)
      rw [rowPlacesForest_cons_of_some marked]
      refine List.rel_append (List.forall₂_map_left_iff.mpr ?_) (.cons here
        (List.forall₂_map_left_iff.mpr ?_))
      · refine ihBelow.imp fun _ _ isRow => isRow.below ?_ siblings
        exact fun _ member => List.mem_append_left _ member
      · refine ihBeside.imp fun _ _ isRow => isRow.beside ?_ _
        exact fun _ member => List.mem_append_right _ (List.mem_cons_of_mem _ member)

/-! ## The order of rows -/

/-- The rows of a table stand in the order of the places. -/
structure Arranged (forest : List PageTree) (config : Config) (table : Table)
    (places : List (List Nat)) : Prop where
  /-- There is one row for each page, which stands where the place of the page stands. -/
  nodup : places.Nodup
  complete : ∀ place, place ∈ places ↔ ∃ trail, trailAt? forest place = some trail
  rows : List.Forall₂
    (RowAt config.placeholderPattern (.root config.params) forest table.rows) places table.rows
  /-- Siblings stand as they are declared, each with its subtree. -/
  siblings : places.Pairwise InOrder
  /-- Subtrees stand together, with their root in the first or in the last place. -/
  subtrees : ∀ place trail, trailAt? forest place = some trail →
    ∃ block, IsBlock places place (trailIndex? trail) block

/-- The rows of a table are found by the names of their pages. -/
structure Named (forest : List PageTree) (table : Table) (places : List (List Nat)) : Prop where
  nodup : (table.rows.map Row.page).Nodup
  found : List.Forall₂ (fun place row => ∃ trail, trailAt? forest place = some trail ∧
      table.findByPage? (trailName trail) = some row ∧
      (trailIndex? trail = none → row.path = String.join (trail.map PageDeclaration.ownPath)))
    places table.rows
  /-- No other name is found. -/
  absent : ∀ page, (∀ place trail, trailAt? forest place = some trail → page ≠ trailName trail) →
    table.findByPage? page = none

/-- Each row of a well named forest is found by the name of the page at its place. -/
theorem HasRows.named {params : MapperTable} {table : Table}
    (named : isWellNamedForest forest = true)
    (made : HasRows placeholderPattern (.root params) forest table.rows) :
    Named forest table (rowPlacesForest forest) where
  nodup := made.nodup_page named
  found := by
    have listed : ∀ row ∈ table.rows, table.findByPage? row.page = some row :=
      fun row member => Router.findByPage?_eq_some (made.nodup_page named) member
    have both := (List.forall₂_and_left _ _).mpr ⟨listed, made.forall₂_rowAt.flip⟩
    refine both.flip.imp fun place row => ?_
    rintro ⟨found, trail, leads, isRow⟩
    have member := exists_trailAt?_iff.mp ⟨place, leads⟩
    rw [isRow.page_eq, page_along_root named member] at found
    refine ⟨trail, leads, found, fun unmarked => ?_⟩
    rw [unmarked] at isRow
    rw [isRow.path_eq, Base.path_along]
    exact String.empty_append
  absent page others := by
    apply findByPage?_eq_none_iff.mpr
    rintro row member rfl
    have listed := (made.perm_trailName named).mem_iff.mp (List.mem_map_of_mem member)
    rcases List.mem_map.mp listed with ⟨trail, isTrail, same⟩
    rcases exists_trailAt?_iff.mpr isTrail with ⟨place, leads⟩
    exact others place trail leads same.symm

/-- A table has one row for each page, in the order of rows, and distinct names if those of its
forest are good. -/
theorem arranged_of_compile {config : Config} {table : Table}
    (compiled : compile forest config.params config.placeholderPattern = .ok table) :
    Arranged forest config table (rowPlacesForest forest) ∧
      (isWellNamedForest forest = true → Named forest table (rowPlacesForest forest)) := by
  have made := hasRows_of_compile compiled
  refine ⟨?_, made.named⟩
  exact {
    nodup := nodup_rowPlacesForest forest
    complete := fun _ => mem_rowPlacesForest
    rows := made.forall₂_rowAt
    siblings := pairwise_inOrder_rowPlacesForest forest
    subtrees := fun _ _ leads => exists_isBlock leads }

/-- Two pages below each other that stand after the pages below them, and two that stand before. -/
def shelvesForest : List PageTree :=
  [.page ⟨"docs", some "/docs/:version", some "guide", none⟩
    [.page ⟨"guide", none, some "intro", none⟩ [.page ⟨"intro", some "", none, none⟩ []],
      .page ⟨"faq", none, none, none⟩ []],
    .page ⟨"home", some "/", none, none⟩ []]

theorem arranged_shelvesForest :
    ∃ table, compile shelvesForest [] "[^/]+" = .ok table ∧
      Arranged shelvesForest {} table [[0, 0, 0], [0, 0], [0, 1], [0], [1]] ∧
      Named shelvesForest table [[0, 0, 0], [0, 0], [0, 1], [0], [1]] ∧
      table.rows.map Row.page = ["docs.guide.intro", "docs.guide", "docs.faq", "docs", "home"] := by
  have computed : (compile shelvesForest [] "[^/]+").toOption.any (fun table =>
      decide (table.rows.map Row.page =
        ["docs.guide.intro", "docs.guide", "docs.faq", "docs", "home"])) = true := by
    decide +kernel
  rcases exists_of_computed computed with ⟨table, compiled, pages⟩
  rcases @arranged_of_compile shelvesForest {} table compiled with ⟨arranged, named⟩
  exact ⟨table, compiled, arranged, named rfl, of_decide_eq_true pages⟩

end Table
end PageRouting
