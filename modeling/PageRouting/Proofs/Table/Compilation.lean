import PageRouting.Proofs.Row.Captures
import PageRouting.Proofs.Table.Trails

namespace PageRouting

/-!
# The rows of a forest

What a table is made of is said once, by the inductive `HasRows`, and everything
about tables is shown by induction on it.  There is one row for each page.  That
of a page without an index has the template of the page itself, and that of a
page with an index is the row of another page, which comes earlier.
-/

namespace Base

/-- What the pages of all trees start from. -/
def root (params : MapperTable) : Base :=
  ⟨"", "", params⟩

/-- What the pages on a trail contribute to the pages below. -/
def along (base : Base) (trail : List PageDeclaration) : Base :=
  trail.foldl below base

/-- The name of a page is that of its trail. -/
theorem page_below {base : Base} {above : List PageDeclaration}
    (valid : ∀ declaration ∈ above, declaration.hasValidSegment = true)
    (named : base.page = PageTree.trailName above) (declaration : PageDeclaration) :
    (base.below declaration).page = PageTree.trailName (above ++ [declaration]) := by
  change base.pageBelow declaration.segment = _
  cases above with
  | nil =>
      have rootless : base.page.isEmpty = true := named ▸ rfl
      rw [pageBelow, if_pos rootless]
      exact String.ofList_toList.symm
  | cons first rest =>
      have named' : base.page.isEmpty = false := by
        rw [named]
        exact PageTree.isEmpty_trailName_cons (valid first List.mem_cons_self) rest
      rw [pageBelow, if_neg (Bool.eq_false_iff.mp named'), named]
      exact PageTree.trailName_concat (List.cons_ne_nil first rest) declaration

theorem page_along {base : Base} {above trail : List PageDeclaration}
    (valid : ∀ declaration ∈ above ++ trail, declaration.hasValidSegment = true)
    (named : base.page = PageTree.trailName above) :
    (base.along trail).page = PageTree.trailName (above ++ trail) := by
  induction trail generalizing base above with
  | nil => rw [List.append_nil]; exact named
  | cons declaration trail ih =>
      rw [List.append_cons] at valid ⊢
      apply ih valid
      apply page_below _ named
      intro other member
      exact valid other (by simp only [List.mem_append, member, true_or])

theorem page_root_along {trail : List PageDeclaration}
    (valid : ∀ declaration ∈ trail, declaration.hasValidSegment = true) (params : MapperTable) :
    ((root params).along trail).page = PageTree.trailName trail :=
  @page_along (root params) [] trail valid rfl

/-- The path of a page is made of the paths declared on its trail. -/
theorem path_along (base : Base) (trail : List PageDeclaration) :
    (base.along trail).path = base.path ++ String.join (trail.map PageDeclaration.ownPath) := by
  induction trail generalizing base with
  | nil => exact String.append_empty.symm
  | cons declaration trail ih =>
      rw [List.map_cons, String.join_cons, ← String.append_assoc]
      exact ih (base.below declaration)

end Base

namespace Table

/-- The rows of a forest: those of the first tree, and then those of its siblings.  They are made
of the rows of the pages below the root of the tree, and of the row of that page itself. -/
inductive HasRows (placeholderPattern : String) : Base → List PageTree → List Row → Prop where
  | nil {base : Base} : HasRows placeholderPattern base [] []
  | own {base : Base} {declaration : PageDeclaration} {children siblings : List PageTree}
      {row : Row} {descendants others : List Row} (unmarked : declaration.index = none)
      (compiled : Row.compile? (base.below declaration).page (base.below declaration).path
        (base.below declaration).mappers placeholderPattern = some row)
      (below : HasRows placeholderPattern (base.below declaration) children descendants)
      (beside : HasRows placeholderPattern base siblings others) :
      HasRows placeholderPattern base (.page declaration children :: siblings)
        (row :: (descendants ++ others))
  | indexed {base : Base} {declaration : PageDeclaration} {children siblings : List PageTree}
      {index : String} {target : Row} {descendants others : List Row}
      (marked : declaration.index = some index)
      (found : descendants.find? (fun row =>
        row.page == (base.below declaration).page ++ pageSeparator ++ index) = some target)
      (below : HasRows placeholderPattern (base.below declaration) children descendants)
      (beside : HasRows placeholderPattern base siblings others) :
      HasRows placeholderPattern base (.page declaration children :: siblings)
        (descendants ++ target.aliased (base.below declaration).page :: others)

theorem hasRows_of_forestRows {placeholderPattern : String} {base : Base} {forest : List PageTree}
    {rows : List Row} (built : forestRows placeholderPattern base forest = .ok rows) :
    HasRows placeholderPattern base forest rows := by
  induction forest using PageTree.forestInduction generalizing base rows with
  | nil => cases built; exact .nil
  | cons declaration children siblings ihBelow ihBeside =>
      cases below : forestRows placeholderPattern (base.below declaration) children with
      | error error => simp only [forestRows, treeRows, below, reduceCtorEq] at built
      | ok descendants =>
      cases beside : forestRows placeholderPattern base siblings with
      | error error =>
          simp only [forestRows, treeRows, below, beside] at built
          split at built <;> cases built
      | ok others =>
      cases marked : declaration.index with
      | none =>
          simp only [forestRows, treeRows, below, beside, marked, pageRows] at built
          cases compiled : Row.compile? (base.below declaration).page (base.below declaration).path
              (base.below declaration).mappers placeholderPattern with
          | none => simp only [compiled, reduceCtorEq] at built
          | some row =>
              simp only [compiled] at built
              cases built
              exact .own marked compiled (ihBelow below) (ihBeside beside)
      | some index =>
          simp only [forestRows, treeRows, below, beside, marked, pageRows] at built
          cases found : descendants.find? fun row =>
              row.page == (base.below declaration).page ++ pageSeparator ++ index with
          | none => simp only [found, reduceCtorEq] at built
          | some target =>
              simp only [found, List.append_assoc, List.cons_append, List.nil_append] at built
              cases built
              exact .indexed marked found (ihBelow below) (ihBeside beside)

/-- The rows of a table are those of its forest. -/
theorem hasRows_of_compile {forest : List PageTree} {params : MapperTable}
    {placeholderPattern : String} {table : Table}
    (compiled : compile forest params placeholderPattern = .ok table) :
    HasRows placeholderPattern (.root params) forest table.rows := by
  rw [compile] at compiled
  cases built : forestRows placeholderPattern ⟨"", "", params⟩ forest with
  | error error => rw [built] at compiled; cases compiled
  | ok rows =>
      rw [built] at compiled
      cases compiled
      exact hasRows_of_forestRows built

variable {placeholderPattern : String} {base : Base} {forest : List PageTree} {rows : List Row}

/-- The patterns of all rows are those of their templates. -/
theorem HasRows.isCompiled (made : HasRows placeholderPattern base forest rows) :
    ∀ row ∈ rows, row.IsCompiled placeholderPattern := by
  induction made with
  | nil => exact fun row member => absurd member List.not_mem_nil
  | own unmarked compiled below beside ihBelow ihBeside =>
      intro row member
      rcases List.mem_cons.mp member with rfl | further
      · exact (Row.isCompiled_of_compile? compiled).1
      · exact (List.mem_append.mp further).elim (ihBelow row) (ihBeside row)
  | indexed marked found below beside ihBelow ihBeside =>
      intro row member
      rcases List.mem_append.mp member with inside | further
      · exact ihBelow row inside
      · rcases List.mem_cons.mp further with rfl | later
        · have original := ihBelow _ (List.mem_of_find?_eq_some found)
          exact original
        · exact ihBeside row later

/-- There is one row for each page. -/
theorem HasRows.perm_page (made : HasRows placeholderPattern base forest rows) :
    (rows.map Row.page).Perm
      ((PageTree.trailsForest forest).map fun trail => (base.along trail).page) := by
  induction made with
  | nil => exact .nil
  | @own base declaration children siblings row descendants others _ compiled _ _ ihBelow
      ihBeside =>
      rw [PageTree.trailsForest_cons, List.map_cons, List.map_cons, List.map_append,
        List.map_append, List.map_map, (Row.isCompiled_of_compile? compiled).2.1]
      exact (ihBelow.append ihBeside).cons _
  | @indexed base declaration children siblings index target descendants others _ _ _ _ ihBelow
      ihBeside =>
      rw [PageTree.trailsForest_cons, List.map_cons, List.map_append, List.map_cons,
        List.map_append, List.map_map]
      exact List.perm_middle.trans ((ihBelow.append ihBeside).cons _)

/-- How the row of a page stands among the rows: it is compiled from what the pages on the trail
contribute, or it is the row of another page that comes earlier. -/
inductive Stands (placeholderPattern : String) (rows : List Row) (here : Base) :
    Option String → Prop where
  | own {row : Row} (member : row ∈ rows)
      (compiled : Row.compile? here.page here.path here.mappers placeholderPattern = some row) :
      Stands placeholderPattern rows here none
  | indexed {index : String} {before after : List Row} {target : Row}
      (shape : rows = before ++ target.aliased here.page :: after) (earlier : target ∈ before)
      (named : target.page = here.page ++ pageSeparator ++ index) :
      Stands placeholderPattern rows here (some index)

/-- Rows before and after do not matter. -/
theorem Stands.among {here : Base} {index : Option String} {all : List Row}
    (stands : Stands placeholderPattern rows here index) (front back : List Row)
    (whole : all = front ++ rows ++ back) : Stands placeholderPattern all here index := by
  subst whole
  cases stands with
  | own member compiled =>
      exact .own (List.mem_append_left _ (List.mem_append_right _ member)) compiled
  | @indexed _ before after target shape earlier named =>
      have whole : front ++ rows ++ back =
          (front ++ before) ++ target.aliased here.page :: (after ++ back) := by
        simp only [shape, List.append_assoc, List.cons_append]
      exact .indexed whole (List.mem_append_right _ earlier) named

/-- The rows hold what their forest declares. -/
theorem HasRows.stands (made : HasRows placeholderPattern base forest rows)
    {trail : List PageDeclaration} (member : trail ∈ PageTree.trailsForest forest) :
    Stands placeholderPattern rows (base.along trail) (PageTree.trailIndex? trail) := by
  induction made generalizing trail with
  | nil => exact absurd member List.not_mem_nil
  | @own base declaration children siblings row descendants others unmarked compiled _ _ ihBelow
      ihBeside =>
      rcases PageTree.mem_trailsForest_cons.mp member with rfl | ⟨below, among, rfl⟩ | beside
      · rw [PageTree.trailIndex?_singleton, unmarked]
        exact .own List.mem_cons_self compiled
      · rw [PageTree.trailIndex?_cons (PageTree.ne_nil_of_mem_trailsForest among)]
        exact (ihBelow among).among [row] others rfl
      · exact (ihBeside beside).among (row :: descendants) [] (List.append_nil _).symm
  | @indexed base declaration children siblings index target descendants others marked found _ _
      ihBelow ihBeside =>
      rcases PageTree.mem_trailsForest_cons.mp member with rfl | ⟨below, among, rfl⟩ | beside
      · rw [PageTree.trailIndex?_singleton, marked]
        have named := List.find?_some found
        exact .indexed rfl (List.mem_of_find?_eq_some found) (eq_of_beq named)
      · rw [PageTree.trailIndex?_cons (PageTree.ne_nil_of_mem_trailsForest among)]
        exact (ihBelow among).among [] _ rfl
      · refine (ihBeside beside).among
          (descendants ++ [target.aliased (base.below declaration).page]) [] ?_
        rw [List.append_nil, List.append_assoc, List.singleton_append]

end Table
end PageRouting
