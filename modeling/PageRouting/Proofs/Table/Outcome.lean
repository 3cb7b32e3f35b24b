import PageRouting.Proofs.Table.Compilation

namespace PageRouting

/-!
# How the compilation of a forest ends

A forest is compiled page by page, the pages below a page before the page itself
and siblings as they are declared.  A page gets a row if its template reads as a
pattern, or if its index makes the name of a page below it.  The first page in
this order for which this is not so ends the compilation with its error.
-/

namespace PageTree

/-! ## Pages after the pages below them -/

/-- A page that is compiled after the pages below it, given by its whole trail. -/
structure Visit where
  trail : List PageDeclaration
  children : List PageTree

mutual

/-- The pages of a tree, each after the pages below it.  The trail leads to the tree from above. -/
def postorder (above : List PageDeclaration) : PageTree → List Visit
  | .page declaration children =>
      postorderForest (above ++ [declaration]) children ++ [⟨above ++ [declaration], children⟩]

def postorderForest (above : List PageDeclaration) : List PageTree → List Visit
  | [] => []
  | tree :: trees => tree.postorder above ++ postorderForest above trees

end

theorem postorderForest_cons (above : List PageDeclaration) (declaration : PageDeclaration)
    (children siblings : List PageTree) :
    postorderForest above (.page declaration children :: siblings) =
      postorderForest (above ++ [declaration]) children ++
        ⟨above ++ [declaration], children⟩ :: postorderForest above siblings := by
  rw [postorderForest, postorder, List.append_assoc, List.singleton_append]

/-- Each page of the forest is visited once. -/
theorem perm_map_trail_postorderForest (above : List PageDeclaration) (forest : List PageTree) :
    ((postorderForest above forest).map Visit.trail).Perm
      ((trailsForest forest).map (above ++ ·)) := by
  induction forest using forestInduction generalizing above with
  | nil => exact .nil
  | cons declaration children siblings ihBelow ihBeside =>
      have below : (trailsForest children).map (above ++ [declaration] ++ ·) =
          ((trailsForest children).map (declaration :: ·)).map (above ++ ·) := by
        simp only [List.map_map, Function.comp_def, List.append_assoc, List.singleton_append]
      rw [postorderForest_cons, trailsForest_cons, List.map_append, List.map_cons, List.map_cons,
        List.map_append, ← below]
      exact List.perm_middle.trans (((ihBelow _).append (ihBeside above)).cons _)

/-- What lies below a visited page lies below its trail. -/
theorem exists_trail_of_mem_postorderForest {above : List PageDeclaration} {forest : List PageTree}
    {visit : Visit} (member : visit ∈ postorderForest above forest) :
    ∃ trail ∈ trailsForest forest, visit.trail = above ++ trail ∧
      ∀ below ∈ trailsForest visit.children, trail ++ below ∈ trailsForest forest := by
  induction forest using forestInduction generalizing above with
  | nil => exact absurd member List.not_mem_nil
  | cons declaration children siblings ihBelow ihBeside =>
      rw [postorderForest_cons] at member
      rcases List.mem_append.mp member with inside | further
      · rcases ihBelow inside with ⟨trail, leads, named, down⟩
        refine ⟨declaration :: trail, mem_trailsForest_cons.mpr (.inr (.inl ⟨trail, leads, rfl⟩)),
          by rw [named, List.append_assoc, List.singleton_append], fun below among => ?_⟩
        exact mem_trailsForest_cons.mpr (.inr (.inl ⟨trail ++ below, down below among, rfl⟩))
      · rcases List.mem_cons.mp further with rfl | beside
        · refine ⟨[declaration], mem_trailsForest_cons.mpr (.inl rfl), rfl, fun below among => ?_⟩
          exact mem_trailsForest_cons.mpr (.inr (.inl ⟨below, among, rfl⟩))
        · rcases ihBeside beside with ⟨trail, leads, named, down⟩
          refine ⟨trail, mem_trailsForest_cons.mpr (.inr (.inr leads)), named,
            fun below among => ?_⟩
          exact mem_trailsForest_cons.mpr (.inr (.inr (down below among)))

theorem mem_trailsForest_of_mem_postorderForest {forest : List PageTree} {visit : Visit}
    (member : visit ∈ postorderForest [] forest) :
    visit.trail ∈ trailsForest forest ∧
      ∀ below ∈ trailsForest visit.children, visit.trail ++ below ∈ trailsForest forest := by
  rcases exists_trail_of_mem_postorderForest member with ⟨trail, leads, named, down⟩
  rw [List.nil_append] at named
  exact named ▸ ⟨leads, down⟩

/-! ## Pages that get a row -/

/-- The index of the page, if it has one, makes the name of one of the pages below. -/
def Visit.FindsIndex (root : Base) (visit : Visit) : Prop :=
  ∀ index ∈ trailIndex? visit.trail, ∃ below ∈ trailsForest visit.children,
    (root.along (visit.trail ++ below)).page =
      (root.along visit.trail).page ++ pageSeparator ++ index

instance (root : Base) (visit : Visit) : Decidable (visit.FindsIndex root) :=
  inferInstanceAs (Decidable (∀ index ∈ trailIndex? visit.trail, ∃ below ∈ _, _ = _))

/-- The page has an index, or its template reads as a pattern. -/
def Visit.HasPattern (placeholderPattern : String) (root : Base) (visit : Visit) : Prop :=
  trailIndex? visit.trail = none →
    (Pattern.ofChars?
      (Template.source placeholderPattern (root.along visit.trail).path)).isSome = true

/-- The page gets a row. -/
def Visit.Compiles (placeholderPattern : String) (root : Base) (visit : Visit) : Prop :=
  visit.FindsIndex root ∧ visit.HasPattern placeholderPattern root

/-- The error of a page that gets no row. -/
def Visit.error (root : Base) (visit : Visit) : TableError :=
  match trailIndex? visit.trail with
  | none => .invalidPattern (root.along visit.trail).path (root.along visit.trail).page
  | some index => .unknownIndex index (root.along visit.trail).page

end PageTree

namespace Table

open PageTree

/-- What compiling the visited pages gives: rows if each page gets one, and else the error of the
first page that gets none. -/
inductive IsCompilation (placeholderPattern : String) (root : Base) (visits : List Visit) :
    Except TableError (List Row) → Prop where
  | rows {rows : List Row} (compile : ∀ visit ∈ visits, visit.Compiles placeholderPattern root) :
      IsCompilation placeholderPattern root visits (.ok rows)
  | stops {before after : List Visit} {visit : Visit} (split : visits = before ++ visit :: after)
      (compile : ∀ earlier ∈ before, earlier.Compiles placeholderPattern root)
      (fails : ¬visit.Compiles placeholderPattern root) :
      IsCompilation placeholderPattern root visits (.error (visit.error root))

variable {placeholderPattern : String} {root base : Base} {visits more : List Visit}
  {result : Except TableError (List Row)}

/-- Pages that come later do not change an error, and are looked at if there is none. -/
theorem IsCompilation.bind (first : IsCompilation placeholderPattern root visits result)
    {next : List Row → Except TableError (List Row)}
    (second : ∀ rows, result = .ok rows → IsCompilation placeholderPattern root more (next rows)) :
    IsCompilation placeholderPattern root (visits ++ more) (result.bind next) := by
  cases first with
  | stops split compile fails =>
      subst split
      exact .stops (List.append_assoc ..) compile fails
  | @rows rows compiled =>
      have both : ∀ {later : List Visit},
          (∀ visit ∈ later, visit.Compiles placeholderPattern root) →
            ∀ visit ∈ visits ++ later, visit.Compiles placeholderPattern root :=
        fun compile visit member =>
          (List.mem_append.mp member).elim (compiled visit) (compile visit)
      have later := second rows rfl
      change IsCompilation _ _ _ (next rows)
      generalize next rows = outcome at later
      cases later with
      | rows compile => exact .rows (both compile)
      | stops split compile fails =>
          subst split
          exact .stops (List.append_assoc ..).symm (both compile) fails

/-- Only whether there are rows matters, and not which. -/
theorem IsCompilation.map (outcome : IsCompilation placeholderPattern root visits result)
    (change : List Row → List Row) :
    IsCompilation placeholderPattern root visits (result.map change) := by
  cases outcome with
  | rows compile => exact .rows compile
  | stops split compile fails => exact .stops split compile fails

/-- Among the rows of the pages below a page there is one that an index names exactly if one of
these pages has the name. -/
theorem find?_isSome_iff {trail : List PageDeclaration} {children : List PageTree}
    {descendants : List Row}
    (made : HasRows placeholderPattern (root.along trail) children descendants) (name : String) :
    (descendants.find? fun row => row.page == name).isSome = true ↔
      ∃ below ∈ trailsForest children, (root.along (trail ++ below)).page = name := by
  rw [List.find?_isSome]
  simp only [beq_iff_eq]
  rw [← List.mem_map, made.perm_page.mem_iff, List.mem_map]
  simp only [Base.along, List.foldl_append]

theorem IsCompilation.row {visit : Visit} {rows : List Row}
    (compiles : visit.Compiles placeholderPattern root) :
    IsCompilation placeholderPattern root [visit] (.ok rows) :=
  .rows fun _ member => List.mem_singleton.mp member ▸ compiles

theorem IsCompilation.error {visit : Visit} {error : TableError}
    (fails : ¬visit.Compiles placeholderPattern root) (same : visit.error root = error) :
    IsCompilation placeholderPattern root [visit] (.error error) :=
  have split : [visit] = [] ++ visit :: [] := rfl
  same ▸ .stops split (fun _ none => absurd none List.not_mem_nil) fails

/-- A page gets a row from its template, or from the page its index names. -/
theorem isCompilation_pageRows {trail : List PageDeclaration} {children : List PageTree}
    {descendants : List Row}
    (made : HasRows placeholderPattern (root.along trail) children descendants) :
    IsCompilation placeholderPattern root [⟨trail, children⟩]
      (pageRows placeholderPattern (root.along trail) (trailIndex? trail) descendants) := by
  cases marked : trailIndex? trail with
  | none =>
      have iff : Visit.Compiles placeholderPattern root ⟨trail, children⟩ ↔
          (Row.compile? (root.along trail).page (root.along trail).path (root.along trail).mappers
            placeholderPattern).isSome = true := by
        rw [Row.compile?, Option.isSome_map]
        constructor
        · exact fun compiles => compiles.2 marked
        · refine fun read => ⟨fun index found => ?_, fun _ => read⟩
          cases marked.symm.trans found
      cases compiled : Row.compile? (root.along trail).page (root.along trail).path
          (root.along trail).mappers placeholderPattern with
      | some row =>
          simp only [pageRows, compiled]
          exact .row (iff.mpr (Option.isSome_of_eq_some compiled))
      | none =>
          simp only [pageRows, compiled]
          rw [compiled] at iff
          exact .error (fun compiles => Bool.false_ne_true (iff.mp compiles))
            (by simp only [Visit.error, marked])
  | some index =>
      have iff : Visit.Compiles placeholderPattern root ⟨trail, children⟩ ↔
          (descendants.find? fun row =>
            row.page == (root.along trail).page ++ pageSeparator ++ index).isSome = true := by
        rw [find?_isSome_iff made]
        constructor
        · exact fun compiles => compiles.1 index marked
        · refine fun found => ⟨fun other same => ?_, fun unmarked => ?_⟩
          · cases marked.symm.trans same
            exact found
          · cases marked.symm.trans unmarked
      cases found : descendants.find? fun row =>
          row.page == (root.along trail).page ++ pageSeparator ++ index with
      | some target =>
          simp only [pageRows, found]
          exact .row (iff.mpr (Option.isSome_of_eq_some found))
      | none =>
          simp only [pageRows, found]
          rw [found] at iff
          exact .error (fun compiles => Bool.false_ne_true (iff.mp compiles))
            (by simp only [Visit.error, marked])

theorem treeRows_eq_bind (placeholderPattern : String) (base : Base)
    (declaration : PageDeclaration) (children : List PageTree) :
    treeRows placeholderPattern base (.page declaration children) =
      (forestRows placeholderPattern (base.below declaration) children).bind
        (pageRows placeholderPattern (base.below declaration) declaration.index) := by
  rw [treeRows]
  cases forestRows placeholderPattern (base.below declaration) children <;> rfl

theorem forestRows_eq_bind (placeholderPattern : String) (base : Base) (tree : PageTree)
    (trees : List PageTree) :
    forestRows placeholderPattern base (tree :: trees) =
      (treeRows placeholderPattern base tree).bind fun rows =>
        (forestRows placeholderPattern base trees).map (rows ++ ·) := by
  rw [forestRows]
  cases treeRows placeholderPattern base tree with
  | error error => rfl
  | ok rows => cases forestRows placeholderPattern base trees <;> rfl

/-- A forest has rows if all its pages get one, and else the error of the first page that gets
none. -/
theorem isCompilation_forestRows (above : List PageDeclaration) (forest : List PageTree) :
    IsCompilation placeholderPattern root (postorderForest above forest)
      (forestRows placeholderPattern (root.along above) forest) := by
  induction forest using forestInduction generalizing above with
  | nil => exact .rows fun visit none => absurd none List.not_mem_nil
  | cons declaration children siblings ihBelow ihBeside =>
      have index : trailIndex? (above ++ [declaration]) = declaration.index := by
        rw [trailIndex?, List.getLast?_concat, Option.bind_some]
      have base : (root.along above).below declaration = root.along (above ++ [declaration]) := by
        rw [Base.along, Base.along, List.foldl_append]
        rfl
      have tree : IsCompilation placeholderPattern root
          (postorder above (.page declaration children))
          (treeRows placeholderPattern (root.along above) (.page declaration children)) := by
        rw [postorder, treeRows_eq_bind, ← index, base]
        refine (ihBelow _).bind fun descendants descended => ?_
        exact isCompilation_pageRows (hasRows_of_forestRows descended)
      rw [postorderForest, forestRows_eq_bind]
      exact tree.bind fun rows _ => (ihBeside above).map (rows ++ ·)

end Table
end PageRouting
