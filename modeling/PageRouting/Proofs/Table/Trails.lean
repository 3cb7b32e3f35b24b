import Mathlib.Data.List.Nodup
import PageRouting.Proofs.Text.Split
import PageRouting.Table

namespace PageRouting
namespace PageTree

/-!
# Pages of a forest

A page of a forest is given by its trail, which leads from the root of its tree
down to the page.  In a well named forest no segment is empty or holds the
separator, and siblings have different segments.  Then the segments of a trail
determine the page, and they can be read off its name.
-/

/-! ## Trails -/

mutual

/-- The trails of the pages of a tree, in preorder. -/
def trails : PageTree → List (List PageDeclaration)
  | .page declaration children =>
      [declaration] :: (trailsForest children).map fun below => declaration :: below

def trailsForest : List PageTree → List (List PageDeclaration)
  | [] => []
  | tree :: trees => tree.trails ++ trailsForest trees

end

variable {declaration : PageDeclaration} {children siblings forest : List PageTree}
  {trail : List PageDeclaration}

theorem trailsForest_cons (declaration : PageDeclaration) (children siblings : List PageTree) :
    trailsForest (.page declaration children :: siblings) =
      [declaration] :: ((trailsForest children).map (declaration :: ·) ++
        trailsForest siblings) := by
  rw [trailsForest, trails, List.cons_append]

theorem mem_trailsForest_cons :
    trail ∈ trailsForest (.page declaration children :: siblings) ↔
      trail = [declaration] ∨ (∃ below ∈ trailsForest children, trail = declaration :: below) ∨
        trail ∈ trailsForest siblings := by
  simp only [trailsForest_cons, List.mem_cons, List.mem_append, List.mem_map, eq_comm (a := trail)]

/-- A trail starts with the root of a tree. -/
theorem exists_eq_cons_of_mem_trailsForest (member : trail ∈ trailsForest forest) :
    ∃ tree ∈ forest, ∃ below, trail = tree.declaration :: below := by
  induction forest using forestInduction with
  | nil => exact absurd member List.not_mem_nil
  | cons declaration children siblings _ ih =>
      rcases mem_trailsForest_cons.mp member with here | ⟨below, _, further⟩ | beside
      · exact ⟨_, List.mem_cons_self, [], here⟩
      · exact ⟨_, List.mem_cons_self, below, further⟩
      · rcases ih beside with ⟨tree, among, below, shape⟩
        exact ⟨tree, List.mem_cons_of_mem _ among, below, shape⟩

theorem ne_nil_of_mem_trailsForest (member : trail ∈ trailsForest forest) : trail ≠ [] := by
  rcases exists_eq_cons_of_mem_trailsForest member with ⟨tree, _, below, rfl⟩
  exact List.cons_ne_nil _ _

/-- The pages above a page are pages of the forest. -/
theorem mem_trailsForest_of_isPrefix {above : List PageDeclaration}
    (member : trail ∈ trailsForest forest) (leads : above <+: trail) (nonempty : above ≠ []) :
    above ∈ trailsForest forest := by
  induction forest using forestInduction generalizing trail above with
  | nil => exact absurd member List.not_mem_nil
  | cons declaration children siblings ihBelow ihBeside =>
      apply mem_trailsForest_cons.mpr
      rcases mem_trailsForest_cons.mp member with rfl | ⟨below, among, rfl⟩ | beside
      · rcases List.prefix_cons_iff.mp leads with none | ⟨rest, shape, inside⟩
        · exact absurd none nonempty
        · exact .inl (shape.trans (congrArg _ (List.prefix_nil.mp inside)))
      · rcases List.prefix_cons_iff.mp leads with none | ⟨rest, shape, inside⟩
        · exact absurd none nonempty
        · by_cases whole : rest = []
          · exact .inl (whole ▸ shape)
          · exact .inr (.inl ⟨rest, ihBelow among inside whole, shape⟩)
      · exact .inr (.inr (ihBeside beside leads nonempty))

/-! ## Names -/

mutual

/-- Whether no segment of a tree is empty or holds the separator, and siblings have different
segments. -/
def isWellNamed : PageTree → Bool
  | .page declaration children => declaration.hasValidSegment && isWellNamedForest children

def isWellNamedForest : List PageTree → Bool
  | [] => true
  | tree :: trees =>
      tree.isWellNamed && isWellNamedForest trees &&
        trees.all fun sibling => sibling.declaration.segment != tree.declaration.segment

end

theorem isWellNamedForest_cons :
    isWellNamedForest (.page declaration children :: siblings) = true ↔
      declaration.hasValidSegment = true ∧ isWellNamedForest children = true ∧
        isWellNamedForest siblings = true ∧
        ∀ sibling ∈ siblings, sibling.declaration.segment ≠ declaration.segment := by
  simp only [isWellNamedForest, isWellNamed, PageTree.declaration, Bool.and_eq_true,
    List.all_eq_true, bne_iff_ne, and_assoc]

theorem hasValidSegment_of_mem (named : isWellNamedForest forest = true)
    (member : trail ∈ trailsForest forest) :
    ∀ declaration ∈ trail, declaration.hasValidSegment = true := by
  induction forest using forestInduction generalizing trail with
  | nil => exact absurd member List.not_mem_nil
  | cons declaration children siblings ihBelow ihBeside =>
      rcases isWellNamedForest_cons.mp named with ⟨valid, below, beside, _⟩
      rcases mem_trailsForest_cons.mp member with rfl | ⟨further, among, rfl⟩ | later
      · exact fun other here => List.mem_singleton.mp here ▸ valid
      · intro other inside
        rcases List.mem_cons.mp inside with rfl | deeper
        · exact valid
        · exact ihBelow below among other deeper
      · exact ihBeside beside later

/-- No two pages have the same segments on their trails. -/
theorem nodup_segments (named : isWellNamedForest forest = true) :
    ((trailsForest forest).map (List.map PageDeclaration.segment)).Nodup := by
  induction forest using forestInduction with
  | nil => exact .nil
  | cons declaration children siblings ihBelow ihBeside =>
      rcases isWellNamedForest_cons.mp named with ⟨_, below, beside, distinct⟩
      -- a trail to a sibling or further down from it differs in its first segment
      have apart : ∀ rest, declaration.segment :: rest ∉
          (trailsForest siblings).map (List.map PageDeclaration.segment) := by
        intro rest member
        rcases List.mem_map.mp member with ⟨trail, among, same⟩
        rcases exists_eq_cons_of_mem_trailsForest among with ⟨tree, sibling, further, rfl⟩
        exact distinct tree sibling (List.cons.inj same).1
      have deeper : ((trailsForest children).map (declaration :: ·)).map
            (List.map PageDeclaration.segment) =
          ((trailsForest children).map (List.map PageDeclaration.segment)).map
            (declaration.segment :: ·) := by
        simp only [List.map_map, Function.comp_def, List.map_cons]
      rw [trailsForest_cons, List.map_cons, List.map_append, deeper]
      refine List.nodup_cons.mpr ⟨?_, List.nodup_append.mpr
        ⟨(ihBelow below).map (List.cons_injective), ihBeside beside, ?_⟩⟩
      · intro member
        rcases List.mem_append.mp member with inside | later
        · rcases List.mem_map.mp inside with ⟨segments, among, same⟩
          rcases List.mem_map.mp among with ⟨trail, isTrail, rfl⟩
          exact ne_nil_of_mem_trailsForest isTrail
            (List.map_eq_nil_iff.mp (List.cons.inj same).2)
        · exact apart [] later
      · rintro _ inside _ later rfl
        rcases List.mem_map.mp inside with ⟨segments, _, rfl⟩
        exact apart segments later

/-- The name of a page: the segments of its trail, joined by the separator. -/
def trailName (trail : List PageDeclaration) : String :=
  String.ofList (Text.joinWith '.' (trail.map fun declaration => declaration.segment.toList))

/-- Only the empty trail has an empty name. -/
theorem isEmpty_trailName_cons (valid : declaration.hasValidSegment = true)
    (below : List PageDeclaration) : (trailName (declaration :: below)).isEmpty = false := by
  have segment := (Bool.and_eq_true_iff.mp valid).1
  rw [Bool.not_eq_true'] at segment
  apply Bool.eq_false_iff.mpr
  intro empty
  have text := congrArg String.toList (String.isEmpty_iff.mp empty)
  rw [trailName, String.toList_ofList, List.map_cons] at text
  have none : declaration.segment.toList = [] := by
    cases below with
    | nil => exact text
    | cons next rest => exact (List.append_eq_nil_iff.mp text).1
  rw [String.toList_eq_nil_iff.mp none] at segment
  exact absurd segment (by decide)

theorem trailName_concat (nonempty : trail ≠ []) (declaration : PageDeclaration) :
    trailName trail ++ pageSeparator ++ declaration.segment =
      trailName (trail ++ [declaration]) := by
  apply String.toList_inj.mp
  rw [trailName, trailName, List.map_append, List.map_singleton,
    Text.joinWith_concat _ (mt List.map_eq_nil_iff.mp nonempty), String.toList_append,
    String.toList_append, String.toList_ofList, String.toList_ofList, List.append_assoc]
  rfl

theorem separator_not_mem (valid : ∀ declaration ∈ trail, declaration.hasValidSegment = true) :
    ∀ piece ∈ trail.map fun declaration => declaration.segment.toList, '.' ∉ piece := by
  intro piece member
  rcases List.mem_map.mp member with ⟨declaration, among, rfl⟩
  have here := (Bool.and_eq_true_iff.mp (valid declaration among)).2
  rwa [Bool.not_eq_true', List.contains_eq_mem, decide_eq_false_iff_not] at here

/-- The segments of a trail are read off the name. -/
theorem splitOn_trailName (nonempty : trail ≠ [])
    (valid : ∀ declaration ∈ trail, declaration.hasValidSegment = true) :
    Text.splitOn '.' (trailName trail).toList =
      trail.map fun declaration => declaration.segment.toList := by
  rw [trailName, String.toList_ofList]
  exact Text.splitOn_joinWith (mt List.map_eq_nil_iff.mp nonempty) (separator_not_mem valid)

theorem splitOn_trailName_append (nonempty : trail ≠ [])
    (valid : ∀ declaration ∈ trail, declaration.hasValidSegment = true) (index : String) :
    Text.splitOn '.' (trailName trail ++ pageSeparator ++ index).toList =
      (trail.map fun declaration => declaration.segment.toList) ++
        Text.splitOn '.' index.toList := by
  have text : (trailName trail ++ pageSeparator ++ index).toList =
      Text.joinWith '.' (trail.map fun declaration => declaration.segment.toList) ++
        '.' :: index.toList := by
    rw [String.toList_append, String.toList_append, List.append_assoc, trailName,
      String.toList_ofList]
    rfl
  rw [text, Text.splitOn_joinWith_append_cons (mt List.map_eq_nil_iff.mp nonempty)
    (separator_not_mem valid)]

/-- An index behind the name of a page gives the name of a page further down if its parts are the
segments on the way there. -/
theorem trailName_append_eq_iff {below : List PageDeclaration} (nonempty : trail ≠ [])
    (valid : ∀ declaration ∈ trail ++ below, declaration.hasValidSegment = true) (index : String) :
    trailName (trail ++ below) = trailName trail ++ pageSeparator ++ index ↔
      Text.splitOn '.' index.toList = below.map fun declaration => declaration.segment.toList := by
  have whole : Text.splitOn '.' (trailName (trail ++ below)).toList =
      (trail.map fun declaration => declaration.segment.toList) ++
        below.map fun declaration => declaration.segment.toList := by
    rw [splitOn_trailName (fun none => nonempty (List.append_eq_nil_iff.mp none).1) valid,
      List.map_append]
  have parts := splitOn_trailName_append nonempty
    (fun declaration member => valid declaration (List.mem_append_left _ member)) index
  constructor
  · intro same
    rw [same, parts] at whole
    exact List.append_cancel_left whole
  · intro same
    apply String.toList_inj.mp
    rw [← Text.joinWith_splitOn '.' (trailName (trail ++ below)).toList, whole, ← same, ← parts,
      Text.joinWith_splitOn]

/-- In a well named forest a page is determined by the segments of its trail. -/
theorem eq_of_map_segment_eq (named : isWellNamedForest forest = true)
    {other : List PageDeclaration} (member : trail ∈ trailsForest forest)
    (otherMember : other ∈ trailsForest forest)
    (same : trail.map (fun declaration => declaration.segment.toList) =
      other.map fun declaration => declaration.segment.toList) : trail = other := by
  apply List.inj_on_of_nodup_map (nodup_segments named) member otherMember
  apply List.map_injective_iff.mpr fun _ _ => String.toList_inj.mp
  simpa only [List.map_map, Function.comp_def] using same

/-- In a well named forest a page is determined by its name. -/
theorem eq_of_trailName_eq (named : isWellNamedForest forest = true) {other : List PageDeclaration}
    (member : trail ∈ trailsForest forest) (otherMember : other ∈ trailsForest forest)
    (same : trailName trail = trailName other) : trail = other := by
  have pieces := splitOn_trailName (ne_nil_of_mem_trailsForest member)
    (hasValidSegment_of_mem named member)
  rw [same, splitOn_trailName (ne_nil_of_mem_trailsForest otherMember)
    (hasValidSegment_of_mem named otherMember)] at pieces
  exact eq_of_map_segment_eq named member otherMember pieces.symm

/-- The names of a well named forest are distinct. -/
theorem nodup_trailName (named : isWellNamedForest forest = true) :
    ((trailsForest forest).map trailName).Nodup :=
  (nodup_segments named).of_map.map_on fun _ member _ otherMember same =>
    eq_of_trailName_eq named member otherMember same

/-! ## Indices -/

/-- The index of the page that a trail leads to. -/
def trailIndex? (trail : List PageDeclaration) : Option String :=
  trail.getLast?.bind PageDeclaration.index

theorem trailIndex?_singleton (declaration : PageDeclaration) :
    trailIndex? [declaration] = declaration.index := rfl

theorem trailIndex?_cons (nonempty : trail ≠ []) :
    trailIndex? (declaration :: trail) = trailIndex? trail := by
  rw [trailIndex?, List.getLast?_cons_of_ne_nil nonempty, trailIndex?]

theorem trailIndex?_concat (trail : List PageDeclaration) (declaration : PageDeclaration) :
    trailIndex? (trail ++ [declaration]) = declaration.index := by
  rw [trailIndex?, List.getLast?_concat, Option.bind_some]

/-- The index of the page at the end of the first trail names the page at the end of the
second. -/
def RedirectsTo (forest : List PageTree) (trail target : List PageDeclaration) : Prop :=
  trail ∈ trailsForest forest ∧ target ∈ trailsForest forest ∧
    ∃ index, trailIndex? trail = some index ∧
      trailName target = trailName trail ++ pageSeparator ++ index

/-- An index names one page at most. -/
theorem RedirectsTo.unique (named : isWellNamedForest forest = true)
    {target other : List PageDeclaration} (redirects : RedirectsTo forest trail target)
    (again : RedirectsTo forest trail other) : target = other := by
  rcases redirects with ⟨_, member, index, marked, name⟩
  rcases again with ⟨_, otherMember, otherIndex, otherMarked, otherName⟩
  cases marked.symm.trans otherMarked
  exact eq_of_trailName_eq named member otherMember (name.trans otherName.symm)

/-- An index names a page further down. -/
theorem RedirectsTo.descends (named : isWellNamedForest forest = true)
    {target : List PageDeclaration} (redirects : RedirectsTo forest trail target) :
    trail <+: target ∧ trail.length < target.length := by
  rcases redirects with ⟨member, targetMember, index, _, name⟩
  have nonempty := ne_nil_of_mem_trailsForest member
  have pieces := splitOn_trailName (ne_nil_of_mem_trailsForest targetMember)
    (hasValidSegment_of_mem named targetMember)
  rw [name, splitOn_trailName_append nonempty (hasValidSegment_of_mem named member)] at pieces
  have longer : trail.length < target.length := by
    have lengths := congrArg List.length pieces
    rw [List.length_append, List.length_map, List.length_map] at lengths
    have further := List.length_pos_iff.mpr (Text.splitOn_ne_nil '.' index.toList)
    omega
  -- the page of the forest that lies on the way to the target has the segments of the first page
  have above : target.take trail.length ∈ trailsForest forest := by
    apply mem_trailsForest_of_isPrefix targetMember (List.take_prefix _ _)
    intro none
    have lengths := congrArg List.length none
    rw [List.length_take, Nat.min_eq_left (Nat.le_of_lt longer)] at lengths
    exact nonempty (List.eq_nil_of_length_eq_zero lengths)
  have same : target.take trail.length = trail := by
    apply eq_of_map_segment_eq named above member
    rw [List.map_take, ← pieces]
    exact List.take_left' (List.length_map _)
  exact ⟨same ▸ List.take_prefix _ _, longer⟩

end PageTree
end PageRouting
