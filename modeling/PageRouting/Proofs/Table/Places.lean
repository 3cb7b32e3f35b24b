import Mathlib.Data.List.Nodup
import PageRouting.Proofs.Table.Trails

namespace PageRouting
namespace PageTree

/-!
# Places of pages

A page of a forest has a place, which tells in which tree to go down at each
level.  Pages that declare the same have different places, so that a page is
meant by its place also where names are not distinct.

Rows come in an order of their own.  A page without an index stands before the
pages below it, and a page with an index after them.  In this order the pages of
each subtree stand together, and siblings stand as they are declared.
-/

variable {declaration : PageDeclaration} {children siblings forest : List PageTree}
  {place : List Nat} {trail : List PageDeclaration}

/-! ## Places -/

/-- The trail to the page at a place, if there is one. -/
def trailAt? : List PageTree → List Nat → Option (List PageDeclaration)
  | _, [] => none
  | forest, [number] => forest[number]?.map fun tree => [tree.declaration]
  | forest, number :: next :: below =>
      forest[number]?.bind fun tree =>
        (trailAt? tree.children (next :: below)).map (tree.declaration :: ·)

/-- The same place in a forest with one more tree at its beginning. -/
def shifted (place : List Nat) : List Nat :=
  place.modifyHead (· + 1)

theorem shifted_injective : Function.Injective shifted := by
  rintro (_ | ⟨number, below⟩) (_ | ⟨other, further⟩) same
  · rfl
  · cases same
  · cases same
  · cases same
    rfl

theorem shifted_isPrefix_shifted {other : List Nat} :
    shifted place <+: shifted other ↔ place <+: other := by
  cases place with
  | nil => exact iff_of_true List.nil_prefix List.nil_prefix
  | cons number below =>
      cases other with
      | nil => exact iff_of_false (by rintro ⟨_, ⟨⟩⟩) (by rintro ⟨_, ⟨⟩⟩)
      | cons next further =>
          simp only [shifted, List.modifyHead_cons, List.cons_prefix_cons, Nat.add_right_cancel_iff]

theorem shifted_ne_cons_zero (place below : List Nat) : shifted place ≠ 0 :: below := by
  cases place <;> rintro ⟨⟩

theorem not_cons_zero_isPrefix_shifted {below : List Nat} : ¬0 :: below <+: shifted place :=
  fun ⟨_, same⟩ => shifted_ne_cons_zero _ _ same.symm

@[simp]
theorem trailAt?_nil (place : List Nat) : trailAt? [] place = none := by
  rcases place with _ | ⟨number, _ | ⟨next, below⟩⟩ <;> rfl

theorem trailAt?_shifted (tree : PageTree) (place : List Nat) :
    trailAt? (tree :: siblings) (shifted place) = trailAt? siblings place := by
  rcases place with _ | ⟨number, _ | ⟨next, below⟩⟩ <;> rfl

theorem trailAt?_cons_zero (nonempty : place ≠ []) :
    trailAt? (.page declaration children :: siblings) (0 :: place) =
      (trailAt? children place).map (declaration :: ·) := by
  cases place with
  | nil => exact absurd rfl nonempty
  | cons number below => rfl

theorem ne_nil_of_trailAt? (leads : trailAt? forest place = some trail) : place ≠ [] := by
  rintro rfl
  cases leads

/-- The pages of a forest are the root of its first tree, those below it, and those of the other
trees. -/
theorem trailAt?_cons :
    trailAt? (.page declaration children :: siblings) place = some trail ↔
      (place = [0] ∧ trail = [declaration]) ∨
        (∃ below rest, place = 0 :: below ∧ trail = declaration :: rest ∧
          trailAt? children below = some rest) ∨
        ∃ beside, place = shifted beside ∧ trailAt? siblings beside = some trail := by
  constructor
  · intro leads
    rcases place with _ | ⟨_ | number, below⟩
    · cases leads
    · by_cases whole : below = []
      · subst whole
        cases leads
        exact .inl ⟨rfl, rfl⟩
      · rw [trailAt?_cons_zero whole] at leads
        rcases Option.map_eq_some_iff.mp leads with ⟨rest, further, rfl⟩
        exact .inr (.inl ⟨below, rest, rfl, rfl, further⟩)
    · exact .inr (.inr ⟨number :: below, rfl, (trailAt?_shifted _ _).symm.trans leads⟩)
  · rintro (⟨rfl, rfl⟩ | ⟨below, rest, rfl, rfl, leads⟩ | ⟨beside, rfl, leads⟩)
    · rfl
    · rw [trailAt?_cons_zero (ne_nil_of_trailAt? leads), leads, Option.map_some]
    · exact (trailAt?_shifted _ _).trans leads

/-- The trails of a forest are those that lead to its places. -/
theorem exists_trailAt?_iff :
    (∃ place, trailAt? forest place = some trail) ↔ trail ∈ trailsForest forest := by
  induction forest using forestInduction generalizing trail with
  | nil => simp only [trailAt?_nil, reduceCtorEq, exists_false, trailsForest, List.not_mem_nil]
  | cons declaration children siblings ihBelow ihBeside =>
      rw [mem_trailsForest_cons]
      constructor
      · rintro ⟨place, leads⟩
        rcases trailAt?_cons.mp leads with ⟨_, rfl⟩ | ⟨below, rest, _, rfl, further⟩ |
          ⟨beside, _, later⟩
        · exact .inl rfl
        · exact .inr (.inl ⟨rest, ihBelow.mp ⟨below, further⟩, rfl⟩)
        · exact .inr (.inr (ihBeside.mp ⟨beside, later⟩))
      · rintro (rfl | ⟨rest, among, rfl⟩ | later)
        · exact ⟨[0], rfl⟩
        · rcases ihBelow.mpr among with ⟨below, further⟩
          exact ⟨0 :: below, trailAt?_cons.mpr (.inr (.inl ⟨below, rest, rfl, rfl, further⟩))⟩
        · rcases ihBeside.mpr later with ⟨beside, leads⟩
          exact ⟨shifted beside, (trailAt?_shifted _ _).trans leads⟩

/-! ## The order of rows -/

mutual

/-- The places in a tree, in the order of rows. -/
def rowPlaces : PageTree → List (List Nat)
  | .page declaration children =>
      match declaration.index with
      | none => [] :: rowPlacesForest children
      | some _ => rowPlacesForest children ++ [[]]

def rowPlacesForest : List PageTree → List (List Nat)
  | [] => []
  | tree :: trees => tree.rowPlaces.map (0 :: ·) ++ (rowPlacesForest trees).map shifted

end

theorem rowPlacesForest_cons_of_none (unmarked : declaration.index = none) :
    rowPlacesForest (.page declaration children :: siblings) =
      [0] :: ((rowPlacesForest children).map (0 :: ·) ++
        (rowPlacesForest siblings).map shifted) := by
  rw [rowPlacesForest, rowPlaces, unmarked, List.map_cons, List.cons_append]

theorem rowPlacesForest_cons_of_some {index : String} (marked : declaration.index = some index) :
    rowPlacesForest (.page declaration children :: siblings) =
      (rowPlacesForest children).map (0 :: ·) ++
        [0] :: (rowPlacesForest siblings).map shifted := by
  rw [rowPlacesForest, rowPlaces, marked, List.map_append, List.append_assoc, List.map_singleton,
    List.singleton_append]

theorem rowPlacesForest_cons_perm :
    (rowPlacesForest (.page declaration children :: siblings)).Perm
      ([0] :: ((rowPlacesForest children).map (0 :: ·) ++
        (rowPlacesForest siblings).map shifted)) := by
  cases marked : declaration.index with
  | none => rw [rowPlacesForest_cons_of_none marked]
  | some index =>
      rw [rowPlacesForest_cons_of_some marked]
      exact List.perm_middle

theorem mem_rowPlacesForest_cons :
    place ∈ rowPlacesForest (.page declaration children :: siblings) ↔
      place = [0] ∨ (∃ below ∈ rowPlacesForest children, place = 0 :: below) ∨
        ∃ beside ∈ rowPlacesForest siblings, place = shifted beside := by
  simp only [rowPlacesForest_cons_perm.mem_iff, List.mem_cons, List.mem_append, List.mem_map,
    eq_comm (a := place)]

/-- The order of rows is one of all places where there is a page. -/
theorem mem_rowPlacesForest :
    place ∈ rowPlacesForest forest ↔ ∃ trail, trailAt? forest place = some trail := by
  induction forest using forestInduction generalizing place with
  | nil => simp only [trailAt?_nil, reduceCtorEq, exists_false, rowPlacesForest, List.not_mem_nil]
  | cons declaration children siblings ihBelow ihBeside =>
      simp only [mem_rowPlacesForest_cons, trailAt?_cons, ihBelow, ihBeside]
      constructor
      · rintro (rfl | ⟨below, ⟨rest, further⟩, rfl⟩ | ⟨beside, ⟨trail, later⟩, rfl⟩)
        · exact ⟨_, .inl ⟨rfl, rfl⟩⟩
        · exact ⟨_, .inr (.inl ⟨below, rest, rfl, rfl, further⟩)⟩
        · exact ⟨trail, .inr (.inr ⟨beside, rfl, later⟩)⟩
      · rintro ⟨trail, ⟨rfl, _⟩ | ⟨below, rest, rfl, _, further⟩ | ⟨beside, rfl, later⟩⟩
        · exact .inl rfl
        · exact .inr (.inl ⟨below, ⟨rest, further⟩, rfl⟩)
        · exact .inr (.inr ⟨beside, ⟨trail, later⟩, rfl⟩)

theorem ne_nil_of_mem_rowPlacesForest (member : place ∈ rowPlacesForest forest) : place ≠ [] := by
  rcases mem_rowPlacesForest.mp member with ⟨_, leads⟩
  exact ne_nil_of_trailAt? leads

/-- Each place comes once. -/
theorem nodup_rowPlacesForest (forest : List PageTree) : (rowPlacesForest forest).Nodup := by
  induction forest using forestInduction with
  | nil => exact .nil
  | cons declaration children siblings ihBelow ihBeside =>
      refine rowPlacesForest_cons_perm.nodup_iff.mpr (List.nodup_cons.mpr
        ⟨?_, List.nodup_append.mpr ⟨ihBelow.map List.cons_injective,
          ihBeside.map shifted_injective, ?_⟩⟩)
      · intro member
        rcases List.mem_append.mp member with inside | later
        · rcases List.mem_map.mp inside with ⟨below, among, same⟩
          exact ne_nil_of_mem_rowPlacesForest among (List.cons.inj same).2
        · rcases List.mem_map.mp later with ⟨beside, _, same⟩
          exact shifted_ne_cons_zero _ _ same
      · rintro _ inside _ later rfl
        rcases List.mem_map.mp inside with ⟨below, _, rfl⟩
        rcases List.mem_map.mp later with ⟨beside, _, same⟩
        exact shifted_ne_cons_zero _ _ same

/-! ## Siblings -/

/-- Where two places part, the first goes into the tree declared earlier. -/
def InOrder (earlier later : List Nat) : Prop :=
  ∀ above one other left right, earlier = above ++ one :: left → later = above ++ other :: right →
    one ≤ other

theorem InOrder.cons {earlier later : List Nat} (ordered : InOrder earlier later) (number : Nat) :
    InOrder (number :: earlier) (number :: later) := by
  rintro (_ | ⟨first, above⟩) one other left right shape shape'
  · cases shape
    cases shape'
    exact Nat.le_refl _
  · cases shape
    exact ordered above one other left right rfl (List.cons.inj shape').2

theorem InOrder.shifted {earlier later : List Nat} (ordered : InOrder earlier later) :
    InOrder (shifted earlier) (shifted later) := by
  rcases earlier with _ | ⟨number, below⟩
  · rintro (_ | ⟨first, above⟩) one other left right ⟨⟩
  rcases later with _ | ⟨next, further⟩
  · rintro (_ | ⟨first, above⟩) one other left right _ ⟨⟩
  rintro (_ | ⟨first, above⟩) one other left right shape shape'
  · cases shape
    cases shape'
    exact Nat.succ_le_succ (ordered [] number next below further rfl rfl)
  · cases shape
    rcases List.cons.inj shape' with ⟨same, rest⟩
    cases Nat.succ.inj same
    exact ordered (number :: above) one other left right rfl (congrArg _ rest)

/-- The root of a tree is in order with the pages below it. -/
theorem inOrder_nil_left (later : List Nat) : InOrder [] later := by
  rintro (_ | ⟨first, above⟩) one other left right ⟨⟩

theorem inOrder_nil_right (earlier : List Nat) : InOrder earlier [] := by
  rintro (_ | ⟨first, above⟩) one other left right _ ⟨⟩

theorem inOrder_cons_zero_shifted (below beside : List Nat) :
    InOrder (0 :: below) (PageTree.shifted beside) := by
  rintro (_ | ⟨first, above⟩) one other left right shape shape'
  · cases shape
    exact Nat.zero_le other
  · cases shape
    exact absurd shape' (shifted_ne_cons_zero _ _)

/-- Siblings stand as they are declared, each with the pages below it. -/
theorem pairwise_inOrder_rowPlacesForest (forest : List PageTree) :
    (rowPlacesForest forest).Pairwise InOrder := by
  induction forest using forestInduction with
  | nil => exact .nil
  | cons declaration children siblings ihBelow ihBeside =>
      have below : (rowPlaces (.page declaration children)).Pairwise InOrder := by
        cases marked : declaration.index with
        | none =>
            rw [rowPlaces, marked]
            exact List.pairwise_cons.mpr ⟨fun later _ => inOrder_nil_left later, ihBelow⟩
        | some index =>
            rw [rowPlaces, marked]
            refine List.pairwise_append.mpr ⟨ihBelow, List.pairwise_singleton _ _, ?_⟩
            intro earlier _ later last
            exact List.mem_singleton.mp last ▸ inOrder_nil_right earlier
      rw [rowPlacesForest]
      refine List.pairwise_append.mpr
        ⟨below.map _ fun _ _ ordered => ordered.cons 0, ihBeside.map _ fun _ _ => .shifted, ?_⟩
      intro earlier inside later outside
      rcases List.mem_map.mp inside with ⟨below, _, rfl⟩
      rcases List.mem_map.mp outside with ⟨beside, _, rfl⟩
      exact inOrder_cons_zero_shifted below beside

/-! ## Subtrees -/

/-- The places in the subtree of a page stand together.  The page comes first if it has no index,
and last if it has one. -/
structure IsBlock (places : List (List Nat)) (place : List Nat) (index : Option String)
    (block : List (List Nat)) : Prop where
  stands : block <:+: places
  mem_iff : ∀ other, other ∈ block ↔ other ∈ places ∧ place <+: other
  first : index = none → block.head? = some place
  last : index ≠ none → block.getLast? = some place

namespace IsBlock

variable {places block : List (List Nat)} {index : Option String}

theorem map {image : List Nat → List Nat} (isBlock : IsBlock places place index block)
    (leads : ∀ other, image place <+: image other ↔ place <+: other) :
    IsBlock (places.map image) (image place) index (block.map image) where
  stands := isBlock.stands.map image
  mem_iff other := by
    simp only [List.mem_map, isBlock.mem_iff]
    constructor
    · rintro ⟨origin, ⟨among, inside⟩, rfl⟩
      exact ⟨⟨origin, among, rfl⟩, (leads origin).mpr inside⟩
    · rintro ⟨⟨origin, among, rfl⟩, inside⟩
      exact ⟨origin, ⟨among, (leads origin).mp inside⟩, rfl⟩
  first unmarked := by rw [List.head?_map, isBlock.first unmarked, Option.map_some]
  last marked := by rw [List.getLast?_map, isBlock.last marked, Option.map_some]

/-- Places outside of the subtree may come before and after. -/
theorem append (isBlock : IsBlock places place index block) {front back : List (List Nat)}
    (outside : ∀ other ∈ front ++ back, ¬place <+: other) :
    IsBlock (front ++ places ++ back) place index block where
  stands := isBlock.stands.trans ⟨front, back, rfl⟩
  mem_iff other := by
    have absent : place <+: other → other ∉ front ∧ other ∉ back := fun inside =>
      ⟨fun member => outside other (List.mem_append_left _ member) inside,
        fun member => outside other (List.mem_append_right _ member) inside⟩
    simp only [isBlock.mem_iff, List.mem_append]
    grind
  first := isBlock.first
  last := isBlock.last

/-- A whole tree is the subtree of its root. -/
theorem root (declaration : PageDeclaration) (children : List PageTree) :
    IsBlock (rowPlaces (.page declaration children)) [] declaration.index
      (rowPlaces (.page declaration children)) where
  stands := List.infix_refl _
  mem_iff _ := (and_iff_left List.nil_prefix).symm
  first unmarked := by rw [rowPlaces, unmarked, List.head?_cons]
  last marked := by
    rcases Option.ne_none_iff_exists'.mp marked with ⟨index, marked⟩
    rw [rowPlaces, marked]
    exact List.getLast?_concat

/-- The pages below a root stand together also among all pages of the tree. -/
theorem below_root (isBlock : IsBlock (rowPlacesForest children) place index block)
    (nonempty : place ≠ []) (declaration : PageDeclaration) :
    IsBlock (rowPlaces (.page declaration children)) place index block := by
  have outside : ¬place <+: [] := mt List.prefix_nil.mp nonempty
  rw [rowPlaces]
  cases declaration.index with
  | none =>
      have first := @append _ _ _ _ isBlock [[]] [] (by simpa using outside)
      rwa [List.append_nil] at first
  | some index => exact @append _ _ _ _ isBlock [] [[]] (by simpa using outside)

theorem first_tree {tree : PageTree} (isBlock : IsBlock tree.rowPlaces place index block)
    (siblings : List PageTree) :
    IsBlock (rowPlacesForest (tree :: siblings)) (0 :: place) index (block.map (0 :: ·)) := by
  have mapped : IsBlock (tree.rowPlaces.map (0 :: ·)) (0 :: place) index (block.map (0 :: ·)) :=
    isBlock.map fun _ => List.prefix_cons_inj 0
  rw [rowPlacesForest]
  refine @append _ _ _ _ mapped [] _ ?_
  intro other member
  rcases List.mem_map.mp member with ⟨beside, _, rfl⟩
  exact not_cons_zero_isPrefix_shifted

theorem later_tree (isBlock : IsBlock (rowPlacesForest siblings) place index block)
    (nonempty : place ≠ []) (tree : PageTree) :
    IsBlock (rowPlacesForest (tree :: siblings)) (shifted place) index (block.map shifted) := by
  have mapped : IsBlock ((rowPlacesForest siblings).map shifted) (shifted place) index
      (block.map shifted) :=
    isBlock.map fun _ => shifted_isPrefix_shifted
  have last := @append _ _ _ _ mapped (tree.rowPlaces.map (0 :: ·)) [] ?_
  · rwa [List.append_nil] at last
  · intro other member
    rw [List.append_nil] at member
    rcases List.mem_map.mp member with ⟨below, _, rfl⟩
    rcases List.exists_cons_of_ne_nil nonempty with ⟨number, rest, rfl⟩
    rintro ⟨_, ⟨⟩⟩

end IsBlock

/-- In the order of rows every subtree stands together. -/
theorem exists_isBlock (leads : trailAt? forest place = some trail) :
    ∃ block, IsBlock (rowPlacesForest forest) place (trailIndex? trail) block := by
  induction forest using forestInduction generalizing place trail with
  | nil => cases (trailAt?_nil place).symm.trans leads
  | cons declaration children siblings ihBelow ihBeside =>
      rcases trailAt?_cons.mp leads with ⟨rfl, rfl⟩ | ⟨below, rest, rfl, rfl, further⟩ |
        ⟨beside, rfl, later⟩
      · exact ⟨_, (IsBlock.root declaration children).first_tree siblings⟩
      · rcases ihBelow further with ⟨block, isBlock⟩
        have member := exists_trailAt?_iff.mp ⟨below, further⟩
        rw [trailIndex?_cons (ne_nil_of_mem_trailsForest member)]
        exact ⟨_, (isBlock.below_root (ne_nil_of_trailAt? further) declaration).first_tree
          siblings⟩
      · rcases ihBeside later with ⟨block, isBlock⟩
        exact ⟨_, isBlock.later_tree (ne_nil_of_trailAt? later) _⟩

end PageTree
end PageRouting
