import PageRouting.Proofs.Pattern.Blocks

namespace PageRouting
namespace Pattern
namespace Node

/-!
# What the normal form keeps

Putting parts together changes their nesting and joins texts, but neither the
program of a sequence nor the groups in it.  A choice may lose groups when its
branches turn out to be characters, and branches may share what they begin with;
no group is ever added.
-/

/-! ## Sequences -/

theorem flatMap_program_parts (node : Node) : node.parts.flatMap program = node.program := by
  induction node with
  | sequence first second _ secondIh =>
      rw [parts, List.flatMap_cons, secondIh, program]
  | _ => simp [parts, program]

theorem flatMap_program_joinLiterals (nodes : List Node) :
    (joinLiterals nodes).flatMap program = nodes.flatMap program := by
  induction nodes with
  | nil => rfl
  | cons node nodes ih =>
      rw [List.flatMap_cons, ← ih]
      cases node with
      | literal text =>
          rw [joinLiterals]
          split
          · next next others joined =>
              rw [joined, List.flatMap_cons, List.flatMap_cons, ← List.append_assoc]
              simp only [program, List.map_append]
          · rfl
      | _ => rfl

theorem sequenceOf_cons_cons (first second : Node) (nodes : List Node) :
    sequenceOf (first :: second :: nodes) = .sequence first (sequenceOf (second :: nodes)) := rfl

theorem program_sequenceOf (nodes : List Node) :
    (sequenceOf nodes).program = nodes.flatMap program := by
  induction nodes with
  | nil => rfl
  | cons node nodes ih =>
      cases nodes with
      | nil => simp [sequenceOf]
      | cons next nodes => rw [sequenceOf_cons_cons, program, ih, ← List.flatMap_cons]

/-- The program of parts put together is their programs one after the other. -/
theorem program_concat (nodes : List Node) : (concat nodes).program = nodes.flatMap program := by
  rw [concat, program_sequenceOf, flatMap_program_joinLiterals, List.flatMap_assoc]
  simp only [flatMap_program_parts]

theorem joinLiterals_ne_nil {nodes : List Node} (some : nodes ≠ []) : joinLiterals nodes ≠ [] := by
  cases nodes with
  | nil => exact absurd rfl some
  | cons node nodes =>
      cases node with
      | literal text =>
          rw [joinLiterals]
          split <;> exact List.cons_ne_nil _ _
      | _ => exact List.cons_ne_nil _ _

/-- A condition with parts after it is a sequence, and so the only branch of the
whole. -/
theorem alternation_concat_assertion (condition : Assertion) {nodes : List Node}
    (some : nodes.flatMap parts ≠ []) :
    alternation [concat (.assertion condition :: nodes)] =
      concat (.assertion condition :: nodes) := by
  have joined : joinLiterals ((Node.assertion condition :: nodes).flatMap parts) =
      .assertion condition :: joinLiterals (nodes.flatMap parts) := rfl
  rcases List.exists_cons_of_ne_nil (joinLiterals_ne_nil some) with ⟨first, rest, shape⟩
  rw [concat, joined, shape, sequenceOf_cons_cons]
  rfl

/-! ## Groups -/

theorem flatMap_groupIndices_parts (node : Node) :
    node.parts.flatMap groupIndices = node.groupIndices := by
  induction node with
  | sequence first second _ secondIh =>
      rw [parts, List.flatMap_cons, secondIh, groupIndices]
  | _ => simp [parts, groupIndices]

theorem flatMap_groupIndices_joinLiterals (nodes : List Node) :
    (joinLiterals nodes).flatMap groupIndices = nodes.flatMap groupIndices := by
  induction nodes with
  | nil => rfl
  | cons node nodes ih =>
      rw [List.flatMap_cons, ← ih]
      cases node with
      | literal text =>
          rw [joinLiterals]
          split
          · next next others joined => rw [joined, List.flatMap_cons, List.flatMap_cons]; rfl
          · rfl
      | _ => rfl

theorem groupIndices_sequenceOf (nodes : List Node) :
    (sequenceOf nodes).groupIndices = nodes.flatMap groupIndices := by
  induction nodes with
  | nil => rfl
  | cons node nodes ih =>
      cases nodes with
      | nil => simp [sequenceOf]
      | cons next nodes => rw [sequenceOf_cons_cons, groupIndices, ih, ← List.flatMap_cons]

theorem groupIndices_concat (nodes : List Node) :
    (concat nodes).groupIndices = nodes.flatMap groupIndices := by
  rw [concat, groupIndices_sequenceOf, flatMap_groupIndices_joinLiterals, List.flatMap_assoc]
  simp only [flatMap_groupIndices_parts]

theorem flatMap_groupIndices_branches (node : Node) :
    node.branches.flatMap groupIndices = node.groupIndices := by
  induction node with
  | choice preferred other _ otherIh =>
      rw [branches, List.flatMap_cons, otherIh, groupIndices]
  | _ => simp [branches, groupIndices]

theorem choiceOf_cons_cons (first second : Node) (nodes : List Node) :
    choiceOf (first :: second :: nodes) = .choice first (choiceOf (second :: nodes)) := rfl

theorem groupIndices_choiceOf (nodes : List Node) :
    (choiceOf nodes).groupIndices = nodes.flatMap groupIndices := by
  induction nodes with
  | nil => rfl
  | cons node nodes ih =>
      cases nodes with
      | nil => simp [choiceOf]
      | cons next nodes => rw [choiceOf_cons_cons, groupIndices, ih, ← List.flatMap_cons]

theorem groupIndices_ofSet (members : Text.CharSet) (wide : Bool) :
    (ofSet members wide).groupIndices = [] := by
  unfold ofSet
  split
  · rfl
  · split <;> rfl
  · rfl

theorem groupIndices_choose_subset (nodes : List Node) :
    (choose nodes).groupIndices ⊆ nodes.flatMap groupIndices := by
  unfold choose
  split
  · rw [groupIndices_ofSet]
    exact List.nil_subset _
  · split
    · rw [groupIndices_ofSet]
      exact List.nil_subset _
    · rw [groupIndices_choiceOf]
      exact List.Subset.refl _

theorem commonStart_subset (left right : List Node) : commonStart left right ⊆ left := by
  induction left generalizing right with
  | nil => cases right <;> exact List.nil_subset _
  | cons first rest ih =>
      cases right with
      | nil => exact List.nil_subset _
      | cons other others =>
          rw [commonStart]
          split
          · exact List.cons_subset_cons _ (ih others)
          · exact List.nil_subset _

theorem sharedStart_subset (branch : Node) (branches : List Node) :
    sharedStart (branch :: branches) ⊆ branch.parts := by
  cases branches with
  | nil =>
      rw [sharedStart]
      split
      · exact List.nil_subset _
      · exact List.Subset.refl _
  | cons next branches =>
      change (if branch.parts.length < 2 then []
        else commonStart branch.parts (sharedStart (next :: branches))) ⊆ branch.parts
      split
      · exact List.nil_subset _
      · exact commonStart_subset _ _

/-- The groups of an alternation are groups of its branches. -/
theorem groupIndices_alternation_subset (nodes : List Node) :
    (alternation nodes).groupIndices ⊆ nodes.flatMap groupIndices := by
  have flattened : (nodes.flatMap branches).flatMap groupIndices = nodes.flatMap groupIndices := by
    rw [List.flatMap_assoc]
    simp only [flatMap_groupIndices_branches]
  rw [← flattened]
  unfold alternation
  split
  · exact List.nil_subset _
  · next branch only => simp [only]
  · have chosen := groupIndices_choose_subset (nodes.flatMap branches)
    split
    · next preferred other choice =>
        rw [choice] at chosen
        split
        · exact chosen
        · intro index member
          rw [groupIndices_concat, List.flatMap_append, List.mem_append] at member
          rcases member with shared | rest
          · rcases List.mem_flatMap.mp shared with ⟨part, among, inside⟩
            obtain ⟨first, others, shape⟩ : ∃ first others,
                nodes.flatMap branches = first :: others := by
              apply List.exists_cons_of_ne_nil
              intro none
              rw [none] at among
              exact absurd among List.not_mem_nil
            rw [shape] at among ⊢
            refine List.mem_flatMap.mpr ⟨first, List.mem_cons_self, ?_⟩
            rw [← flatMap_groupIndices_parts]
            exact List.mem_flatMap.mpr ⟨part, sharedStart_subset first others among, inside⟩
          · rw [List.flatMap_cons, List.flatMap_nil, List.append_nil] at rest
            have among := groupIndices_choose_subset _ rest
            rw [List.flatMap_assoc] at among
            simp only [flatMap_groupIndices_branches, List.flatMap_map] at among
            rcases List.mem_flatMap.mp among with ⟨branch, member, inside⟩
            rw [groupIndices_concat] at inside
            rcases List.mem_flatMap.mp inside with ⟨part, later, deeper⟩
            refine List.mem_flatMap.mpr ⟨branch, member, ?_⟩
            rw [← flatMap_groupIndices_parts]
            exact List.mem_flatMap.mpr ⟨part, List.mem_of_mem_drop later, deeper⟩
    · exact chosen

theorem groupIndices_withRepetition_subset (repetition : Repetition) (body : Node) :
    (withRepetition repetition body).groupIndices ⊆ body.groupIndices := by
  simp only [withRepetition]
  generalize (if body.matchesOnlyEmpty then repetition.onceAtMost else repetition) = actual
  split
  · exact List.nil_subset _
  · split
    · exact List.Subset.refl _
    · exact List.Subset.refl _

theorem le_lastGroup_of_mem {node : Node} {index : Nat} (member : index ∈ node.groupIndices) :
    index ≤ node.lastGroup := by
  induction node with
  | sequence first second firstIh secondIh =>
      rcases List.mem_append.mp member with left | right
      · exact Nat.le_trans (firstIh left) (Nat.le_max_left _ _)
      · exact Nat.le_trans (secondIh right) (Nat.le_max_right _ _)
  | choice preferred other preferredIh otherIh =>
      rcases List.mem_append.mp member with left | right
      · exact Nat.le_trans (preferredIh left) (Nat.le_max_left _ _)
      · exact Nat.le_trans (otherIh right) (Nat.le_max_right _ _)
  | group own body ih =>
      rcases List.mem_cons.mp member with here | inside
      · exact here ▸ Nat.le_max_left _ _
      · exact Nat.le_trans (ih inside) (Nat.le_max_right _ _)
  | repeated repetition body ih => exact ih member
  | _ => exact absurd member List.not_mem_nil

theorem lastGroup_le {node : Node} {bound : Nat}
    (below : ∀ index ∈ node.groupIndices, index ≤ bound) : node.lastGroup ≤ bound := by
  induction node with
  | sequence first second firstIh secondIh =>
      rcases List.forall_mem_append.mp below with ⟨left, right⟩
      exact Nat.max_le.mpr ⟨firstIh left, secondIh right⟩
  | choice preferred other preferredIh otherIh =>
      rcases List.forall_mem_append.mp below with ⟨left, right⟩
      exact Nat.max_le.mpr ⟨preferredIh left, otherIh right⟩
  | group own body ih =>
      rcases List.forall_mem_cons.mp below with ⟨here, inside⟩
      exact Nat.max_le.mpr ⟨here, ih inside⟩
  | repeated repetition body ih => exact ih below
  | _ => exact Nat.zero_le bound

end Node
end Pattern
end PageRouting
