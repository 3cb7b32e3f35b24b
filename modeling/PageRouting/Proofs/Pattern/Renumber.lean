import PageRouting.Proofs.Pattern.NormalForm

namespace PageRouting
namespace Pattern
namespace Node

/-!
# Trees with other group indices

The normal form looks at texts and sets, at the number of parts and at whether
parts are equal, but at no group index.  So it makes no difference whether groups
get higher indices before a tree is built or after that: all that builds trees
commutes with renumbering.
-/

/-- The tree with all group indices higher by a number. -/
def renumber (shift : Nat) : Node → Node
  | .empty => .empty
  | .literal text => .literal text
  | .one members wide => .one members wide
  | .assertion condition => .assertion condition
  | .sequence first second => .sequence (first.renumber shift) (second.renumber shift)
  | .choice preferred other => .choice (preferred.renumber shift) (other.renumber shift)
  | .group index body => .group (shift + index) (body.renumber shift)
  | .repeated repetition body => .repeated repetition (body.renumber shift)

variable (shift : Nat)

theorem groupIndices_renumber (node : Node) :
    (node.renumber shift).groupIndices = node.groupIndices.map (shift + ·) := by
  induction node with
  | sequence first second firstIh secondIh =>
      rw [renumber, groupIndices, groupIndices, firstIh, secondIh, List.map_append]
  | choice preferred other preferredIh otherIh =>
      rw [renumber, groupIndices, groupIndices, preferredIh, otherIh, List.map_append]
  | group index body ih => rw [renumber, groupIndices, groupIndices, ih, List.map_cons]
  | repeated repetition body ih => exact ih
  | _ => rfl

/-- A tree without groups stays as it is. -/
theorem renumber_eq_self {node : Node} (plain : node.groupIndices = []) :
    node.renumber shift = node := by
  induction node with
  | sequence first second firstIh secondIh =>
      rcases List.append_eq_nil_iff.mp plain with ⟨left, right⟩
      rw [renumber, firstIh left, secondIh right]
  | choice preferred other preferredIh otherIh =>
      rcases List.append_eq_nil_iff.mp plain with ⟨left, right⟩
      rw [renumber, preferredIh left, otherIh right]
  | group index body => exact absurd plain (List.cons_ne_nil _ _)
  | repeated repetition body ih => rw [renumber, ih plain]
  | _ => rfl

theorem renumber_injective : Function.Injective (renumber shift) := by
  intro left
  induction left with
  | sequence first second firstIh secondIh =>
      intro right same
      cases right with
      | sequence other next =>
          rcases Node.sequence.inj same with ⟨one, two⟩
          rw [firstIh one, secondIh two]
      | _ => cases same
  | choice preferred other preferredIh otherIh =>
      intro right same
      cases right with
      | choice first second =>
          rcases Node.choice.inj same with ⟨one, two⟩
          rw [preferredIh one, otherIh two]
      | _ => cases same
  | group index body ih =>
      intro right same
      cases right with
      | group other inside =>
          rcases Node.group.inj same with ⟨number, within⟩
          rw [Nat.add_left_cancel number, ih within]
      | _ => cases same
  | repeated repetition body ih =>
      intro right same
      cases right with
      | repeated other inside =>
          rcases Node.repeated.inj same with ⟨rfl, within⟩
          rw [ih within]
      | _ => cases same
  | _ =>
      intro right same
      cases right <;> cases same
      rfl

/-! ## Sequences -/

theorem parts_renumber (node : Node) :
    (node.renumber shift).parts = node.parts.map (renumber shift) := by
  induction node with
  | sequence first second _ secondIh => rw [renumber, parts, parts, secondIh, List.map_cons]
  | _ => rfl

theorem joinLiterals_map (nodes : List Node) :
    joinLiterals (nodes.map (renumber shift)) = (joinLiterals nodes).map (renumber shift) := by
  induction nodes with
  | nil => rfl
  | cons node nodes ih =>
      rw [List.map_cons]
      cases node with
      | literal text =>
          rw [renumber, joinLiterals, joinLiterals, ih]
          rcases joinLiterals nodes with _ | ⟨next, others⟩
          · rfl
          · cases next <;> rfl
      | _ => exact congrArg (_ :: ·) ih

theorem sequenceOf_map (nodes : List Node) :
    sequenceOf (nodes.map (renumber shift)) = (sequenceOf nodes).renumber shift := by
  induction nodes with
  | nil => rfl
  | cons node nodes ih =>
      cases nodes with
      | nil => rfl
      | cons next nodes => exact congrArg (Node.sequence _) ih

theorem concat_map (nodes : List Node) :
    concat (nodes.map (renumber shift)) = (concat nodes).renumber shift := by
  have parted : (nodes.map (renumber shift)).flatMap parts =
      (nodes.flatMap parts).map (renumber shift) := by
    simp only [List.flatMap_map, List.map_flatMap, parts_renumber]
  rw [concat, parted, joinLiterals_map, sequenceOf_map, concat]

/-! ## Choices -/

theorem branches_renumber (node : Node) :
    (node.renumber shift).branches = node.branches.map (renumber shift) := by
  induction node with
  | choice preferred other _ otherIh => rw [renumber, branches, branches, otherIh, List.map_cons]
  | _ => rfl

theorem flatMap_branches_map (nodes : List Node) :
    (nodes.map (renumber shift)).flatMap branches =
      (nodes.flatMap branches).map (renumber shift) := by
  simp only [List.flatMap_map, List.map_flatMap, branches_renumber]

theorem choiceOf_map (nodes : List Node) :
    choiceOf (nodes.map (renumber shift)) = (choiceOf nodes).renumber shift := by
  induction nodes with
  | nil => rfl
  | cons node nodes ih =>
      cases nodes with
      | nil => rfl
      | cons next nodes => exact congrArg (Node.choice _) ih

theorem choose_map (nodes : List Node) :
    choose (nodes.map (renumber shift)) = (choose nodes).renumber shift := by
  have characters : (nodes.map (renumber shift)).mapM character? = nodes.mapM character? := by
    rw [List.mapM_map]
    exact congrArg (nodes.mapM ·) (funext fun node => by cases node <;> rfl)
  have sets : (nodes.map (renumber shift)).mapM set? = nodes.mapM set? := by
    rw [List.mapM_map]
    exact congrArg (nodes.mapM ·) (funext fun node => by cases node <;> rfl)
  have plain : ∀ members : Text.CharSet, (ofSet members true).renumber shift = ofSet members true :=
    fun members => renumber_eq_self shift (groupIndices_ofSet members true)
  rw [choose, choose, characters, sets, choiceOf_map]
  cases nodes.mapM character? with
  | some found => exact (plain _).symm
  | none =>
      cases nodes.mapM set? with
      | some found => exact (plain _).symm
      | none => rfl

theorem commonStart_map (left right : List Node) :
    commonStart (left.map (renumber shift)) (right.map (renumber shift)) =
      (commonStart left right).map (renumber shift) := by
  induction left generalizing right with
  | nil => cases right <;> rfl
  | cons first rest ih =>
      cases right with
      | nil => rfl
      | cons other others =>
          rw [List.map_cons, List.map_cons, commonStart, commonStart, ih]
          by_cases same : first = other
          · rw [if_pos same, if_pos (congrArg (renumber shift) same), List.map_cons]
          · rw [if_neg same, if_neg fun equal => same (renumber_injective shift equal)]
            rfl

theorem sharedStart_map (nodes : List Node) :
    sharedStart (nodes.map (renumber shift)) = (sharedStart nodes).map (renumber shift) := by
  induction nodes with
  | nil => rfl
  | cons node nodes ih =>
      have count : (node.renumber shift).parts.length = node.parts.length := by
        rw [parts_renumber, List.length_map]
      cases nodes with
      | nil =>
          rw [List.map_singleton, sharedStart, sharedStart, count, parts_renumber]
          split <;> rfl
      | cons next nodes =>
          have unfolded : ∀ branch other others, sharedStart (branch :: other :: others) =
              if branch.parts.length < 2 then []
              else commonStart branch.parts (sharedStart (other :: others)) := fun _ _ _ => rfl
          rw [List.map_cons, List.map_cons, unfolded, unfolded, ← List.map_cons, ih, count,
            parts_renumber, commonStart_map]
          split <;> rfl

/-- A choice of several branches, with what all of them begin with in front of it. -/
def factored (branches : List Node) : Node :=
  match choose branches with
  | .choice preferred other =>
      match sharedStart branches with
      | [] => .choice preferred other
      | start =>
          let rests := branches.map fun branch => concat (branch.parts.drop start.length)
          concat (start ++ [choose (rests.flatMap Node.branches)])
  | node => node

theorem factored_map (nodes : List Node) :
    factored (nodes.map (renumber shift)) = (factored nodes).renumber shift := by
  have rests : ∀ count,
      (nodes.map (renumber shift)).map (fun branch => concat (branch.parts.drop count)) =
        (nodes.map fun branch => concat (branch.parts.drop count)).map (renumber shift) := by
    intro count
    simp only [List.map_map, Function.comp_def, parts_renumber, ← List.map_drop, concat_map]
  rw [factored, factored, choose_map, sharedStart_map]
  cases choose nodes with
  | choice preferred other =>
      rcases sharedStart nodes with _ | ⟨part, start⟩
      · rfl
      · simp only [renumber, List.map_cons, List.length_cons, List.length_map, rests,
          flatMap_branches_map, choose_map, ← concat_map, List.map_append, List.map_nil]
  | _ => rfl

theorem alternation_map (nodes : List Node) :
    alternation (nodes.map (renumber shift)) = (alternation nodes).renumber shift := by
  rw [alternation, alternation, flatMap_branches_map]
  rcases nodes.flatMap branches with _ | ⟨first, _ | ⟨second, others⟩⟩
  · rfl
  · rfl
  · exact factored_map shift (first :: second :: others)

/-! ## Repetitions -/

theorem matchesOnlyEmpty_renumber (node : Node) :
    (node.renumber shift).matchesOnlyEmpty = node.matchesOnlyEmpty := by
  induction node with
  | sequence first second firstIh secondIh =>
      rw [renumber, matchesOnlyEmpty, matchesOnlyEmpty, firstIh, secondIh]
  | choice preferred other preferredIh otherIh =>
      rw [renumber, matchesOnlyEmpty, matchesOnlyEmpty, preferredIh, otherIh]
  | group index body ih => exact ih
  | repeated repetition body ih => exact ih
  | _ => rfl

theorem withRepetition_renumber (repetition : Repetition) (body : Node) :
    withRepetition repetition (body.renumber shift) =
      (withRepetition repetition body).renumber shift := by
  rw [withRepetition, withRepetition, matchesOnlyEmpty_renumber]
  generalize (if body.matchesOnlyEmpty then repetition.onceAtMost else repetition) = actual
  split
  · rfl
  · split <;> rfl

end Node
end Pattern
end PageRouting
