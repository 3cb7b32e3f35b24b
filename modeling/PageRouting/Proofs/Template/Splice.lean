import PageRouting.Proofs.Pattern.Effects
import PageRouting.Proofs.Pattern.Renumber

namespace PageRouting
namespace Pattern

/-!
# A placeholder pattern between parentheses

A pattern that is well formed by itself is read the same inside a group.  At every
step the reader in the group is the reader of the pattern by itself, put on top of
the group and of what is around it, with higher indices for its own groups.  Two
things can go wrong.  A name may have been given to a group before, so that it is
refused.  And the parenthesis behind the pattern may not be seen, if the pattern
ends in a comment that is still open.
-/

/-! ## Renumbered readers -/

def Part.renumber (shift : Nat) : Part → Part
  | .piece node height => .piece (node.renumber shift) height
  | .directive => .directive

def Branch.renumber (shift : Nat) (branch : Branch) : Branch :=
  { branch with node := branch.node.renumber shift }

def Level.renumber (shift : Nat) (level : Level) : Level where
  branches := level.branches.map (Branch.renumber shift)
  parts := level.parts.map (Part.renumber shift)

def Enclosing.renumber (shift : Nat) (around : Enclosing) : Enclosing where
  index := around.index.map (shift + ·)
  flags := around.flags
  level := around.level.renumber shift

namespace Level

variable (shift : Nat) (level : Level)

theorem branch_renumber : (level.renumber shift).branch = level.branch.renumber shift := by
  have nodes : (level.parts.map (Part.renumber shift)).reverse.map Part.toNode =
      (level.parts.reverse.map Part.toNode).map (Node.renumber shift) := by
    rw [← List.map_reverse, List.map_map, List.map_map]
    exact congrArg (level.parts.reverse.map ·) (funext fun part => by cases part <;> rfl)
  have heights : (level.parts.map (Part.renumber shift)).map Part.height =
      level.parts.map Part.height := by
    rw [List.map_map]
    exact congrArg (level.parts.map ·) (funext fun part => by cases part <;> rfl)
  simp only [branch, renumber, Branch.renumber, nodes, heights, Node.concat_map]

theorem nextBranch_renumber :
    (level.renumber shift).nextBranch = level.nextBranch.renumber shift := by
  rw [nextBranch, branch_renumber]
  rfl

theorem close?_renumber :
    (level.renumber shift).close? = level.close?.map (Branch.renumber shift) := by
  have branches : (level.renumber shift).branch :: (level.renumber shift).branches =
      (level.branch :: level.branches).map (Branch.renumber shift) := by
    rw [branch_renumber]
    rfl
  have heights : ((level.branch :: level.branches).map (Branch.renumber shift)).map Branch.height =
      (level.branch :: level.branches).map Branch.height := by
    rw [List.map_map]
    rfl
  have nodes : ((level.branch :: level.branches).map (Branch.renumber shift)).reverse.map
      Branch.node =
        ((level.branch :: level.branches).reverse.map Branch.node).map (Node.renumber shift) := by
    rw [← List.map_reverse, List.map_map, List.map_map]
    rfl
  simp only [close?, branches, heights, nodes, Node.alternation_map]
  split <;> rfl

end Level

theorem Enclosing.wrap_renumber (shift : Nat) (around : Enclosing) (body : Node) :
    (around.renumber shift).wrap (body.renumber shift) = (around.wrap body).renumber shift := by
  rcases around with ⟨_ | index, flags, level⟩ <;> rfl

namespace Reader

variable {outer alone next finished : Reader} {text rest : List Char} {effect : Effect}

/-- The reader in a group of `outer`, from the reader of the same text by itself. -/
def inside (outer alone : Reader) : Reader where
  flags := alone.flags
  groups := outer.groups + 1 + alone.groups
  names := alone.names ++ outer.names
  level := alone.level.renumber (outer.groups + 1)
  enclosing := alone.enclosing.map (Enclosing.renumber (outer.groups + 1)) ++
    ⟨some (outer.groups + 1), outer.flags, outer.level⟩ :: outer.enclosing

/-- Whether a name has been given on both sides. -/
def clashes (outer alone : Reader) : Bool :=
  alone.names.any outer.names.contains

theorem inside_start (flags : outer.flags = {}) : outer.inside {} = outer.openCapture := by
  simp only [inside, openCapture, openGroup, flags, Level.renumber, Nat.add_zero, List.map_nil,
    List.nil_append]

theorem add?_inside (outer alone : Reader) (node : Node) (height : Nat) :
    (outer.inside alone).add? (node.renumber (outer.groups + 1)) height =
      (alone.add? node height).map outer.inside := by
  simp only [add?]
  split <;> rfl

theorem closeGroup?_inside (closes : alone.closeGroup? = some next) :
    (outer.inside alone).closeGroup? = some (outer.inside next) := by
  rcases exists_of_closeGroup? closes with ⟨around, enclosing, _, shape, _, _⟩
  have innermost : (outer.inside alone).enclosing = around.renumber (outer.groups + 1) ::
      (enclosing.map (Enclosing.renumber (outer.groups + 1)) ++
        ⟨some (outer.groups + 1), outer.flags, outer.level⟩ :: outer.enclosing) := by
    simp only [inside, shape, List.map_cons, List.cons_append]
  rw [closeGroup?_of_cons shape] at closes
  rw [closeGroup?_of_cons innermost]
  have level : (outer.inside alone).level = alone.level.renumber (outer.groups + 1) := rfl
  rcases Option.bind_eq_some_iff.mp closes with ⟨body, isBody, added⟩
  rw [level, Level.close?_renumber, isBody, Option.map_some, Option.bind_some]
  have same := add?_inside outer
    { alone with flags := around.flags, level := around.level, enclosing := enclosing }
    (around.wrap body.node) (body.height + 1)
  rw [added, Option.map_some, ← Enclosing.wrap_renumber] at same
  exact same

theorem repeatLast?_inside (outer alone : Reader) (least : Nat) (most : Option Nat) (lazy : Bool) :
    (outer.inside alone).repeatLast? least most lazy =
      (alone.repeatLast? least most lazy).map outer.inside := by
  rcases alone with ⟨flags, groups, names, ⟨branches, parts⟩, enclosing⟩
  rcases parts with _ | ⟨_ | _, parts⟩
  · rfl
  · simp only [repeatLast?, inside, Level.renumber, List.map_cons, Part.renumber,
      Node.withRepetition_renumber]
    exact add?_inside outer ⟨flags, groups, names, ⟨branches, parts⟩, enclosing⟩ _ _
  · rfl

/-- A part has the same effect inside the group, unless it gives a name again. -/
theorem after?_inside (fresh : outer.clashes alone = false)
    (applied : alone.after? effect = some next) :
    (outer.inside alone).after? effect =
      if outer.clashes next then none else some (outer.inside next) := by
  have kept : next.names = alone.names → (outer.inside alone).after? effect =
      some (outer.inside next) → (outer.inside alone).after? effect =
        if outer.clashes next then none else some (outer.inside next) := by
    intro names effected
    rw [clashes, names, ← clashes, fresh]
    exact effected
  cases effect with
  | piece node height plain =>
      have added := add?_inside outer alone node height
      rw [Node.renumber_eq_self _ plain] at added
      refine kept ?_ (added.trans (congrArg _ applied))
      rw [eq_of_add? applied]
  | directive flags =>
      obtain rfl := Option.some.inj applied
      exact kept rfl rfl
  | openGroup flags =>
      obtain rfl := Option.some.inj applied
      exact kept rfl rfl
  | openCapture =>
      obtain rfl := Option.some.inj applied
      exact kept rfl rfl
  | openNamed name =>
      simp only [after?] at applied
      split at applied
      · exact absurd applied.symm (Option.some_ne_none _)
      · next unused =>
          obtain rfl := Option.some.inj applied
          have names : (outer.inside alone).names.contains name = outer.names.contains name := by
            simp only [inside, List.contains_append, eq_false_of_ne_true unused, Bool.false_or]
          have clash : outer.clashes { alone.openCapture with names := name :: alone.names } =
              outer.names.contains name := by
            rw [clashes] at fresh ⊢
            rw [List.any_cons, fresh, Bool.or_false]
          rw [after?, names, clash]
          rfl
  | closeGroup =>
      refine kept ?_ (closeGroup?_inside applied)
      rcases exists_of_closeGroup? applied with ⟨_, _, _, _, _, rfl⟩
      rfl
  | nextBranch =>
      obtain rfl := Option.some.inj applied
      refine kept rfl ?_
      simp only [after?, inside, Level.nextBranch_renumber]
  | repeatLast least most lazy =>
      refine kept ?_ ((repeatLast?_inside outer alone least most lazy).trans (congrArg _ applied))
      rcases exists_of_repeatLast? applied with ⟨_, _, _, _, _, rfl⟩
      rfl

theorem clashes_of_subset {other : Reader} (names : alone.names ⊆ other.names)
    (clash : outer.clashes alone = true) : outer.clashes other = true := by
  rcases List.any_eq_true.mp clash with ⟨name, member, taken⟩
  exact List.any_eq_true.mpr ⟨name, names member, taken⟩

theorem step_inside {c : Char} (fresh : outer.clashes alone = false)
    (steps : alone.step c text = some (next, rest)) :
    (outer.inside alone).step c text =
      if outer.clashes next then none else some (outer.inside next, rest) := by
  rcases exists_effect steps with ⟨effect, has⟩
  rcases Option.map_eq_some_iff.mp ((has alone rfl).symm.trans steps) with ⟨_, applied, same⟩
  rcases Prod.mk.inj same with ⟨rfl, _⟩
  have effected : (outer.inside alone).step c text = _ := has (outer.inside alone) rfl
  rw [effected, after?_inside fresh applied]
  split <;> rfl

/-! ## The closing parenthesis -/

/-- The group that has been read, as a part of what is around it. -/
def withGroup (outer finished : Reader) (body : Branch) : Reader :=
  { outer with
    groups := outer.groups + 1 + finished.groups
    names := finished.names ++ outer.names
    level := outer.level.add
      (.piece (.group (outer.groups + 1) (body.node.renumber (outer.groups + 1)))
        (body.height + 1)) }

theorem closeGroup?_inside_of_outermost {body : Branch} (outermost : finished.enclosing = [])
    (closes : finished.level.close? = some body) :
    (outer.inside finished).closeGroup? =
      if body.height < maxHeight then some (outer.withGroup finished body) else none := by
  have innermost : (outer.inside finished).enclosing =
      ⟨some (outer.groups + 1), outer.flags, outer.level⟩ :: outer.enclosing := by
    simp only [inside, outermost, List.map_nil, List.nil_append]
  have level : (outer.inside finished).level = finished.level.renumber (outer.groups + 1) := rfl
  rw [closeGroup?_of_cons innermost, level, Level.close?_renumber, closes]
  rfl

/-- A pattern is read inside the group up to the parenthesis behind it, and this one closes the
group, unless it is not seen. -/
theorem readAll_inside (fresh : outer.clashes alone = false)
    (reads : alone.readAll text = some finished)
    (seen : alone.readAll (text ++ [')']) ≠ some finished) (more : List Char) :
    (outer.inside alone).readAll (text ++ ')' :: more) =
      if outer.clashes finished then none
      else (outer.inside finished).closeGroup?.bind fun next => next.readAll more := by
  induction length : text.length using Nat.strong_induction_on generalizing alone text with
  | _ count ih =>
      cases shape : alone.flags.skipBlanks text with
      | nil =>
          rw [readAll_of_nil shape] at reads
          obtain rfl := Option.some.inj reads
          rcases skipBlanks_eq_nil shape with visible | lost
          · have closing : (outer.inside alone).flags.skipBlanks (text ++ ')' :: more) =
                ')' :: more := visible more
            rw [readAll_of_cons closing, fresh]
            exact Option.bind_map ..
          · exact absurd (readAll_of_nil lost) seen
      | cons c tail =>
          have longer : ∀ others, alone.flags.skipBlanks (text ++ others) = c :: (tail ++ others) :=
            fun others => by
              rw [skipBlanks_append (shape ▸ List.cons_ne_nil _ _), shape, List.cons_append]
          rw [readAll_of_cons shape] at reads
          rcases Option.bind_eq_some_iff.mp reads with ⟨⟨next, left⟩, steps, later⟩
          rw [readAll_of_cons (longer [')'])] at seen
          rcases (goesOn_step steps).cases with goesOn | ⟨rfl, lost⟩
          · have here : (outer.inside alone).flags.skipBlanks (text ++ ')' :: more) =
                c :: (tail ++ ')' :: more) := longer (')' :: more)
            rw [readAll_of_cons here, step_inside fresh (goesOn more)]
            cases clash : outer.clashes next with
            | true =>
                rw [clashes_of_subset (names_subset_of_readAll later) clash]
                rfl
            | false =>
                rw [goesOn []] at seen
                exact ih left.length (length ▸ length_lt_of_step shape steps) clash later seen rfl
          · rw [lost] at seen
            exact absurd later seen

/-! ## Contents of groups -/

/-- A text that is a pattern by itself, and of which the end is seen when a parenthesis follows. -/
structure IsContent (text : List Char) (finished : Reader) (body : Branch) : Prop where
  reads : Reader.readAll {} text = some finished
  outermost : finished.enclosing = []
  closes : finished.level.close? = some body
  seen : Reader.readAll {} (text ++ [')']) ≠ some finished

/-- Between parentheses the text is one group, if its names are new and it is not too high. -/
theorem IsContent.readAll {body : Branch} (content : IsContent text finished body)
    (flags : outer.flags = {}) (more : List Char) :
    outer.openCapture.readAll (text ++ ')' :: more) =
      if outer.clashes finished = false ∧ body.height < maxHeight
        then (outer.withGroup finished body).readAll more else none := by
  rw [← inside_start flags, readAll_inside rfl content.reads content.seen,
    closeGroup?_inside_of_outermost content.outermost content.closes]
  cases outer.clashes finished with
  | true => rfl
  | false =>
      by_cases low : body.height < maxHeight
      · rw [if_neg Bool.false_ne_true, if_pos low, if_pos ⟨rfl, low⟩, Option.bind_some]
      · rw [if_neg Bool.false_ne_true, if_neg low, if_neg fun both => low both.2, Option.bind_none]

theorem exists_isContent {pattern : Pattern} (read : ofChars? text = some pattern)
    (unclosed : ofChars? (text ++ [')']) = none) :
    ∃ finished body, IsContent text finished body ∧ pattern = ofNode body.node := by
  rw [ofChars?_eq] at read unclosed
  rcases Option.bind_eq_some_iff.mp read with ⟨body, isWhole, made⟩
  rcases whole?_eq_some_iff.mp isWhole with ⟨finished, reads, outermost, closes⟩
  refine ⟨finished, body, ⟨reads, outermost, closes, fun unseen => ?_⟩, ?_⟩
  · rw [whole?_eq_some_iff.mpr ⟨finished, unseen, outermost, closes⟩, Option.bind_some] at unclosed
    exact absurd (made.symm.trans unclosed) (Option.some_ne_none _)
  · split at made
    · exact (Option.some.inj made).symm
    · exact absurd made.symm (Option.some_ne_none _)

/-- What a group holds: the tree of the pattern, with indices above that of the group. -/
def HoldsContent (body : Node) (opened index : Nat) (node : Node) (last : Nat) : Prop :=
  node = body.renumber index ∧ last = index + opened

/-- No pattern begins with a question mark, so the group around it is an ordinary one. -/
theorem IsContent.head?_ne {body : Branch} (content : IsContent text finished body) :
    text.head? ≠ some '?' := by
  intro marked
  rcases List.head?_eq_some_iff.mp marked with ⟨tail, rfl⟩
  exact absurd content.reads.symm (Option.some_ne_none _)

theorem IsContent.groupNames_eq {placeholderPattern : String} {body : Branch}
    (content : IsContent placeholderPattern.toList finished body) :
    groupNames placeholderPattern = finished.names := by
  rw [groupNames, content.reads]
  rfl

theorem IsContent.openedGroups_eq {placeholderPattern : String} {body : Branch}
    (content : IsContent placeholderPattern.toList finished body) :
    openedGroups placeholderPattern = finished.groups := by
  rw [openedGroups, content.reads]
  rfl

/-- A group and the groups in it have indices of their own, up to the last one. -/
def Holds (index : Nat) (body : Node) (last : Nat) : Prop :=
  index ≤ last ∧ Above index last body.groupIndices

theorem IsContent.above {body : Branch} (content : IsContent text finished body) :
    Above 0 finished.groups body.node.groupIndices :=
  (isNumbered_start.readAll content.reads).level.subset
    (Level.groupIndices_of_close? content.closes)

theorem IsContent.holds {body : Branch} (content : IsContent text finished body) {index last : Nat}
    {node : Node} (holds : HoldsContent body.node finished.groups index node last) :
    Holds index node last := by
  rcases holds with ⟨rfl, rfl⟩
  refine ⟨Nat.le_add_right _ _, fun shifted member => ?_⟩
  rw [Node.groupIndices_renumber] at member
  rcases List.mem_map.mp member with ⟨own, among, rfl⟩
  rcases content.above own among with ⟨positive, le⟩
  exact ⟨Nat.lt_add_of_pos_right positive, Nat.add_le_add_left le index⟩

/-- A pattern without groups has none in its tree, however many it has opened. -/
theorem IsContent.groupIndices_eq_nil {body : Branch} (content : IsContent text finished body)
    (groups : (ofNode body.node).groupCount = 0) : body.node.groupIndices = [] := by
  refine List.eq_nil_iff_forall_not_mem.mpr fun index member => ?_
  have positive := (content.above index member).1
  have none := Node.le_lastGroup_of_mem member
  exact Nat.not_le_of_lt positive (Nat.le_trans none (Nat.le_of_eq groups))

end Reader
end Pattern

end PageRouting
