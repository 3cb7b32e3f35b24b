import PageRouting.Proofs.Pattern.NormalForm
import PageRouting.Proofs.Pattern.StepContinuation

namespace PageRouting
namespace Pattern

/-!
# What a part does to the reader

To read a part, only the flags are looked at.  What else has been read before
matters for the effect that the part then has.  So readers with the same flags
read the same parts, and what holds of all readers is shown effect by effect: the
names given to groups are kept, and groups have indices of their own, up to the
number of groups opened so far.
-/

variable {low high : Nat}

/-! ## Groups of what has been read -/

/-- Indices above one bound and up to another. -/
def Above (low high : Nat) (indices : List Nat) : Prop :=
  ∀ index ∈ indices, low < index ∧ index ≤ high

theorem Above.subset {some others : List Nat} (above : Above low high others)
    (among : some ⊆ others) : Above low high some :=
  fun index member => above index (among member)

theorem Above.mono {indices : List Nat} {higher : Nat} (above : Above low high indices)
    (le : high ≤ higher) : Above low higher indices :=
  fun index member => ⟨(above index member).1, Nat.le_trans (above index member).2 le⟩

namespace Level

/-- Indices of the groups in a level. -/
def groupIndices (level : Level) : List Nat :=
  level.branches.flatMap (fun branch => branch.node.groupIndices) ++
    level.parts.flatMap fun part => part.toNode.groupIndices

theorem groupIndices_add (level : Level) (part : Part) :
    (level.add part).groupIndices ⊆ part.toNode.groupIndices ++ level.groupIndices := by
  intro index member
  simp only [groupIndices, add, List.flatMap_cons, List.mem_append] at member ⊢
  rcases member with branch | here | part
  · exact Or.inr (Or.inl branch)
  · exact Or.inl here
  · exact Or.inr (Or.inr part)

theorem groupIndices_branch (level : Level) :
    level.branch.node.groupIndices ⊆ level.parts.flatMap fun part => part.toNode.groupIndices := by
  rw [branch, Node.groupIndices_concat, List.flatMap_map]
  intro index member
  simpa using member

theorem groupIndices_nextBranch (level : Level) :
    level.nextBranch.groupIndices ⊆ level.groupIndices := by
  intro index member
  simp only [groupIndices, nextBranch, List.flatMap_cons, List.flatMap_nil, List.append_nil,
    List.mem_append] at member ⊢
  exact member.symm.imp id fun here => groupIndices_branch level here

theorem groupIndices_of_close? {level : Level} {body : Branch} (closed : level.close? = some body) :
    body.node.groupIndices ⊆ level.groupIndices := by
  simp only [close?] at closed
  split at closed
  · rw [← Option.some.inj closed]
    intro index member
    have among := Node.groupIndices_alternation_subset _ member
    rcases List.mem_flatMap.mp among with ⟨node, inBranches, inside⟩
    rcases List.mem_map.mp inBranches with ⟨branch, listed, rfl⟩
    rcases List.mem_cons.mp (List.mem_reverse.mp listed) with rfl | earlier
    · exact List.mem_append_right _ (groupIndices_branch level inside)
    · exact List.mem_append_left _ (List.mem_flatMap.mpr ⟨branch, earlier, inside⟩)
  · exact absurd closed.symm (Option.some_ne_none _)

end Level

namespace Enclosing

/-- Indices of the groups before and around an open group. -/
def groupIndices (around : Enclosing) : List Nat :=
  around.index.toList ++ around.level.groupIndices

/-- The closed group. -/
def wrap (around : Enclosing) (body : Node) : Node :=
  match around.index with
  | some index => .group index body
  | none => body

theorem groupIndices_wrap (around : Enclosing) (body : Node) :
    (around.wrap body).groupIndices = around.index.toList ++ body.groupIndices := by
  unfold wrap
  cases around.index <;> rfl

end Enclosing

/-! ## Effects of parts -/

/-- The effect of a part.  A part that adds a node adds no group with it. -/
inductive Effect where
  | piece (node : Node) (height : Nat) (plain : node.groupIndices = [])
  | directive (flags : Flags)
  | openGroup (flags : Flags)
  | openCapture
  | openNamed (name : List Char)
  | closeGroup
  | nextBranch
  | repeatLast (least : Nat) (most : Option Nat) (lazy : Bool)

namespace Reader

variable {reader next final : Reader} {text rest : List Char} {effect : Effect}

/-- The reader after a part has been read, unless the part cannot stand there. -/
def after? (reader : Reader) : Effect → Option Reader
  | .piece node height _ => reader.add? node height
  | .directive flags => some { reader with flags := flags, level := reader.level.add .directive }
  | .openGroup flags => some (reader.openGroup none flags)
  | .openCapture => some reader.openCapture
  | .openNamed name =>
      if reader.names.contains name then none
      else some { reader.openCapture with names := name :: reader.names }
  | .closeGroup => reader.closeGroup?
  | .nextBranch => some { reader with level := reader.level.nextBranch }
  | .repeatLast least most lazy => reader.repeatLast? least most lazy

/-- Readers with these flags read a part that has the effect. -/
def HasEffect (read : Reader → Option (Reader × List Char)) (flags : Flags) (effect : Effect)
    (rest : List Char) : Prop :=
  ∀ reader : Reader, reader.flags = flags →
    read reader = (reader.after? effect).map fun next => (next, rest)

theorem groupIndices_of_literal? {flags : Flags} {c : Char} {isByte : Bool} {node : Node}
    (made : literal? flags c isByte = some node) : node.groupIndices = [] := by
  unfold literal? at made
  split at made
  · exact absurd made.symm (Option.some_ne_none _)
  · rw [← Option.some.inj made]
    exact Node.groupIndices_ofSet _ _

theorem groupIndices_of_dot? {flags : Flags} {node : Node} (made : dot? flags = some node) :
    node.groupIndices = [] := by
  unfold dot? at made
  split at made
  · exact absurd made.symm (Option.some_ne_none _)
  · split at made
    · rw [← Option.some.inj made]
      rfl
    · split at made <;>
      · rw [← Option.some.inj made]
        rfl

theorem groupIndices_of_plainNode? {flags : Flags} {c : Char} {node : Node}
    (made : plainNode? flags c = some node) : node.groupIndices = [] := by
  unfold plainNode? at made
  split at made
  · exact groupIndices_of_dot? made
  · rw [← Option.some.inj made]
    rfl
  · rw [← Option.some.inj made]
    rfl
  · exact groupIndices_of_literal? made

theorem groupIndices_of_atomNode? {flags : Flags} {atom : Atom} {node : Node}
    (made : atomNode? flags atom = some node) : node.groupIndices = [] := by
  cases atom with
  | literal c isByte => exact groupIndices_of_literal? made
  | set members =>
      rw [← Option.some.inj made]
      exact Node.groupIndices_ofSet _ _
  | assertion condition =>
      rw [← Option.some.inj made]
      rfl

theorem add?_zero (reader : Reader) (node : Node) :
    reader.add? node 0 = some (reader.addFlat node) :=
  if_pos (Nat.zero_le maxHeight)

theorem exists_effect_openNamed (opens : reader.openNamed text = some (next, rest))
    (flags : Flags) :
    ∃ effect, HasEffect (·.openNamed text) flags effect rest := by
  simp only [openNamed, Option.bind_eq_bind] at opens
  rcases Option.bind_eq_some_iff.mp opens with ⟨⟨name, after⟩, named, opens⟩
  split at opens
  · exact absurd opens.symm (Option.some_ne_none _)
  · rcases Prod.mk.inj (Option.some.inj opens) with ⟨rfl, rfl⟩
    refine ⟨.openNamed name, fun other _ => ?_⟩
    simp only [openNamed, named, Option.bind_eq_bind, Option.bind_some, after?]
    split <;> rfl

theorem exists_effect_openFlags (opens : reader.openFlags text = some (next, rest)) :
    ∃ effect, HasEffect (·.openFlags text) reader.flags effect rest := by
  rcases Option.bind_eq_some_iff.mp opens with ⟨⟨directive, after⟩, found, opens⟩
  simp only at opens
  split at opens
  · next group =>
      rcases Prod.mk.inj (Option.some.inj opens) with ⟨rfl, rfl⟩
      refine ⟨.openGroup (reader.flags.setAll directive.settings), fun other same => ?_⟩
      simp only [openFlags, found, Option.bind_some, group, if_true, same]
      rfl
  · next stays =>
      split at opens
      · exact absurd opens.symm (Option.some_ne_none _)
      · next sets =>
          rcases Prod.mk.inj (Option.some.inj opens) with ⟨rfl, rfl⟩
          refine ⟨.directive (reader.flags.setAll directive.settings), fun other same => ?_⟩
          simp only [openFlags, found, Option.bind_some, stays, sets, Bool.false_eq_true, if_false,
            same]
          rfl

theorem exists_effect_readGroup (opens : reader.readGroup text = some (next, rest)) :
    ∃ effect, HasEffect (·.readGroup text) reader.flags effect rest := by
  rcases exists_opening opens with ⟨opener, after, opening⟩
  have shown : ∀ other : Reader, other.flags = reader.flags →
      other.readGroup text = opener other after := fun other same => readGroup_eq (same ▸ opening)
  obtain ⟨effect, has⟩ : ∃ effect, HasEffect (opener · after) reader.flags effect rest := by
    rw [shown reader rfl] at opens
    clear shown
    generalize reader.flags.skipBlanks text = begun at opening
    cases opening with
    | plain unmarked =>
        rcases Prod.mk.inj (Option.some.inj opens) with ⟨rfl, rfl⟩
        exact ⟨.openCapture, fun _ _ => rfl⟩
    | longName rest => exact exists_effect_openNamed opens _
    | name rest first => exact exists_effect_openNamed opens _
    | flags rest first => exact exists_effect_openFlags opens
  exact ⟨effect, fun other same => (shown other same).trans (has other same)⟩

theorem exists_effect_readCounted (repeats : reader.readCounted text = some (next, rest)) :
    ∃ effect, HasEffect (·.readCounted text) reader.flags effect rest := by
  simp only [readCounted, Option.bind_eq_bind] at repeats
  rcases Option.bind_eq_some_iff.mp repeats with ⟨⟨⟨least, most⟩, after⟩, bounded, repeats⟩
  rw [readSign_eq] at repeats
  rcases Option.map_eq_some_iff.mp repeats with ⟨_, _, same⟩
  rcases Prod.mk.inj same with ⟨rfl, rfl⟩
  refine ⟨.repeatLast least most (readLazy (reader.flags.skipBlanks after)).1,
    fun other same => ?_⟩
  simp only [readCounted, same, bounded, Option.bind_eq_bind, Option.bind_some]
  rfl

/-- What a part does depends on the flags alone, and on nothing else that has been read. -/
theorem exists_effect {c : Char} (steps : reader.step c text = some (next, rest)) :
    ∃ effect, HasEffect (·.step c text) reader.flags effect rest := by
  have sign : ∀ least most, reader.readSign least most text = some (next, rest) →
      ∃ effect, HasEffect (·.readSign least most text) reader.flags effect rest := by
    intro least most repeats
    rcases Option.map_eq_some_iff.mp repeats with ⟨_, _, same⟩
    rcases Prod.mk.inj same with ⟨_, rfl⟩
    exact ⟨.repeatLast least most (readLazy text).1, fun _ _ => rfl⟩
  cases leading : isLeading c with
  | false =>
      rw [step_plain leading] at steps
      rcases Option.map_eq_some_iff.mp steps with ⟨node, made, same⟩
      rcases Prod.mk.inj same with ⟨rfl, rfl⟩
      refine ⟨.piece node 0 (groupIndices_of_plainNode? made), fun other same => ?_⟩
      change other.step c text = _
      rw [step_plain leading, same, made, after?, add?_zero]
      rfl
  | true =>
      rcases eq_of_isLeading leading with
        rfl | rfl | rfl | rfl | rfl | rfl | rfl | rfl | rfl
      · exact exists_effect_readGroup steps
      · rcases Option.map_eq_some_iff.mp steps with ⟨_, _, same⟩
        rcases Prod.mk.inj same with ⟨_, rfl⟩
        exact ⟨.closeGroup, fun _ _ => rfl⟩
      · rcases Prod.mk.inj (Option.some.inj steps) with ⟨_, rfl⟩
        exact ⟨.nextBranch, fun _ _ => rfl⟩
      · rw [step_class] at steps
        rcases Option.bind_eq_some_iff.mp steps with ⟨⟨read, after⟩, found, steps⟩
        rcases Option.map_eq_some_iff.mp steps with ⟨_, _, same⟩
        rcases Prod.mk.inj same with ⟨_, rfl⟩
        refine ⟨.piece _ read.height (Node.groupIndices_ofSet read.members reader.flags.wide),
          fun other same => ?_⟩
        change other.step '[' text = _
        rw [step_class, same, found]
        rfl
      · exact sign _ _ steps
      · exact sign _ _ steps
      · exact sign _ _ steps
      · exact exists_effect_readCounted steps
      · rw [step_escape] at steps
        rcases Option.bind_eq_some_iff.mp steps with ⟨⟨atom, after⟩, found, steps⟩
        rcases Option.map_eq_some_iff.mp steps with ⟨node, made, same⟩
        rcases Prod.mk.inj same with ⟨_, rfl⟩
        refine ⟨.piece node 0 (groupIndices_of_atomNode? made), fun other same => ?_⟩
        change other.step '\\' text = _
        simp only [step_escape, same, found, Option.bind_some, made, after?, add?_zero,
          Option.map_some]

/-! ## Names and indices of groups -/

theorem eq_of_add? {node : Node} {height : Nat} (added : reader.add? node height = some next) :
    next = { reader with level := reader.level.add (.piece node height) } := by
  unfold add? at added
  split at added
  · exact (Option.some.inj added).symm
  · exact absurd added.symm (Option.some_ne_none _)

theorem closeGroup?_of_cons {around : Enclosing} {enclosing : List Enclosing}
    (shape : reader.enclosing = around :: enclosing) :
    reader.closeGroup? = reader.level.close?.bind fun body =>
      add? { reader with flags := around.flags, level := around.level, enclosing := enclosing }
        (around.wrap body.node) (body.height + 1) := by
  simp only [closeGroup?, shape]
  rfl

/-- A closed group is a part of the level around it. -/
theorem exists_of_closeGroup? (closed : reader.closeGroup? = some next) :
    ∃ around enclosing body, reader.enclosing = around :: enclosing ∧
      reader.level.close? = some body ∧
      next = { reader with
        flags := around.flags
        level := around.level.add (.piece (around.wrap body.node) (body.height + 1))
        enclosing := enclosing } := by
  cases shape : reader.enclosing with
  | nil => simp only [closeGroup?, shape, reduceCtorEq] at closed
  | cons around enclosing =>
      rw [closeGroup?_of_cons shape] at closed
      rcases Option.bind_eq_some_iff.mp closed with ⟨body, isBody, added⟩
      exact ⟨around, enclosing, body, rfl, isBody, eq_of_add? added⟩

/-- A repeated part takes the place of the last part. -/
theorem exists_of_repeatLast? {least : Nat} {most : Option Nat} {lazy : Bool}
    (repeated : reader.repeatLast? least most lazy = some next) :
    ∃ repetition node height parts, reader.level.parts = .piece node height :: parts ∧
      next = { reader with
        level := { reader.level with
          parts := .piece (Node.withRepetition repetition node) (height + 1) :: parts } } := by
  unfold repeatLast? at repeated
  split at repeated
  · next node height parts shape =>
      exact ⟨_, node, height, parts, shape, eq_of_add? repeated⟩
  · exact absurd repeated.symm (Option.some_ne_none _)

/-- Names that have been given are kept. -/
theorem names_subset_of_after? (applied : reader.after? effect = some next) :
    reader.names ⊆ next.names := by
  cases effect with
  | piece node height plain =>
      obtain rfl := eq_of_add? applied
      exact List.Subset.refl _
  | closeGroup =>
      rcases exists_of_closeGroup? applied with ⟨_, _, _, _, _, rfl⟩
      exact List.Subset.refl _
  | repeatLast least most lazy =>
      rcases exists_of_repeatLast? applied with ⟨_, _, _, _, _, rfl⟩
      exact List.Subset.refl _
  | openNamed name =>
      simp only [after?] at applied
      split at applied
      · exact absurd applied.symm (Option.some_ne_none _)
      · rw [← Option.some.inj applied]
        exact List.subset_cons_self _ _
  | _ =>
      rw [← Option.some.inj applied]
      exact List.Subset.refl _

/-- Groups have indices up to the number of groups opened so far. -/
structure IsNumbered (reader : Reader) : Prop where
  level : Above 0 reader.groups reader.level.groupIndices
  enclosing : ∀ around ∈ reader.enclosing, Above 0 reader.groups around.groupIndices

theorem IsNumbered.add (numbered : reader.IsNumbered) (part : Part)
    (plain : part.toNode.groupIndices = []) (flags : Flags) :
    IsNumbered { reader with flags := flags, level := reader.level.add part } where
  level := numbered.level.subset (by
    have within := reader.level.groupIndices_add part
    rwa [plain, List.nil_append] at within)
  enclosing := numbered.enclosing

theorem IsNumbered.openGroup (numbered : reader.IsNumbered) (flags : Flags) :
    (reader.openGroup none flags).IsNumbered where
  level := fun _ member => absurd member List.not_mem_nil
  enclosing := List.forall_mem_cons.mpr ⟨numbered.level, numbered.enclosing⟩

theorem IsNumbered.openCapture (numbered : reader.IsNumbered) : reader.openCapture.IsNumbered where
  level := fun _ member => absurd member List.not_mem_nil
  enclosing := by
    have higher : reader.groups ≤ reader.groups + 1 := Nat.le_succ _
    refine List.forall_mem_cons.mpr ⟨fun index member => ?_, fun around member =>
      (numbered.enclosing around member).mono higher⟩
    rcases List.mem_append.mp member with here | before
    · have same : index = reader.groups + 1 := by simpa using here
      exact ⟨same ▸ Nat.succ_pos _, Nat.le_of_eq same⟩
    · exact numbered.level.mono higher index before

theorem IsNumbered.closeGroup? (numbered : reader.IsNumbered)
    (closed : reader.closeGroup? = some next) : next.IsNumbered := by
  rcases exists_of_closeGroup? closed with ⟨around, enclosing, body, shape, isBody, rfl⟩
  have allAround := numbered.enclosing
  rw [shape] at allAround
  rcases List.forall_mem_cons.mp allAround with ⟨first, others⟩
  refine ⟨Above.subset ?_ (around.level.groupIndices_add _), others⟩
  intro index member
  rw [Part.toNode, Enclosing.groupIndices_wrap] at member
  rcases List.mem_append.mp member with wrapped | before
  · rcases List.mem_append.mp wrapped with own | within
    · exact first index (List.mem_append_left _ own)
    · exact numbered.level index (Level.groupIndices_of_close? isBody within)
  · exact first index (List.mem_append_right _ before)

/-- Repeating a part keeps its groups or drops them. -/
theorem IsNumbered.repeatLast? {least : Nat} {most : Option Nat} {lazy : Bool}
    (numbered : reader.IsNumbered) (repeated : reader.repeatLast? least most lazy = some next) :
    next.IsNumbered := by
  rcases exists_of_repeatLast? repeated with ⟨repetition, node, height, parts, shape, rfl⟩
  refine ⟨numbered.level.subset ?_, numbered.enclosing⟩
  rw [Level.groupIndices, Level.groupIndices, shape, List.flatMap_cons, List.flatMap_cons]
  have kept := Node.groupIndices_withRepetition_subset repetition node
  intro index member
  simp only [List.mem_append] at member ⊢
  exact member.imp id (Or.imp (@kept index) id)

theorem IsNumbered.after? (numbered : reader.IsNumbered)
    (applied : reader.after? effect = some next) : next.IsNumbered := by
  cases effect with
  | piece node height plain =>
      obtain rfl := eq_of_add? applied
      exact numbered.add (.piece node height) plain reader.flags
  | directive flags =>
      rw [← Option.some.inj applied]
      exact numbered.add .directive rfl flags
  | openGroup flags =>
      rw [← Option.some.inj applied]
      exact numbered.openGroup flags
  | openCapture =>
      rw [← Option.some.inj applied]
      exact numbered.openCapture
  | openNamed name =>
      simp only [Reader.after?] at applied
      split at applied
      · exact absurd applied.symm (Option.some_ne_none _)
      · rw [← Option.some.inj applied]
        exact ⟨numbered.openCapture.level, numbered.openCapture.enclosing⟩
  | closeGroup => exact numbered.closeGroup? applied
  | nextBranch =>
      rw [← Option.some.inj applied]
      exact ⟨numbered.level.subset reader.level.groupIndices_nextBranch, numbered.enclosing⟩
  | repeatLast least most lazy => exact numbered.repeatLast? applied

/-! ## Reading to the end -/

/-- The reader after the whole text.  There are as many steps as the text can need. -/
def readAll (reader : Reader) (text : List Char) : Option Reader :=
  readParts (text.length + 1) reader text

/-- A step takes a character at least. -/
theorem length_lt_of_step {c : Char} {after : List Char}
    (shape : reader.flags.skipBlanks text = c :: rest)
    (steps : reader.step c rest = some (next, after)) : after.length < text.length := by
  have shorter := length_skipBlanks_le reader.flags text
  rw [shape] at shorter
  exact Nat.lt_of_le_of_lt (goesOn_step steps).suffix.length_le shorter

/-- Steps to spare make no difference. -/
theorem readParts_eq_readAll {bound : Nat} (enough : text.length < bound) :
    readParts bound reader text = reader.readAll text := by
  have same : ∀ {few many : Nat} (reader : Reader) (text : List Char), text.length < few →
      text.length < many → readParts few reader text = readParts many reader text := by
    intro few
    induction few with
    | zero => exact fun _ _ none => absurd none (Nat.not_lt_zero _)
    | succ few ih =>
        intro many reader text fewer more
        obtain ⟨many, rfl⟩ := Nat.exists_eq_succ_of_ne_zero (Nat.ne_zero_of_lt more)
        simp only [readParts]
        cases shape : reader.flags.skipBlanks text with
        | nil => rfl
        | cons c rest =>
            cases steps : reader.step c rest with
            | none => simp only [steps]
            | some pair =>
                have shorter := length_lt_of_step shape steps
                simp only [steps]
                exact ih _ _ (Nat.lt_of_lt_of_le shorter (Nat.le_of_lt_succ fewer))
                  (Nat.lt_of_lt_of_le shorter (Nat.le_of_lt_succ more))
  exact same reader text enough (Nat.lt_succ_self _)

theorem readAll_of_nil (shape : reader.flags.skipBlanks text = []) :
    reader.readAll text = some reader := by
  simp only [readAll, readParts, shape]

/-- Reading goes on behind the first part. -/
theorem readAll_of_cons {c : Char} (shape : reader.flags.skipBlanks text = c :: rest) :
    reader.readAll text = (reader.step c rest).bind fun step => step.1.readAll step.2 := by
  simp only [readAll, readParts, shape]
  cases steps : reader.step c rest with
  | none => rfl
  | some pair => exact readParts_eq_readAll (length_lt_of_step shape steps)

/-- What no effect changes holds at the end if it holds at the beginning. -/
theorem readAll_invariant {Keeps : Reader → Prop}
    (kept : ∀ {reader next : Reader} {effect : Effect}, Keeps reader →
      reader.after? effect = some next → Keeps next)
    (begins : Keeps reader) (reads : reader.readAll text = some final) : Keeps final := by
  unfold readAll at reads
  generalize text.length + 1 = bound at reads
  induction bound generalizing reader text with
  | zero => exact absurd reads.symm (Option.some_ne_none _)
  | succ bound ih =>
      simp only [readParts] at reads
      split at reads
      · exact Option.some.inj reads ▸ begins
      · split at reads
        · next steps =>
            rcases exists_effect steps with ⟨effect, has⟩
            rcases Option.map_eq_some_iff.mp ((has _ rfl).symm.trans steps) with
              ⟨_, applied, same⟩
            rcases Prod.mk.inj same with ⟨rfl, _⟩
            exact ih (kept begins applied) reads
        · exact absurd reads.symm (Option.some_ne_none _)

theorem names_subset_of_readAll (reads : reader.readAll text = some final) :
    reader.names ⊆ final.names := by
  refine @readAll_invariant reader final text (reader.names ⊆ ·.names) ?_ (List.Subset.refl _)
    reads
  exact fun names applied => List.Subset.trans names (names_subset_of_after? applied)

theorem IsNumbered.readAll (numbered : reader.IsNumbered)
    (reads : reader.readAll text = some final) : final.IsNumbered :=
  readAll_invariant (fun numbered applied => numbered.after? applied) numbered reads

theorem isNumbered_start : IsNumbered {} :=
  ⟨fun _ none => absurd none List.not_mem_nil, fun _ none => absurd none List.not_mem_nil⟩

end Reader

/-- The tree of a text, with its height, if the text is well formed.  Whether there is room for a
pattern so large is not asked. -/
def whole? (text : List Char) : Option Branch := do
  let reader ← Reader.readAll {} text
  let whole ← reader.level.close?
  if reader.enclosing.isEmpty then some whole else none

theorem whole?_eq_some_iff {text : List Char} {whole : Branch} :
    whole? text = some whole ↔ ∃ finished : Reader, Reader.readAll {} text = some finished ∧
      finished.enclosing = [] ∧ finished.level.close? = some whole := by
  simp only [whole?, Option.bind_eq_bind, Option.bind_eq_some_iff]
  constructor
  · rintro ⟨finished, reads, body, closes, made⟩
    split at made
    · next outermost => exact ⟨finished, reads, List.isEmpty_iff.mp outermost, made ▸ closes⟩
    · exact absurd made.symm (Option.some_ne_none _)
  · rintro ⟨finished, reads, outermost, closes⟩
    exact ⟨finished, reads, whole, closes, by rw [outermost]; rfl⟩

theorem ofChars?_eq (text : List Char) :
    ofChars? text = (whole? text).bind fun whole =>
      if whole.node.fits then some (ofNode whole.node) else none := by
  simp only [ofChars?, whole?, Reader.readAll, Option.bind_eq_bind]
  cases Reader.readParts (text.length + 1) {} text with
  | none => rfl
  | some reader =>
      simp only [Option.bind_some]
      cases reader.level.close? with
      | none => rfl
      | some whole =>
          simp only [Option.bind_some]
          cases reader.enclosing.isEmpty <;> rfl

/-- Names that the text gives to groups, whether the groups are left in the pattern or not. -/
def groupNames (text : String) : List (List Char) :=
  ((Reader.readAll {} text.toList).map Reader.names).getD []

/-- Number of groups that the text opens, whether they are left in the pattern or not. -/
def openedGroups (text : String) : Nat :=
  ((Reader.readAll {} text.toList).map Reader.groups).getD 0

end Pattern
end PageRouting
