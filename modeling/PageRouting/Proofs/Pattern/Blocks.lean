import PageRouting.Proofs.Pattern.Run

namespace PageRouting
namespace Pattern

/-!
# Ways through the program of a node

The program of a node is a block: jumps inside it lead to places inside it or to
its end.  A way that enters a block at its start can therefore leave it at its
end only, having gone past some characters and through groups of that node
alone.  So the ways through a concatenation of programs are followed node by
node, whatever the nodes do inside.
-/

/-! ## Jumps -/

/-- The instruction, counted as number zero, does not jump outside the range. -/
def Instruction.JumpsWithin (low high : Int) : Instruction → Prop
  | .jump offset => low ≤ offset ∧ offset ≤ high
  | .fork preferred other => (low ≤ preferred ∧ preferred ≤ high) ∧ low ≤ other ∧ other ≤ high
  | _ => True

/-- No instruction jumps outside the range, counted from the first of them. -/
def JumpWithin (low high : Int) : List Instruction → Prop
  | [] => True
  | instruction :: rest =>
      instruction.JumpsWithin low high ∧ JumpWithin (low - 1) (high - 1) rest

/-- Jumps lead to places in the block or to its end. -/
def IsBlock (block : List Instruction) : Prop :=
  JumpWithin 0 block.length block

theorem Instruction.JumpsWithin.mono {low high lower higher : Int} {instruction : Instruction}
    (within : instruction.JumpsWithin low high) (below : lower ≤ low) (above : high ≤ higher) :
    instruction.JumpsWithin lower higher := by
  cases instruction with
  | jump offset => exact ⟨Int.le_trans below within.1, Int.le_trans within.2 above⟩
  | fork preferred other =>
      rcases within with ⟨⟨first, second⟩, third, fourth⟩
      exact ⟨⟨Int.le_trans below first, Int.le_trans second above⟩,
        Int.le_trans below third, Int.le_trans fourth above⟩
  | _ => trivial

theorem JumpWithin.mono {low high lower higher : Int} {block : List Instruction}
    (within : JumpWithin low high block) (below : lower ≤ low) (above : high ≤ higher) :
    JumpWithin lower higher block := by
  induction block generalizing low high lower higher with
  | nil => trivial
  | cons instruction rest ih =>
      exact ⟨within.1.mono below above, ih within.2 (by omega) (by omega)⟩

theorem JumpWithin.append {low high : Int} {left right : List Instruction}
    (leftWithin : JumpWithin low high left)
    (rightWithin : JumpWithin (low - left.length) (high - left.length) right) :
    JumpWithin low high (left ++ right) := by
  induction left generalizing low high with
  | nil => simpa using rightWithin
  | cons instruction rest ih =>
      refine ⟨leftWithin.1, ih leftWithin.2 ?_⟩
      rw [List.length_cons] at rightWithin
      exact rightWithin.mono (by omega) (by omega)

theorem JumpWithin.getElem? {low high : Int} {block : List Instruction}
    (within : JumpWithin low high block) {index : Nat} {instruction : Instruction}
    (here : block[index]? = some instruction) :
    instruction.JumpsWithin (low - index) (high - index) := by
  induction block generalizing low high index with
  | nil => simp at here
  | cons first rest ih =>
      cases index with
      | zero =>
          rw [List.getElem?_cons_zero] at here
          exact (Option.some.inj here ▸ within.1).mono (by omega) (by omega)
      | succ index =>
          rw [List.getElem?_cons_succ] at here
          exact (ih within.2 here).mono (by omega) (by omega)

/-! ## Programs of nodes are blocks -/

theorem IsBlock.append {left right : List Instruction} (leftBlock : IsBlock left)
    (rightBlock : IsBlock right) : IsBlock (left ++ right) := by
  unfold IsBlock at *
  rw [List.length_append]
  exact JumpWithin.append (leftBlock.mono (by omega) (by omega))
    (rightBlock.mono (by omega) (by omega))

theorem isBlock_nil : IsBlock [] := trivial

/-- An instruction that does not jump is a block of its own. -/
theorem isBlock_singleton (instruction : Instruction)
    (stays : instruction.JumpsWithin 0 1) : IsBlock [instruction] :=
  ⟨stays, trivial⟩

theorem isBlock_flatten {blocks : List (List Instruction)}
    (every : ∀ block ∈ blocks, IsBlock block) : IsBlock blocks.flatten := by
  induction blocks with
  | nil => exact isBlock_nil
  | cons block rest ih =>
      rw [List.flatten_cons]
      exact (every block List.mem_cons_self).append
        (ih fun other member => every other (List.mem_cons_of_mem _ member))

namespace Instruction

theorem forkBy_jumpsWithin {low high again stop : Int} (greedy : Bool)
    (againWithin : low ≤ again ∧ again ≤ high) (stopWithin : low ≤ stop ∧ stop ≤ high) :
    (forkBy greedy again stop).JumpsWithin low high := by
  unfold forkBy
  split
  · exact ⟨againWithin, stopWithin⟩
  · exact ⟨stopWithin, againWithin⟩

/-- A part that may be left out may jump back to the fork in front of it. -/
theorem isBlock_optional (greedy : Bool) {body : List Instruction}
    (within : JumpWithin (-1) body.length body) : IsBlock (optional greedy body) := by
  unfold IsBlock optional
  rw [List.length_cons]
  refine ⟨forkBy_jumpsWithin greedy ?_ ?_, within.mono ?_ ?_⟩
  · omega
  · omega
  · omega
  · omega

theorem isBlock_onceOrMore (greedy : Bool) {body : List Instruction} (block : IsBlock body) :
    IsBlock (onceOrMore greedy body) := by
  unfold IsBlock onceOrMore
  rw [List.length_append, List.length_singleton]
  refine JumpWithin.append (JumpWithin.mono block (by omega) (by omega)) ⟨?_, trivial⟩
  exact forkBy_jumpsWithin greedy (by omega) (by omega)

theorem isBlock_anyTimes (greedy : Bool) {body : List Instruction} (block : IsBlock body) :
    IsBlock (anyTimes greedy body) := by
  apply isBlock_optional
  rw [List.length_append, List.length_singleton]
  refine JumpWithin.append (JumpWithin.mono block (by omega) (by omega)) ⟨⟨?_, ?_⟩, trivial⟩
  · omega
  · omega

theorem isBlock_upTo (greedy : Bool) {body : List Instruction} (block : IsBlock body)
    (count : Nat) : IsBlock (upTo greedy body count) := by
  induction count with
  | zero => exact isBlock_nil
  | succ count ih =>
      exact isBlock_optional greedy (JumpWithin.mono (block.append ih) (by omega) (by omega))

theorem isBlock_repeated (repetition : Repetition) (consumes : Bool) {body : List Instruction}
    (block : IsBlock body) : IsBlock (repeated repetition consumes body) := by
  have copies : ∀ count, IsBlock (List.replicate count body).flatten := fun count =>
    isBlock_flatten fun copy member => List.eq_of_mem_replicate member ▸ block
  unfold repeated
  split
  · split
    · exact isBlock_anyTimes _ block
    · exact isBlock_optional _ ((isBlock_onceOrMore _ block).mono (by omega) (by omega))
  · exact (copies _).append (isBlock_onceOrMore _ block)
  · exact (copies _).append (isBlock_upTo _ block _)

end Instruction

theorem Node.isBlock_program (node : Node) : IsBlock node.program := by
  induction node with
  | empty => exact isBlock_nil
  | literal text =>
      induction text with
      | nil => exact isBlock_nil
      | cons c rest ih =>
          exact (isBlock_singleton (.take (.single c)) trivial).append ih
  | one members wide => exact isBlock_singleton _ trivial
  | assertion condition => exact isBlock_singleton _ trivial
  | sequence first second firstIh secondIh => exact firstIh.append secondIh
  | choice preferred other preferredIh otherIh =>
      have otherWithin : JumpWithin 0 (other.program.length + 1)
          (.jump (other.program.length + 1) :: other.program) :=
        ⟨⟨by omega, by omega⟩, JumpWithin.mono otherIh (by omega) (by omega)⟩
      unfold IsBlock
      simp only [Node.program, List.cons_append, List.length_cons, List.length_append]
      refine ⟨⟨⟨?_, ?_⟩, ?_, ?_⟩, JumpWithin.append (preferredIh.mono ?_ ?_)
        (otherWithin.mono ?_ ?_)⟩
      · omega
      · omega
      · omega
      · omega
      · omega
      · omega
      · omega
      · omega
  | group index body ih =>
      exact ((isBlock_singleton (.enter index) trivial).append ih).append
        (isBlock_singleton (.leave index) trivial)
  | repeated repetition body ih => exact Instruction.isBlock_repeated _ _ ih

/-! ## Groups -/

/-- Index of the group that the instruction begins or ends. -/
def Instruction.groupIndex? : Instruction → Option Nat
  | .enter index => some index
  | .leave index => some index
  | _ => none

/-- Indices of the groups in a node. -/
def Node.groupIndices : Node → List Nat
  | .empty => []
  | .literal _ => []
  | .one _ _ => []
  | .assertion _ => []
  | .sequence first second => first.groupIndices ++ second.groupIndices
  | .choice preferred other => preferred.groupIndices ++ other.groupIndices
  | .group index body => index :: body.groupIndices
  | .repeated _ body => body.groupIndices

namespace Instruction

theorem groupIndex?_forkBy (greedy : Bool) (again stop : Int) :
    (forkBy greedy again stop).groupIndex? = none := by
  unfold forkBy
  split <;> rfl

variable {instruction : Instruction} {index : Nat} {body : List Instruction}

theorem mem_of_mem_optional {greedy : Bool} (member : instruction ∈ optional greedy body)
    (named : instruction.groupIndex? = some index) : instruction ∈ body := by
  rcases List.mem_cons.mp member with fork | inside
  · rw [fork, groupIndex?_forkBy] at named
    exact absurd named.symm (Option.some_ne_none _)
  · exact inside

theorem mem_of_mem_onceOrMore {greedy : Bool} (member : instruction ∈ onceOrMore greedy body)
    (named : instruction.groupIndex? = some index) : instruction ∈ body := by
  rcases List.mem_append.mp member with inside | fork
  · exact inside
  · rw [List.mem_singleton.mp fork, groupIndex?_forkBy] at named
    exact absurd named.symm (Option.some_ne_none _)

theorem mem_of_mem_upTo {greedy : Bool} {count : Nat}
    (member : instruction ∈ upTo greedy body count)
    (named : instruction.groupIndex? = some index) : instruction ∈ body := by
  induction count with
  | zero => exact absurd member List.not_mem_nil
  | succ count ih =>
      rcases List.mem_append.mp (mem_of_mem_optional member named) with inside | later
      · exact inside
      · exact ih later

theorem mem_of_mem_replicate {count : Nat}
    (member : instruction ∈ (List.replicate count body).flatten) : instruction ∈ body := by
  rcases List.mem_flatten.mp member with ⟨copy, among, inside⟩
  exact List.eq_of_mem_replicate among ▸ inside

/-- A repetition has no groups but those of its part. -/
theorem mem_of_mem_repeated {repetition : Repetition} {consumes : Bool}
    (member : instruction ∈ repeated repetition consumes body)
    (named : instruction.groupIndex? = some index) : instruction ∈ body := by
  unfold repeated at member
  split at member
  · split at member
    · rcases List.mem_append.mp (mem_of_mem_optional member named) with inside | back
      · exact inside
      · rw [List.mem_singleton.mp back] at named
        exact absurd named.symm (Option.some_ne_none _)
    · exact mem_of_mem_onceOrMore (mem_of_mem_optional member named) named
  · rcases List.mem_append.mp member with copies | rest
    · exact mem_of_mem_replicate copies
    · exact mem_of_mem_onceOrMore rest named
  · rcases List.mem_append.mp member with copies | rest
    · exact mem_of_mem_replicate copies
    · exact mem_of_mem_upTo rest named

end Instruction

theorem Node.mem_groupIndices_of_mem_program {node : Node} {instruction : Instruction}
    {index : Nat} (member : instruction ∈ node.program)
    (named : instruction.groupIndex? = some index) : index ∈ node.groupIndices := by
  induction node with
  | empty => exact absurd member List.not_mem_nil
  | literal text =>
      rcases List.mem_map.mp member with ⟨c, _, rfl⟩
      exact absurd named.symm (Option.some_ne_none _)
  | one members wide =>
      rw [List.mem_singleton.mp member] at named
      exact absurd named.symm (Option.some_ne_none _)
  | assertion condition =>
      rw [List.mem_singleton.mp member] at named
      exact absurd named.symm (Option.some_ne_none _)
  | sequence first second firstIh secondIh =>
      rcases List.mem_append.mp member with left | right
      · exact List.mem_append_left _ (firstIh left)
      · exact List.mem_append_right _ (secondIh right)
  | choice preferred other preferredIh otherIh =>
      rcases List.mem_cons.mp member with fork | branches
      · rw [fork] at named
        exact absurd named.symm (Option.some_ne_none _)
      · rcases List.mem_append.mp branches with left | rest
        · exact List.mem_append_left _ (preferredIh left)
        · rcases List.mem_cons.mp rest with jump | right
          · rw [jump] at named
            exact absurd named.symm (Option.some_ne_none _)
          · exact List.mem_append_right _ (otherIh right)
  | group own body ih =>
      rcases List.mem_append.mp member with opened | left
      · rcases List.mem_cons.mp opened with enter | inside
        · rw [enter] at named
          exact Option.some.inj named ▸ List.mem_cons_self
        · exact List.mem_cons_of_mem _ (ih inside)
      · rw [List.mem_singleton.mp left] at named
        exact Option.some.inj named ▸ List.mem_cons_self
  | repeated repetition body ih => exact ih (Instruction.mem_of_mem_repeated member named)

/-- The thread once it has entered a group. -/
def Thread.enter (thread : Thread) (index : Nat) : Thread :=
  { thread.next with entered := (index, thread.position) :: thread.entered }

/-- The thread once it has left a group. -/
def Thread.leave (thread : Thread) (index : Nat) : Thread :=
  { thread.next with left := (index, thread.position) :: thread.left }

theorem Thread.Reads.enter {text : List Char} {thread : Thread} (reads : thread.Reads text)
    (index : Nat) : (thread.enter index).Reads text :=
  ⟨reads.rest, reads.previous, reads.inside⟩

theorem Thread.Reads.leave {text : List Char} {thread : Thread} (reads : thread.Reads text)
    (index : Nat) : (thread.leave index).Reads text :=
  ⟨reads.rest, reads.previous, reads.inside⟩

/-! ## Ways through a block -/

/-- On its way through a block the first thread has gone past some text, and is
now the other one.  Groups that do not occur in the block are as they were. -/
structure Passes (block : List Instruction) (thread other : Thread) (taken : List Char) :
    Prop where
  rest : thread.rest = taken ++ other.rest
  position : other.position = thread.position + taken.length
  groups : ∀ index, (∀ instruction ∈ block, instruction.groupIndex? ≠ some index) →
    other.entered.lookup index = thread.entered.lookup index ∧
      other.left.lookup index = thread.left.lookup index

theorem Passes.refl (block : List Instruction) (thread : Thread) :
    Passes block thread thread [] where
  rest := rfl
  position := rfl
  groups := fun _ _ => ⟨rfl, rfl⟩

theorem Passes.trans {block : List Instruction} {one other third : Thread}
    {taken more : List Char} (first : Passes block one other taken)
    (second : Passes block other third more) : Passes block one third (taken ++ more) where
  rest := by rw [first.rest, second.rest, List.append_assoc]
  position := by rw [second.position, first.position, List.length_append, Nat.add_assoc]
  groups := by
    intro index absent
    rcases first.groups index absent with ⟨entered, left⟩
    rcases second.groups index absent with ⟨laterEntered, laterLeft⟩
    exact ⟨laterEntered.trans entered, laterLeft.trans left⟩

theorem lookup_cons_of_ne {index other position : Nat} (different : index ≠ other)
    (entries : List (Nat × Nat)) :
    ((other, position) :: entries).lookup index = entries.lookup index := by
  rw [List.lookup_cons, beq_eq_false_iff_ne.mpr different]

/-- One instruction of a block takes one character or none. -/
theorem exists_passes_of_follow {block : List Instruction} {thread next : Thread}
    {instruction : Instruction} (inBlock : instruction ∈ block)
    (among : next ∈ thread.follow instruction) :
    ∃ taken, Passes block thread next taken := by
  have silent : next.rest = thread.rest → next.position = thread.position →
      next.entered = thread.entered → next.left = thread.left →
      ∃ taken, Passes block thread next taken := fun rest position entered left =>
    ⟨[], rest.symm, position, fun _ _ => ⟨by rw [entered], by rw [left]⟩⟩
  cases instruction with
  | take members =>
      cases rest : thread.rest with
      | nil => simp [Thread.follow, rest] at among
      | cons c tail =>
          simp only [Thread.follow, rest] at among
          split at among
          · rw [List.mem_singleton.mp among]
            exact ⟨[c], rest, rfl, fun _ _ => ⟨rfl, rfl⟩⟩
          · exact absurd among List.not_mem_nil
  | check condition =>
      simp only [Thread.follow] at among
      split at among
      · rw [List.mem_singleton.mp among] at silent ⊢
        exact silent rfl rfl rfl rfl
      · exact absurd among List.not_mem_nil
  | enter own =>
      rw [List.mem_singleton.mp among]
      refine ⟨[], rfl, rfl, fun index absent => ⟨lookup_cons_of_ne ?_ _, rfl⟩⟩
      rintro rfl
      exact absent _ inBlock rfl
  | leave own =>
      rw [List.mem_singleton.mp among]
      refine ⟨[], rfl, rfl, fun index absent => ⟨rfl, lookup_cons_of_ne ?_ _⟩⟩
      rintro rfl
      exact absent _ inBlock rfl
  | jump offset =>
      rw [List.mem_singleton.mp among] at silent ⊢
      exact silent rfl rfl rfl rfl
  | fork preferred other =>
      rcases List.mem_cons.mp among with first | second
      · rw [first] at silent ⊢
        exact silent rfl rfl rfl rfl
      · rw [List.mem_singleton.mp second] at silent ⊢
        exact silent rfl rfl rfl rfl

/-- Where a step leads, an instruction that jumps within bounds is followed
within these bounds. -/
theorem instruction_of_follow {thread next : Thread} {instruction : Instruction}
    (low high : Nat) (within : instruction.JumpsWithin (low - thread.instruction)
      (high - thread.instruction))
    (above : low ≤ thread.instruction) (below : thread.instruction < high)
    (among : next ∈ thread.follow instruction) :
    low ≤ next.instruction ∧ next.instruction ≤ high := by
  have onward : next.instruction = thread.instruction + 1 →
      low ≤ next.instruction ∧ next.instruction ≤ high := fun same => by omega
  cases instruction with
  | take members =>
      cases rest : thread.rest with
      | nil => simp [Thread.follow, rest] at among
      | cons c tail =>
          simp only [Thread.follow, rest] at among
          split at among
          · rw [List.mem_singleton.mp among] at onward ⊢
            exact onward rfl
          · exact absurd among List.not_mem_nil
  | check condition =>
      simp only [Thread.follow] at among
      split at among
      · rw [List.mem_singleton.mp among] at onward ⊢
        exact onward rfl
      · exact absurd among List.not_mem_nil
  | enter own =>
      rw [List.mem_singleton.mp among] at onward ⊢
      exact onward rfl
  | leave own =>
      rw [List.mem_singleton.mp among] at onward ⊢
      exact onward rfl
  | jump offset =>
      rw [List.mem_singleton.mp among]
      rcases within with ⟨first, last⟩
      change low ≤ (thread.instruction + offset).toNat ∧ (thread.instruction + offset).toNat ≤ high
      omega
  | fork preferred other =>
      rcases within with ⟨⟨first, last⟩, otherFirst, otherLast⟩
      rcases List.mem_cons.mp among with here | there
      · rw [here]
        change low ≤ (thread.instruction + preferred).toNat ∧
          (thread.instruction + preferred).toNat ≤ high
        omega
      · rw [List.mem_singleton.mp there]
        change low ≤ (thread.instruction + other).toNat ∧
          (thread.instruction + other).toNat ≤ high
        omega

variable {program : Array Instruction}

/-- From the index on the program reads as the given instructions. -/
def CodeAt (program : Array Instruction) (index : Nat) (code : List Instruction) : Prop :=
  program.toList.drop index = code

theorem CodeAt.getElem? {start : Nat} {block after : List Instruction}
    (code : CodeAt program start (block ++ after)) {index : Nat} (inside : index < block.length) :
    program[start + index]? = block[index]? := by
  rw [← Array.getElem?_toList, ← List.getElem?_drop, code, List.getElem?_append_left inside]

theorem CodeAt.head {start : Nat} {instruction : Instruction} {after : List Instruction}
    (code : CodeAt program start (instruction :: after)) : program[start]? = some instruction :=
  have block : CodeAt program start ([instruction] ++ after) := code
  block.getElem? Nat.zero_lt_one

theorem CodeAt.after {start : Nat} (block : List Instruction) {after : List Instruction}
    (code : CodeAt program start (block ++ after)) :
    CodeAt program (start + block.length) after := by
  unfold CodeAt at *
  rw [← List.drop_drop, code, List.drop_left]

/-- A way that stands in a block goes on to the end of the block. -/
theorem Leads.cross {start : Nat} {block after : List Instruction}
    (code : CodeAt program start (block ++ after)) (isBlock : IsBlock block)
    {thread final : Thread} (leads : Leads program thread final)
    (above : start ≤ thread.instruction)
    (below : thread.instruction ≤ start + block.length) :
    ∃ other taken, other.instruction = start + block.length ∧
      Leads program other final ∧ Passes block thread other taken := by
  induction leads with
  | @matched thread ends =>
      refine ⟨thread, [], ?_, .matched ends, .refl _ _⟩
      have outside := Array.getElem?_eq_none_iff.mp ends
      have sizes := congrArg List.length code
      rw [List.length_drop, Array.length_toList, List.length_append] at sizes
      omega
  | @step thread next final instruction here among later ih =>
      by_cases atEnd : thread.instruction = start + block.length
      · exact ⟨thread, [], atEnd, .step here among later, .refl _ _⟩
      · rcases Nat.exists_eq_add_of_le above with ⟨index, place⟩
        have inside : index < block.length := by omega
        have inBlock : block[index]? = some instruction := by
          rw [← code.getElem? inside, ← place]
          exact here
        have jumps := JumpWithin.getElem? isBlock inBlock
        have within := instruction_of_follow start (start + block.length)
          (jumps.mono (by omega) (by omega)) above (by omega) among
        rcases exists_passes_of_follow (List.mem_of_getElem? inBlock) among with ⟨taken, passes⟩
        rcases ih within.1 within.2 with ⟨other, more, otherEnd, otherLeads, otherPasses⟩
        exact ⟨other, taken ++ more, otherEnd, otherLeads, passes.trans otherPasses⟩

end Pattern
end PageRouting
