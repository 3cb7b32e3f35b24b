import PageRouting.Proofs.Template.Segments
import PageRouting.Proofs.Template.Splice

namespace PageRouting
namespace Pattern

/-!
# Matches of a template

Whatever the placeholder pattern is, a match of a template goes through its
pieces one after the other: through a literal by its characters, through a
placeholder by some text or other.  So the text is filled from what the match
has recorded.  For this each placeholder must have recorded its own text, which
it has if the groups of the placeholders are the only ones.
-/

open Template (fill pieceNames)

/-! ## No groups but those of placeholders -/

/-- The group of a placeholder holds no other group. -/
def IsPlain (index : Nat) (body : Node) (last : Nat) : Prop :=
  body.groupIndices = [] ∧ last = index

theorem IsSegment.isPlain {index last : Nat} {body : Node} (segment : IsSegment index body last) :
    IsPlain index body last :=
  ⟨segment.1 ▸ rfl, segment.2⟩

theorem Layout.mono {Body Other : Nat → Node → Nat → Prop}
    (every : ∀ index body last, Body index body last → Other index body last) {groups : Nat}
    {pieces : List Piece} {nodes : List Node} (layout : Layout Body groups pieces nodes) :
    Layout Other groups pieces nodes := by
  induction layout with
  | nil groups => exact .nil groups
  | literal rest ih => exact .literal ih
  | placeholder inside rest ih => exact .placeholder (every _ _ _ inside) ih

/-- Without placeholders it does not matter what they may hold. -/
theorem Layout.of_pieceNames_eq_nil {Body Other : Nat → Node → Nat → Prop} {groups start : Nat}
    {pieces : List Piece} {nodes : List Node} (layout : Layout Body groups pieces nodes)
    (none : pieceNames pieces = []) : Layout Other start pieces nodes := by
  induction layout with
  | nil groups => exact .nil start
  | literal rest ih => exact .literal (ih none)
  | placeholder inside rest ih => exact absurd none (List.cons_ne_nil _ _)

/-- Each placeholder takes an index of its own. -/
theorem Layout.exists_index {groups : Nat} {pieces : List Piece} {nodes : List Node}
    (layout : Layout Reader.Holds groups pieces nodes) (some : pieceNames pieces ≠ []) :
    ∃ index ∈ nodes.flatMap Node.groupIndices, groups + (pieceNames pieces).length ≤ index := by
  induction layout with
  | nil groups => exact absurd rfl some
  | @literal groups text pieces nodes rest ih =>
      rcases ih some with ⟨index, member, above⟩
      refine ⟨index, ?_, above⟩
      rw [List.flatMap_append]
      exact List.mem_append_right _ member
  | @placeholder groups last name body pieces nodes inside rest ih =>
      have count : (pieceNames (.placeholder name :: pieces)).length =
          (pieceNames pieces).length + 1 := rfl
      by_cases none : pieceNames pieces = []
      · refine ⟨groups + 1, List.mem_append_left _ List.mem_cons_self, ?_⟩
        rw [count, none, List.length_nil]
      · rcases ih none with ⟨index, member, above⟩
        refine ⟨index, List.mem_append_right _ member, ?_⟩
        have begins := inside.1
        omega

/-- If there are no more groups than placeholders, no placeholder holds one. -/
theorem Layout.isPlain {groups : Nat} {pieces : List Piece} {nodes : List Node}
    (layout : Layout Reader.Holds groups pieces nodes)
    (below : ∀ index ∈ nodes.flatMap Node.groupIndices,
      index ≤ groups + (pieceNames pieces).length) : Layout IsPlain groups pieces nodes := by
  induction layout with
  | nil groups => exact .nil groups
  | @literal groups text pieces nodes rest ih =>
      refine .literal (ih fun index member => below index ?_)
      rw [List.flatMap_append]
      exact List.mem_append_right _ member
  | @placeholder groups last name body pieces nodes inside rest ih =>
      rcases inside with ⟨begins, above⟩
      have count : (pieceNames (.placeholder name :: pieces)).length =
          (pieceNames pieces).length + 1 := rfl
      rw [count] at below
      have ofBody : ∀ index ∈ body.groupIndices,
          index ≤ groups + ((pieceNames pieces).length + 1) :=
        fun index member =>
          below index (List.mem_append_left _ (List.mem_cons_of_mem _ member))
      by_cases none : pieceNames pieces = []
      · rw [none, List.length_nil] at ofBody
        have plain : IsPlain (groups + 1) body (groups + 1) := by
          refine ⟨List.eq_nil_iff_forall_not_mem.mpr fun index member => ?_, rfl⟩
          have lower := (above index member).1
          have upper := ofBody index member
          omega
        exact .placeholder plain (rest.of_pieceNames_eq_nil none)
      · rcases rest.exists_index none with ⟨next, among, far⟩
        have upper := below next (List.mem_append_right _ among)
        obtain rfl : last = groups + 1 := by omega
        refine .placeholder ⟨?_, rfl⟩ (ih fun index member => ?_)
        · refine List.eq_nil_iff_forall_not_mem.mpr fun index member => ?_
          have bounds := above index member
          omega
        · have bound := below index (List.mem_append_right _ member)
          omega

/-! ## Ways through the pieces -/

variable {program : Array Instruction} {text : List Char}

/-- Before its end the way goes on from an instruction. -/
theorem Leads.exists_next {thread final : Thread} {instruction : Instruction}
    (leads : Leads program thread final)
    (here : program[thread.instruction]? = some instruction) :
    ∃ next ∈ thread.follow instruction, Leads program next final := by
  cases leads with
  | matched ends => exact absurd (here.symm.trans ends) (Option.some_ne_none _)
  | step other among later =>
      rcases Option.some.inj (here.symm.trans other) with rfl
      exact ⟨_, among, later⟩

/-- At the end there is nothing more, and the match is the thread itself. -/
theorem Leads.of_end {thread final : Thread} (leads : Leads program thread final)
    (code : CodeAt program thread.instruction [.check .textEnd]) :
    thread.rest = [] ∧ final.entered = thread.entered ∧ final.left = thread.left := by
  rcases leads.exists_next code.head with ⟨next, among, later⟩
  have beyond : program[thread.instruction + 1]? = none := by
    have after := code.after [.check .textEnd]
    apply Array.getElem?_eq_none
    rw [← Array.length_toList]
    exact List.drop_eq_nil_iff.mp after
  cases rest : thread.rest with
  | cons c tail => simp [Thread.follow, Assertion.holds, rest] at among
  | nil =>
      simp only [Thread.follow, Assertion.holds, rest, List.head?_nil, Option.isNone_none,
        if_true, List.mem_singleton] at among
      subst among
      cases later with
      | matched ends => exact ⟨rfl, rfl, rfl⟩
      | step here _ _ => exact absurd (here.symm.trans beyond) (Option.some_ne_none _)

/-- After the pieces there may be one more slash. -/
theorem Leads.of_tail {thread final : Thread} (leads : Leads program thread final)
    (code : CodeAt program thread.instruction tailCode) :
    (thread.rest = [] ∨ thread.rest = ['/']) ∧ final.entered = thread.entered ∧
      final.left = thread.left := by
  have afterFork : CodeAt program (thread.instruction + 1)
      [.take (.single '/'), .check .textEnd] := code.after [.fork 1 2]
  have afterSlash : CodeAt program (thread.instruction + 2) [.check .textEnd] :=
    code.after [.fork 1 2, .take (.single '/')]
  rcases leads.exists_next code.head with ⟨next, among, later⟩
  rcases List.mem_cons.mp among with rfl | bare
  · have takeHere : program[(thread.moveBy 1).instruction]? = some (.take (.single '/')) :=
      afterFork.head
    rcases later.exists_next takeHere with ⟨slash, taken, onward⟩
    cases rest : thread.rest with
    | nil => simp [Thread.follow, Thread.moveBy, rest] at taken
    | cons c tail =>
        simp only [Thread.follow, Thread.moveBy, rest] at taken
        split at taken
        · next isSlash =>
            rw [List.mem_singleton.mp taken] at onward
            rcases onward.of_end afterSlash with ⟨nothing, entered, left⟩
            have same : c = '/' := by simpa [Text.CharSet.contains_single] using isSlash
            have none : tail = [] := nothing
            exact ⟨Or.inr (by rw [same, none]), entered, left⟩
        · exact absurd taken List.not_mem_nil
  · rw [List.mem_singleton.mp bare] at later
    have endHere : CodeAt program (thread.moveBy 2).instruction [.check .textEnd] := afterSlash
    rcases later.of_end endHere with ⟨nothing, entered, left⟩
    exact ⟨Or.inl nothing, entered, left⟩

/-- Literal text has been there to go past. -/
theorem Leads.of_literal {literal : List Char} {code : List Instruction} {thread final : Thread}
    (leads : Leads program thread final) (reads : thread.rest = text.drop thread.position)
    (here : CodeAt program thread.instruction
      (literal.map (fun c => .take (.single c)) ++ code)) :
    ∃ next, thread.rest = literal ++ next.rest ∧ next.rest = text.drop next.position ∧
      CodeAt program next.instruction code ∧ next.entered = thread.entered ∧
      next.left = thread.left ∧ Leads program next final := by
  induction literal generalizing thread with
  | nil => exact ⟨thread, rfl, reads, here, rfl, rfl, leads⟩
  | cons c literal ih =>
      rcases leads.exists_next here.head with ⟨next, among, later⟩
      cases rest : thread.rest with
      | nil => simp [Thread.follow, rest] at among
      | cons d tail =>
          simp only [Thread.follow, rest] at among
          split at among
          · next isHere =>
              rcases List.mem_singleton.mp among with rfl
              have same : d = c := by simpa [Text.CharSet.contains_single] using isHere
              have nextReads : tail = text.drop (thread.position + 1) := by
                rw [← List.drop_drop, ← reads, rest, List.drop_succ_cons, List.drop_zero]
              rcases ih later nextReads (here.after [.take (.single c)]) with
                ⟨last, shape, lastReads, code, entered, left, lastLeads⟩
              have shape : tail = literal ++ last.rest := shape
              exact ⟨last, by rw [same, shape, List.cons_append], lastReads, code, entered, left,
                lastLeads⟩
          · exact absurd among List.not_mem_nil

/-- A placeholder has gone past some text and recorded where it stood. -/
theorem Leads.of_placeholder {index : Nat} {body : Node} {code : List Instruction}
    {thread final : Thread} (leads : Leads program thread final)
    (reads : thread.rest = text.drop thread.position) (plain : body.groupIndices = [])
    (here : CodeAt program thread.instruction ((Node.group index body).program ++ code)) :
    ∃ next value, thread.rest = value ++ next.rest ∧ next.rest = text.drop next.position ∧
      CodeAt program next.instruction code ∧
      next.entered.lookup index = some thread.position ∧
      next.left.lookup index = some (thread.position + value.length) ∧
      (∀ other, other ≠ index → next.entered.lookup other = thread.entered.lookup other ∧
        next.left.lookup other = thread.left.lookup other) ∧
      Leads program next final := by
  have shape : (Node.group index body).program ++ code =
      .enter index :: (body.program ++ (.leave index :: code)) := by
    simp [Node.program]
  rw [shape] at here
  rcases leads.exists_next here.head with ⟨entered, among, inside⟩
  obtain rfl : entered = thread.enter index := List.mem_singleton.mp among
  have bodyCode : CodeAt program (thread.instruction + 1)
      (body.program ++ (.leave index :: code)) :=
    here.after [.enter index]
  rcases inside.cross bodyCode body.isBlock_program (Nat.le_refl _) (Nat.le_add_right _ _) with
    ⟨last, value, place, lastLeads, passes⟩
  have untouched : ∀ other, last.entered.lookup other = (thread.enter index).entered.lookup other ∧
      last.left.lookup other = thread.left.lookup other := by
    intro other
    refine passes.groups other fun instruction member named => ?_
    have among := Node.mem_groupIndices_of_mem_program member named
    rw [plain] at among
    exact absurd among List.not_mem_nil
  have leaveCode : CodeAt program last.instruction (.leave index :: code) :=
    place ▸ bodyCode.after _
  rcases lastLeads.exists_next leaveCode.head with ⟨left, among, later⟩
  obtain rfl : left = last.leave index := List.mem_singleton.mp among
  have rest : thread.rest = value ++ last.rest := passes.rest
  have position : last.position = thread.position + value.length := passes.position
  refine ⟨last.leave index, value, rest, ?_, leaveCode.after [.leave index], ?_, ?_, ?_,
    later⟩
  · change last.rest = text.drop last.position
    rw [position, ← List.drop_drop, ← reads, rest, List.drop_left]
  · exact (untouched index).1.trans List.lookup_cons_self
  · rw [← position]
    exact List.lookup_cons_self
  · intro other different
    rcases untouched other with ⟨sameEntered, sameLeft⟩
    exact ⟨sameEntered.trans (lookup_cons_of_ne different _),
      (lookup_cons_of_ne different _).trans sameLeft⟩

/-- A way through a layout fills the text with what it records. -/
theorem Leads.of_layout {groups : Nat} {pieces : List Piece} {nodes : List Node}
    (layout : Layout IsPlain groups pieces nodes) {thread final : Thread}
    (leads : Leads program thread final) (reads : thread.rest = text.drop thread.position)
    (code : CodeAt program thread.instruction (nodes.flatMap Node.program ++ tailCode)) :
    ∃ values, values.length = (pieceNames pieces).length ∧
      (thread.rest = fill pieces values ∨ thread.rest = fill pieces values ++ ['/']) ∧
      Fills text groups thread values final := by
  induction layout generalizing thread with
  | nil groups =>
      rcases leads.of_tail code with ⟨ends, entered, left⟩
      refine ⟨[], rfl, ends, trivial, fun index _ => ⟨by rw [entered], by rw [left]⟩⟩
  | @literal groups literal pieces nodes rest ih =>
      rw [program_literals, List.append_assoc] at code
      rcases leads.of_literal reads code with
        ⟨next, shape, nextReads, nextCode, entered, left, later⟩
      rcases ih later nextReads nextCode with ⟨values, count, filled, records, keeps⟩
      refine ⟨values, count, ?_, records, keeps.of_eq entered left⟩
      rw [shape]
      refine filled.imp (fun bare => ?_) fun slashed => ?_
      · rw [bare, fill]
      · rw [slashed, fill, List.append_assoc]
  | @placeholder groups last name body pieces nodes inside rest ih =>
      rcases inside with ⟨plain, rfl⟩
      rw [List.flatMap_cons, List.append_assoc] at code
      rcases leads.of_placeholder reads plain code with
        ⟨next, value, shape, nextReads, nextCode, entered, left, others, later⟩
      rcases ih later nextReads nextCode with ⟨values, count, filled, records, keeps⟩
      refine ⟨value :: values, congrArg (· + 1) count, ?_, ⟨⟨thread.position, ?_, ?_⟩, records⟩, ?_⟩
      · rw [shape]
        refine filled.imp (fun bare => ?_) fun slashed => ?_
        · rw [bare, fill]
        · rw [slashed, fill, List.append_assoc]
      · rcases keeps (groups + 1) (Nat.le_refl _) with ⟨keptEntered, keptLeft⟩
        rw [Thread.bounds?, keptEntered, keptLeft, entered, left]
        rfl
      · rw [← reads, shape, List.take_left]
      · intro index below
        rcases keeps index (Nat.le_succ_of_le below) with ⟨keptEntered, keptLeft⟩
        rcases others index (by omega) with ⟨sameEntered, sameLeft⟩
        exact ⟨keptEntered.trans sameEntered, keptLeft.trans sameLeft⟩

/-- Only a thread at the start of the text begins a match of a template. -/
theorem leads_first_of_search {nodes : List Node} (program_eq : program.toList = wholeProgram nodes)
    {final : Thread} (found : search program text = some final) :
    Leads program (Thread.first text) final := by
  have code : CodeAt program 0 (wholeProgram nodes) := program_eq
  rcases leads_of_search found with ⟨thread, member, leads⟩
  rcases eq_or_isSome_of_mem_starts member with rfl | ⟨start, later⟩
  · exact leads
  · have here : program[thread.instruction]? = some (.check .textStart) := start.symm ▸ code.head
    rcases leads.exists_next here with ⟨next, among, _⟩
    have present : thread.previous.isNone = false := by
      rw [← Option.not_isSome, later, Bool.not_true]
    simp [Thread.follow, Assertion.holds, present] at among

/-- A match of a template fills the whole text with what it records. -/
theorem exists_fill_of_search {pieces : List Piece} {nodes : List Node}
    (layout : Layout IsPlain 0 pieces nodes) (program_eq : program.toList = wholeProgram nodes)
    {final : Thread} (found : search program text = some final) :
    ∃ values, values.length = (pieceNames pieces).length ∧
      (text = fill pieces values ∨ text = fill pieces values ++ ['/']) ∧
      Records text 0 values final := by
  have code : CodeAt program 0 (wholeProgram nodes) := program_eq
  rcases (leads_first_of_search program_eq found).exists_next code.head with ⟨next, among, later⟩
  obtain rfl : next = (Thread.first text).next := List.mem_singleton.mp among
  rcases later.of_layout layout rfl (code.after [.check .textStart]) with
    ⟨values, count, filled, records, _⟩
  exact ⟨values, count, filled, records⟩

end Pattern
end PageRouting
