import PageRouting.Proofs.History.Delivery
import PageRouting.Proofs.History.Zipper

namespace PageRouting
namespace History

/-!
# Histories move as zippers

At every moment of a run, and so whenever a listener is called, the stack of a
history shows the zipper that is made by the actions done so far.  It does not
matter who has done them, nor how changes and calls are nested: telling a
listener does not touch the stack, and what it does in answer are actions like
others.

Moving is refused at the ends of the zipper, and then nothing happens.  As long
as no other change is made, moving back and then forward, or the other way
round, leads to the very same stack.
-/

variable {ε : Type}

/-! ## Stacks and their zippers -/

namespace Zipper

variable {α : Type} {zipper next : Zipper α}

theorem isSome_back?_iff : zipper.back?.isSome = true ↔ zipper.past ≠ [] := by
  rcases zipper with ⟨_ | ⟨previous, past⟩, current, future⟩
  · exact ⟨fun moves => absurd moves Bool.false_ne_true, fun more => absurd rfl more⟩
  · exact ⟨fun _ => List.cons_ne_nil _ _, fun _ => rfl⟩

theorem isSome_forward?_iff : zipper.forward?.isSome = true ↔ zipper.future ≠ [] := by
  rcases zipper with ⟨past, current, _ | ⟨following, future⟩⟩
  · exact ⟨fun moves => absurd moves Bool.false_ne_true, fun more => absurd rfl more⟩
  · exact ⟨fun _ => List.cons_ne_nil _ _, fun _ => rfl⟩

theorem forward?_of_back? (moves : zipper.back? = some next) : next.forward? = some zipper := by
  rcases zipper with ⟨_ | ⟨previous, past⟩, current, future⟩ <;> cases moves
  rfl

theorem back?_of_forward? (moves : zipper.forward? = some next) : next.back? = some zipper := by
  rcases zipper with ⟨past, current, _ | ⟨following, future⟩⟩ <;> cases moves
  rfl

end Zipper

namespace Stack

theorem cursor_eq_length_past (stack : Stack) : stack.cursor = stack.zipper.past.length := by
  rw [zipper, List.length_reverse, past, List.length_take,
    Nat.min_eq_left (Nat.le_of_lt stack.cursor_lt)]

/-- A stack is determined by what it shows. -/
theorem eq_of_zipper_eq {stack other : Stack} (same : stack.zipper = other.zipper) :
    stack = other := by
  have cursors : stack.cursor = other.cursor := by
    rw [cursor_eq_length_past, same, ← cursor_eq_length_past]
  rcases Zipper.mk.inj same with ⟨past, current, future⟩
  have entries : stack.entries = other.entries := by
    rw [stack.entries_eq, other.entries_eq, List.reverse_inj.mp past, current, future]
  rcases stack with ⟨_, _, _⟩
  cases cursors
  cases entries
  rfl

end Stack

/-! ## Steps -/

/-- Where an action leads in a zipper.  Only moving can be refused. -/
def Action.move? : Action ε → Zipper Location → Option (Zipper Location)
  | .push location, zipper => some (zipper.push location)
  | .replace location, zipper => some (zipper.replace location)
  | .back, zipper => zipper.back?
  | .forward, zipper => zipper.forward?
  | .subscribe _, zipper => some zipper

/-- The zipper after a step. -/
def Item.moved : Item ε → Zipper Location → Zipper Location
  | .act action, zipper => (action.move? zipper).getD zipper
  | .tell _ _, zipper => zipper

/-- The zipper after the steps of a chronicle. -/
def zipperAfter (first : Zipper Location) (entries : List (Entry ε)) : Zipper Location :=
  entries.foldl (fun zipper entry => entry.item.moved zipper) first

/-- An action is refused where it leads nowhere in the zipper. -/
theorem admits_eq (history : History ε) (action : Action ε) :
    history.admits action = (action.move? history.stack.zipper).isSome := by
  cases action with
  | back => rw [admits, Action.move?, ← Stack.map_zipper_back?, Option.isSome_map]
  | forward => rw [admits, Action.move?, ← Stack.map_zipper_forward?, Option.isSome_map]
  | _ => rfl

/-- A step moves the stack as it moves the zipper. -/
theorem zipper_perform (history : History ε) (item : Item ε) :
    (history.perform item).1.stack.zipper = item.moved history.stack.zipper := by
  rcases item with action | ⟨index, location⟩
  · cases action with
    | push location => exact history.stack.zipper_push location
    | replace location => exact history.stack.zipper_replace location
    | back =>
        rw [Item.moved, Action.move?, ← Stack.map_zipper_back?]
        simp only [perform, act]
        cases history.stack.back? <;> rfl
    | forward =>
        rw [Item.moved, Action.move?, ← Stack.map_zipper_forward?]
        simp only [perform, act]
        cases history.stack.forward? <;> rfl
    | subscribe listener => rfl
  · simp only [perform, tell]
    cases history.listeners[index]? <;> rfl

/-- An action that is refused changes nothing, and nothing follows from it. -/
theorem perform_of_refused {history : History ε} {action : Action ε}
    (refused : history.admits action = false) :
    history.perform (.act action) = (history, []) := by
  cases action with
  | back =>
      have stays : history.stack.back? = none :=
        Option.isNone_iff_eq_none.mp (Option.isSome_eq_false_iff.mp refused)
      simp only [perform, act, stays]
  | forward =>
      have stays : history.stack.forward? = none :=
        Option.isNone_iff_eq_none.mp (Option.isSome_eq_false_iff.mp refused)
      simp only [perform, act, stays]
  | _ => exact absurd refused.symm Bool.false_ne_true

/-- The stack stays as it is in a step that is no change. -/
theorem stack_perform_of_change?_eq_none {number : Nat} {cause : Option Nat}
    {history : History ε} {item : Item ε}
    (unchanged : Entry.change? ⟨number, cause, history, item⟩ = none) :
    (history.perform item).1.stack = history.stack := by
  have performed := history.performs item
  generalize (history.perform item).1 = next, (history.perform item).2 = items at performed
  cases performed with
  | settle settles =>
      simp only [Entry.change?, settles, Option.map_some, reduceCtorEq] at unchanged
  | _ => rfl

/-! ## Runs -/

namespace Run

variable {number : Nat} {history : History ε} {agenda : List (Due ε)}
  {before after : List (Entry ε)} {entry : Entry ε}

/-- A step is made on the zipper that the steps before it have made, and the chronicle goes on from
where it leads. -/
theorem zipper_of_append (recorded : chronicle number history agenda = before ++ entry :: after) :
    entry.history.stack.zipper = zipperAfter history.stack.zipper before ∧
      ∃ rest, after = chronicle (entry.number + 1) (entry.history.perform entry.item).1 rest := by
  induction number, history, agenda using chronicle.induct generalizing before with
  | case1 number history =>
      rw [chronicle] at recorded
      exact absurd (List.append_eq_nil_iff.mp recorded.symm).2 (List.cons_ne_nil _ _)
  | case2 number history due rest ih =>
      rw [chronicle] at recorded
      cases before with
      | nil =>
          cases recorded
          exact ⟨rfl, _, rfl⟩
      | cons first before =>
          rcases List.cons.inj recorded with ⟨rfl, later⟩
          rw [zipperAfter, List.foldl_cons, ← zipper_perform]
          exact ih later

/-- A run ends with the zipper that its steps have made. -/
theorem zipper_settle (number : Nat) (history : History ε) (agenda : List (Due ε)) :
    (settle history (agenda.map Due.item)).stack.zipper =
      zipperAfter history.stack.zipper (chronicle number history agenda) := by
  induction number, history, agenda using chronicle.induct with
  | case1 number history => rw [chronicle, List.map_nil, settle]; rfl
  | case2 number history due rest ih =>
      rw [← settle_step number, ih, chronicle, zipperAfter, zipperAfter, List.foldl_cons,
        zipper_perform]

/-- As long as there is no change, the stack stays as it is. -/
theorem stack_of_append (recorded : chronicle number history agenda = before ++ entry :: after)
    (unchanged : changes before = []) : entry.history.stack = history.stack := by
  induction number, history, agenda using chronicle.induct generalizing before with
  | case1 number history =>
      rw [chronicle] at recorded
      exact absurd (List.append_eq_nil_iff.mp recorded.symm).2 (List.cons_ne_nil _ _)
  | case2 number history due rest ih =>
      rw [chronicle] at recorded
      cases before with
      | nil =>
          cases recorded
          rfl
      | cons first before =>
          rcases List.cons.inj recorded with ⟨rfl, later⟩
          have none := List.filterMap_eq_nil_iff.mp unchanged
          have here := none _ List.mem_cons_self
          have further : changes before = [] :=
            List.filterMap_eq_nil_iff.mpr fun other member => none other (.tail _ member)
          rw [ih later further, stack_perform_of_change?_eq_none here]

theorem number_le_of_mem (member : entry ∈ chronicle number history agenda) :
    number ≤ entry.number := by
  have numbered := List.mem_map_of_mem (f := Entry.number) member
  rw [number_chronicle] at numbered
  exact (List.mem_range'_1.mp numbered).1

/-- What an earlier step has caused stands on the agenda. -/
theorem exists_due_of_cause (member : entry ∈ chronicle number history agenda) {source : Nat}
    (caused : entry.cause = some source) (earlier : source < number) :
    ∃ due ∈ agenda, due.cause = some source ∧ due.item = entry.item := by
  induction number, history, agenda using chronicle.induct with
  | case1 number history =>
      rw [chronicle] at member
      exact absurd member List.not_mem_nil
  | case2 number history due rest ih =>
      rw [chronicle] at member
      rcases List.mem_cons.mp member with rfl | later
      · exact ⟨due, List.mem_cons_self, caused, rfl⟩
      · rcases ih later (Nat.lt_succ_of_lt earlier) with ⟨other, among, source', same⟩
        rcases List.mem_append.mp among with follows | before
        · rcases List.mem_map.mp follows with ⟨item, _, rfl⟩
          exact absurd (Option.some.inj source').symm (Nat.ne_of_lt earlier)
        · exact ⟨other, List.mem_cons_of_mem _ before, source', same⟩

/-- What a step has caused follows from it. -/
theorem item_mem_of_cause
    (older : ∀ due ∈ agenda, ∀ source, due.cause = some source → source < number)
    (member : entry ∈ chronicle number history agenda) {other : Entry ε}
    (memberToo : other ∈ chronicle number history agenda)
    (caused : other.cause = some entry.number) :
    other.item ∈ (entry.history.perform entry.item).2 := by
  induction number, history, agenda using chronicle.induct with
  | case1 number history =>
      rw [chronicle] at member
      exact absurd member List.not_mem_nil
  | case2 number history due rest ih =>
      rw [chronicle] at member memberToo
      have olderNext : ∀ next ∈ history.consequences number due.item ++ rest, ∀ source,
          next.cause = some source → source < number + 1 := by
        intro next among source cause
        rcases List.mem_append.mp among with follows | before
        · rcases List.mem_map.mp follows with ⟨item, _, rfl⟩
          exact Nat.lt_succ_of_le (Nat.le_of_eq (Option.some.inj cause).symm)
        · exact Nat.lt_succ_of_lt (older next (List.mem_cons_of_mem _ before) source cause)
      rcases List.mem_cons.mp memberToo with rfl | later
      · -- what is done first was caused before
        have earlier := older due List.mem_cons_self entry.number caused
        rcases List.mem_cons.mp member with rfl | among
        · exact absurd earlier (Nat.lt_irrefl _)
        · exact absurd (Nat.lt_trans earlier (Nat.lt_succ_self _))
            (Nat.not_lt_of_le (number_le_of_mem among))
      · rcases List.mem_cons.mp member with rfl | among
        · rcases exists_due_of_cause later caused (Nat.lt_succ_self number) with
            ⟨next, standing, cause, same⟩
          rcases List.mem_append.mp standing with follows | before
          · rcases List.mem_map.mp follows with ⟨item, produced, rfl⟩
            exact same ▸ produced
          · exact absurd (older next (List.mem_cons_of_mem _ before) _ cause) (Nat.lt_irrefl _)
        · exact ih olderNext among later

end Run

/-! ## Every moment of a run -/

/-- A history whose stack shows a zipper. -/
structure Mirrors (history : History ε) (zipper : Zipper Location) : Prop where
  shown : history.stack.zipper = zipper
  length_eq : history.length = zipper.past.length + 1 + zipper.future.length
  cursor_eq : history.stack.cursor = zipper.past.length
  /-- The place of the current location is among the entries, and one can move on from it. -/
  cursor_lt : history.stack.cursor < history.stack.entries.length
  current_eq : history.stack.entries[history.stack.cursor]? = some zipper.current
  back_iff : history.admits .back = true ↔ zipper.past ≠ []
  forward_iff : history.admits .forward = true ↔ zipper.future ≠ []

theorem mirrors_zipper (history : History ε) : history.Mirrors history.stack.zipper where
  shown := rfl
  length_eq := history.stack.length_zipper.symm
  cursor_eq := history.stack.cursor_eq_length_past
  cursor_lt := history.stack.cursor_lt
  current_eq := List.getElem?_eq_getElem history.stack.cursor_lt
  back_iff := by rw [admits_eq, Action.move?, Zipper.isSome_back?_iff]
  forward_iff := by rw [admits_eq, Action.move?, Zipper.isSome_forward?_iff]

/-- What a step of a chronicle does when its history shows the zipper. -/
structure Entry.MovesWith (entry : Entry ε) (entries : List (Entry ε))
    (zipper : Zipper Location) : Prop where
  /-- The stack moves with the zipper. -/
  moves : (entry.history.perform entry.item).1.stack.zipper = entry.item.moved zipper
  /-- The answer says whether the action leads anywhere. -/
  answer : ∀ action, entry.item = .act action →
    entry.history.admits action = (action.move? zipper).isSome
  /-- If it does not, nothing changes and no listener is called. -/
  refused : ∀ action, entry.item = .act action → entry.history.admits action = false →
    (entry.history.perform entry.item).1 = entry.history ∧
      ∀ other ∈ entries, other.cause ≠ some entry.number

/-- Moving one way and the other. -/
inductive Action.Reverses : Action ε → Action ε → Prop where
  | forward : Reverses .forward .back
  | back : Reverses .back .forward

theorem Action.Reverses.move?_eq {one other : Action ε} (reverses : other.Reverses one)
    {zipper next : Zipper Location} (moves : one.move? zipper = some next) :
    other.move? next = some zipper := by
  cases reverses with
  | forward => exact Zipper.forward?_of_back? moves
  | back => exact Zipper.back?_of_forward? moves

/-- At every moment of a run the stack shows the zipper that the actions done so far have made, and
the answers to actions are those of the zipper.  A move that is undone before any other change
leaves the stack as it was. -/
theorem mirrors_zipperAfter (initial : Location) (actions : List (Action ε)) :
    let entries := (ofLocation initial).chronicle actions
    (∀ before entry after, entries = before ++ entry :: after →
      entry.history.Mirrors (zipperAfter (.start initial) before) ∧
        entry.MovesWith entries (zipperAfter (.start initial) before)) ∧
      ((ofLocation initial).applyAll actions).Mirrors (zipperAfter (.start initial) entries) ∧
      ∀ before first between second after one other,
        entries = before ++ first :: (between ++ second :: after) →
        other.Reverses one → first.item = .act one → first.history.admits one = true →
        changes between = [] → second.item = .act other →
          second.history.admits other = true ∧
            (second.history.perform second.item).1.stack = first.history.stack := by
  intro entries
  refine ⟨?_, ?_, ?_⟩
  · intro before entry after recorded
    rcases Run.zipper_of_append recorded with ⟨shown, _⟩
    refine ⟨shown ▸ mirrors_zipper entry.history, ?_⟩
    have older : ∀ due ∈ actions.map fun action => (⟨.act action, none⟩ : Due ε),
        ∀ source, due.cause = some source → source < 0 := by
      intro due member source caused
      rcases List.mem_map.mp member with ⟨action, _, rfl⟩
      cases caused
    have member : entry ∈ entries :=
      recorded ▸ List.mem_append_right _ List.mem_cons_self
    exact {
      moves := shown ▸ zipper_perform entry.history entry.item
      answer := fun action _ => shown ▸ admits_eq entry.history action
      refused := by
        intro action acts refused
        have nothing := perform_of_refused refused
        rw [← acts] at nothing
        refine ⟨congrArg Prod.fst nothing, fun other among caused => ?_⟩
        have follows := Run.item_mem_of_cause older member among caused
        rw [nothing] at follows
        exact List.not_mem_nil follows }
  · have final := Run.zipper_settle 0 (ofLocation initial)
      (actions.map fun action => (⟨.act action, none⟩ : Due ε))
    rw [List.map_map] at final
    have shown : ((ofLocation initial).applyAll actions).stack.zipper =
        zipperAfter (.start initial) entries := by
      rw [applyAll_eq_settle]
      exact final
    exact shown ▸ mirrors_zipper _
  · intro before first between second after one other recorded reverses acts admitted unchanged
      actsToo
    rcases Run.zipper_of_append recorded with ⟨_, rest, later⟩
    have kept := Run.stack_of_append later.symm unchanged
    rw [admits_eq] at admitted
    rcases Option.isSome_iff_exists.mp admitted with ⟨next, moves⟩
    have reached : second.history.stack.zipper = next := by
      rw [kept, zipper_perform, acts, Item.moved, moves, Option.getD_some]
    have returns := reverses.move?_eq moves
    constructor
    · rw [admits_eq, reached, returns, Option.isSome_some]
    · apply Stack.eq_of_zipper_eq
      rw [zipper_perform, actsToo, Item.moved, reached, returns, Option.getD_some]

/-- Told `/b`, the listener goes back, registers another listener, and goes forward twice, which is
possible once. -/
def wanderingRun : List (Action (String × Location)) :=
  [.subscribe (named "first"
      [whenAt "/b" [.back, .subscribe (named "second" []), .forward, .forward]]),
    .push ⟨"/b", ""⟩]

def wanderingChronicle : List (Entry (String × Location)) :=
  (ofLocation ⟨"/a", ""⟩).chronicle wanderingRun

/-- A list is split where one of its entries stands. -/
theorem eq_take_append_cons_drop {α : Type} {entries : List α} {place : Nat} {entry : α}
    (stands : entries[place]? = some entry) :
    entries = entries.take place ++ entry :: entries.drop (place + 1) := by
  rcases List.getElem?_eq_some_iff.mp stands with ⟨inside, rfl⟩
  rw [← List.drop_eq_getElem_cons inside, List.take_append_drop]

/-- The listener goes back in the fifth step and forward in the ninth, and is refused in the
twelfth. -/
theorem mirrors_wanderingRun :
    ∃ first second last, wanderingChronicle[4]? = some first ∧
      wanderingChronicle[8]? = some second ∧ wanderingChronicle[11]? = some last ∧
      first.item = .act .back ∧ second.item = .act .forward ∧ last.item = .act .forward ∧
      first.history.stack.zipper = ⟨[⟨"/a", ""⟩], ⟨"/b", ""⟩, []⟩ ∧
      changes ((wanderingChronicle.drop 5).take 3) = [] ∧ second.history.admits .forward = true ∧
      (second.history.perform second.item).1.stack = first.history.stack ∧
      last.history.Mirrors ⟨[⟨"/a", ""⟩], ⟨"/b", ""⟩, []⟩ ∧
      last.history.admits .forward = false ∧
      ∀ other ∈ wanderingChronicle, other.cause ≠ some last.number := by
  have goesBack : wanderingChronicle[4]?.map (fun entry =>
      ((entry.item, entry.history.stack.zipper), entry.history.admits .back)) =
        some ((.act .back, ⟨[⟨"/a", ""⟩], ⟨"/b", ""⟩, []⟩), true) := by
    cbv
  have goesForward : wanderingChronicle[8]?.map Entry.item = some (.act .forward) := by
    cbv
  have goesOn : wanderingChronicle[11]?.map (fun entry =>
      (entry.item, entry.history.stack.zipper)) =
        some (.act .forward, ⟨[⟨"/a", ""⟩], ⟨"/b", ""⟩, []⟩) := by
    cbv
  have unchanged : changes ((wanderingChronicle.drop 5).take 3) = [] := by
    cbv
  rcases Option.map_eq_some_iff.mp goesBack with ⟨first, isFirst, seen⟩
  rcases Option.map_eq_some_iff.mp goesForward with ⟨second, isSecond, forward⟩
  rcases Option.map_eq_some_iff.mp goesOn with ⟨last, isLast, seenLast⟩
  simp only [Prod.mk.injEq] at seen seenLast
  rcases seen with ⟨⟨back, there⟩, admitted⟩
  rcases seenLast with ⟨again, still⟩
  have recorded := eq_take_append_cons_drop isFirst
  have later : (wanderingChronicle.drop 5)[3]? = some second := List.getElem?_drop.trans isSecond
  rw [eq_take_append_cons_drop later] at recorded
  rcases mirrors_zipperAfter ⟨"/a", ""⟩ wanderingRun with ⟨moments, _, returns⟩
  rcases moments _ last _ (eq_take_append_cons_drop isLast) with ⟨mirrors, movesWith⟩
  rw [← mirrors.shown, still] at mirrors
  have refused : last.history.admits .forward = false :=
    Bool.eq_false_iff.mpr fun moves => mirrors.forward_iff.mp moves rfl
  have restores := returns _ first _ second _ .back .forward recorded .forward back admitted
    unchanged forward
  exact ⟨first, second, last, isFirst, isSecond, isLast, back, forward, again, there, unchanged,
    restores.1, restores.2, mirrors, refused, (movesWith.refused .forward again refused).2⟩

end History
end PageRouting
