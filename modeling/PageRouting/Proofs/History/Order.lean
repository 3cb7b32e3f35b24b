import PageRouting.Proofs.History.Delivery

namespace PageRouting
namespace History

/-!
# The order in which listeners are told

A change that a listener makes while it is called is told to all listeners before
the change that the call was about has been told to the listeners after it.  So
a listener can be told an older location after a newer one, and be left with a
location that is not the current one.  This is due to the listeners before it
alone: if none of these navigates when it is called, the listener is told the
locations in their order, whatever it does itself and whatever later ones do.
-/

variable {ε : Type}

/-! ## Listeners that do not navigate -/

mutual

/-- Whether an action neither navigates nor brings a listener that does. -/
def Action.isQuiet : Action ε → Bool
  | .subscribe listener => listener.isQuiet
  | _ => false

/-- Whether a listener does not navigate when it is called. -/
def Listener.isQuiet : Listener ε → Bool
  | .mk _ rules => rulesQuiet rules

def Rule.isQuiet : Rule ε → Bool
  | .mk _ actions => actionsQuiet actions

def rulesQuiet : List (Rule ε) → Bool
  | [] => true
  | rule :: rules => rule.isQuiet && rulesQuiet rules

def actionsQuiet : List (Action ε) → Bool
  | [] => true
  | action :: actions => action.isQuiet && actionsQuiet actions

end

theorem isQuiet_of_mem {action : Action ε} {actions : List (Action ε)}
    (quiet : actionsQuiet actions = true) (member : action ∈ actions) : action.isQuiet = true := by
  induction actions with
  | nil => exact absurd member List.not_mem_nil
  | cons first rest ih =>
      rcases Bool.and_eq_true_iff.mp quiet with ⟨here, later⟩
      rcases List.mem_cons.mp member with rfl | among
      · exact here
      · exact ih later among

theorem quiet_useRule (location : Location) {rules : List (Rule ε)}
    (quiet : rulesQuiet rules = true) :
    actionsQuiet (useRule location rules).1 = true ∧
      rulesQuiet (useRule location rules).2 = true := by
  induction rules with
  | nil => exact ⟨rfl, rfl⟩
  | cons rule rules ih =>
      rcases Bool.and_eq_true_iff.mp quiet with ⟨here, later⟩
      simp only [useRule]
      split
      · cases rule
        exact ⟨here, later⟩
      · exact ⟨(ih later).1, Bool.and_eq_true_iff.mpr ⟨here, (ih later).2⟩⟩

/-- A quiet listener does quiet actions only, and remains quiet. -/
theorem Listener.quiet_react {listener : Listener ε} (quiet : listener.isQuiet = true)
    (location : Location) :
    actionsQuiet (listener.react location).1 = true ∧
      (listener.react location).2.isQuiet = true := by
  cases listener with
  | mk observe rules => exact quiet_useRule location quiet

/-- An action by which the history settles is not a quiet one. -/
theorem isQuiet_of_settles? {history : History ε} {action : Action ε} {location : Location}
    (settles : history.settles? action = some location) : action.isQuiet = false := by
  cases action with
  | subscribe listener => exact absurd settles (Option.some_ne_none location).symm
  | _ => rfl

/-! ## Agendas that keep the order for a listener -/

/-- The listener with the given number does not navigate when it is called. -/
def QuietAt (history : History ε) (index : Nat) : Prop :=
  ∀ listener, history.listeners[index]? = some listener → listener.isQuiet = true

/-- Doing the item does not lead to a change. -/
def Item.IsQuiet (history : History ε) : Item ε → Prop
  | .act action => action.isQuiet = true
  | .tell index _ => history.QuietAt index

/-- Before a listener has been told what is due, nothing else is done that could lead to a
change. -/
def IsOrderly (history : History ε) (listener : Nat) (agenda : List (Due ε)) : Prop :=
  agenda.Pairwise fun earlier later =>
    ¬earlier.item.IsQuiet history → later.call? listener = none

theorem Performs.quietAt {history next : History ε} {item : Item ε} {items : List (Item ε)}
    (performed : Performs history item next items) {index : Nat}
    (registered : index < history.listeners.length) (quiet : history.QuietAt index) :
    next.QuietAt index := by
  cases performed with
  | register added =>
      intro listener found
      rw [List.getElem?_append_left registered] at found
      exact quiet listener found
  | settle settles => exact quiet
  | stay stays unregistered => exact quiet
  | call told =>
      intro listener found
      rw [List.getElem?_set] at found
      split at found
      · next same =>
          rw [if_pos (same ▸ registered)] at found
          rw [← Option.some.inj found]
          exact (Listener.quiet_react (quiet _ (same ▸ told)) _).2
      · exact quiet listener found
  | miss missing => exact quiet

/-- A quiet item is followed by quiet ones. -/
theorem Performs.isQuiet {history next : History ε} {item : Item ε} {items : List (Item ε)}
    (performed : Performs history item next items) (quiet : item.IsQuiet history) :
    ∀ following ∈ items, following.IsQuiet next := by
  cases performed with
  | register added =>
      intro following member
      rw [List.mem_singleton.mp member]
      intro listener found
      rw [List.getElem?_concat_length] at found
      exact Option.some.inj found ▸ quiet
  | settle settles => exact absurd (quiet.symm.trans (isQuiet_of_settles? settles)) (by simp)
  | stay stays unregistered => exact fun _ member => absurd member List.not_mem_nil
  | call told =>
      intro following member
      rcases List.mem_map.mp member with ⟨action, among, rfl⟩
      exact isQuiet_of_mem (Listener.quiet_react (quiet _ told) _).1 among
  | miss missing => exact fun _ member => absurd member List.not_mem_nil

/-- A change is told to listeners in the order of their numbers. -/
theorem isOrderly_consequences {history : History ε} {listener : Nat}
    (earlier : ∀ index < listener, history.QuietAt index) (number : Nat) (item : Item ε) :
    (history.perform item).1.IsOrderly listener (history.consequences number item) := by
  have performed := history.performs item
  unfold consequences
  generalize (history.perform item).1 = next, (history.perform item).2 = items at performed
  apply List.pairwise_map.mpr
  cases performed with
  | register added => exact List.pairwise_singleton _ _
  | settle settles =>
      apply List.pairwise_map.mpr
      apply List.pairwise_lt_range.imp
      intro first second before restless
      have beyond : second ≠ listener := fun same => restless (earlier first (same ▸ before))
      exact if_neg beyond
  | stay stays unregistered => exact .nil
  | call told =>
      apply List.pairwise_map.mpr
      exact List.pairwise_of_forall fun _ _ _ => rfl
  | miss missing => exact .nil

theorem IsOrderly.step {history : History ε} {due : Due ε} {rest : List (Due ε)} {listener : Nat}
    (orderly : history.IsOrderly listener (due :: rest)) (ready : history.IsReady (due :: rest))
    (earlier : ∀ index < listener, history.QuietAt index) (number : Nat) :
    (history.perform due.item).1.IsOrderly listener
      (history.consequences number due.item ++ rest) := by
  have performed := history.performs due.item
  rcases List.pairwise_cons.mp orderly with ⟨first, others⟩
  apply List.pairwise_append.mpr
  refine ⟨isOrderly_consequences earlier number due.item, ?_, ?_⟩
  · apply others.imp_of_mem
    intro sooner later among _ kept restless
    refine kept fun quiet => restless ?_
    rcases sooner with ⟨action | ⟨index, location⟩, cause⟩
    · exact quiet
    · exact performed.quietAt (ready _ (List.mem_cons_of_mem _ among) index location rfl) quiet
  · intro following member later among restless
    rcases List.mem_map.mp member with ⟨item, produced, rfl⟩
    exact first later among fun quiet => restless (performed.isQuiet quiet item produced)

/-- When the history settles on a location, everything has been told that was due before. -/
theorem IsOrderly.dueCalls_eq_nil {history : History ε} {due : Due ε} {rest : List (Due ε)}
    {listener : Nat} (orderly : history.IsOrderly listener (due :: rest)) {number : Nat}
    {news : News} (change : Entry.change? ⟨number, due.cause, history, due.item⟩ = some news) :
    dueCalls listener rest = [] := by
  apply List.filterMap_eq_nil_iff.mpr
  intro later among
  refine (List.pairwise_cons.mp orderly).1 later among ?_
  rcases due with ⟨action | ⟨index, location⟩, cause⟩
  · rcases Option.map_eq_some_iff.mp change with ⟨location, settles, _⟩
    exact fun quiet => Bool.false_ne_true ((isQuiet_of_settles? settles).symm.trans quiet)
  · exact absurd change (Option.some_ne_none news).symm

/-- As long as the agenda is orderly, the calls that are due come before those of the changes
to come, and these come in the order of the changes. -/
theorem calls_eq (number : Nat) {history : History ε} {agenda : List (Due ε)} {listener : Nat}
    (ready : history.IsReady agenda) (registered : listener < history.listeners.length)
    (earlier : ∀ index < listener, history.QuietAt index)
    (orderly : history.IsOrderly listener agenda) :
    calls listener (Run.chronicle number history agenda) =
      dueCalls listener agenda ++ changes (Run.chronicle number history agenda) := by
  induction number, history, agenda using Run.chronicle.induct with
  | case1 number history => rw [Run.chronicle]; rfl
  | case2 number history due rest ih =>
      have performed := history.performs due.item
      have onward := ih (ready.step number)
        (Nat.lt_of_lt_of_le registered performed.length_listeners_le)
        (fun index before => performed.quietAt (Nat.lt_trans before registered)
          (earlier index before))
        (orderly.step ready earlier number)
      rw [dueCalls_append, dueCalls_consequences number due.cause history due.item registered]
        at onward
      rw [Run.chronicle, calls_cons, changes_cons, dueCalls_cons, call?_eq ready, onward,
        List.append_assoc]
      cases change : Entry.change? ⟨number, due.cause, history, due.item⟩ with
      | none => simp only [Option.toList_none, List.nil_append, List.append_assoc]
      | some news =>
          simp only [orderly.dueCalls_eq_nil change, List.append_nil, List.nil_append]

/-! ## The current location -/

theorem current_perform (number : Nat) (cause : Option Nat) (history : History ε) (item : Item ε) :
    (history.perform item).1.current =
      ((Entry.change? ⟨number, cause, history, item⟩).map News.location).getD history.current := by
  have performed := history.performs item
  generalize (history.perform item).1 = next, (history.perform item).2 = items at performed
  cases performed with
  | register added => rfl
  | settle settles => simp only [Entry.change?, settles, Option.map_some, Option.getD_some]; rfl
  | stay stays unregistered => simp only [Entry.change?, stays, Option.map_none, Option.getD_none]
  | call told => rfl
  | miss missing => rfl

/-- A run ends at the location of its last change. -/
theorem current_settle (number : Nat) (history : History ε) (agenda : List (Due ε)) :
    (Run.settle history (agenda.map Due.item)).current =
      ((changes (Run.chronicle number history agenda)).getLast?.map News.location).getD
        history.current := by
  induction number, history, agenda using Run.chronicle.induct with
  | case1 number history => rw [Run.chronicle, List.map_nil, Run.settle]; rfl
  | case2 number history due rest ih =>
      rw [← Run.settle_step number, ih, Run.chronicle, changes_cons, List.getLast?_append,
        current_perform number due.cause]
      cases Entry.change? ⟨number, due.cause, history, due.item⟩ <;>
        cases (changes _).getLast? <;> rfl

/-- A listener is told the current location first, when it is registered.  If no listener that
was registered before it navigates when it is called, it is then told the later changes in
their order, and the last location it has been told at the end is the current one. -/
theorem calls_eq_changes (history : History ε) (actions : List (Action ε)) (entry : Entry ε)
    (later : List (Entry ε)) (recorded : entry :: later <:+ history.chronicle actions)
    (registers : entry.registers = true) :
    (calls entry.history.listeners.length (history.chronicle actions)).head? =
        some entry.greeting ∧
      ((∀ earlier ∈ entry.history.listeners, earlier.isQuiet = true) →
        calls entry.history.listeners.length (history.chronicle actions) =
            entry.greeting :: changes later ∧
          (calls entry.history.listeners.length (history.chronicle actions)).getLast?.map
              News.location =
            some (history.applyAll actions).current) := by
  rcases exists_followsRegistration recorded registers with ⟨⟨next, rest, follows⟩, uncalled⟩
  rw [uncalled]
  refine ⟨?_, fun quiet => ?_⟩
  · rw [follows.later_eq, Run.chronicle, calls_cons, call?_eq follows.ready,
      entry.call?_greetingDue]
    rfl
  · have earlier : ∀ index < entry.history.listeners.length, next.QuietAt index := by
      rcases follows.listeners with ⟨added, listeners⟩
      intro index before listener found
      rw [listeners, List.getElem?_append_left before] at found
      exact quiet listener (List.mem_of_getElem? found)
    have orderly : next.IsOrderly entry.history.listeners.length (entry.greetingDue :: rest) := by
      have none := List.filterMap_eq_nil_iff.mp follows.due
      refine List.pairwise_cons.mpr ⟨fun due member _ => none due member, ?_⟩
      exact List.Pairwise.imp_of_mem (fun _ member _ _ => none _ member)
        (List.pairwise_of_forall fun _ _ => trivial)
    have told := calls_eq (entry.number + 1) follows.ready follows.registered earlier orderly
    rw [dueCalls_cons, follows.due, ← follows.later_eq, entry.call?_greetingDue,
      Option.toList_some, List.append_nil, List.singleton_append] at told
    refine ⟨told, ?_⟩
    have final : (history.applyAll actions).current =
        ((changes later).getLast?.map News.location).getD entry.history.current := by
      rw [follows.final_eq, current_settle (entry.number + 1), ← follows.later_eq,
        follows.current]
    rw [told, final, List.getLast?_cons, Option.map_some]
    cases (changes later).getLast? <;> rfl

/-- The second listener is told each location once the first one, which does not navigate, has
been told it. -/
def steadyRun : List (Action (String × Location)) :=
  [.subscribe (named "first" []),
    .subscribe (named "second" [whenAt "/b" [.push ⟨"/c", ""⟩, .back]]),
    .push ⟨"/b", ""⟩]

theorem calls_eq_steadyRun :
    ∃ entry later, entry :: later <:+ (ofLocation ⟨"/a", ""⟩).chronicle steadyRun ∧
      entry.registers = true ∧ entry.history.listeners.length = 1 ∧
      (∀ earlier ∈ entry.history.listeners, earlier.isQuiet = true) ∧
      (changes later).map News.location = [⟨"/b", ""⟩, ⟨"/c", ""⟩, ⟨"/b", ""⟩] ∧
      calls 1 ((ofLocation ⟨"/a", ""⟩).chronicle steadyRun) = entry.greeting :: changes later ∧
      (calls 1 ((ofLocation ⟨"/a", ""⟩).chronicle steadyRun)).getLast?.map News.location =
        some ⟨"/b", ""⟩ := by
  have computed : (match ((ofLocation ⟨"/a", ""⟩).chronicle steadyRun).drop 2 with
      | [] => false
      | entry :: later => entry.registers && entry.history.listeners.length == 1 &&
          entry.history.listeners.all Listener.isQuiet &&
          (changes later).map News.location == [⟨"/b", ""⟩, ⟨"/c", ""⟩, ⟨"/b", ""⟩]) = true := by
    cbv
  have final : ((ofLocation ⟨"/a", ""⟩).applyAll steadyRun).current = ⟨"/b", ""⟩ := by cbv
  split at computed
  · exact absurd computed Bool.false_ne_true
  · next entry later shape =>
      simp only [Bool.and_eq_true, beq_iff_eq, List.all_eq_true] at computed
      rcases computed with ⟨⟨⟨registers, second⟩, quiet⟩, locations⟩
      have recorded : entry :: later <:+ (ofLocation ⟨"/a", ""⟩).chronicle steadyRun :=
        shape ▸ List.drop_suffix _ _
      have told := (calls_eq_changes _ steadyRun entry later recorded registers).2 quiet
      rw [second, final] at told
      exact ⟨entry, later, recorded, registers, second, quiet, locations, told⟩

/-- A listener that answers `/b` by going to `/c` makes the one after it be told `/c` first. -/
def overtakingRun : List (Action (String × Location)) :=
  [.subscribe (named "first" [whenAt "/b" [.push ⟨"/c", ""⟩]]),
    .subscribe (named "second" []),
    .push ⟨"/b", ""⟩]

/-- The history settles on `/b` and then on `/c`, but the second listener is told `/c` before
`/b`, and is left with a location that is not the current one. -/
theorem calls_overtakingRun :
    ((changes ((ofLocation ⟨"/a", ""⟩).chronicle overtakingRun)).map News.location =
        [⟨"/b", ""⟩, ⟨"/c", ""⟩]) ∧
      (calls 1 ((ofLocation ⟨"/a", ""⟩).chronicle overtakingRun)).map News.location =
        [⟨"/a", ""⟩, ⟨"/c", ""⟩, ⟨"/b", ""⟩] ∧
      ((ofLocation ⟨"/a", ""⟩).applyAll overtakingRun).current = ⟨"/c", ""⟩ ∧
      ((ofLocation ⟨"/a", ""⟩).applyAll overtakingRun).log =
        [("first", ⟨"/a", ""⟩), ("second", ⟨"/a", ""⟩), ("first", ⟨"/b", ""⟩),
          ("first", ⟨"/c", ""⟩), ("second", ⟨"/c", ""⟩), ("second", ⟨"/b", ""⟩)] := by
  refine ⟨?_, ?_, ?_, ?_⟩ <;> cbv

end History
end PageRouting
