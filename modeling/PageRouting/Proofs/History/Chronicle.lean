import PageRouting.History.Run

namespace PageRouting
namespace History

/-!
# Chronicles of runs

A chronicle lists the steps of a run in their order.  Each step has a number, the
history it is made on, and the item that is done, and it remembers the step that
put the item on the agenda; what is done from outside has no such step.  The
steps are those of the run itself: what listeners note in the log comes from the
calls in the chronicle, one by one.

Two kinds of steps bring news.  In a change the history settles on a location,
and in a call a listener is told one.  News carries the number of the step it
comes from, so that a call can be traced to the one change that it tells.
-/

variable {ε : Type}

/-! ## What doing an item can do -/

/-- The location on which the history settles by an action, if it does. -/
def settles? (history : History ε) : Action ε → Option Location
  | .push location => some location
  | .replace location => some location
  | .back => history.stack.back?.map Stack.current
  | .forward => history.stack.forward?.map Stack.current
  | .subscribe _ => none

/-- What doing an item can do to a history, and what follows from it. -/
inductive Performs (history : History ε) : Item ε → History ε → List (Item ε) → Prop where
  | register (listener : Listener ε) :
      Performs history (.act (.subscribe listener))
        { history with listeners := history.listeners ++ [listener] }
        [.tell history.listeners.length history.current]
  | settle {action : Action ε} {stack : Stack}
      (settles : history.settles? action = some stack.current) :
      Performs history (.act action) { history with stack := stack }
        (history.tellAll stack.current)
  | stay {action : Action ε} (stays : history.settles? action = none)
      (unregistered : ∀ listener, action ≠ .subscribe listener) :
      Performs history (.act action) history []
  | call {index : Nat} {location : Location} {listener : Listener ε}
      (found : history.listeners[index]? = some listener) :
      Performs history (.tell index location)
        { history with
          listeners := history.listeners.set index (listener.react location).2
          log := history.log ++ [listener.observe location history.current] }
        ((listener.react location).1.map .act)
  | miss {index : Nat} {location : Location} (missing : history.listeners[index]? = none) :
      Performs history (.tell index location) history []

private theorem performs_of_move {history : History ε} {action : Action ε} (moved : Option Stack)
    (settles : history.settles? action = moved.map Stack.current)
    (unregistered : ∀ listener, action ≠ .subscribe listener)
    (acts : history.act action = moved.elim (history, []) history.moveTo) :
    Performs history (.act action) (history.act action).1 (history.act action).2 := by
  rw [acts]
  cases moved with
  | none => exact .stay settles unregistered
  | some stack => exact .settle settles

theorem performs (history : History ε) (item : Item ε) :
    Performs history item (history.perform item).1 (history.perform item).2 := by
  rcases item with action | ⟨index, location⟩
  · cases action with
    | push location =>
        refine performs_of_move (some (history.stack.push location)) ?_ (by simp) rfl
        rw [Option.map_some, Stack.current_push, settles?]
    | replace location =>
        refine performs_of_move (some (history.stack.replace location)) ?_ (by simp) rfl
        rw [Option.map_some, Stack.current_replace, settles?]
    | back =>
        refine performs_of_move history.stack.back? rfl (by simp) ?_
        cases moved : history.stack.back? <;> simp only [act, moved, Option.elim]
    | forward =>
        refine performs_of_move history.stack.forward? rfl (by simp) ?_
        cases moved : history.stack.forward? <;> simp only [act, moved, Option.elim]
    | subscribe listener => exact .register listener
  · cases found : history.listeners[index]? with
    | none => simpa only [perform, tell, found] using Performs.miss found
    | some listener => simpa only [perform, tell, found] using Performs.call found

/-- Listeners are never removed. -/
theorem Performs.length_listeners_le {history next : History ε} {item : Item ε}
    {items : List (Item ε)} (performed : Performs history item next items) :
    history.listeners.length ≤ next.listeners.length := by
  cases performed with
  | register listener => simp
  | settle settles => exact Nat.le_refl _
  | stay stays unregistered => exact Nat.le_refl _
  | call found => exact Nat.le_of_eq List.length_set.symm
  | miss missing => exact Nat.le_refl _

/-! ## Steps and news -/

/-- An item of an agenda with the number of the step that put it there. -/
structure Due (ε : Type) where
  item : Item ε
  cause : Option Nat

/-- A step of a run. -/
structure Entry (ε : Type) where
  number : Nat
  cause : Option Nat
  history : History ε
  item : Item ε

/-- A location with the number of the step that it comes from. -/
structure News where
  source : Option Nat
  location : Location
deriving DecidableEq, Repr

/-- What follows from doing an item in the step with the given number. -/
def consequences (history : History ε) (number : Nat) (item : Item ε) : List (Due ε) :=
  (history.perform item).2.map fun next => ⟨next, some number⟩

namespace Entry

/-- The location on which the history settles in the step. -/
def change? (entry : Entry ε) : Option News :=
  match entry.item with
  | .act action => (entry.history.settles? action).map fun location => ⟨some entry.number, location⟩
  | .tell _ _ => none

/-- The location that the listener is told in the step. -/
def call? (listener : Nat) (entry : Entry ε) : Option News :=
  match entry.item with
  | .act _ => none
  | .tell index location =>
      if index = listener ∧ index < entry.history.listeners.length then
        some ⟨entry.cause, location⟩
      else
        none

/-- The current location, as it is told to a listener that is registered in the step. -/
def greeting (entry : Entry ε) : News :=
  ⟨some entry.number, entry.history.current⟩

/-- Whether a listener is registered in the step. -/
def registers (entry : Entry ε) : Bool :=
  match entry.item with
  | .act (.subscribe _) => true
  | _ => false

/-- What is noted in the log in the step. -/
def note? (entry : Entry ε) : Option ε :=
  match entry.item with
  | .act _ => none
  | .tell index location =>
      entry.history.listeners[index]?.map fun listener =>
        listener.observe location entry.history.current

end Entry

theorem filterMap_cons_eq_append {α β : Type} (f : α → Option β) (first : α) (rest : List α) :
    (first :: rest).filterMap f = (f first).toList ++ rest.filterMap f := by
  cases found : f first with
  | none => exact List.filterMap_cons_none found
  | some value => exact List.filterMap_cons_some found

/-- The changes of a chronicle, in their order. -/
def changes (entries : List (Entry ε)) : List News :=
  entries.filterMap Entry.change?

/-- The calls of a listener, in their order. -/
def calls (listener : Nat) (entries : List (Entry ε)) : List News :=
  entries.filterMap (Entry.call? listener)

namespace Run

theorem agenda_step (history : History ε) (number : Nat) (due : Due ε) (rest : List (Due ε)) :
    (history.consequences number due.item ++ rest).map Due.item =
      (step history due.item (rest.map Due.item)).agenda := by
  rw [List.map_append, consequences, List.map_map]
  exact congrArg (· ++ rest.map Due.item) (List.map_id _)

/-- The steps of doing all items, the first of them with the given number. -/
def chronicle (number : Nat) (history : History ε) (agenda : List (Due ε)) : List (Entry ε) :=
  match agenda with
  | [] => []
  | due :: rest =>
      ⟨number, due.cause, history, due.item⟩ ::
        chronicle (number + 1) (history.perform due.item).1
          (history.consequences number due.item ++ rest)
termination_by (actionsLeft ⟨history, agenda.map Due.item⟩, tellingsOf (agenda.map Due.item))
decreasing_by
  rw [agenda_step]
  rcases due with ⟨action | ⟨index, location⟩, cause⟩
  · exact Prod.Lex.left _ _ (actionsLeft_step_act history action _)
  · rw [List.map_cons, ← actionsLeft_step_tell history index location]
    exact Prod.Lex.right _ (tellingsOf_step_tell history index location _)

/-- A run goes on with what follows from its first item. -/
theorem settle_step (number : Nat) (history : History ε) (due : Due ε) (rest : List (Due ε)) :
    settle (history.perform due.item).1
        ((history.consequences number due.item ++ rest).map Due.item) =
      settle history ((due :: rest).map Due.item) := by
  rw [agenda_step, List.map_cons, settle.eq_def history (due.item :: _)]
  rfl

/-- Steps are numbered one after the other. -/
theorem number_chronicle (number : Nat) (history : History ε) (agenda : List (Due ε)) :
    (chronicle number history agenda).map Entry.number =
      List.range' number (chronicle number history agenda).length := by
  induction number, history, agenda using chronicle.induct with
  | case1 number history => rw [chronicle, List.map_nil, List.length_nil, List.range'_zero]
  | case2 number history due rest ih =>
      rw [chronicle, List.map_cons, ih, List.length_cons, List.range'_succ]

theorem log_perform (number : Nat) (cause : Option Nat) (history : History ε) (item : Item ε) :
    (history.perform item).1.log =
      history.log ++ (Entry.note? ⟨number, cause, history, item⟩).toList := by
  have performed := history.performs item
  generalize (history.perform item).1 = next, (history.perform item).2 = items at performed
  cases performed with
  | register listener => exact (List.append_nil _).symm
  | settle settles => exact (List.append_nil _).symm
  | stay stays unregistered => exact (List.append_nil _).symm
  | call found => simp only [Entry.note?, found, Option.map_some, Option.toList_some]
  | miss missing =>
      simp only [Entry.note?, missing, Option.map_none, Option.toList_none, List.append_nil]

/-- The log of a run is made of what is noted in its steps. -/
theorem log_settle (number : Nat) (history : History ε) (agenda : List (Due ε)) :
    (settle history (agenda.map Due.item)).log =
      history.log ++ (chronicle number history agenda).filterMap Entry.note? := by
  induction number, history, agenda using chronicle.induct with
  | case1 number history =>
      rw [chronicle, List.map_nil, settle, List.filterMap_nil, List.append_nil]
  | case2 number history due rest ih =>
      rw [← settle_step number, ih, chronicle, filterMap_cons_eq_append, ← List.append_assoc,
        ← log_perform]

/-- Doing items and then others is doing them all. -/
theorem settle_append (history : History ε) (first second : List (Item ε)) :
    settle history (first ++ second) = settle (settle history first) second := by
  induction history, first using settle.induct with
  | case1 history => rw [List.nil_append, settle.eq_def history []]
  | case2 history item rest ih =>
      have onward : (step history item (rest ++ second)).agenda =
          (step history item rest).agenda ++ second := (List.append_assoc _ _ _).symm
      rw [List.cons_append, settle.eq_def history (item :: (rest ++ second)),
        settle.eq_def history (item :: rest), ← ih]
      exact congrArg (settle _) onward

end Run

/-- Do actions one after the other, each with all that listeners do in answer to it. -/
def applyAll (history : History ε) (actions : List (Action ε)) : History ε :=
  actions.foldl apply history

/-- The steps of doing actions one after the other. -/
def chronicle (history : History ε) (actions : List (Action ε)) : List (Entry ε) :=
  Run.chronicle 0 history (actions.map fun action => ⟨.act action, none⟩)

theorem applyAll_eq_settle (history : History ε) (actions : List (Action ε)) :
    history.applyAll actions = Run.settle history (actions.map Item.act) := by
  induction actions generalizing history with
  | nil => rw [List.map_nil, Run.settle]; rfl
  | cons action rest ih =>
      exact (ih (history.apply action)).trans
        (Run.settle_append history [.act action] (rest.map Item.act)).symm

/-- No two steps have the same number. -/
theorem nodup_number_chronicle (history : History ε) (actions : List (Action ε)) :
    ((history.chronicle actions).map Entry.number).Nodup := by
  rw [chronicle, Run.number_chronicle]
  exact List.nodup_range'

theorem log_applyAll (history : History ε) (actions : List (Action ε)) :
    (history.applyAll actions).log =
      history.log ++ (history.chronicle actions).filterMap Entry.note? := by
  rw [applyAll_eq_settle, chronicle, ← Run.log_settle, List.map_map]
  rfl

end History
end PageRouting
