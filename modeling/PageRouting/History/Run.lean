import PageRouting.History.Listener

namespace PageRouting

/-!
Histories with listeners.  A change of the current location is told to all
listeners subscribed at that moment, in the order of their subscription, and a
new listener is told the current location at once.  What a listener does in
answer is done before the next listener is told, so that changes made by
listeners are told to all while the change before is still being told.

A run keeps what is still to be done on an agenda.  Each step takes the first
item and puts what follows from it in front of the rest.  A run comes to an end
because every action is done once: the actions that are left, on the agenda and
in the listeners, grow fewer by each action, and telling a listener leaves their
number as it is.
-/

/-- A history: its stack, its listeners in the order of subscription, and the
events noted so far. -/
structure History (ε : Type) where
  stack : History.Stack
  listeners : List (History.Listener ε)
  log : List ε

namespace History

variable {ε : Type}

/-- A history without listeners at its first location. -/
def ofLocation (location : Location) : History ε := ⟨.ofLocation location, [], []⟩

/-- The location of a history that is given none. -/
def defaultLocation : Location := ⟨"/", ""⟩

def current (history : History ε) : Location :=
  history.stack.current

def length (history : History ε) : Nat :=
  history.stack.length

/-- Something still to be done. -/
inductive Item (ε : Type) where
  | act (action : Action ε)
  /-- Tell a location to the listener with the given number. -/
  | tell (listener : Nat) (location : Location)

/-- Tell a location to all listeners subscribed so far. -/
def tellAll (history : History ε) (location : Location) : List (Item ε) :=
  (List.range history.listeners.length).map fun listener => .tell listener location

/-- The history with another stack, and the telling of its current location. -/
def moveTo (history : History ε) (stack : Stack) : History ε × List (Item ε) :=
  ({ history with stack := stack }, history.tellAll stack.current)

/-- Do an action.  Moving back from the first location or forward from the last
one changes nothing and is told to nobody. -/
def act (history : History ε) : Action ε → History ε × List (Item ε)
  | .push location => history.moveTo (history.stack.push location)
  | .replace location => history.moveTo (history.stack.replace location)
  | .back =>
      match history.stack.back? with
      | some stack => history.moveTo stack
      | none => (history, [])
  | .forward =>
      match history.stack.forward? with
      | some stack => history.moveTo stack
      | none => (history, [])
  | .subscribe listener =>
      ({ history with listeners := history.listeners ++ [listener] },
        [.tell history.listeners.length history.current])

/-- Tell a location to a listener: what it notes is logged, and what it does is
to be done next. -/
def tell (history : History ε) (index : Nat) (location : Location) :
    History ε × List (Item ε) :=
  match history.listeners[index]? with
  | none => (history, [])
  | some listener =>
      let (actions, remaining) := listener.react location
      ({ history with
          listeners := history.listeners.set index remaining
          log := history.log ++ [listener.observe location history.current] },
        actions.map .act)

def perform (history : History ε) : Item ε → History ε × List (Item ε)
  | .act action => history.act action
  | .tell listener location => history.tell listener location

/-- A history with items still to be done. -/
structure Run (ε : Type) where
  history : History ε
  agenda : List (Item ε)

namespace Run

/-- Do one item, before the other ones. -/
def step (history : History ε) (item : Item ε) (rest : List (Item ε)) : Run ε :=
  let (history, items) := history.perform item
  ⟨history, items ++ rest⟩

/-- Number of actions on an agenda, and in the listeners they subscribe. -/
def actionsOf : List (Item ε) → Nat
  | [] => 0
  | .act action :: rest => action.size + actionsOf rest
  | .tell _ _ :: rest => actionsOf rest

/-- Number of tellings on an agenda. -/
def tellingsOf : List (Item ε) → Nat
  | [] => 0
  | .act _ :: rest => tellingsOf rest
  | .tell _ _ :: rest => tellingsOf rest + 1

/-- Number of actions that can still come from listeners. -/
def listenersSize : List (Listener ε) → Nat
  | [] => 0
  | listener :: rest => listener.size + listenersSize rest

def actionsLeft (run : Run ε) : Nat :=
  actionsOf run.agenda + listenersSize run.history.listeners

@[simp] theorem actionsOf_append (first second : List (Item ε)) :
    actionsOf (first ++ second) = actionsOf first + actionsOf second := by
  induction first with
  | nil => simp [actionsOf]
  | cons item rest ih => cases item <;> simp [actionsOf, ih, Nat.add_assoc]

@[simp] theorem tellingsOf_append (first second : List (Item ε)) :
    tellingsOf (first ++ second) = tellingsOf first + tellingsOf second := by
  induction first with
  | nil => simp [tellingsOf]
  | cons item rest ih => cases item <;> simp [tellingsOf, ih, Nat.add_right_comm]

theorem listenersSize_append (first second : List (Listener ε)) :
    listenersSize (first ++ second) = listenersSize first + listenersSize second := by
  induction first with
  | nil => simp [listenersSize]
  | cons listener rest ih => simp [listenersSize, ih, Nat.add_assoc]

theorem actionsOf_tellAll (history : History ε) (location : Location) :
    actionsOf (history.tellAll location) = 0 := by
  unfold tellAll
  generalize List.range history.listeners.length = indices
  induction indices with
  | nil => rfl
  | cons index indices ih => exact ih

theorem actionsOf_act (actions : List (Action ε)) :
    actionsOf (actions.map Item.act) = actionsSize actions := by
  induction actions with
  | nil => rfl
  | cons action actions ih => rw [List.map_cons, actionsOf, ih, actionsSize]

theorem tellingsOf_act (actions : List (Action ε)) :
    tellingsOf (actions.map Item.act) = 0 := by
  induction actions with
  | nil => rfl
  | cons action actions ih => exact ih

theorem listenersSize_set (listeners : List (Listener ε)) (index : Nat)
    (listener remaining : Listener ε) (found : listeners[index]? = some listener) :
    listenersSize (listeners.set index remaining) + listener.size =
      listenersSize listeners + remaining.size := by
  induction listeners generalizing index with
  | nil => simp at found
  | cons first rest ih =>
      cases index with
      | zero =>
          simp only [List.getElem?_cons_zero, Option.some.injEq] at found
          subst found
          simp only [listenersSize, List.set_cons_zero]
          omega
      | succ index =>
          have := ih index (by simpa using found)
          simp only [listenersSize, List.set_cons_succ] at this ⊢
          omega

/-- Doing an action leaves fewer to be done. -/
theorem actionsLeft_step_act (history : History ε) (action : Action ε)
    (rest : List (Item ε)) :
    (step history (.act action) rest).actionsLeft <
      actionsLeft ⟨history, .act action :: rest⟩ := by
  have positive := action.size_pos
  cases action with
  | push location =>
      simp only [step, perform, act, moveTo, actionsLeft, actionsOf_append, actionsOf_tellAll]
      simp only [actionsOf]
      omega
  | replace location =>
      simp only [step, perform, act, moveTo, actionsLeft, actionsOf_append, actionsOf_tellAll]
      simp only [actionsOf]
      omega
  | back =>
      simp only [step, perform, act]
      cases history.stack.back? <;>
        simp only [moveTo, actionsLeft, actionsOf_append, actionsOf_tellAll] <;>
        simp only [actionsOf] <;>
        omega
  | forward =>
      simp only [step, perform, act]
      cases history.stack.forward? <;>
        simp only [moveTo, actionsLeft, actionsOf_append, actionsOf_tellAll] <;>
        simp only [actionsOf] <;>
        omega
  | subscribe listener =>
      simp only [step, perform, act, actionsLeft, actionsOf_append, listenersSize_append]
      simp only [actionsOf, listenersSize, Action.size]
      omega

/-- Telling a listener leaves the number of actions as it is. -/
theorem actionsLeft_step_tell (history : History ε) (index : Nat) (location : Location)
    (rest : List (Item ε)) :
    (step history (.tell index location) rest).actionsLeft =
      actionsLeft ⟨history, .tell index location :: rest⟩ := by
  simp only [step, perform, tell]
  split
  · simp [actionsLeft, actionsOf]
  · next listener found =>
      have moved := listener.size_react location
      have resized := listenersSize_set history.listeners index listener
        (listener.react location).2 found
      simp only [actionsLeft, actionsOf_append, actionsOf_act, actionsOf]
      omega

/-- Telling a listener leaves one telling fewer. -/
theorem tellingsOf_step_tell (history : History ε) (index : Nat) (location : Location)
    (rest : List (Item ε)) :
    tellingsOf (step history (.tell index location) rest).agenda <
      tellingsOf (.tell index location :: rest) := by
  simp only [step, perform, tell]
  split
  · simp [tellingsOf]
  · simp only [tellingsOf_append, tellingsOf_act, tellingsOf]
    omega

/-- Do all items. -/
def settle (history : History ε) (agenda : List (Item ε)) : History ε :=
  match agenda with
  | [] => history
  | item :: rest => settle (step history item rest).history (step history item rest).agenda
termination_by (actionsLeft ⟨history, agenda⟩, tellingsOf agenda)
decreasing_by
  cases item with
  | act action => exact Prod.Lex.left _ _ (actionsLeft_step_act history action rest)
  | tell index location =>
      rw [← actionsLeft_step_tell history index location rest]
      exact Prod.Lex.right _ (tellingsOf_step_tell history index location rest)

end Run

/-- Whether an action has an effect: moving has none at the ends of the stack. -/
def admits (history : History ε) : Action ε → Bool
  | .back => history.stack.back?.isSome
  | .forward => history.stack.forward?.isSome
  | _ => true

/-- Do an action, and all that listeners do in answer to it. -/
def apply (history : History ε) (action : Action ε) : History ε :=
  Run.settle history [.act action]

end History

end PageRouting
