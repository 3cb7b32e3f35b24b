import PageRouting.History.Stack

namespace PageRouting
namespace History

/-!
Listeners and what they do.  A listener is told every location the history
settles on.  It notes what it sees, and may then act on the history itself: each
of its rules is used at most once, the first remaining one that fires on the
location it was told.  A rule that always fires, in the place of the `n`-th,
says what is done at the `n`-th call, so rules describe every finite conduct.

Since a rule is used up when it fires, the actions that can still come from a
listener are numbered by its `size`, which counts the actions of listeners that
are yet to be subscribed as well.
-/

mutual

/-- What can be done to a history. -/
inductive Action (ε : Type) where
  | push (location : Location)
  | replace (location : Location)
  | back
  | forward
  | subscribe (listener : Listener ε)

/-- A listener notes an event made of the location it is told and the one that is
current at that moment. -/
inductive Listener (ε : Type) where
  | mk (observe : Location → Location → ε) (rules : List (Rule ε))

inductive Rule (ε : Type) where
  | mk (fires : Location → Bool) (actions : List (Action ε))

end

mutual

/-- Number of actions in an action: itself and those of a listener it brings. -/
def Action.size {ε : Type} : Action ε → Nat
  | .push _ => 1
  | .replace _ => 1
  | .back => 1
  | .forward => 1
  | .subscribe listener => listener.size + 1

/-- Number of actions that can still come from a listener. -/
def Listener.size {ε : Type} : Listener ε → Nat
  | .mk _ rules => rulesSize rules

def Rule.size {ε : Type} : Rule ε → Nat
  | .mk _ actions => actionsSize actions

def rulesSize {ε : Type} : List (Rule ε) → Nat
  | [] => 0
  | rule :: rules => rule.size + rulesSize rules

def actionsSize {ε : Type} : List (Action ε) → Nat
  | [] => 0
  | action :: actions => action.size + actionsSize actions

end

variable {ε : Type}

def Rule.fires : Rule ε → Location → Bool
  | .mk fires _ => fires

def Rule.actions : Rule ε → List (Action ε)
  | .mk _ actions => actions

/-- The actions of the first rule that fires, and the rules that remain. -/
def useRule (location : Location) : List (Rule ε) → List (Action ε) × List (Rule ε)
  | [] => ([], [])
  | rule :: rules =>
      if rule.fires location then
        (rule.actions, rules)
      else
        let (actions, remaining) := useRule location rules
        (actions, rule :: remaining)

/-- What a listener notes when it is told a location. -/
def Listener.observe : Listener ε → Location → Location → ε
  | .mk observe _ => observe

/-- What a listener does when it is told a location, and what is left of it. -/
def Listener.react : Listener ε → Location → List (Action ε) × Listener ε
  | .mk observe rules, location =>
      let (actions, remaining) := useRule location rules
      (actions, .mk observe remaining)

theorem Action.size_pos (action : Action ε) : 0 < action.size := by
  cases action <;> simp [Action.size]

theorem size_useRule (location : Location) (rules : List (Rule ε)) :
    actionsSize (useRule location rules).1 + rulesSize (useRule location rules).2 =
      rulesSize rules := by
  induction rules with
  | nil => simp [useRule, actionsSize, rulesSize]
  | cons rule rules ih =>
      simp only [useRule]
      split
      · cases rule
        simp [Rule.actions, rulesSize, Rule.size]
      · simp only [rulesSize]
        omega

/-- Reacting moves actions from the listener to the agenda and makes no new ones. -/
theorem Listener.size_react (listener : Listener ε) (location : Location) :
    actionsSize (listener.react location).1 + (listener.react location).2.size =
      listener.size := by
  cases listener with
  | mk observe rules => simpa [react, size] using size_useRule location rules

end History
end PageRouting
