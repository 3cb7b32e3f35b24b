import Mathlib.Data.List.Induction
import PageRouting.History.Navigator
import PageRouting.Proofs.History.Zipper
import PageRouting.Proofs.Router.Return

namespace PageRouting

/-!
# Navigating is moving in a history of routes

A navigator keeps locations, and finds a route each time it is asked.  As long as
routes are found again at the locations they lead to, it cannot be told from a
history that keeps the routes themselves.  This is shown step by step: the places
of the stack and those of the history of routes stay paired, a change that is
possible on one side is possible on the other, and what listeners are told is
the current route of the history of routes.

Listeners are taken to do nothing in answer.  A route is compared up to the
order of keys, since mappers and queries may come back in another order.
-/

/-! ## Listeners that do nothing -/

namespace History

variable {ε : Type} {history : History ε}

/-- The listener does nothing in answer, and goes on as it is. -/
def Listener.IsSilent (listener : Listener ε) : Prop :=
  ∀ location, listener.react location = ([], listener)

def IsSilent (history : History ε) : Prop :=
  ∀ listener ∈ history.listeners, listener.IsSilent

/-- The history at a stack, once its listeners have noted the current location. -/
def notedAt (history : History ε) (stack : Stack) : History ε where
  stack := stack
  listeners := history.listeners
  log := history.log ++
    history.listeners.map fun listener => listener.observe stack.current stack.current

/-- A silent listener notes what it is told, and the run goes on. -/
theorem settle_tell (history : History ε) {index : Nat} {listener : Listener ε}
    (found : history.listeners[index]? = some listener) (silent : listener.IsSilent)
    (location : Location) (rest : List (Item ε)) :
    Run.settle history (.tell index location :: rest) =
      Run.settle
        { history with log := history.log ++ [listener.observe location history.current] } rest := by
  have unchanged : history.listeners.set index listener = history.listeners := by
    rcases List.getElem?_eq_some_iff.mp found with ⟨inside, rfl⟩
    exact List.set_getElem_self inside
  rw [Run.settle.eq_def history (_ :: rest)]
  simp only [Run.step, perform, tell, found, silent location, unchanged, List.map_nil,
    List.nil_append]

/-- Silent listeners note a location one after the other. -/
theorem settle_tellAll (history : History ε) (silent : history.IsSilent) (location : Location) :
    Run.settle history (history.tellAll location) =
      { history with
        log := history.log ++
          history.listeners.map fun listener => listener.observe location history.current } := by
  have told : ∀ (front back : List (Listener ε)) (log : List ε),
      history.listeners = front ++ back →
        Run.settle { history with log := log }
            ((List.range' front.length back.length).map fun index => .tell index location) =
          { history with
            log := log ++ back.map fun listener => listener.observe location history.current } := by
    intro front back
    induction back generalizing front with
    | nil =>
        intro log _
        rw [List.length_nil, List.range'_zero, List.map_nil, Run.settle, List.map_nil,
          List.append_nil]
    | cons listener back ih =>
        intro log shape
        have found : history.listeners[front.length]? = some listener := by
          rw [shape, List.getElem?_append_right (Nat.le_refl _), Nat.sub_self]
          rfl
        have here := silent listener (shape ▸ List.mem_append_right _ List.mem_cons_self)
        have rest := ih (front ++ [listener]) (log ++ [listener.observe location history.current])
          (by rw [shape, List.append_assoc, List.singleton_append])
        rw [List.length_append, List.length_singleton] at rest
        rw [List.length_cons, List.range'_succ, List.map_cons, List.map_cons]
        refine (settle_tell { history with log := log } found here location _).trans (rest.trans ?_)
        rw [List.append_assoc, List.singleton_append]
  have whole := told [] history.listeners history.log rfl
  rwa [List.length_nil, ← List.range_eq_range'] at whole

/-- A change is noted by all listeners, and that is all. -/
theorem apply_of_moves (silent : history.IsSilent) {action : Action ε} {stack : Stack}
    (moves : history.act action = history.moveTo stack) :
    history.apply action = history.notedAt stack := by
  rw [apply, Run.settle.eq_def history [_]]
  simp only [Run.step, perform, moves, moveTo, List.append_nil]
  exact settle_tellAll { history with stack := stack } silent stack.current

theorem apply_of_stays {action : Action ε} (stays : history.act action = (history, [])) :
    history.apply action = history := by
  rw [apply, Run.settle.eq_def history [_]]
  simp only [Run.step, perform, stays, List.append_nil]
  rw [Run.settle]

/-- A silent listener that is registered notes the current location. -/
theorem apply_subscribe {listener : Listener ε} (silent : listener.IsSilent) :
    history.apply (.subscribe listener) =
      { history with
        listeners := history.listeners ++ [listener]
        log := history.log ++ [listener.observe history.current history.current] } := by
  have found : (history.listeners ++ [listener])[history.listeners.length]? = some listener := by
    rw [List.getElem?_append_right (Nat.le_refl _), Nat.sub_self]
    rfl
  rw [apply, Run.settle.eq_def history [_]]
  simp only [Run.step, perform, act, List.append_nil]
  rw [settle_tell { history with listeners := history.listeners ++ [listener] } found silent,
    Run.settle]
  rfl

end History

/-! ## Routes at locations -/

/-- The same route, whatever the order of keys. -/
def Route.Agrees (one other : Route) : Prop :=
  one = other ∨ one.same other = true

namespace Router

theorem read_emptySearch : Query.read Location.emptySearch = Query.read "" := rfl

/-- A search text that says nothing does not matter. -/
theorem routeAt_withoutEmptySearch (router : Router) (location : Location) :
    router.routeAt location.withoutEmptySearch = router.routeAt location := by
  rw [Location.withoutEmptySearch]
  split
  · next silent => simp only [routeAt, silent, read_emptySearch]
  · rfl

end Router

/-! ## Visits -/

/-- What is done with a navigator. -/
inductive Visit (ε : Type) where
  | navigate (route : Route)
  | redirect (route : Route)
  | back
  | forward
  /-- Have the routes noted, from the current one on. -/
  | listen (observe : ResolvedRoute → ε)

namespace Visit

variable {ε : Type}

/-- The route that is gone to. -/
def route? : Visit ε → Option Route
  | .navigate route => some route
  | .redirect route => some route
  | _ => none

/-- The route that is gone to is found at the location it leads to. -/
def Returns (router : Router) (visit : Visit ε) : Prop :=
  ∀ route ∈ visit.route?, (router.routeAt (router.locationOf route)).Agrees route

def observer? : Visit ε → Option (ResolvedRoute → ε)
  | .listen observe => some observe
  | _ => none

/-- Where a visit leads in a history of routes, if it moves. -/
def move? : Visit ε → History.Zipper Route → Option (History.Zipper Route)
  | .navigate route, journey => some (journey.push route)
  | .redirect route, journey => some (journey.replace route)
  | .back, journey => journey.back?
  | .forward, journey => journey.forward?
  | .listen _, _ => none

/-- The history of routes after some visits. -/
def journey (first : History.Zipper Route) (visits : List (Visit ε)) : History.Zipper Route :=
  visits.foldl (fun journey visit => (visit.move? journey).getD journey) first

/-- The current route after each visit that moves. -/
def announced (journey : History.Zipper Route) : List (Visit ε) → List Route
  | [] => []
  | visit :: rest =>
      match visit.move? journey with
      | some next => next.current :: announced next rest
      | none => announced journey rest

/-- Listeners in the order of their registration. -/
def observers (visits : List (Visit ε)) : List (ResolvedRoute → ε) :=
  visits.filterMap observer?

end Visit

namespace Navigator

variable {ε : Type}

/-- A navigator that has visited one location. -/
def start (router : Router) (initial : Location) : Navigator ε :=
  ⟨router, .ofLocation initial⟩

/-- Do a visit.  What a listener notes is marked with its number. -/
def visit (navigator : Navigator (Nat × ε)) : Visit ε → Navigator (Nat × ε)
  | .navigate route => navigator.navigate route
  | .redirect route => navigator.redirect route
  | .back => navigator.apply .back
  | .forward => navigator.apply .forward
  | .listen observe =>
      navigator.onRoute fun resolved => (navigator.history.listeners.length, observe resolved)

def visitAll (navigator : Navigator (Nat × ε)) (visits : List (Visit ε)) : Navigator (Nat × ε) :=
  visits.foldl visit navigator

/-- What the listener with the given number has noted. -/
def notesOf (number : Nat) (navigator : Navigator (Nat × ε)) : List ε :=
  navigator.history.log.filterMap fun note => if note.1 = number then some note.2 else none

/-- Where a visit leads the stack, if it moves. -/
def moved? (navigator : Navigator (Nat × ε)) : Visit ε → Option History.Stack
  | .navigate route => some (navigator.history.stack.push (navigator.locationOf route))
  | .redirect route => some (navigator.history.stack.replace (navigator.locationOf route))
  | .back => navigator.history.stack.back?
  | .forward => navigator.history.stack.forward?
  | .listen _ => none

variable {navigator : Navigator (Nat × ε)} {action : History.Action (Nat × ε)}

theorem apply_of_moves (silent : navigator.history.IsSilent) {stack : History.Stack}
    (moves : navigator.history.act action = navigator.history.moveTo stack) :
    navigator.apply action = ⟨navigator.router, navigator.history.notedAt stack⟩ := by
  rw [apply, History.apply_of_moves silent moves]

theorem apply_of_stays (stays : navigator.history.act action = (navigator.history, [])) :
    navigator.apply action = navigator := by
  rw [apply, History.apply_of_stays stays]

/-- A visit that moves is noted, and nothing else happens. -/
theorem visit_of_moved? (silent : navigator.history.IsSilent) {visit : Visit ε}
    {stack : History.Stack} (moves : navigator.moved? visit = some stack) :
    navigator.visit visit = ⟨navigator.router, navigator.history.notedAt stack⟩ := by
  cases visit with
  | navigate route =>
      cases moves
      exact apply_of_moves silent rfl
  | redirect route =>
      cases moves
      exact apply_of_moves silent rfl
  | back =>
      have back : navigator.history.stack.back? = some stack := moves
      exact apply_of_moves silent (by simp only [History.act, back])
  | forward =>
      have forward : navigator.history.stack.forward? = some stack := moves
      exact apply_of_moves silent (by simp only [History.act, forward])
  | listen observe => exact absurd moves.symm (Option.some_ne_none _)

/-- A visit that neither moves nor registers a listener changes nothing. -/
theorem visit_of_stays {visit : Visit ε} (stays : navigator.moved? visit = none)
    (unheard : visit.observer? = none) : navigator.visit visit = navigator := by
  cases visit with
  | navigate route => exact absurd stays (Option.some_ne_none _)
  | redirect route => exact absurd stays (Option.some_ne_none _)
  | back =>
      have back : navigator.history.stack.back? = none := stays
      exact apply_of_stays (by simp only [History.act, back])
  | forward =>
      have forward : navigator.history.stack.forward? = none := stays
      exact apply_of_stays (by simp only [History.act, forward])
  | listen observe => exact absurd unheard (Option.some_ne_none _)

/-- A listener that notes the routes it is told, each with its number. -/
def recorder (router : Router) (number : Nat) (observe : ResolvedRoute → ε) :
    History.Listener (Nat × ε) :=
  .mk (fun location _ => (number, observe (router.resolve location))) []

theorem isSilent_recorder (router : Router) (number : Nat) (observe : ResolvedRoute → ε) :
    (recorder router number observe).IsSilent :=
  fun _ => rfl

/-- A listener is registered and notes the current route. -/
theorem visit_listen (navigator : Navigator (Nat × ε)) (observe : ResolvedRoute → ε) :
    navigator.visit (.listen observe) =
      ⟨navigator.router, { navigator.history with
        listeners := navigator.history.listeners ++
          [recorder navigator.router navigator.history.listeners.length observe]
        log := navigator.history.log ++
          [(navigator.history.listeners.length, observe navigator.current)] }⟩ := by
  have registered := @History.apply_subscribe _ navigator.history _
    (isSilent_recorder navigator.router navigator.history.listeners.length observe)
  exact congrArg (Navigator.mk navigator.router) registered

/-! ## Step by step -/

/-- A location at which a route is found. -/
def Shows (router : Router) (location : Location) (route : Route) : Prop :=
  (router.routeAt location).Agrees route

/-- The navigator is where the history of routes is, and its listeners note routes. -/
structure Follows (router : Router) (observers : List (ResolvedRoute → ε))
    (navigator : Navigator (Nat × ε)) (journey : History.Zipper Route) : Prop where
  router_eq : navigator.router = router
  listeners_eq : navigator.history.listeners = observers.mapIdx (recorder router)
  places : navigator.history.stack.zipper.Matches (Shows router) journey
  numbered : ∀ note ∈ navigator.history.log, note.1 < observers.length

namespace Follows

variable {router : Router} {observers : List (ResolvedRoute → ε)} {journey : History.Zipper Route}

theorem isSilent (follows : Follows router observers navigator journey) :
    navigator.history.IsSilent := by
  intro listener member
  rw [follows.listeners_eq] at member
  rcases List.mem_mapIdx.mp member with ⟨number, inside, rfl⟩
  exact isSilent_recorder router number _

theorem length_listeners (follows : Follows router observers navigator journey) :
    navigator.history.listeners.length = observers.length := by
  rw [follows.listeners_eq, List.length_mapIdx]

theorem current (follows : Follows router observers navigator journey) :
    navigator.current.route.Agrees journey.current := by
  have here := follows.places.current
  rwa [← follows.router_eq] at here

/-- A visit leads the stack on if it leads on in the history of routes, and to a place where the
route is found. -/
theorem moved? (follows : Follows router observers navigator journey) (visit : Visit ε)
    (returns : visit.Returns router) :
    Option.Rel (History.Zipper.Matches (Shows router))
      ((navigator.moved? visit).map History.Stack.zipper) (visit.move? journey) := by
  have shown : ∀ route ∈ visit.route?, Shows router (navigator.locationOf route) route := by
    intro route member
    rw [Shows, locationOf, follows.router_eq, Router.routeAt_withoutEmptySearch]
    exact returns route member
  cases visit with
  | navigate route =>
      refine .some ?_
      rw [History.Stack.zipper_push]
      exact follows.places.push (shown route rfl)
  | redirect route =>
      refine .some ?_
      rw [History.Stack.zipper_replace]
      exact follows.places.replace (shown route rfl)
  | back =>
      have back := History.Stack.map_zipper_back? navigator.history.stack
      exact back ▸ follows.places.back?
  | forward =>
      have forward := History.Stack.map_zipper_forward? navigator.history.stack
      exact forward ▸ follows.places.forward?
  | listen observe => exact .none

end Follows

/-- What a visit can do, with what it does in the history of routes. -/
inductive Steps (router : Router) (navigator : Navigator (Nat × ε))
    (journey : History.Zipper Route) :
    Visit ε → Navigator (Nat × ε) → History.Zipper Route → Prop where
  | moves {visit : Visit ε} {stack : History.Stack} {next : History.Zipper Route}
      (unheard : visit.observer? = none) (led : visit.move? journey = some next)
      (places : stack.zipper.Matches (Shows router) next) :
      Steps router navigator journey visit ⟨router, navigator.history.notedAt stack⟩ next
  | stays {visit : Visit ε} (unheard : visit.observer? = none)
      (led : visit.move? journey = none) :
      Steps router navigator journey visit navigator journey
  | listens (observe : ResolvedRoute → ε) :
      Steps router navigator journey (.listen observe)
        ⟨router, { navigator.history with
          listeners := navigator.history.listeners ++
            [recorder router navigator.history.listeners.length observe]
          log := navigator.history.log ++
            [(navigator.history.listeners.length, observe navigator.current)] }⟩
        journey

namespace Follows

variable {router : Router} {observers : List (ResolvedRoute → ε)} {journey : History.Zipper Route}

theorem steps (follows : Follows router observers navigator journey) (visit : Visit ε)
    (returns : visit.Returns router) :
    Steps router navigator journey visit (navigator.visit visit)
      ((visit.move? journey).getD journey) := by
  cases heard : visit.observer? with
  | some observe =>
      cases visit with
      | listen other =>
          rw [visit_listen, follows.router_eq]
          exact .listens other
      | _ => exact absurd heard.symm (Option.some_ne_none _)
  | none =>
      have both := follows.moved? visit returns
      cases moved : navigator.moved? visit with
      | none =>
          cases led : visit.move? journey with
          | none =>
              rw [visit_of_stays moved heard]
              exact .stays heard led
          | some next => rw [moved, led] at both; cases both
      | some stack =>
          cases led : visit.move? journey with
          | none => rw [moved, led] at both; cases both
          | some next =>
              rw [moved, led] at both
              cases both with
              | some places =>
                  rw [visit_of_moved? follows.isSilent moved, follows.router_eq]
                  exact .moves heard led places

/-- What is noted of a change: each listener notes the current route. -/
theorem log_notedAt (follows : Follows router observers navigator journey)
    (stack : History.Stack) :
    (navigator.history.notedAt stack).log = navigator.history.log ++
      observers.mapIdx fun number observe => (number, observe (router.resolve stack.current)) := by
  rw [History.notedAt, follows.listeners_eq]
  refine congrArg (navigator.history.log ++ ·) (List.ext_getElem? fun place => ?_)
  rw [List.getElem?_map, List.getElem?_mapIdx, List.getElem?_mapIdx, Option.map_map]
  rfl

/-- One visit is followed. -/
theorem visit (follows : Follows router observers navigator journey) (visit : Visit ε)
    (returns : visit.Returns router) :
    Follows router (observers ++ visit.observer?.toList) (navigator.visit visit)
      ((visit.move? journey).getD journey) := by
  have steps := follows.steps visit returns
  generalize navigator.visit visit = next, (visit.move? journey).getD journey = onward at steps
  cases steps with
  | moves unheard led places =>
      rw [unheard, Option.toList_none, List.append_nil]
      refine ⟨rfl, follows.listeners_eq, places, fun note member => ?_⟩
      rw [follows.log_notedAt] at member
      rcases List.mem_append.mp member with before | added
      · exact follows.numbered note before
      · rcases List.mem_mapIdx.mp added with ⟨number, inside, rfl⟩
        exact inside
  | stays unheard led =>
      rw [unheard, Option.toList_none, List.append_nil]
      exact follows
  | listens observe =>
      refine ⟨rfl, ?_, follows.places, fun note member => ?_⟩
      · simp only [Visit.observer?, Option.toList_some, List.mapIdx_concat,
          follows.listeners_eq, List.length_mapIdx]
      · simp only [Visit.observer?, Option.toList_some, List.length_append, List.length_singleton]
        rcases List.mem_append.mp member with before | added
        · exact Nat.lt_succ_of_lt (follows.numbered note before)
        · rw [List.mem_singleton.mp added, follows.length_listeners]
          exact Nat.lt_succ_self _

end Follows

/-- Of numbered notes there is one of each number. -/
theorem filterMap_mapIdx {α : Type} (items : List α) (value : α → ε) (number : Nat) :
    (items.mapIdx fun index item => (index, value item)).filterMap
        (fun note => if note.1 = number then some note.2 else none) =
      (items[number]?.map value).toList := by
  induction items using List.reverseRecOn with
  | nil => rfl
  | append_singleton items item ih =>
      rw [List.mapIdx_concat, List.filterMap_append, ih]
      rcases Nat.lt_trichotomy number items.length with inside | rfl | outside
      · rw [List.getElem?_append_left inside]
        simp only [List.filterMap_cons, if_neg (Nat.ne_of_gt inside), List.filterMap_nil,
          List.append_nil]
      · rw [List.getElem?_eq_none (Nat.le_refl _), List.getElem?_concat_length]
        simp only [List.filterMap_cons, if_true, List.filterMap_nil, Option.map_none,
          Option.toList_none, List.nil_append, Option.map_some, Option.toList_some]
      · have beyond : (items ++ [item]).length ≤ number := by
          rw [List.length_append]
          exact outside
        rw [List.getElem?_eq_none (Nat.le_of_lt outside), List.getElem?_eq_none beyond]
        simp only [List.filterMap_cons, if_neg (Nat.ne_of_lt outside), List.filterMap_nil,
          Option.map_none, Option.toList_none, List.append_nil]

theorem notesOf_append (number : Nat) {one other : Navigator (Nat × ε)} {more : List (Nat × ε)}
    (log : other.history.log = one.history.log ++ more) :
    other.notesOf number = one.notesOf number ++
      more.filterMap fun note => if note.1 = number then some note.2 else none := by
  rw [notesOf, log, List.filterMap_append, notesOf]

/-! ## Runs -/

/-- Of all routes that are gone to, each is found at the location it leads to. -/
def Returns (router : Router) (visits : List (Visit ε)) : Prop :=
  ∀ visit ∈ visits, visit.Returns router

namespace Follows

variable {router : Router} {observers : List (ResolvedRoute → ε)} {journey : History.Zipper Route}
  {visits : List (Visit ε)}

theorem visitAll (follows : Follows router observers navigator journey)
    (returns : Returns router visits) :
    Follows router (observers ++ Visit.observers visits) (navigator.visitAll visits)
      (Visit.journey journey visits) := by
  induction visits generalizing observers navigator journey with
  | nil => rwa [Visit.observers, List.filterMap_nil, List.append_nil]
  | cons visit rest ih =>
      rcases List.forall_mem_cons.mp returns with ⟨here, later⟩
      have whole := ih (follows.visit visit here) later
      rw [List.append_assoc] at whole
      have listed : Visit.observers (visit :: rest) =
          visit.observer?.toList ++ Visit.observers rest := by
        rw [Visit.observers, List.filterMap_cons, Visit.observers]
        cases visit.observer? <;> rfl
      rwa [listed]

/-- In a visit, a listener notes the route that is moved to, if the visit moves. -/
theorem notesOf_visit (follows : Follows router observers navigator journey) {number : Nat}
    {observe : ResolvedRoute → ε} (registered : observers[number]? = some observe)
    (visit : Visit ε) (returns : visit.Returns router) :
    ∃ told : List Route, (navigator.visit visit).notesOf number =
        navigator.notesOf number ++ told.map (fun route => observe ⟨router, route⟩) ∧
      List.Forall₂ Route.Agrees told ((visit.move? journey).map History.Zipper.current).toList := by
  have steps := follows.steps visit returns
  generalize navigator.visit visit = next, onward : (visit.move? journey).getD journey = further
    at steps
  cases steps with
  | @moves _ stack _ unheard led places =>
      refine ⟨[router.routeAt stack.current], ?_, ?_⟩
      · rw [notesOf_append number (follows.log_notedAt stack), filterMap_mapIdx, registered]
        rfl
      · rw [led]
        exact .cons places.current .nil
  | stays unheard led =>
      refine ⟨[], (List.append_nil _).symm, ?_⟩
      rw [led]
      exact .nil
  | listens added =>
      have different : observers.length ≠ number := by
        rcases List.getElem?_eq_some_iff.mp registered with ⟨inside, _⟩
        exact Nat.ne_of_gt inside
      refine ⟨[], ?_, .nil⟩
      rw [notesOf_append number rfl, List.filterMap_cons_none, List.filterMap_nil, List.map_nil]
      exact if_neg (follows.length_listeners ▸ different)

/-- In a run, a listener notes the routes that are announced, in their order. -/
theorem notesOf_visitAll (follows : Follows router observers navigator journey) {number : Nat}
    {observe : ResolvedRoute → ε} (registered : observers[number]? = some observe)
    (returns : Returns router visits) :
    ∃ told : List Route, (navigator.visitAll visits).notesOf number =
        navigator.notesOf number ++ told.map (fun route => observe ⟨router, route⟩) ∧
      List.Forall₂ Route.Agrees told (Visit.announced journey visits) := by
  induction visits generalizing observers navigator journey with
  | nil => exact ⟨[], (List.append_nil _).symm, .nil⟩
  | cons visit rest ih =>
      rcases List.forall_mem_cons.mp returns with ⟨here, later⟩
      have still : (observers ++ visit.observer?.toList)[number]? = some observe := by
        rcases List.getElem?_eq_some_iff.mp registered with ⟨inside, _⟩
        rw [List.getElem?_append_left inside, registered]
      rcases follows.notesOf_visit registered visit here with ⟨first, firstNotes, firstAgrees⟩
      rcases ih (follows.visit visit here) still later with ⟨more, moreNotes, moreAgrees⟩
      refine ⟨first ++ more, ?_, ?_⟩
      · rw [List.map_append, ← List.append_assoc, ← firstNotes]
        exact moreNotes
      · have listed : Visit.announced journey (visit :: rest) =
            ((visit.move? journey).map History.Zipper.current).toList ++
              Visit.announced ((visit.move? journey).getD journey) rest := by
          rw [Visit.announced]
          cases visit.move? journey <;> rfl
        rw [listed]
        exact List.rel_append firstAgrees moreAgrees

/-- Moving back is possible where it is in the history of routes. -/
theorem admits_back (follows : Follows router observers navigator journey) :
    navigator.history.admits .back = journey.back?.isSome := by
  have both := follows.places.back?
  rw [← History.Stack.map_zipper_back?] at both
  rw [History.admits, ← History.Zipper.isSome_eq_of_rel both, Option.isSome_map]

theorem admits_forward (follows : Follows router observers navigator journey) :
    navigator.history.admits .forward = journey.forward?.isSome := by
  have both := follows.places.forward?
  rw [← History.Stack.map_zipper_forward?] at both
  rw [History.admits, ← History.Zipper.isSome_eq_of_rel both, Option.isSome_map]

/-- A new listener notes the current route, and nothing was noted under its number before. -/
theorem notesOf_listen (follows : Follows router observers navigator journey)
    (observe : ResolvedRoute → ε) :
    (navigator.visit (.listen observe)).notesOf observers.length =
      [observe ⟨router, navigator.current.route⟩] := by
  have fresh : navigator.notesOf observers.length = [] := by
    apply List.filterMap_eq_nil_iff.mpr
    intro note member
    exact if_neg (Nat.ne_of_lt (follows.numbered note member))
  have current : navigator.current = ⟨router, navigator.current.route⟩ :=
    congrArg (ResolvedRoute.mk · navigator.current.route) follows.router_eq
  rw [visit_listen, notesOf_append _ rfl, fresh, ← current]
  simp only [follows.length_listeners, List.filterMap_cons, if_true, List.filterMap_nil,
    List.nil_append]

end Follows

theorem follows_start (router : Router) (initial : Location) :
    Follows router [] (start router initial : Navigator (Nat × ε))
      (.start (router.routeAt initial)) where
  router_eq := rfl
  listeners_eq := rfl
  places := (History.Stack.zipper_ofLocation initial).symm ▸ .start (Or.inl rfl)
  numbered := fun _ member => absurd member List.not_mem_nil

/-- Whatever is visited, the current route, the length and the possibility to move are those of
the history of routes.  A listener has been told the route that was current when it was
registered, and then the current route after every later visit that moved. -/
theorem agrees_journey (router : Router) (initial : Location) (visits : List (Visit ε))
    (returns : Returns router visits) :
    let first := History.Zipper.start (router.routeAt initial)
    let navigator := (start router initial).visitAll visits
    let journey := Visit.journey first visits
    navigator.current.route.Agrees journey.current ∧
      navigator.history.length = journey.length ∧
      navigator.history.admits .back = journey.back?.isSome ∧
      navigator.history.admits .forward = journey.forward?.isSome ∧
      ∀ before observe after, visits = before ++ .listen observe :: after →
        ∃ told : List Route, navigator.notesOf (Visit.observers before).length =
            told.map (fun route => observe ⟨router, route⟩) ∧
          List.Forall₂ Route.Agrees told ((Visit.journey first before).current ::
            Visit.announced (Visit.journey first before) after) := by
  intro first navigator journey
  have follows := (follows_start router initial).visitAll returns
  refine ⟨follows.current, ?_, follows.admits_back, follows.admits_forward, ?_⟩
  · rw [← follows.places.length_eq, History.Stack.length_zipper]
    rfl
  · rintro before observe after rfl
    rcases List.forall_mem_append.mp returns with ⟨earlier, others⟩
    rcases List.forall_mem_cons.mp others with ⟨here, later⟩
    have reached := (follows_start router initial).visitAll earlier
    rw [List.nil_append] at reached
    have registered : (Visit.observers before ++ [observe])[(Visit.observers before).length]? =
        some observe := List.getElem?_concat_length
    have noted := reached.notesOf_listen observe
    rcases (reached.visit (.listen observe) here).notesOf_visitAll registered later with
      ⟨more, notes, agrees⟩
    refine ⟨((start router initial).visitAll before).current.route :: more, ?_,
      .cons reached.current agrees⟩
    have whole : navigator =
        (((start router initial).visitAll before).visit (.listen observe)).visitAll after :=
      List.foldl_append
    rw [whole, notes, noted, List.map_cons, List.singleton_append]

/-- A page of the documents. -/
def chapterRoute (page : String) : Route where
  page := "docs"
  data := [("page", .string page), ("version", .string "2")]
  query := [("q", .string "a b")]

/-- Pages are noted from the second one on.  The last change forgets what was to come. -/
def docsTour : List (Visit String) :=
  [.navigate (chapterRoute "intro"), .listen fun resolved => resolved.route.page,
    .navigate (chapterRoute "usage"), .back, .back, .back, .forward,
    .redirect (chapterRoute "usage"), .navigate (chapterRoute "intro"), .forward]

/-- A tour with changes of all kinds, two of which do not move. -/
theorem agrees_docsTour :
    ∃ router, Router.build Router.docsForest Router.docsConfig = .ok router ∧
      Returns router docsTour ∧
      ((start router ⟨"/", ""⟩).visitAll docsTour).current.route.Agrees (chapterRoute "intro") ∧
      ((start router ⟨"/", ""⟩).visitAll docsTour).history.length = 3 ∧
      ((start router ⟨"/", ""⟩).visitAll docsTour).history.admits .forward = false ∧
      ∃ told, ((start router ⟨"/", ""⟩).visitAll docsTour).notesOf 0 = told.map Route.page ∧
        List.Forall₂ Route.Agrees told
          [chapterRoute "intro", chapterRoute "usage", chapterRoute "intro",
            router.routeAt ⟨"/", ""⟩, chapterRoute "intro", chapterRoute "usage",
            chapterRoute "intro"] := by
  rcases Router.exists_of_computed Router.docsForest Router.docsConfig "/docs/v2/intro"
      (fun router _ => ["intro", "usage"].all fun page =>
        (router.routeAt (router.locationOf (chapterRoute page))).same (chapterRoute page))
      (by decide +kernel) with
    ⟨router, _, _, built, _, holds⟩
  have found : ∀ page ∈ ["intro", "usage"],
      (router.routeAt (router.locationOf (chapterRoute page))).Agrees (chapterRoute page) :=
    fun page member => Or.inr (List.all_eq_true.mp holds page member)
  have intro := found "intro" (by decide)
  have usage := found "usage" (by decide)
  have returns : Returns router docsTour := by
    simp only [Returns, Visit.Returns, docsTour, List.forall_mem_cons, Visit.route?, Option.mem_def,
      Option.some.injEq, forall_eq', intro, usage, true_and, reduceCtorEq, false_implies,
      implies_true, List.not_mem_nil]
  rcases agrees_journey router ⟨"/", ""⟩ docsTour returns with
    ⟨current, length, _, forward, notes⟩
  exact ⟨router, built, returns, current, length, forward,
    notes [.navigate (chapterRoute "intro")] _ _ rfl⟩

end Navigator
end PageRouting
