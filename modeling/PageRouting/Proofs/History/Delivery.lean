import Mathlib.Data.List.Permutation
import PageRouting.Proofs.History.Chronicle

namespace PageRouting
namespace History

/-!
# What listeners are told

A listener is called once for its registration, with the location that is current
then, and once for each change after it, with the location of that change.  This
holds however changes, calls and registrations are nested: the calls that are
still due stand on the agenda, and the calls of the steps to come are those
together with the changes to come.
-/

variable {ε : Type}

/-- The news that a listener is to be told by an item of the agenda. -/
def Due.call? (listener : Nat) (due : Due ε) : Option News :=
  match due.item with
  | .act _ => none
  | .tell index location => if index = listener then some ⟨due.cause, location⟩ else none

/-- The calls of a listener that stand on the agenda. -/
def dueCalls (listener : Nat) (agenda : List (Due ε)) : List News :=
  agenda.filterMap (Due.call? listener)

/-- Only listeners that have been registered are to be told. -/
def IsReady (history : History ε) (agenda : List (Due ε)) : Prop :=
  ∀ due ∈ agenda, ∀ index location, due.item = .tell index location →
    index < history.listeners.length

theorem dueCalls_append (listener : Nat) (first second : List (Due ε)) :
    dueCalls listener (first ++ second) = dueCalls listener first ++ dueCalls listener second :=
  List.filterMap_append

theorem dueCalls_cons (listener : Nat) (due : Due ε) (rest : List (Due ε)) :
    dueCalls listener (due :: rest) = (due.call? listener).toList ++ dueCalls listener rest :=
  filterMap_cons_eq_append _ _ _

theorem calls_cons (listener : Nat) (entry : Entry ε) (later : List (Entry ε)) :
    calls listener (entry :: later) = (entry.call? listener).toList ++ calls listener later :=
  filterMap_cons_eq_append _ _ _

theorem changes_cons (entry : Entry ε) (later : List (Entry ε)) :
    changes (entry :: later) = entry.change?.toList ++ changes later :=
  filterMap_cons_eq_append _ _ _

/-- A listener that has not been registered is not to be told anything. -/
theorem IsReady.dueCalls_eq_nil {history : History ε} {agenda : List (Due ε)}
    (ready : history.IsReady agenda) {listener : Nat} (new : history.listeners.length ≤ listener) :
    dueCalls listener agenda = [] := by
  apply List.filterMap_eq_nil_iff.mpr
  rintro ⟨action | ⟨index, location⟩, cause⟩ member
  · rfl
  · have registered := ready _ member index location rfl
    exact if_neg (Nat.ne_of_lt (Nat.lt_of_lt_of_le registered new))

private theorem filterMap_range_eq {α : Type} (value : α) {place count : Nat}
    (inside : place < count) :
    (List.range count).filterMap (fun index => if index = place then some value else none) =
      [value] := by
  induction count with
  | zero => exact absurd inside (Nat.not_lt_zero place)
  | succ count ih =>
      rw [List.range_succ, List.filterMap_append]
      rcases Nat.lt_succ_iff_lt_or_eq.mp inside with earlier | last
      · simp only [ih earlier, List.filterMap_cons, if_neg (Nat.ne_of_gt earlier),
          List.filterMap_nil, List.append_nil]
      · have others : (List.range count).filterMap
            (fun index => if index = place then some value else none) = [] := by
          apply List.filterMap_eq_nil_iff.mpr
          intro index member
          exact if_neg (Nat.ne_of_lt (last ▸ List.mem_range.mp member))
        simp only [others, List.filterMap_cons, if_pos last.symm, List.filterMap_nil,
          List.nil_append]

/-- Of the tellings of a change, each listener that is registered has one. -/
theorem dueCalls_tellAll (history : History ε) (location : Location) (cause : Option Nat)
    {listener : Nat} (registered : listener < history.listeners.length) :
    dueCalls listener ((history.tellAll location).map fun next => ⟨next, cause⟩) =
      [⟨cause, location⟩] := by
  rw [dueCalls, tellAll, List.map_map, List.filterMap_map]
  exact filterMap_range_eq (⟨cause, location⟩ : News) registered

/-- What follows from a step is for each registered listener a call that tells the
change of that step, if there is one. -/
theorem dueCalls_consequences (number : Nat) (cause : Option Nat) (history : History ε)
    (item : Item ε) {listener : Nat} (registered : listener < history.listeners.length) :
    dueCalls listener (history.consequences number item) =
      (Entry.change? ⟨number, cause, history, item⟩).toList := by
  have performed := history.performs item
  unfold consequences
  generalize (history.perform item).1 = next, (history.perform item).2 = items at performed
  cases performed with
  | register added =>
      exact List.filterMap_cons_none (if_neg (Nat.ne_of_gt registered))
  | settle settles =>
      simp only [Entry.change?, settles, Option.map_some, Option.toList_some]
      exact dueCalls_tellAll history _ _ registered
  | stay stays unregistered =>
      simp only [Entry.change?, stays, Option.map_none, Option.toList_none]
      rfl
  | call found =>
      rw [List.map_map]
      exact List.filterMap_eq_nil_iff.mpr (by simp [Due.call?])
  | miss missing => rfl

/-- A step that calls a listener does what was due. -/
theorem call?_eq {history : History ε} {due : Due ε} {rest : List (Due ε)}
    (ready : history.IsReady (due :: rest)) (number listener : Nat) :
    Entry.call? listener ⟨number, due.cause, history, due.item⟩ = due.call? listener := by
  rcases due with ⟨action | ⟨index, location⟩, cause⟩
  · rfl
  · have registered := ready _ List.mem_cons_self index location rfl
    simp only [Entry.call?, Due.call?, registered, and_true]

theorem IsReady.step {history : History ε} {due : Due ε} {rest : List (Due ε)}
    (ready : history.IsReady (due :: rest)) (number : Nat) :
    (history.perform due.item).1.IsReady (history.consequences number due.item ++ rest) := by
  rcases due with ⟨item, cause⟩
  have performed := history.performs item
  intro next member index location tells
  rcases List.mem_append.mp member with follows | later
  · rcases List.mem_map.mp follows with ⟨following, among, rfl⟩
    simp only at tells ⊢
    generalize (history.perform item).1 = onward, (history.perform item).2 = items
      at performed among
    cases performed with
    | register added =>
        have same := (List.mem_singleton.mp among).symm.trans tells
        cases same
        simp
    | settle settles =>
        rcases List.mem_map.mp among with ⟨listener, inside, same⟩
        cases same.trans tells
        exact List.mem_range.mp inside
    | stay stays unregistered => exact absurd among List.not_mem_nil
    | call found =>
        rcases List.mem_map.mp among with ⟨action, _, same⟩
        cases same.trans tells
    | miss missing => exact absurd among List.not_mem_nil
  · exact Nat.lt_of_lt_of_le (ready next (List.mem_cons_of_mem _ later) index location tells)
      performed.length_listeners_le

/-- The calls of a registered listener are those that are due, and those of the changes to
come. -/
theorem calls_perm (number : Nat) {history : History ε} {agenda : List (Due ε)}
    (ready : history.IsReady agenda) {listener : Nat}
    (registered : listener < history.listeners.length) :
    (calls listener (Run.chronicle number history agenda)).Perm
      (dueCalls listener agenda ++ changes (Run.chronicle number history agenda)) := by
  induction number, history, agenda using Run.chronicle.induct with
  | case1 number history => rw [Run.chronicle]; exact .refl _
  | case2 number history due rest ih =>
      have onward := ih (ready.step number)
        (Nat.lt_of_lt_of_le registered (history.performs due.item).length_listeners_le)
      rw [dueCalls_append, dueCalls_consequences number due.cause history due.item registered]
        at onward
      rw [Run.chronicle, calls_cons, changes_cons, dueCalls_cons, call?_eq ready, List.append_assoc]
      apply List.Perm.append_left
      -- the change of this step is told before what was due already
      exact onward.trans (by
        rw [← List.append_assoc]
        exact List.perm_append_comm.append_right _)

/-- What is left of a chronicle is the chronicle of a later state.  The listeners that are
not registered by then have not been called before. -/
theorem exists_of_suffix {number : Nat} {history : History ε} {agenda : List (Due ε)}
    (ready : history.IsReady agenda) {entries : List (Entry ε)}
    (left : entries <:+ Run.chronicle number history agenda) :
    ∃ number' history' agenda', entries = Run.chronicle number' history' agenda' ∧
      history'.IsReady agenda' ∧
      Run.settle history' (agenda'.map Due.item) = Run.settle history (agenda.map Due.item) ∧
      history.listeners.length ≤ history'.listeners.length ∧
      ∀ listener, history'.listeners.length ≤ listener →
        calls listener (Run.chronicle number history agenda) = calls listener entries := by
  induction number, history, agenda using Run.chronicle.induct with
  | case1 number history =>
      rw [Run.chronicle] at left
      have none := List.suffix_nil.mp left
      exact ⟨number, history, [], by rw [none, Run.chronicle], ready, rfl, Nat.le_refl _,
        fun _ _ => by rw [none, Run.chronicle]⟩
  | case2 number history due rest ih =>
      rw [Run.chronicle] at left
      rcases List.suffix_cons_iff.mp left with whole | later
      · exact ⟨number, history, due :: rest, by rw [whole, Run.chronicle], ready, rfl,
          Nat.le_refl _, fun _ _ => by rw [whole, Run.chronicle]⟩
      · rcases ih (ready.step number) later with
          ⟨number', history', agenda', same, ready', settled, grown, uncalled⟩
        have grown := Nat.le_trans (history.performs due.item).length_listeners_le grown
        refine ⟨number', history', agenda', same, ready', ?_, grown, ?_⟩
        · rw [settled, Run.settle_step]
        intro listener unregistered
        have silent : due.call? listener = none := by
          have none := ready.dueCalls_eq_nil (Nat.le_trans grown unregistered)
          rw [dueCalls_cons] at none
          exact Option.toList_eq_nil_iff.mp (List.append_eq_nil_iff.mp none).1
        rw [Run.chronicle, calls_cons, call?_eq ready, silent, Option.toList_none, List.nil_append,
          uncalled listener unregistered]

theorem isReady_actions (history : History ε) (actions : List (Action ε)) :
    history.IsReady (actions.map fun action => (⟨.act action, none⟩ : Due ε)) := by
  intro due member index location tells
  rcases List.mem_map.mp member with ⟨action, _, rfl⟩
  cases tells

theorem dueCalls_actions (listener : Nat) (actions : List (Action ε)) :
    dueCalls listener (actions.map fun action => (⟨.act action, none⟩ : Due ε)) = [] := by
  rw [dueCalls, List.filterMap_map]
  exact List.filterMap_eq_nil_iff.mpr fun _ _ => rfl

/-- What is due when a listener has just been registered. -/
def Entry.greetingDue (entry : Entry ε) : Due ε :=
  ⟨.tell entry.history.listeners.length entry.history.current, some entry.number⟩

/-- The state in which a registration leaves a run, and the steps that are left of it.  The
new listener is greeted before anything else, and no other call of it is due. -/
structure FollowsRegistration (entry : Entry ε) (later : List (Entry ε)) (final next : History ε)
    (rest : List (Due ε)) : Prop where
  later_eq : later = Run.chronicle (entry.number + 1) next (entry.greetingDue :: rest)
  final_eq : final = Run.settle next ((entry.greetingDue :: rest).map Due.item)
  ready : next.IsReady (entry.greetingDue :: rest)
  listeners : ∃ listener, next.listeners = entry.history.listeners ++ [listener]
  current : next.current = entry.history.current
  due : dueCalls entry.history.listeners.length rest = []

theorem FollowsRegistration.registered {entry : Entry ε} {later : List (Entry ε)}
    {final next : History ε} {rest : List (Due ε)}
    (follows : FollowsRegistration entry later final next rest) :
    entry.history.listeners.length < next.listeners.length := by
  rcases follows.listeners with ⟨listener, listeners⟩
  rw [listeners, List.length_append]
  exact Nat.lt_succ_self _

theorem Entry.call?_greetingDue (entry : Entry ε) :
    entry.greetingDue.call? entry.history.listeners.length = some entry.greeting :=
  if_pos rfl

theorem exists_followsRegistration {history : History ε} {actions : List (Action ε)}
    {entry : Entry ε} {later : List (Entry ε)}
    (recorded : entry :: later <:+ history.chronicle actions) (registers : entry.registers = true) :
    (∃ next rest, FollowsRegistration entry later (history.applyAll actions) next rest) ∧
      calls entry.history.listeners.length (history.chronicle actions) =
        calls entry.history.listeners.length later := by
  rcases exists_of_suffix (isReady_actions history actions) recorded with
    ⟨number, before, agenda, same, ready, settled, _, uncalled⟩
  cases agenda with
  | nil => rw [Run.chronicle] at same; exact absurd same (List.cons_ne_nil _ _)
  | cons due rest =>
      rw [Run.chronicle] at same
      rcases List.cons.inj same with ⟨rfl, rfl⟩
      rcases due with ⟨(_ | _ | _ | _ | listener) | _, cause⟩
      case act.subscribe =>
        refine ⟨⟨_, rest, rfl, ?_, ready.step number, ⟨listener, rfl⟩, rfl, ?_⟩, ?_⟩
        · have settled := (Run.settle_step number _ _ _).trans settled
          rw [List.map_map] at settled
          exact (applyAll_eq_settle _ _).trans settled.symm
        · have none := ready.dueCalls_eq_nil (Nat.le_refl _)
          rw [dueCalls_cons] at none
          exact (List.append_eq_nil_iff.mp none).2
        · exact (uncalled _ (Nat.le_refl _)).trans (calls_cons _ _ _)
      all_goals exact absurd registers Bool.false_ne_true

/-- In every run, however it is nested, a listener is called once for its registration and
once for each later change, and not for anything else. -/
theorem calls_perm_changes (history : History ε) (actions : List (Action ε)) :
    (history.applyAll actions).log =
        history.log ++ (history.chronicle actions).filterMap Entry.note? ∧
      ((history.chronicle actions).map Entry.number).Nodup ∧
      (∀ listener < history.listeners.length,
        (calls listener (history.chronicle actions)).Perm (changes (history.chronicle actions))) ∧
      ∀ entry later, entry :: later <:+ history.chronicle actions → entry.registers = true →
        (calls entry.history.listeners.length (history.chronicle actions)).Perm
          (entry.greeting :: changes later) := by
  refine ⟨log_applyAll history actions, nodup_number_chronicle history actions, ?_, ?_⟩
  · intro listener registered
    have told := calls_perm 0 (isReady_actions history actions) registered
    rwa [dueCalls_actions, List.nil_append] at told
  · intro entry later recorded registers
    rcases exists_followsRegistration recorded registers with ⟨⟨next, rest, follows⟩, uncalled⟩
    have told := calls_perm (entry.number + 1) follows.ready follows.registered
    rwa [dueCalls_cons, follows.due, ← follows.later_eq, entry.call?_greetingDue, ← uncalled]
      at told

/-- A listener that notes what it is told under its name. -/
def named (name : String) (rules : List (Rule (String × Location))) :
    Listener (String × Location) :=
  .mk (fun location _ => (name, location)) rules

/-- What is done when a path is told. -/
def whenAt (pathname : String) (actions : List (Action (String × Location))) :
    Rule (String × Location) :=
  .mk (fun location => location.pathname == pathname) actions

/-- Told `/b`, the first listener registers a second one, which navigates at once, and then
replaces the location that this has led to. -/
def nestedRun : List (Action (String × Location)) :=
  [.subscribe (named "first"
      [whenAt "/b" [.subscribe (named "second" [whenAt "/b" [.push ⟨"/c", ""⟩]]),
        .replace ⟨"/d", ""⟩]]),
    .push ⟨"/b", ""⟩, .back, .back, .back]

/-- The second listener is registered in the fifth step.  It is called for its registration
and for the four changes after it, the first of which is its own. -/
theorem calls_perm_nestedRun :
    ∃ entry later, entry :: later <:+ (ofLocation ⟨"/a", ""⟩).chronicle nestedRun ∧
      entry.registers = true ∧ entry.history.listeners.length = 1 ∧
      (changes later).map News.location = [⟨"/c", ""⟩, ⟨"/d", ""⟩, ⟨"/b", ""⟩, ⟨"/a", ""⟩] ∧
      (calls 1 ((ofLocation ⟨"/a", ""⟩).chronicle nestedRun)).Perm
        (entry.greeting :: changes later) := by
  have computed : (match ((ofLocation ⟨"/a", ""⟩).chronicle nestedRun).drop 4 with
      | [] => false
      | entry :: later => entry.registers && entry.history.listeners.length == 1 &&
          (changes later).map News.location ==
            [⟨"/c", ""⟩, ⟨"/d", ""⟩, ⟨"/b", ""⟩, ⟨"/a", ""⟩]) = true := by
    cbv
  split at computed
  · exact absurd computed Bool.false_ne_true
  · next entry later shape =>
      simp only [Bool.and_eq_true, beq_iff_eq] at computed
      rcases computed with ⟨⟨registers, first⟩, locations⟩
      have recorded : entry :: later <:+ (ofLocation ⟨"/a", ""⟩).chronicle nestedRun :=
        shape ▸ List.drop_suffix _ _
      have told := (calls_perm_changes _ nestedRun).2.2.2 entry later recorded registers
      exact ⟨entry, later, recorded, registers, first, locations, first ▸ told⟩

end History
end PageRouting
