import Mathlib.Data.List.TakeWhile
import PageRouting.Proofs.Pattern.Blocks

namespace PageRouting
namespace Pattern

/-!
# Parts of a pattern, one after the other

What a search finds from a place of the program on depends on the text ahead
alone.  It is made up part by part, from what the later parts find: literal text
goes past itself, a part that may be left out is tried first, and a set of
characters is repeated as often as possible before its last characters are given
back one by one.

A match shows the texts of the groups that it has been through.  What the later
parts have been through stands first in the list, as the latest round of a group
is the one that counts.
-/

/-! ## What a match shows -/

/-- Texts of groups under their indices, the latest first. -/
abbrev GroupTexts := List (Nat × List Char)

/-- On its way to the match the thread has been through a group with the text, or has kept the
group as it was. -/
def Thread.Marks (text : List Char) (thread final : Thread) (index : Nat) :
    Option (List Char) → Prop
  | some value => ∃ first, final.bounds? index = some (first, first + value.length) ∧
      (text.drop first).take value.length = value
  | none => final.entered.lookup index = thread.entered.lookup index ∧
      final.left.lookup index = thread.left.lookup index

/-- The thread has been through the groups with these texts, and has kept the others. -/
def Thread.Shows (text : List Char) (thread : Thread) (found : GroupTexts) (final : Thread) :
    Prop :=
  ∀ index, thread.Marks text final index (found.lookup index)

/-- Wherever the code stands, a thread that begins with it finds what is said of the text ahead. -/
def Finds (program : Array Instruction) (text : List Char) (code : List Instruction)
    (later : List Char → Option GroupTexts) : Prop :=
  ∀ thread : Thread, thread.Reads text → CodeAt program thread.instruction code →
    Settles program (thread.Shows text) thread (later thread.rest)

variable {program : Array Instruction} {text : List Char} {code : List Instruction}
  {later : List Char → Option GroupTexts}

theorem Thread.Shows.of_groups_eq {one other final : Thread} {found : GroupTexts}
    (shown : one.Shows text found final) (entered : one.entered = other.entered)
    (left : one.left = other.left) : other.Shows text found final := by
  intro index
  have marks := shown index
  cases value : found.lookup index with
  | some value => rwa [value] at marks
  | none =>
      rw [value] at marks
      exact ⟨entered ▸ marks.1, left ▸ marks.2⟩

/-- Threads that have been through the same groups show the same. -/
theorem Settles.of_groups_eq {one other thread : Thread} {found : Option GroupTexts}
    (settles : Settles program (one.Shows text) thread found)
    (entered : one.entered = other.entered) (left : one.left = other.left) :
    Settles program (other.Shows text) thread found := by
  have same := settles.map id fun _ _ shown => shown.of_groups_eq entered left
  rwa [Option.map_id_fun, id_eq] at same

/-! ## Parts -/

/-- Literal text is gone past if it is there. -/
theorem settles_literal {Found : Type} {Shows : Found → Thread → Prop}
    {later : List Char → Option Found} {literal : List Char} {code : List Instruction}
    {thread : Thread}
    (here : CodeAt program thread.instruction
      (literal.map (fun c => .take (.single c)) ++ code))
    (reads : thread.Reads text)
    (settles : ∀ next : Thread, next.Reads text → CodeAt program next.instruction code →
      next.entered = thread.entered → next.left = thread.left →
      Settles program Shows next (later next.rest)) :
    Settles program Shows thread ((literal.isPrefixOf? thread.rest).bind later) := by
  induction literal generalizing thread with
  | nil => exact settles thread reads here rfl rfl
  | cons c literal ih =>
      cases rest : thread.rest with
      | nil =>
          apply Settles.stuck here.head
          simp [Thread.follow, rest]
      | cons d others =>
          by_cases same : d = c
          · have ways : thread.follow (.take (.single c)) = [thread.advance d others] := by
              simp [Thread.follow, rest, Text.CharSet.contains_single, same]
            have next : Settles program Shows (thread.advance d others)
                ((literal.isPrefixOf? others).bind later) :=
              ih (here.after [.take (.single c)]) (reads.advance rest) settles
            rw [List.isPrefixOf?, if_pos (beq_iff_eq.mpr same.symm)]
            exact .onward here.head ways next
          · rw [List.isPrefixOf?, if_neg (by simpa using Ne.symm same)]
            apply Settles.stuck here.head
            simp [Thread.follow, rest, Text.CharSet.contains_single, same]

/-- At the end of the program nothing more may come. -/
theorem settles_textEnd {Found : Type} {Shows : Found → Thread → Prop} {found : Found}
    {thread : Thread} (here : CodeAt program thread.instruction [.check .textEnd])
    (shown : Shows found thread.next) :
    Settles program Shows thread (if thread.rest = [] then some found else none) := by
  by_cases ends : thread.rest = []
  · have ways : thread.follow (.check .textEnd) = [thread.next] := by
      simp [Thread.follow, Assertion.holds, ends]
    have beyond : program[thread.next.instruction]? = none := by
      have after := here.after [.check .textEnd]
      apply Array.getElem?_eq_none
      rw [← Array.length_toList]
      exact List.drop_eq_nil_iff.mp after
    rw [if_pos ends]
    exact .onward here.head ways ⟨0, thread.next, .matched beyond, shown⟩
  · rw [if_neg ends]
    apply Settles.stuck here.head
    cases rest : thread.rest with
    | nil => exact absurd rest ends
    | cons c others => simp [Thread.follow, Assertion.holds, rest]

theorem finds_end : Finds program text [.check .textEnd] fun rest =>
    if rest = [] then some [] else none :=
  fun _ _ here => settles_textEnd here fun _ => ⟨rfl, rfl⟩

namespace Finds

theorem congr {other : List Char → Option GroupTexts} (finds : Finds program text code later)
    (same : ∀ rest, later rest = other rest) : Finds program text code other :=
  funext same ▸ finds

theorem literal (finds : Finds program text code later) (literal : List Char) :
    Finds program text (literal.map (fun c => .take (.single c)) ++ code) fun rest =>
      (literal.isPrefixOf? rest).bind later := by
  intro thread reads here
  refine settles_literal here reads fun next nextReads nextHere entered left => ?_
  exact (finds next nextReads nextHere).of_groups_eq entered left

/-- A part that may be left out is left out only if nothing can be found with it. -/
theorem optional {body : List Instruction} {within : List Char → Option GroupTexts}
    (inside : Finds program text (body ++ code) within) (finds : Finds program text code later) :
    Finds program text (Instruction.optional true body ++ code) fun rest =>
      (within rest).or (later rest) := by
  intro thread reads here
  have place : (thread.instruction + (body.length + 1 : Int)).toNat =
      thread.instruction + (body.length + 1) := by omega
  have onward : (thread.instruction + 1 : Int).toNat = thread.instruction + 1 := by omega
  have insideHere : CodeAt program (thread.moveBy 1).instruction (body ++ code) := by
    rw [Thread.moveBy, onward]
    exact here.after [.fork 1 (body.length + 1)]
  have laterHere : CodeAt program (thread.moveBy (body.length + 1)).instruction code := by
    rw [Thread.moveBy, place]
    exact here.after _
  have first := inside (thread.moveBy 1) (reads.moveBy 1) insideHere
  have second := finds (thread.moveBy (body.length + 1)) (reads.moveBy _) laterHere
  exact .fork here.head rfl (first.of_groups_eq rfl rfl) (second.of_groups_eq rfl rfl)

end Finds

/-! ## Repeated sets -/

/-- Characters of a set are taken as long as possible, and are given back one after the other
until the rest can be read. -/
def takeMost {Found : Type} (members : Char → Bool)
    (later : List Char → List Char → Option Found) (taken : List Char) :
    List Char → Option Found
  | [] => later taken []
  | c :: rest =>
      (if members c then takeMost members later (taken ++ [c]) rest else none).or
        (later taken (c :: rest))

/-- Nothing is given back if no later part can begin with a character of the set. -/
theorem takeMost_eq {Found : Type} {members : Char → Bool}
    {later : List Char → List Char → Option Found}
    (apart : ∀ c, members c = true → ∀ taken rest, later taken (c :: rest) = none)
    (taken text : List Char) :
    takeMost members later taken text =
      later (taken ++ text.takeWhile members) (text.dropWhile members) := by
  induction text generalizing taken with
  | nil => rw [takeMost, List.takeWhile_nil, List.append_nil, List.dropWhile_nil]
  | cons c rest ih =>
      cases member : members c with
      | false =>
          rw [takeMost, member, if_neg Bool.false_ne_true, Option.none_or,
            List.takeWhile_cons_of_neg (by simp [member]),
            List.dropWhile_cons_of_neg (by simp [member]), List.append_nil]
      | true =>
          rw [takeMost, member, if_pos rfl, apart c member, Option.or_none, ih,
            List.takeWhile_cons_of_pos member, List.dropWhile_cons_of_pos member,
            List.append_assoc, List.singleton_append]

/-- At most one character is given back if no later part can begin with two characters of the
set. -/
theorem takeMost_eq_or {Found : Type} {members : Char → Bool}
    {later : List Char → List Char → Option Found}
    (apart : ∀ c, members c = true → ∀ next, members next = true → ∀ taken rest,
      later taken (c :: next :: rest) = none) (taken text : List Char) :
    takeMost members later taken text =
      (later (taken ++ text.takeWhile members) (text.dropWhile members)).or
        ((text.takeWhile members).getLast?.bind fun c =>
          later (taken ++ (text.takeWhile members).dropLast) (c :: text.dropWhile members)) := by
  induction text generalizing taken with
  | nil =>
      rw [takeMost, List.takeWhile_nil, List.append_nil, List.dropWhile_nil, List.getLast?_nil,
        Option.bind_none, Option.or_none]
  | cons c rest ih =>
      cases member : members c with
      | false =>
          rw [takeMost, member, if_neg Bool.false_ne_true, Option.none_or,
            List.takeWhile_cons_of_neg (by simp [member]),
            List.dropWhile_cons_of_neg (by simp [member]), List.append_nil, List.getLast?_nil,
            Option.bind_none, Option.or_none]
      | true =>
          rw [takeMost, member, if_pos rfl, ih, List.takeWhile_cons_of_pos member,
            List.dropWhile_cons_of_pos member, List.append_assoc, List.singleton_append,
            Option.or_assoc]
          congr 1
          have split := List.takeWhile_append_dropWhile (p := members) (l := rest)
          cases front : rest.takeWhile members with
          | nil =>
              rw [front, List.nil_append] at split
              rw [split, List.getLast?_nil, Option.bind_none, Option.none_or,
                List.getLast?_singleton, Option.bind_some, List.dropLast_singleton,
                List.append_nil]
          | cons next others =>
              have nextMember : members next = true :=
                List.mem_takeWhile_imp (front ▸ List.mem_cons_self)
              have begins : rest = next :: (others ++ rest.dropWhile members) := by
                rw [← List.cons_append, ← front, split]
              have second : later taken (c :: rest) = none := by
                rw [begins]
                exact apart c member next nextMember _ _
              rw [second, Option.or_none, List.getLast?_cons_cons, List.dropLast_cons_cons]
              simp only [List.append_assoc, List.singleton_append]

/-- The program of a group that holds characters of a set, any number of times. -/
def groupOf (index : Nat) (members : Text.CharSet) : List Instruction :=
  .enter index :: Instruction.anyTimes true [.take members] ++ [.leave index]

/-- The thread has entered a group and has gone past some characters since then. -/
structure Thread.IsInside (text : List Char) (index : Nat) (base thread : Thread)
    (taken : List Char) : Prop where
  reads : thread.Reads text
  entered : thread.entered = (index, base.position) :: base.entered
  left : thread.left = base.left
  position : thread.position = base.position + taken.length
  taken : (text.drop base.position).take taken.length = taken

/-- One more character has been gone past. -/
theorem Thread.IsInside.advance {index : Nat} {base thread : Thread} {taken : List Char}
    (inside : base.IsInside text index thread taken) {c : Char} {rest : List Char}
    (ahead : thread.rest = c :: rest) :
    base.IsInside text index (thread.advance c rest) (taken ++ [c]) where
  reads := inside.reads.advance ahead
  entered := inside.entered
  left := inside.left
  position := by
    rw [List.length_append, List.length_singleton, ← Nat.add_assoc, ← inside.position]
    rfl
  taken := by
    have dropped : (text.drop base.position).drop taken.length = c :: rest := by
      rw [List.drop_drop, ← inside.position, ← inside.reads.rest, ahead]
    rw [List.length_append, List.take_add, inside.taken, dropped]
    rfl

theorem instruction_moveBy {thread : Thread} {place : Nat} (here : thread.instruction = place)
    (offset : Nat) : (thread.moveBy offset).instruction = place + offset := by
  change (thread.instruction + offset : Int).toNat = place + offset
  omega

theorem Thread.IsInside.moveBy {index : Nat} {base thread : Thread} {taken : List Char}
    (inside : base.IsInside text index thread taken) (offset : Int) :
    base.IsInside text index (thread.moveBy offset) taken :=
  ⟨inside.reads.moveBy offset, inside.entered, inside.left, inside.position, inside.taken⟩

namespace Finds

section Group

variable {index start : Nat} {members : Text.CharSet} {base : Thread}
  (here : CodeAt program start (groupOf index members ++ code))
  (finds : Finds program text code later)
include here finds

/-- At its end the group has the characters for its text, unless it is gone through again. -/
theorem leave {thread : Thread} {taken : List Char}
    (inside : base.IsInside text index thread taken) (place : thread.instruction = start + 4) :
    Settles program (base.Shows text) thread
      ((later thread.rest).map fun found => found ++ [(index, taken)]) := by
  have leaveHere : program[thread.instruction]? = some (.leave index) :=
    place ▸ (here.after [.enter index, .fork 1 3, .take members, .jump (-2)]).head
  have codeHere : CodeAt program (thread.leave index).instruction code := by
    change CodeAt program (thread.instruction + 1) code
    rw [place]
    exact here.after _
  refine .onward leaveHere rfl ((finds _ (inside.reads.leave index) codeHere).map _ ?_)
  intro found final shown other
  have marks := shown other
  rw [List.lookup_append]
  cases value : found.lookup other with
  | some value => rwa [value] at marks
  | none =>
      rw [value] at marks
      rcases marks with ⟨entered, left⟩
      change final.entered.lookup other = thread.entered.lookup other at entered
      change _ = ((index, thread.position) :: thread.left).lookup other at left
      rw [inside.entered] at entered
      rw [inside.left] at left
      rw [Option.none_or]
      by_cases same : other = index
      · subst same
        rw [List.lookup_cons_self] at entered left ⊢
        refine ⟨base.position, ?_, inside.taken⟩
        simp only [Thread.bounds?, entered, left, inside.position, Option.bind_eq_bind,
          Option.bind_some, Option.pure_def]
      · rw [lookup_cons_of_ne same] at entered left
        rw [List.lookup_cons, beq_eq_false_iff_ne.mpr same, List.lookup_nil]
        exact ⟨entered, left⟩

/-- Inside the group a thread takes one more character if that leads to a match. -/
theorem rounds {thread : Thread} {taken : List Char}
    (inside : base.IsInside text index thread taken) (place : thread.instruction = start + 1) :
    Settles program (base.Shows text) thread
      (takeMost members.contains
        (fun taken rest => (later rest).map fun found => found ++ [(index, taken)]) taken
        thread.rest) := by
  have forkHere : program[start + 1]? = some (.fork 1 3) := (here.after [.enter index]).head
  have takeHere : program[start + 2]? = some (.take members) :=
    (here.after [.enter index, .fork 1 3]).head
  have jumpHere : program[start + 3]? = some (.jump (-2)) :=
    (here.after [.enter index, .fork 1 3, .take members]).head
  induction rest : thread.rest generalizing thread taken with
  | nil =>
      have again : Settles program (base.Shows text) (thread.moveBy 1) none := by
        apply Settles.stuck (instruction_moveBy place 1 ▸ takeHere)
        simp only [Thread.follow, Thread.moveBy, rest]
      have stop := leave here finds (inside.moveBy 3) (instruction_moveBy place 3)
      have both := Settles.fork (place ▸ forkHere) rfl again stop
      change Settles program _ thread (none.or ((later thread.rest).map _)) at both
      rwa [rest] at both
  | cons c others ih =>
      have stop := leave here finds (inside.moveBy 3) (instruction_moveBy place 3)
      have again : Settles program (base.Shows text) (thread.moveBy 1)
          (if members.contains c then
            takeMost members.contains
              (fun taken rest => (later rest).map fun found => found ++ [(index, taken)])
              (taken ++ [c]) others
          else none) := by
        cases member : members.contains c with
        | false =>
            apply Settles.stuck (instruction_moveBy place 1 ▸ takeHere)
            simp [Thread.follow, Thread.moveBy, rest, member]
        | true =>
            let next := (thread.moveBy 1).advance c others
            have ways : (thread.moveBy 1).follow (.take members) = [next] := by
              simp [Thread.follow, Thread.moveBy, rest, member, next]
            have nextPlace : next.instruction = start + 3 :=
              congrArg (· + 1) (instruction_moveBy place 1)
            have backPlace : (next.moveBy (-2)).instruction = start + 1 := by
              change (next.instruction + -2 : Int).toNat = start + 1
              omega
            have nextInside : base.IsInside text index next (taken ++ [c]) :=
              (inside.moveBy 1).advance rest
            refine .onward (instruction_moveBy place 1 ▸ takeHere) ways ?_
            exact .onward (nextPlace ▸ jumpHere) rfl (ih (nextInside.moveBy (-2)) backPlace rfl)
      have both := Settles.fork (place ▸ forkHere) rfl again stop
      change Settles program _ thread (Option.or _ ((later thread.rest).map _)) at both
      rw [rest] at both
      exact both

end Group

/-- A group takes as much as leads to a match, and then has that text. -/
theorem group (finds : Finds program text code later) (index : Nat) (members : Text.CharSet) :
    Finds program text (groupOf index members ++ code)
      (takeMost members.contains
        (fun taken rest => (later rest).map fun found => found ++ [(index, taken)]) []) := by
  intro thread reads here
  have inside : thread.IsInside text index (thread.enter index) [] :=
    ⟨reads.enter index, rfl, rfl, rfl, List.take_zero ..⟩
  exact .onward here.head rfl (rounds here finds inside rfl)

/-- A group takes all characters of its set if no later part can begin with one of them. -/
theorem group_all (finds : Finds program text code later) (index : Nat) {members : Text.CharSet}
    {belongs : Char → Bool} (contains : members.contains = belongs)
    (apart : ∀ c, belongs c = true → ∀ rest, later (c :: rest) = none) :
    Finds program text (groupOf index members ++ code) fun rest =>
      (later (rest.dropWhile belongs)).map fun found =>
        found ++ [(index, rest.takeWhile belongs)] := by
  refine (finds.group index members).congr fun rest => ?_
  rw [contains, takeMost_eq, List.nil_append]
  intro c member taken rest
  rw [apart c member, Option.map_none]

end Finds

/-! ## Whole texts -/

/-- Threads that begin after the first place have a character before them. -/
theorem eq_or_isSome_of_mem_starts {position : Nat} {previous : Option Char} {rest : List Char}
    {thread : Thread} (member : thread ∈ Thread.starts position previous rest) :
    thread = ⟨0, position, previous, rest, [], []⟩ ∨
      thread.instruction = 0 ∧ thread.previous.isSome = true := by
  induction rest generalizing position previous with
  | nil => exact Or.inl (List.mem_singleton.mp member)
  | cons c rest ih =>
      rcases List.mem_cons.mp member with here | later
      · exact Or.inl here
      · rcases ih later with same | other
        · exact Or.inr (same ▸ ⟨rfl, rfl⟩)
        · exact Or.inr other

/-- A program that must begin at the start of the text finds there what it finds at all. -/
theorem search_of_textStart {Found : Type} {Shows : Found → Thread → Prop} {found : Option Found}
    (here : CodeAt program 0 (.check .textStart :: code))
    (settles : Settles program Shows (Thread.first text).next found) :
    (found = none ∧ search program text = none) ∨
      ∃ shown final, found = some shown ∧ search program text = some final ∧ Shows shown final := by
  have first : Settles program Shows (Thread.first text) found := .onward here.head rfl settles
  cases found with
  | some shown =>
      rcases first with ⟨steps, final, prefers, marked⟩
      exact Or.inr ⟨shown, final, rfl, search_of_prefers prefers, marked⟩
  | none =>
      refine Or.inl ⟨rfl, search_of_fails fun thread member => ?_⟩
      rcases eq_or_isSome_of_mem_starts member with same | ⟨start, later⟩
      · exact same ▸ first
      · have check : program[thread.instruction]? = some (.check .textStart) :=
          start.symm ▸ here.head
        apply (fails_iff check).mpr
        have present : thread.previous.isNone = false := by
          rw [← Option.not_isSome, later, Bool.not_true]
        simp [Thread.follow, Assertion.holds, present]

/-- The captured texts are those that the parts of a pattern for whole texts have found. -/
theorem captures?_of_finds {pattern : Pattern} {text : String}
    (program_eq : pattern.program.toList = .check .textStart :: code)
    (finds : Finds pattern.program text.toList code later) :
    pattern.captures? text = (later text.toList).map fun found =>
      (List.range pattern.groupCount).map fun offset =>
        (found.lookup (offset + 1)).map String.ofList := by
  have here : CodeAt pattern.program 0 (.check .textStart :: code) := program_eq
  have reads : (Thread.first text.toList).next.Reads text.toList := ⟨rfl, rfl, Nat.zero_le _⟩
  have settles := finds _ reads (here.after [.check .textStart])
  rcases search_of_textStart here settles with
    ⟨nothing, fails⟩ | ⟨found, final, same, searched, shown⟩
  · change later text.toList = none at nothing
    rw [captures?, fails, nothing, Option.map_none, Option.map_none]
  · change later text.toList = some found at same
    rw [captures?, searched, same, Option.map_some, Option.map_some]
    congr 1
    refine List.map_congr_left fun offset _ => ?_
    have marks := shown (offset + 1)
    cases value : found.lookup (offset + 1) with
    | some value =>
        rw [value] at marks
        rcases marks with ⟨first, bounds, taken⟩
        simp only [bounds, Option.map_some, Nat.add_sub_cancel_left, taken]
    | none =>
        rw [value] at marks
        have entered : final.entered.lookup (offset + 1) = none := marks.1
        simp only [Thread.bounds?, entered, Option.bind_eq_bind, Option.bind_none, Option.map_none]

end Pattern
end PageRouting
