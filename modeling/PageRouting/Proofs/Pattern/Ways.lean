import Mathlib.Data.Finset.Card
import PageRouting.Pattern.Search

namespace PageRouting
namespace Pattern

/-!
# What a search finds

A search drops a thread that comes where another one has been, so what it does
next depends on all it has done before.  What it finds does not.  A thread leads
to a match if some way through the program does, and the preferred way is the
one that takes the first branch at each fork that leads to a match at all.  If a
thread has a preferred way, a search that begins with it ends with the match of
that way; if no thread leads to a match, the search ends without one.  Conversely
every match that is found is one that a thread leads to.

The ways are ways of the program alone.  The set of visited places and the bound
on the number of steps occur only in the lemmas on one run.
-/

/-- There is a way from the thread to a match, where it is the second thread. -/
inductive Leads (program : Array Instruction) : Thread → Thread → Prop
  | matched {thread : Thread} (ends : program[thread.instruction]? = none) :
      Leads program thread thread
  | step {thread next final : Thread} {instruction : Instruction}
      (here : program[thread.instruction]? = some instruction)
      (among : next ∈ thread.follow instruction) (later : Leads program next final) :
      Leads program thread final

/-- No way leads from the thread to a match. -/
def Fails (program : Array Instruction) (thread : Thread) : Prop :=
  ∀ final, ¬Leads program thread final

/-- The match at the end of the preferred way, with the length of that way. -/
inductive Prefers (program : Array Instruction) : Nat → Thread → Thread → Prop
  | matched {thread : Thread} (ends : program[thread.instruction]? = none) :
      Prefers program 0 thread thread
  | step {steps : Nat} {thread next final : Thread} {instruction : Instruction}
      {before after : List Thread} (here : program[thread.instruction]? = some instruction)
      (ways : thread.follow instruction = before ++ next :: after)
      (fail : ∀ other ∈ before, Fails program other)
      (later : Prefers program steps next final) :
      Prefers program (steps + 1) thread final

variable {program : Array Instruction}

theorem Prefers.leads {steps : Nat} {thread final : Thread}
    (prefers : Prefers program steps thread final) : Leads program thread final := by
  induction prefers with
  | matched ends => exact .matched ends
  | step here ways fail later ih =>
      exact .step here (ways ▸ List.mem_append_right _ List.mem_cons_self) ih

/-- Before the end of the program, a thread fails exactly if all ways on fail. -/
theorem fails_iff {thread : Thread} {instruction : Instruction}
    (here : program[thread.instruction]? = some instruction) :
    Fails program thread ↔ ∀ next ∈ thread.follow instruction, Fails program next := by
  constructor
  · exact fun fails next among final leads => fails final (.step here among leads)
  · intro fails final leads
    cases leads with
    | matched ends => exact absurd (here.symm.trans ends) (Option.some_ne_none _)
    | step other among later =>
        have same := Option.some.inj (here.symm.trans other)
        exact fails _ (same ▸ among) _ later

/-! ## What becomes of a thread -/

/-- The thread has a preferred way with a match that shows what has been found, or
fails if nothing has been. -/
def Settles (program : Array Instruction) {Found : Type} (Shows : Found → Thread → Prop)
    (thread : Thread) : Option Found → Prop
  | some found => ∃ steps final, Prefers program steps thread final ∧ Shows found final
  | none => Fails program thread

namespace Settles

variable {Found Other : Type} {Shows : Found → Thread → Prop} {thread next : Thread}
  {found : Option Found} {instruction : Instruction}

/-- An instruction with no way on. -/
theorem stuck (here : program[thread.instruction]? = some instruction)
    (ways : thread.follow instruction = []) : Settles program Shows thread none := by
  apply (fails_iff here).mpr
  rw [ways]
  exact fun _ member => absurd member List.not_mem_nil

/-- An instruction with one way on. -/
theorem onward (here : program[thread.instruction]? = some instruction)
    (ways : thread.follow instruction = [next]) (settles : Settles program Shows next found) :
    Settles program Shows thread found := by
  cases found with
  | none =>
      apply (fails_iff here).mpr
      rw [ways]
      exact fun other member => List.mem_singleton.mp member ▸ settles
  | some found =>
      rcases settles with ⟨steps, final, prefers, shown⟩
      have split : thread.follow instruction = [] ++ next :: [] := ways
      refine ⟨steps + 1, final, .step here split ?_ prefers, shown⟩
      exact fun _ member => absurd member List.not_mem_nil

/-- A fork finds what its first way finds, and else what the second one does. -/
theorem fork {first second : Thread} {firstFound secondFound : Option Found}
    (here : program[thread.instruction]? = some instruction)
    (ways : thread.follow instruction = [first, second])
    (firstSettles : Settles program Shows first firstFound)
    (secondSettles : Settles program Shows second secondFound) :
    Settles program Shows thread (firstFound.or secondFound) := by
  cases firstFound with
  | some found =>
      rcases firstSettles with ⟨steps, final, prefers, shown⟩
      have split : thread.follow instruction = [] ++ first :: [second] := ways
      refine ⟨steps + 1, final, .step here split ?_ prefers, shown⟩
      exact fun _ member => absurd member List.not_mem_nil
  | none =>
      cases secondFound with
      | some found =>
          rcases secondSettles with ⟨steps, final, prefers, shown⟩
          have split : thread.follow instruction = [first] ++ second :: [] := ways
          refine ⟨steps + 1, final, .step here split ?_ prefers, shown⟩
          exact fun other member => List.mem_singleton.mp member ▸ firstSettles
      | none =>
          apply (fails_iff here).mpr
          rw [ways]
          intro other member
          rcases List.mem_cons.mp member with same | later
          · exact same ▸ firstSettles
          · exact List.mem_singleton.mp later ▸ secondSettles

/-- The same match may show something else. -/
theorem map {OtherShows : Other → Thread → Prop} (settles : Settles program Shows thread found)
    (change : Found → Other)
    (changes : ∀ found final, Shows found final → OtherShows (change found) final) :
    Settles program OtherShows thread (found.map change) := by
  cases found with
  | none => exact settles
  | some found =>
      rcases settles with ⟨steps, final, prefers, shown⟩
      exact ⟨steps, final, prefers, changes found final shown⟩

end Settles

/-! ## Threads at one place -/

/-- Two threads that differ at most in the groups they have been through. -/
structure SamePlace (one other : Thread) : Prop where
  instruction : one.instruction = other.instruction
  position : one.position = other.position
  previous : one.previous = other.previous
  rest : one.rest = other.rest

theorem SamePlace.follow {one other : Thread} (same : SamePlace one other)
    (instruction : Instruction) :
    List.Forall₂ SamePlace (one.follow instruction) (other.follow instruction) := by
  rcases one with ⟨number, position, previous, rest, entered, left⟩
  rcases other with ⟨_, _, _, _, otherEntered, otherLeft⟩
  rcases same with ⟨rfl, rfl, rfl, rfl⟩
  cases instruction with
  | take members =>
      cases rest with
      | nil => exact .nil
      | cons c rest =>
          simp only [Thread.follow]
          split
          · exact .cons ⟨rfl, rfl, rfl, rfl⟩ .nil
          · exact .nil
  | check condition =>
      simp only [Thread.follow]
      split
      · exact .cons ⟨rfl, rfl, rfl, rfl⟩ .nil
      · exact .nil
  | enter index => exact .cons ⟨rfl, rfl, rfl, rfl⟩ .nil
  | leave index => exact .cons ⟨rfl, rfl, rfl, rfl⟩ .nil
  | jump offset => exact .cons ⟨rfl, rfl, rfl, rfl⟩ .nil
  | fork preferred other =>
      exact .cons ⟨rfl, rfl, rfl, rfl⟩ (.cons ⟨rfl, rfl, rfl, rfl⟩ .nil)

theorem SamePlace.symm {one other : Thread} (same : SamePlace one other) :
    SamePlace other one :=
  ⟨same.instruction.symm, same.position.symm, same.previous.symm, same.rest.symm⟩

theorem exists_samePlace_of_mem {ones others : List Thread}
    (paired : List.Forall₂ SamePlace ones others) {one : Thread} (member : one ∈ ones) :
    ∃ other ∈ others, SamePlace one other := by
  induction paired with
  | nil => exact absurd member List.not_mem_nil
  | cons same _ ih =>
      rcases List.mem_cons.mp member with here | later
      · exact ⟨_, List.mem_cons_self, here ▸ same⟩
      · rcases ih later with ⟨other, among, same⟩
        exact ⟨other, List.mem_cons_of_mem _ among, same⟩

theorem Leads.of_samePlace {one other final : Thread} (leads : Leads program one final)
    (same : SamePlace one other) : ∃ otherFinal, Leads program other otherFinal := by
  induction leads generalizing other with
  | matched ends => exact ⟨other, .matched (same.instruction ▸ ends)⟩
  | step here among later ih =>
      rcases exists_samePlace_of_mem (same.follow _) among with ⟨next, nextAmong, nextSame⟩
      rcases ih nextSame with ⟨otherFinal, leads⟩
      exact ⟨otherFinal, .step (same.instruction ▸ here) nextAmong leads⟩

theorem Fails.of_samePlace {one other : Thread} (fails : Fails program one)
    (same : SamePlace one other) : Fails program other := by
  intro final leads
  rcases leads.of_samePlace same.symm with ⟨oneFinal, oneLeads⟩
  exact fails oneFinal oneLeads

/-- Of threads at the same places, the first ones that lead to a match are at the
same place. -/
theorem samePlace_of_first {before otherBefore after otherAfter : List Thread}
    {next otherNext : Thread}
    (paired : List.Forall₂ SamePlace (before ++ next :: after)
      (otherBefore ++ otherNext :: otherAfter))
    (fail : ∀ thread ∈ before, Fails program thread)
    (otherFail : ∀ thread ∈ otherBefore, Fails program thread) (leads : ¬Fails program next)
    (otherLeads : ¬Fails program otherNext) : SamePlace next otherNext := by
  induction before generalizing otherBefore with
  | nil =>
      cases otherBefore with
      | nil =>
          cases paired with
          | cons same _ => exact same
      | cons first rest =>
          cases paired with
          | cons same _ =>
              exact absurd ((otherFail first List.mem_cons_self).of_samePlace same.symm) leads
  | cons first rest ih =>
      cases otherBefore with
      | nil =>
          cases paired with
          | cons same _ =>
              exact absurd ((fail first List.mem_cons_self).of_samePlace same) otherLeads
      | cons otherFirst otherRest =>
          cases paired with
          | cons _ pairedRest =>
              exact ih pairedRest
                (fun thread member => fail thread (List.mem_cons_of_mem _ member))
                (fun thread member => otherFail thread (List.mem_cons_of_mem _ member))

/-- Where the preferred way begins settles how long it is. -/
theorem Prefers.steps_eq {steps otherSteps : Nat} {one other final otherFinal : Thread}
    (prefers : Prefers program steps one final)
    (otherPrefers : Prefers program otherSteps other otherFinal) (same : SamePlace one other) :
    steps = otherSteps := by
  induction prefers generalizing otherSteps other with
  | matched ends =>
      cases otherPrefers with
      | matched _ => rfl
      | step here _ _ _ =>
          rw [← same.instruction, ends] at here
          exact absurd here.symm (Option.some_ne_none _)
  | @step _ _ _ _ instruction _ _ here ways fail later ih =>
      cases otherPrefers with
      | matched ends =>
          rw [← same.instruction, here] at ends
          exact absurd ends (Option.some_ne_none _)
      | step otherHere otherWays otherFail otherLater =>
          rw [← same.instruction, here] at otherHere
          have paired := same.follow instruction
          rw [ways, Option.some.inj otherHere, otherWays] at paired
          have nextSame := samePlace_of_first paired fail otherFail
            (fun fails => fails _ later.leads) (fun fails => fails _ otherLater.leads)
          rw [ih otherLater nextSame]

theorem exists_split_of_samePlace {before after others : List Thread} {next : Thread}
    (paired : List.Forall₂ SamePlace (before ++ next :: after) others) :
    ∃ otherBefore otherNext otherAfter, others = otherBefore ++ otherNext :: otherAfter ∧
      List.Forall₂ SamePlace before otherBefore ∧ SamePlace next otherNext := by
  induction before generalizing others with
  | nil =>
      cases paired with
      | cons same _ => exact ⟨[], _, _, rfl, .nil, same⟩
  | cons first rest ih =>
      cases paired with
      | cons same pairedRest =>
          rcases ih pairedRest with ⟨otherRest, otherNext, otherAfter, rfl, restSame, nextSame⟩
          exact ⟨_ :: otherRest, otherNext, otherAfter, rfl, .cons same restSame, nextSame⟩

theorem Prefers.of_samePlace {steps : Nat} {one other final : Thread}
    (prefers : Prefers program steps one final) (same : SamePlace one other) :
    ∃ otherFinal, Prefers program steps other otherFinal := by
  induction prefers generalizing other with
  | matched ends => exact ⟨other, .matched (same.instruction ▸ ends)⟩
  | @step _ _ _ _ instruction before _ here ways fail later ih =>
      have paired := same.follow instruction
      rw [ways] at paired
      rcases exists_split_of_samePlace paired with
        ⟨otherBefore, otherNext, otherAfter, otherWays, beforeSame, nextSame⟩
      rcases ih nextSame with ⟨otherFinal, otherLater⟩
      refine ⟨otherFinal, .step (same.instruction ▸ here) otherWays ?_ otherLater⟩
      intro thread member
      have back : List.Forall₂ SamePlace otherBefore before :=
        beforeSame.flip.imp fun _ _ place => place.symm
      rcases exists_samePlace_of_mem back member with ⟨origin, among, place⟩
      exact (fail origin among).of_samePlace place.symm

/-! ## Threads of one text -/

/-- The thread is at its position in the text. -/
structure Thread.Reads (text : List Char) (thread : Thread) : Prop where
  rest : thread.rest = text.drop thread.position
  previous : thread.previous = (text.take thread.position).getLast?
  inside : thread.position ≤ text.length

variable {text : List Char}

theorem Thread.Reads.advance {thread : Thread} (reads : thread.Reads text) {c : Char}
    {tail : List Char} (rest : thread.rest = c :: tail) : (thread.advance c tail).Reads text := by
  have dropped : text.drop thread.position = c :: tail := reads.rest ▸ rest
  have before : thread.position < text.length := by
    by_contra outside
    rw [List.drop_of_length_le (by omega)] at dropped
    exact List.cons_ne_nil _ _ dropped.symm
  have here : text[thread.position] = c := by
    rw [List.drop_eq_getElem_cons before] at dropped
    exact (List.cons.inj dropped).1
  refine ⟨?_, ?_, before⟩
  · change tail = text.drop (thread.position + 1)
    rw [← List.drop_drop, dropped, List.drop_succ_cons, List.drop_zero]
  · change some c = (text.take (thread.position + 1)).getLast?
    rw [List.take_succ_eq_append_getElem before, here, List.getLast?_concat]

/-- A thread that only goes to another instruction stays where it is in the text. -/
theorem Thread.Reads.moveBy {thread : Thread} (reads : thread.Reads text) (offset : Int) :
    (thread.moveBy offset).Reads text :=
  ⟨reads.rest, reads.previous, reads.inside⟩

theorem Thread.Reads.follow {thread next : Thread} (reads : thread.Reads text)
    {instruction : Instruction} (among : next ∈ thread.follow instruction) : next.Reads text := by
  cases instruction with
  | take members =>
      cases rest : thread.rest with
      | nil => simp [Thread.follow, rest] at among
      | cons c tail =>
          simp only [Thread.follow, rest] at among
          split at among
          · exact List.mem_singleton.mp among ▸ reads.advance rest
          · exact absurd among List.not_mem_nil
  | check condition =>
      simp only [Thread.follow] at among
      split at among
      · rw [List.mem_singleton.mp among]
        exact ⟨reads.rest, reads.previous, reads.inside⟩
      · exact absurd among List.not_mem_nil
  | fork preferred other =>
      rcases List.mem_cons.mp among with first | second
      · exact first ▸ reads.moveBy preferred
      · exact List.mem_singleton.mp second ▸ reads.moveBy other
  | _ =>
      rw [List.mem_singleton.mp among]
      exact ⟨reads.rest, reads.previous, reads.inside⟩

theorem reads_of_mem_starts {position : Nat} {previous : Option Char} {rest : List Char}
    (rest_eq : rest = text.drop position) (previous_eq : previous = (text.take position).getLast?)
    (inside : position ≤ text.length) {thread : Thread}
    (member : thread ∈ Thread.starts position previous rest) : thread.Reads text := by
  induction rest generalizing position previous with
  | nil => exact List.mem_singleton.mp member ▸ ⟨rest_eq, previous_eq, inside⟩
  | cons c rest ih =>
      rcases List.mem_cons.mp member with here | later
      · exact here ▸ ⟨rest_eq, previous_eq, inside⟩
      · have start : Thread.Reads text ⟨0, position, previous, c :: rest, [], []⟩ :=
          ⟨rest_eq, previous_eq, inside⟩
        have next := start.advance rfl
        exact ih next.rest next.previous next.inside later

end Pattern
end PageRouting
