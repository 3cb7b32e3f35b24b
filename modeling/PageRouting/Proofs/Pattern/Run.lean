import PageRouting.Proofs.Pattern.Ways

namespace PageRouting
namespace Pattern

/-!
# Runs follow the ways

A run visits each instruction at most once at each place, so its steps are
bounded: what is left to visit and the threads that wait always outweigh the
steps that remain.  Threads that fail are taken off the stack one after the
other, and all they leave behind is visited places from which every thread
fails.  On the preferred way itself no place is visited twice, because the
preferred way from a place has only one length.
-/

namespace Visited

/-- There is a bit for each number below the bound. -/
def HasRoom (visited : Visited) (bound : Nat) : Prop :=
  ∀ number < bound, number / wordSize < visited.words.size

theorem hasRoom_empty (bound : Nat) : (empty bound).HasRoom bound := by
  intro number below
  have quotient := Nat.div_le_div_right (c := wordSize) (Nat.le_of_lt below)
  simp only [empty, Array.size_replicate]
  omega

theorem HasRoom.insert {visited : Visited} {bound : Nat} (room : visited.HasRoom bound)
    (number : Nat) : (visited.insert number).HasRoom bound := by
  intro other below
  simp only [Visited.insert, Array.size_modify]
  exact room other below

theorem contains_empty (bound number : Nat) : (empty bound).contains number = false := by
  simp only [contains, empty, Array.getD_eq_getD_getElem?, Array.getElem?_replicate]
  split <;> simp

theorem contains_insert {visited : Visited} {number : Nat}
    (room : number / wordSize < visited.words.size) (other : Nat) :
    (visited.insert number).contains other =
      (decide (other = number) || visited.contains other) := by
  have split : other = number ↔
      number / wordSize = other / wordSize ∧ number % wordSize = other % wordSize := by
    constructor
    · rintro rfl
      exact ⟨rfl, rfl⟩
    · rintro ⟨words, bits⟩
      rw [← Nat.div_add_mod other wordSize, ← words, ← bits, Nat.div_add_mod]
  simp only [contains, insert, Array.getD_eq_getD_getElem?, Array.getElem?_modify]
  by_cases word : number / wordSize = other / wordSize
  · have inside : other / wordSize < visited.words.size := word ▸ room
    simp only [word, if_true, Array.getElem?_eq_getElem inside, Option.map_some,
      Option.getD_some, Nat.testBit_or, Nat.one_shiftLeft, Nat.testBit_two_pow, split, true_and]
    exact Bool.or_comm _ _
  · simp [word, split]

/-- The numbers below the bound that are not in the set. -/
def missing (visited : Visited) (bound : Nat) : Finset Nat :=
  (Finset.range bound).filter fun number => visited.contains number = false

theorem card_missing_insert {visited : Visited} {bound number : Nat}
    (room : visited.HasRoom bound) (below : number < bound)
    (fresh : visited.contains number = false) :
    ((visited.insert number).missing bound).card + 1 = (visited.missing bound).card := by
  have erased : (visited.insert number).missing bound = (visited.missing bound).erase number := by
    ext other
    simp only [missing, Finset.mem_filter, Finset.mem_range, Finset.mem_erase,
      contains_insert (room number below), Bool.or_eq_false_iff, decide_eq_false_iff_not]
    exact ⟨fun ⟨inside, different, absent⟩ => ⟨different, inside, absent⟩,
      fun ⟨different, inside, absent⟩ => ⟨inside, different, absent⟩⟩
  have member : number ∈ visited.missing bound := by
    simp only [missing, Finset.mem_filter, Finset.mem_range]
    exact ⟨below, fresh⟩
  rw [erased, Finset.card_erase_of_mem member]
  have := Finset.card_pos.mpr ⟨number, member⟩
  omega

end Visited

variable {program : Array Instruction} {text : List Char}

/-! ## Visited places -/

/-- The number under which a run remembers where the thread has been. -/
def Thread.number (size : Nat) (thread : Thread) : Nat :=
  thread.position * size + thread.instruction

theorem Thread.Reads.number_lt {thread : Thread} (reads : thread.Reads text) {size : Nat}
    (inside : thread.instruction < size) : thread.number size < size * (text.length + 1) := by
  have rows : thread.position * size ≤ text.length * size :=
    Nat.mul_le_mul_right size reads.inside
  rw [Thread.number, Nat.mul_succ, Nat.mul_comm size]
  omega

theorem samePlace_of_number {one other : Thread} (oneReads : one.Reads text)
    (otherReads : other.Reads text) {size : Nat} (oneInside : one.instruction < size)
    (otherInside : other.instruction < size) (same : one.number size = other.number size) :
    SamePlace one other := by
  have instruction : one.instruction = other.instruction := by
    have modulo := congrArg (· % size) same
    simpa [Thread.number, Nat.add_comm, Nat.mod_eq_of_lt oneInside,
      Nat.mod_eq_of_lt otherInside] using modulo
  have position : one.position = other.position := by
    unfold Thread.number at same
    rw [instruction] at same
    exact Nat.eq_of_mul_eq_mul_right (Nat.zero_lt_of_lt oneInside) (Nat.add_right_cancel same)
  exact ⟨instruction, position, by rw [oneReads.previous, otherReads.previous, position],
    by rw [oneReads.rest, otherReads.rest, position]⟩

/-- There is room for all places, and there are steps enough for those that have
not been visited and for the threads that wait. -/
structure Bounded (program : Array Instruction) (text : List Char) (bound : Nat)
    (visited : Visited) (stack : List Thread) : Prop where
  room : visited.HasRoom (program.size * (text.length + 1))
  steps : 2 * (visited.missing (program.size * (text.length + 1))).card + stack.length < bound

namespace Bounded

variable {bound : Nat} {visited : Visited} {thread : Thread} {others : List Thread}

theorem drop (bounded : Bounded program text (bound + 1) visited (thread :: others)) :
    Bounded program text bound visited others where
  room := bounded.room
  steps := by
    have steps := bounded.steps
    rw [List.length_cons] at steps
    omega

theorem visit (bounded : Bounded program text (bound + 1) visited (thread :: others))
    (reads : thread.Reads text) (inside : thread.instruction < program.size)
    (fresh : visited.contains (thread.number program.size) = false) (instruction : Instruction) :
    Bounded program text bound (visited.insert (thread.number program.size))
      (thread.follow instruction ++ others) where
  room := bounded.room.insert _
  steps := by
    have steps := bounded.steps
    have less := Visited.card_missing_insert bounded.room (reads.number_lt inside) fresh
    have two := thread.length_follow_le instruction
    rw [List.length_cons] at steps
    rw [List.length_append]
    omega

end Bounded

/-! ## One step of a run -/

variable {bound : Nat} {visited : Visited} {thread : Thread} {others : List Thread}
  {instruction : Instruction}

theorem inside_of_getElem? (here : program[thread.instruction]? = some instruction) :
    thread.instruction < program.size :=
  (Array.getElem?_eq_some_iff.mp here).1

theorem run_matched (ends : program[thread.instruction]? = none) :
    run program (bound + 1) visited (thread :: others) = some thread := by
  simp only [run, ends]

theorem run_visited (here : program[thread.instruction]? = some instruction)
    (known : visited.contains (thread.number program.size) = true) :
    run program (bound + 1) visited (thread :: others) = run program bound visited others := by
  rw [Thread.number] at known
  simp only [run, here, known, if_true]

theorem run_follow (here : program[thread.instruction]? = some instruction)
    (fresh : visited.contains (thread.number program.size) = false) :
    run program (bound + 1) visited (thread :: others) =
      run program bound (visited.insert (thread.number program.size))
        (thread.follow instruction ++ others) := by
  rw [Thread.number] at fresh
  simp only [run, here, fresh, Bool.false_eq_true, if_false, Thread.number]

/-! ## Whole runs -/

/-- What a run finds, one of its threads leads to. -/
theorem leads_of_run {bound : Nat} {visited : Visited} {stack : List Thread} {final : Thread}
    (found : run program bound visited stack = some final) :
    ∃ thread ∈ stack, Leads program thread final := by
  induction bound generalizing visited stack with
  | zero => exact absurd found (by simp [run])
  | succ bound ih =>
      cases stack with
      | nil => exact absurd found (by simp [run])
      | cons thread others =>
          cases here : program[thread.instruction]? with
          | none =>
              rw [run_matched here] at found
              exact ⟨thread, List.mem_cons_self, Option.some.inj found ▸ .matched here⟩
          | some instruction =>
              cases known : visited.contains (thread.number program.size) with
              | true =>
                  rw [run_visited here known] at found
                  rcases ih found with ⟨other, among, leads⟩
                  exact ⟨other, List.mem_cons_of_mem _ among, leads⟩
              | false =>
                  rw [run_follow here known] at found
                  rcases ih found with ⟨other, among, leads⟩
                  rcases List.mem_append.mp among with next | later
                  · exact ⟨thread, List.mem_cons_self, .step here next leads⟩
                  · exact ⟨other, List.mem_cons_of_mem _ later, leads⟩

/-- Threads that fail are all dropped, and what has been visited by then is what
had been visited before and places of threads that fail. -/
theorem run_of_fails {bound : Nat} {visited : Visited} {stack rest : List Thread}
    (fail : ∀ thread ∈ stack, thread.Reads text ∧ Fails program thread)
    (bounded : Bounded program text bound visited (stack ++ rest)) :
    ∃ later laterVisited,
      run program bound visited (stack ++ rest) = run program later laterVisited rest ∧
        Bounded program text later laterVisited rest ∧
        ∀ number, laterVisited.contains number = true →
          visited.contains number = true ∨ ∃ thread : Thread, thread.Reads text ∧
            thread.instruction < program.size ∧ Fails program thread ∧
            thread.number program.size = number := by
  induction bound generalizing visited stack with
  | zero => exact absurd bounded.steps (Nat.not_lt_zero _)
  | succ bound ih =>
      cases stack with
      | nil => exact ⟨bound + 1, visited, rfl, bounded, fun _ known => Or.inl known⟩
      | cons thread others =>
          rcases fail thread List.mem_cons_self with ⟨reads, fails⟩
          rw [List.cons_append] at bounded
          have failOthers := fun other member => fail other (List.mem_cons_of_mem _ member)
          cases here : program[thread.instruction]? with
          | none => exact absurd (.matched here) (fails thread)
          | some instruction =>
              cases known : visited.contains (thread.number program.size) with
              | true =>
                  rw [List.cons_append, run_visited here known]
                  exact ih failOthers bounded.drop
              | false =>
                  have inside := inside_of_getElem? here
                  have failNext : ∀ next ∈ thread.follow instruction ++ others,
                      next.Reads text ∧ Fails program next := by
                    intro next member
                    rcases List.mem_append.mp member with among | later
                    · exact ⟨reads.follow among, (fails_iff here).mp fails next among⟩
                    · exact failOthers next later
                  have next := bounded.visit reads inside known instruction
                  rw [← List.append_assoc] at next
                  rcases ih failNext next with ⟨later, laterVisited, same, laterBounded, origin⟩
                  refine ⟨later, laterVisited, ?_, laterBounded, ?_⟩
                  · rw [List.cons_append, run_follow here known, ← List.append_assoc, same]
                  · intro number contained
                    rcases origin number contained with before | failing
                    · have room := bounded.room _ (reads.number_lt inside)
                      rw [Visited.contains_insert room, Bool.or_eq_true_iff] at before
                      rcases before with same | before
                      · exact Or.inr ⟨thread, reads, inside, fails, (of_decide_eq_true same).symm⟩
                      · exact Or.inl before
                    · exact Or.inr failing

/-- A thread with a preferred way ends the run, if from no visited place there is
a preferred way as short as its own. -/
theorem run_of_prefers {steps : Nat} {thread final : Thread}
    (prefers : Prefers program steps thread final) (reads : thread.Reads text)
    {bound : Nat} {visited : Visited} {others : List Thread}
    (known : ∀ other : Thread, other.Reads text → other.instruction < program.size →
      visited.contains (other.number program.size) = true → Fails program other ∨
        ∃ more otherFinal, steps < more ∧ Prefers program more other otherFinal)
    (bounded : Bounded program text bound visited (thread :: others)) :
    run program bound visited (thread :: others) = some final := by
  induction prefers generalizing bound visited others with
  | matched ends =>
      cases bound with
      | zero => exact absurd bounded.steps (Nat.not_lt_zero _)
      | succ bound => exact run_matched ends
  | @step steps thread next final instruction before after here ways fail later ih =>
      cases bound with
      | zero => exact absurd bounded.steps (Nat.not_lt_zero _)
      | succ bound =>
          have inside := inside_of_getElem? here
          have whole : Prefers program (steps + 1) thread final := .step here ways fail later
          have fresh : visited.contains (thread.number program.size) = false := by
            apply Bool.eq_false_iff.mpr
            intro visitedHere
            rcases known thread reads inside visitedHere with fails | ⟨more, _, longer, other⟩
            · exact fails final whole.leads
            · have same := whole.steps_eq other ⟨rfl, rfl, rfl, rfl⟩
              omega
          have along : ∀ other ∈ before ++ next :: after, other.Reads text :=
            fun other member => reads.follow (ways ▸ member)
          have failBefore : ∀ other ∈ before, other.Reads text ∧ Fails program other :=
            fun other member => ⟨along other (List.mem_append_left _ member), fail other member⟩
          have nextBounded := bounded.visit reads inside fresh instruction
          rw [ways, List.append_assoc] at nextBounded
          rcases run_of_fails failBefore nextBounded with
            ⟨later, laterVisited, same, laterBounded, origin⟩
          rw [run_follow here fresh, ways, List.append_assoc, same]
          refine ih (along next (List.mem_append_right _ List.mem_cons_self)) ?_ laterBounded
          intro other otherReads otherInside contained
          rcases origin _ contained with earlier | ⟨failing, failReads, failInside, fails, number⟩
          · have room := bounded.room _ (reads.number_lt inside)
            rw [Visited.contains_insert room, Bool.or_eq_true_iff] at earlier
            rcases earlier with here | earlier
            · -- the place the run has just left: its preferred way is one step longer
              have place := samePlace_of_number reads otherReads inside otherInside
                (of_decide_eq_true here).symm
              rcases whole.of_samePlace place with ⟨otherFinal, otherPrefers⟩
              exact Or.inr ⟨steps + 1, otherFinal, Nat.lt_succ_self _, otherPrefers⟩
            · rcases known other otherReads otherInside earlier with
                fails | ⟨more, end_, longer, way⟩
              · exact Or.inl fails
              · exact Or.inr ⟨more, end_, by omega, way⟩
          · have place := samePlace_of_number failReads otherReads failInside otherInside number
            exact Or.inl (fails.of_samePlace place)

/-! ## Searches -/

/-- The thread that begins at the start of the text. -/
def Thread.first (text : List Char) : Thread :=
  ⟨0, 0, none, text, [], []⟩

theorem Thread.starts_eq (text : List Char) :
    ∃ others, Thread.starts 0 none text = Thread.first text :: others := by
  cases text with
  | nil => exact ⟨[], rfl⟩
  | cons c rest => exact ⟨_, rfl⟩

theorem Thread.length_starts (position : Nat) (previous : Option Char) (text : List Char) :
    (Thread.starts position previous text).length = text.length + 1 := by
  induction text generalizing position previous with
  | nil => rfl
  | cons c rest ih => rw [Thread.starts, List.length_cons, ih, List.length_cons]

theorem reads_of_mem_starts_zero (text : List Char) {thread : Thread}
    (member : thread ∈ Thread.starts 0 none text) :
    thread.Reads text :=
  reads_of_mem_starts rfl rfl (Nat.zero_le _) member

theorem bounded_search (program : Array Instruction) (text : List Char) :
    Bounded program text (2 * (program.size * (text.length + 1)) + (text.length + 1) + 1)
      (.empty (program.size * (text.length + 1))) (Thread.starts 0 none text) where
  room := Visited.hasRoom_empty _
  steps := by
    have card := Finset.card_filter_le (Finset.range (program.size * (text.length + 1)))
      fun number => (Visited.empty (program.size * (text.length + 1))).contains number = false
    rw [Finset.card_range] at card
    rw [Thread.length_starts, Visited.missing]
    omega

/-- The preferred way from the start of the text is what a search finds. -/
theorem search_of_prefers {steps : Nat} {final : Thread}
    (prefers : Prefers program steps (Thread.first text) final) :
    search program text = some final := by
  rcases Thread.starts_eq text with ⟨others, starts⟩
  have bounded := bounded_search program text
  have reads := reads_of_mem_starts_zero text (starts ▸ List.mem_cons_self)
  rw [starts] at bounded
  simp only [search, starts]
  refine run_of_prefers prefers reads ?_ bounded
  intro other _ _ contained
  rw [Visited.contains_empty] at contained
  exact absurd contained Bool.false_ne_true

/-- Where every thread fails, a search finds nothing. -/
theorem search_of_fails
    (fails : ∀ thread ∈ Thread.starts 0 none text, Fails program thread) :
    search program text = none := by
  have bounded := bounded_search program text
  rw [← List.append_nil (Thread.starts 0 none text)] at bounded
  rcases run_of_fails (fun thread member => ⟨reads_of_mem_starts_zero text member, fails thread
      member⟩) bounded with
    ⟨later, visited, same, _, _⟩
  simp only [search]
  rw [← List.append_nil (Thread.starts 0 none text), same]
  cases later <;> rfl

/-- What a search finds, a thread from some place of the text leads to. -/
theorem leads_of_search {final : Thread} (found : search program text = some final) :
    ∃ thread ∈ Thread.starts 0 none text, Leads program thread final :=
  leads_of_run found

end Pattern
end PageRouting
