import PageRouting.Proofs.Pattern.Parts
import PageRouting.Proofs.Template.Source
import PageRouting.Proofs.Text.CharSet

namespace PageRouting

/-!
# Templates of path segments

With the default placeholder pattern a placeholder takes one character or more
of a path segment, as many as possible.  Its end is seen, it gives no names to
groups and it is not high, so size is the only reason for which a template can
have no pattern.  The search then goes through the fillings of the template in the
order in which the longest values are tried, so it finds the longest values or
nothing.
-/

namespace Pattern

open Template (longestValues? takeLongest)

/-- Characters of a path segment. -/
def slashless : Text.CharSet :=
  (Text.CharSet.single '/').complement

theorem contains_slashless (c : Char) : slashless.contains c = decide (c ≠ '/') := by
  rw [slashless, Text.CharSet.contains_complement_single]
  exact (decide_not ..).symm

/-- The node of a placeholder of path segments. -/
def segmentNode : Node :=
  .repeated ⟨1, none, true⟩ (.one slashless true)

/-- The group of a placeholder holds that node, and no other group. -/
def IsSegment (index : Nat) (body : Node) (last : Nat) : Prop :=
  body = segmentNode ∧ last = index

/-- The instructions of one such placeholder. -/
theorem program_group_segmentNode (index : Nat) :
    (Node.group index segmentNode).program =
      [.enter index, .take slashless, .fork (-1) 1, .leave index] := rfl

/-- The default placeholder pattern is a pattern of which the end is seen. -/
theorem exists_isContent_segment :
    ∃ finished, Reader.IsContent "[^/]+".toList finished ⟨segmentNode, 2⟩ ∧
      finished.groups = 0 ∧ finished.names = [] := by
  refine ⟨_, ⟨rfl, rfl, rfl, ?_⟩, rfl, rfl⟩
  have refused : Reader.readAll {} ("[^/]+".toList ++ [')']) = none := rfl
  rw [refused]
  exact (Option.some_ne_none _).symm

/-- With the default placeholder pattern a template is laid out with path segments. -/
theorem exists_layout_of_segments {template : String} {pattern : Pattern}
    (read : ofChars? (Template.source "[^/]+" template) = some pattern) :
    ∃ nodes, Layout IsSegment 0 (Template.pieces template.toList) nodes ∧
      pattern.program.toList = wholeProgram nodes ∧
      ∀ index ∈ nodes.flatMap Node.groupIndices, index ≤ pattern.groupCount := by
  rcases exists_isContent_segment with ⟨finished, content, groups, _⟩
  have layout := exists_layout_of_source content read
  rw [groups] at layout
  exact layout

/-! ## The pattern of a template -/

/-- The nodes of pieces whose placeholders take path segments.  The first group has the index after
the given one. -/
def segmentNodes : Nat → List Piece → List Node
  | _, [] => []
  | groups, .literal text :: pieces =>
      text.map (fun c => .literal [c]) ++ segmentNodes groups pieces
  | groups, .placeholder _ :: pieces =>
      .group (groups + 1) segmentNode :: segmentNodes (groups + 1) pieces

/-- The node of a whole template whose placeholders take path segments. -/
def templateNode (template : String) : Node :=
  Node.concat (.assertion .textStart ::
    (segmentNodes 0 (Template.pieces template.toList) ++ Reader.tailNodes))

theorem contentNodes_segmentNode (groups : Nat) (pieces : List Piece) :
    contentNodes 0 segmentNode groups pieces = segmentNodes groups pieces := by
  induction pieces generalizing groups with
  | nil => rfl
  | cons piece pieces ih =>
      cases piece with
      | literal text => rw [contentNodes, segmentNodes, ih]
      | placeholder name => rw [contentNodes, segmentNodes, ih]; rfl

/-- With path segments for its placeholders a template reads as a pattern, unless the pattern is
too large. -/
theorem ofChars?_source (template : String) :
    ofChars? (Template.source "[^/]+" template) =
      if (templateNode template).fits then some (ofNode (templateNode template)) else none := by
  rcases exists_isContent_segment with ⟨finished, content, groups, names⟩
  have fits : Reader.FitsIn finished ⟨segmentNode, 2⟩ template := .inr ⟨by decide, .inl names⟩
  rcases exists_whole?_source content template with ⟨height, isWhole⟩
  have same : contentNode finished.groups segmentNode template = templateNode template := by
    rw [contentNode, groups, contentNodes_segmentNode]
    rfl
  rw [ofChars?_eq, isWhole, if_pos fits, Option.bind_some, same]

/-! ## What a match records -/

/-- The groups after the first ones have been through the values, in order. -/
def Records (text : List Char) : Nat → List (List Char) → Thread → Prop
  | _, [], _ => True
  | groups, value :: values, final =>
      (∃ first, final.bounds? (groups + 1) = some (first, first + value.length) ∧
        (text.drop first).take value.length = value) ∧
        Records text (groups + 1) values final

/-- The first groups are as they were. -/
def Keeps (groups : Nat) (thread final : Thread) : Prop :=
  ∀ index ≤ groups, final.entered.lookup index = thread.entered.lookup index ∧
    final.left.lookup index = thread.left.lookup index

theorem Keeps.of_eq {groups : Nat} {one other final : Thread} (keeps : Keeps groups one final)
    (entered : one.entered = other.entered) (left : one.left = other.left) :
    Keeps groups other final := by
  intro index below
  rcases keeps index below with ⟨sameEntered, sameLeft⟩
  exact ⟨entered ▸ sameEntered, left ▸ sameLeft⟩

/-- The match has gone through the values, and has kept the groups before them. -/
def Fills (text : List Char) (groups : Nat) (thread : Thread) (values : List (List Char))
    (final : Thread) : Prop :=
  Records text groups values final ∧ Keeps groups thread final

variable {program : Array Instruction} {text : List Char}

/-! ## Following the pieces -/

/-- At the end of the text, or before its last slash, nothing more may come. -/
theorem settles_tail {groups : Nat} {thread : Thread}
    (code : CodeAt program thread.instruction tailCode) :
    Settles program (Fills text groups thread) thread (longestValues? [] thread.rest) := by
  have afterFork : CodeAt program (thread.instruction + 1)
      [.take (.single '/'), .check .textEnd] := code.after [.fork 1 2]
  have afterSlash : CodeAt program (thread.instruction + 2) [.check .textEnd] :=
    code.after [.fork 1 2, .take (.single '/')]
  have slash : Settles program (Fills text groups thread) (thread.moveBy 1)
      (if thread.rest = ['/'] then some [] else none) := by
    cases rest : thread.rest with
    | nil =>
        apply Settles.stuck afterFork.head
        simp [Thread.follow, Thread.moveBy, rest]
    | cons c others =>
        by_cases isSlash : c = '/'
        · have ways : (thread.moveBy 1).follow (.take (.single '/')) =
              [(thread.moveBy 1).advance c others] := by
            simp [Thread.follow, Thread.moveBy, rest, Text.CharSet.contains_single, isSlash]
          have settles : Settles program (Fills text groups thread)
              ((thread.moveBy 1).advance c others) (if others = [] then some [] else none) :=
            settles_textEnd afterSlash ⟨trivial, fun _ _ => ⟨rfl, rfl⟩⟩
          have same : (c :: others = ['/']) ↔ others = [] := by simp [isSlash]
          simp only [same]
          exact .onward afterFork.head ways settles
        · rw [if_neg (by simp [isSlash])]
          apply Settles.stuck afterFork.head
          simp [Thread.follow, Thread.moveBy, rest, Text.CharSet.contains_single, isSlash]
  have bare : Settles program (Fills text groups thread) (thread.moveBy 2)
      (if thread.rest = [] then some [] else none) :=
    settles_textEnd afterSlash ⟨trivial, fun _ _ => ⟨rfl, rfl⟩⟩
  have both := Settles.fork code.head rfl slash bare
  have found : longestValues? [] thread.rest =
      (if thread.rest = ['/'] then some [] else none).or
        (if thread.rest = [] then some [] else none) := by
    by_cases isSlash : thread.rest = ['/']
    · simp [longestValues?, isSlash]
    · simp [longestValues?, isSlash]
  exact found ▸ both

/-- What the rounds of a placeholder show: where its group ends, and the values
after it. -/
def FillsOn (text : List Char) (groups : Nat) (thread : Thread)
    (found : List Char × List (List Char)) (final : Thread) : Prop :=
  final.entered.lookup (groups + 1) = thread.entered.lookup (groups + 1) ∧
    final.left.lookup (groups + 1) = some (thread.position + found.1.length) ∧
    (text.drop thread.position).take found.1.length = found.1 ∧
    Records text (groups + 1) found.2 final ∧ Keeps groups thread final

/-- The next character and what has been taken behind it are what has been taken from here. -/
theorem Thread.Reads.take_cons {thread : Thread} (reads : thread.Reads text) {c : Char}
    {others value : List Char} (rest : thread.rest = c :: others)
    (taken : (text.drop (thread.position + 1)).take value.length = value) :
    (text.drop thread.position).take (c :: value).length = c :: value := by
  have dropped : text.drop thread.position = c :: others := reads.rest ▸ rest
  have tail : text.drop (thread.position + 1) = others := by
    rw [← List.drop_drop, dropped, List.drop_succ_cons, List.drop_zero]
  rw [dropped, List.length_cons, List.take_succ_cons, ← tail, taken]

section Placeholder

variable {groups start : Nat} {later : List Char → Option (List (List Char))}
  {code : List Instruction}
  (here : CodeAt program start
    ([.enter (groups + 1), .take slashless, .fork (-1) 1, .leave (groups + 1)] ++ code))
  (settles : ∀ next : Thread, next.Reads text → CodeAt program next.instruction code →
    Settles program (Fills text (groups + 1) next) next (later next.rest))
include here settles

/-- At the end of its group a placeholder leaves the rest to the later pieces. -/
theorem settles_stop {thread : Thread} (reads : thread.Reads text)
    (place : thread.instruction = start + 3) :
    Settles program (FillsOn text groups thread) thread
      ((later thread.rest).map fun values => ([], values)) := by
  have leaveHere : program[thread.instruction]? = some (.leave (groups + 1)) :=
    place ▸ (here.after [.enter (groups + 1), .take slashless, .fork (-1) 1]).head
  have codeHere : CodeAt program (thread.instruction + 1) code := by
    rw [place]
    exact here.after _
  refine .onward leaveHere rfl ((settles _ (reads.leave (groups + 1)) codeHere).map _ ?_)
  rintro values final ⟨records, keeps⟩
  rcases keeps (groups + 1) (Nat.le_refl _) with ⟨entered, left⟩
  refine ⟨entered, left.trans List.lookup_cons_self, rfl, records, ?_⟩
  intro index below
  rcases keeps index (Nat.le_succ_of_le below) with ⟨sameEntered, sameLeft⟩
  exact ⟨sameEntered, sameLeft.trans (lookup_cons_of_ne (by omega) _)⟩

/-- A placeholder takes one more character if that leads to a match. -/
theorem settles_fork {thread : Thread} (reads : thread.Reads text)
    (place : thread.instruction = start + 2) {found : Option (List Char × List (List Char))}
    (again : Settles program (FillsOn text groups thread) (thread.moveBy (-1)) found) :
    Settles program (FillsOn text groups thread) thread
      (found.or ((later thread.rest).map fun values => ([], values))) := by
  have forkHere : program[thread.instruction]? = some (.fork (-1) 1) :=
    place ▸ (here.after [.enter (groups + 1), .take slashless]).head
  have stop : Settles program (FillsOn text groups thread) (thread.moveBy 1)
      ((later thread.rest).map fun values => ([], values)) :=
    settles_stop here settles (reads.moveBy 1) (congrArg (· + 1) place)
  exact .fork forkHere rfl again stop

/-- After its first character a placeholder goes on as long as it can. -/
theorem settles_rounds {thread : Thread} (reads : thread.Reads text)
    (place : thread.instruction = start + 2) :
    Settles program (FillsOn text groups thread) thread (takeLongest later thread.rest) := by
  have takeHere : program[start + 1]? = some (.take slashless) :=
    (here.after [.enter (groups + 1)]).head
  have goesBack : ∀ thread : Thread, thread.instruction = start + 2 →
      (thread.moveBy (-1)).instruction = start + 1 := by
    intro thread place
    change (thread.instruction + -1 : Int).toNat = start + 1
    omega
  induction rest : thread.rest generalizing thread with
  | nil =>
      have back := goesBack thread place
      have again : Settles program (FillsOn text groups thread) (thread.moveBy (-1)) none :=
        .stuck (back.symm ▸ takeHere) (by simp [Thread.follow, Thread.moveBy, rest])
      have whole := settles_fork here settles reads place again
      rw [rest] at whole
      exact whole
  | cons c others ih =>
      have back := goesBack thread place
      unfold takeLongest
      by_cases slash : c = '/'
      · have again : Settles program (FillsOn text groups thread) (thread.moveBy (-1)) none := by
          apply Settles.stuck (back.symm ▸ takeHere)
          simp [Thread.follow, Thread.moveBy, rest, contains_slashless, slash]
        have whole := settles_fork here settles reads place again
        rw [rest] at whole
        rw [if_pos slash]
        exact whole
      · have ways : (thread.moveBy (-1)).follow (.take slashless) =
            [(thread.moveBy (-1)).advance c others] := by
          simp [Thread.follow, Thread.moveBy, rest, contains_slashless, slash]
        have nextReads : ((thread.moveBy (-1)).advance c others).Reads text :=
          (reads.moveBy (-1)).advance rest
        have nextPlace : ((thread.moveBy (-1)).advance c others).instruction = start + 2 :=
          congrArg (· + 1) back
        have again : Settles program (FillsOn text groups thread) (thread.moveBy (-1))
            ((takeLongest later others).map fun found => (c :: found.1, found.2)) := by
          refine .onward (back.symm ▸ takeHere) ways ((ih nextReads nextPlace rfl).map _ ?_)
          rintro ⟨value, values⟩ final ⟨entered, left, taken, records, keeps⟩
          refine ⟨entered, ?_, reads.take_cons rest taken, records, keeps⟩
          rw [left]
          simp only [Thread.advance, Thread.moveBy, List.length_cons, Option.some.injEq]
          omega
        have whole := settles_fork here settles reads place again
        rw [rest] at whole
        rw [if_neg slash]
        exact whole

/-- A placeholder takes one character at least. -/
theorem settles_placeholder {name : List Char} {pieces : List Piece} {thread : Thread}
    (same : later = longestValues? pieces) (reads : thread.Reads text)
    (place : thread.instruction = start) :
    Settles program (Fills text groups thread) thread
      (longestValues? (.placeholder name :: pieces) thread.rest) := by
  have takeHere : program[start + 1]? = some (.take slashless) :=
    (here.after [.enter (groups + 1)]).head
  have takes : program[(thread.enter (groups + 1)).instruction]? = some (.take slashless) := by
    rw [← takeHere, ← place]
    rfl
  have opens : ∀ found,
      Settles program (Fills text groups thread) (thread.enter (groups + 1)) found →
        Settles program (Fills text groups thread) thread found := fun found settles =>
    .onward (place.symm ▸ here.head) rfl settles
  apply opens
  cases rest : thread.rest with
  | nil =>
      apply Settles.stuck takes
      simp [Thread.follow, Thread.enter, Thread.next, rest]
  | cons c others =>
      unfold longestValues?
      by_cases slash : c = '/'
      · rw [if_pos slash]
        apply Settles.stuck takes
        simp [Thread.follow, Thread.enter, Thread.next, rest, contains_slashless, slash]
      · have ways : (thread.enter (groups + 1)).follow (.take slashless) =
            [(thread.enter (groups + 1)).advance c others] := by
          simp [Thread.follow, Thread.enter, Thread.next, rest, contains_slashless, slash]
        have nextReads : ((thread.enter (groups + 1)).advance c others).Reads text :=
          (reads.enter (groups + 1)).advance rest
        have rounds := settles_rounds here settles nextReads (congrArg (· + 2) place)
        rw [if_neg slash, ← same]
        refine .onward takes ways (rounds.map _ ?_)
        rintro ⟨value, values⟩ final ⟨sameEntered, left, taken, records, keeps⟩
        refine ⟨⟨⟨thread.position, ?_, reads.take_cons rest taken⟩, records⟩, ?_⟩
        · have first : final.entered.lookup (groups + 1) = some thread.position :=
            sameEntered.trans List.lookup_cons_self
          have last : final.left.lookup (groups + 1) =
              some (thread.position + 1 + value.length) := left
          simp only [Thread.bounds?, first, last, List.length_cons, Option.bind_eq_bind,
            Option.bind_some, Option.pure_def, Option.some.injEq, Prod.mk.injEq, true_and]
          omega
        · intro index below
          rcases keeps index below with ⟨keptEntered, keptLeft⟩
          exact ⟨keptEntered.trans (lookup_cons_of_ne (by omega) _), keptLeft⟩

end Placeholder

/-- Literal text is read as its characters and takes one after the other. -/
theorem program_literals (literal : List Char) (nodes : List Node) :
    (literal.map (fun c => Node.literal [c]) ++ nodes).flatMap Node.program =
      literal.map (fun c => .take (.single c)) ++ nodes.flatMap Node.program := by
  rw [List.flatMap_append, List.flatMap_map]
  congr 1
  exact (List.map_eq_flatMap ..).symm

/-- The longest values are what the program of a layout finds. -/
theorem settles_layout {groups : Nat} {pieces : List Piece} {nodes : List Node}
    (layout : Layout IsSegment groups pieces nodes) {thread : Thread}
    (reads : thread.Reads text)
    (code : CodeAt program thread.instruction (nodes.flatMap Node.program ++ tailCode)) :
    Settles program (Fills text groups thread) thread (longestValues? pieces thread.rest) := by
  induction layout generalizing thread with
  | nil groups => exact settles_tail code
  | @literal groups literal pieces nodes rest ih =>
      rw [program_literals, List.append_assoc] at code
      refine settles_literal code reads fun next nextReads nextCode entered left => ?_
      have settles : Settles program (Fills text groups thread) next
          ((longestValues? pieces next.rest).map id) := (ih nextReads nextCode).map id
        fun values final ⟨records, keeps⟩ => ⟨records, keeps.of_eq entered left⟩
      rwa [Option.map_id_fun, id_eq] at settles
  | @placeholder groups last name body pieces nodes inside rest ih =>
      rcases inside with ⟨rfl, rfl⟩
      rw [List.flatMap_cons, program_group_segmentNode, List.append_assoc] at code
      exact settles_placeholder code (fun next nextReads nextCode => ih nextReads nextCode) rfl
        reads rfl

/-- A search with the program of a layout begins at the start of the text, and finds the longest
values or nothing. -/
theorem search_layout {pieces : List Piece} {nodes : List Node}
    (layout : Layout IsSegment 0 pieces nodes) (program_eq : program.toList = wholeProgram nodes)
    (text : List Char) :
    (longestValues? pieces text = none ∧ search program text = none) ∨
      ∃ values final, longestValues? pieces text = some values ∧
        search program text = some final ∧ Records text 0 values final := by
  have code : CodeAt program 0 (wholeProgram nodes) := program_eq
  have reads : (Thread.first text).next.Reads text := ⟨rfl, rfl, Nat.zero_le _⟩
  have settles := settles_layout layout reads (code.after [.check .textStart])
  have shown : Settles program (Records text 0) (Thread.first text).next
      ((longestValues? pieces text).map id) := settles.map id fun _ _ fills => fills.1
  rw [Option.map_id_fun, id_eq] at shown
  exact search_of_textStart code shown

end Pattern
end PageRouting
