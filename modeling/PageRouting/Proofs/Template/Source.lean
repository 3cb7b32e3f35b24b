import PageRouting.Proofs.Template.Filling
import PageRouting.Proofs.Template.Layout
import PageRouting.Proofs.Template.Splice

namespace PageRouting
namespace Pattern

/-!
# How a template is read

Escaped text is always read to its end, and so is a placeholder if the placeholder
pattern is one whose end is seen.  A template is then read as the tree of its
pieces, unless a name is given to two groups or the groups are nested too high.
-/

open Template (pieceNames)

/-- The nodes of pieces whose placeholders hold the tree of a pattern that opens some groups.  The
first group has the index after the given one. -/
def contentNodes (opened : Nat) (body : Node) : Nat → List Piece → List Node
  | _, [] => []
  | groups, .literal text :: pieces =>
      text.map (fun c => .literal [c]) ++ contentNodes opened body groups pieces
  | groups, .placeholder _ :: pieces =>
      .group (groups + 1) (body.renumber (groups + 1)) ::
        contentNodes opened body (groups + 1 + opened) pieces

/-- The node of a whole template whose placeholders hold such a tree. -/
def contentNode (opened : Nat) (body : Node) (template : String) : Node :=
  Node.concat (.assertion .textStart ::
    (contentNodes opened body 0 (Template.pieces template.toList) ++ Reader.tailNodes))

theorem layout_contentNodes (opened : Nat) (body : Node) (groups : Nat) (pieces : List Piece) :
    Layout (Reader.HoldsContent body opened) groups pieces
      (contentNodes opened body groups pieces) := by
  induction pieces generalizing groups with
  | nil => exact .nil groups
  | cons piece pieces ih =>
      cases piece with
      | literal text => exact .literal (ih groups)
      | placeholder name => exact .placeholder ⟨rfl, rfl⟩ (ih _)

/-- All parts are low enough to stand beside others. -/
def Level.IsLow (level : Level) : Prop :=
  ∀ part ∈ level.parts, part.height < maxHeight

instance (level : Level) : Decidable level.IsLow :=
  inferInstanceAs (Decidable (∀ _ ∈ _, _))

theorem Level.isLow_add {level : Level} {part : Part} :
    (level.add part).IsLow ↔ part.height < maxHeight ∧ level.IsLow :=
  List.forall_mem_cons

namespace Reader

/-! ## Parts of a template -/

theorem ofSet_single (c : Char) (wide : Bool) : Node.ofSet (.single c) wide = .literal [c] := by
  simp only [Node.ofSet, Text.CharSet.single, Text.CharSet.ofRange, if_true, Char.ofNat_toNat]

theorem literal?_default (c : Char) : literal? {} c false = some (.literal [c]) := by
  simp only [literal?, Bool.false_and, Bool.false_eq_true, if_false, Flags.foldCase,
    ofSet_single]

theorem readEscape_of_isMeta {c : Char} (isMeta : isMeta c = true) (flags : Flags)
    (rest : List Char) : readEscape flags (c :: rest) = some (.literal c false, rest) := by
  have among := List.mem_of_elem_eq_true isMeta
  simp only [List.mem_cons, List.not_mem_nil, or_false] at among
  rcases among with rfl | rfl | rfl | rfl | rfl | rfl | rfl | rfl | rfl | rfl | rfl | rfl | rfl |
    rfl | rfl | rfl | rfl | rfl
  all_goals rfl

theorem step_of_not_isMeta {c : Char} (plain : isMeta c = false) (reader : Reader)
    (rest : List Char) : reader.step c rest =
      (literal? reader.flags c false).map fun node => (reader.addFlat node, rest) := by
  unfold step
  split
  case h_13 => rfl
  all_goals exact absurd plain (by decide)

theorem step_escape_of_isMeta {c : Char} (special : isMeta c = true) {reader : Reader}
    (flags : reader.flags = {}) (rest : List Char) :
    reader.step '\\' (c :: rest) = some (reader.addFlat (.literal [c]), rest) := by
  simp only [Reader.step, readEscape_of_isMeta special, Option.bind_eq_bind, Option.bind_some,
    atomNode?, flags, literal?_default, Option.pure_def]

/-- An opening parenthesis without a question mark opens a group that keeps its
text. -/
theorem readGroup_of_head?_ne {reader : Reader} {text : List Char}
    (terse : reader.flags.verbose = false) (plain : text.head? ≠ some '?') :
    reader.readGroup text = some (reader.openCapture, text) := by
  unfold readGroup
  simp only [Flags.skipBlanks, terse, Bool.false_eq_true, if_false]
  split
  case h_8 => rfl
  all_goals exact absurd rfl plain

/-- The question mark concerns the slash alone. -/
theorem step_optionalSlash {reader : Reader} (flags : reader.flags = {}) :
    (reader.addFlat (.literal ['/'])).step '?' ['$'] =
      some ({ reader with level := reader.level.add (.piece optionalSlash 1) }, ['$']) := by
  have swap : reader.flags.swapGreed = false := by rw [flags]
  simp [Reader.step, readSign, readLazy, repeatLast?, addFlat, Level.add, add?, swap,
    Node.withRepetition, Node.matchesOnlyEmpty, maxHeight, optionalSlash]

/-- The nodes read so far of the current alternative, in order. -/
def nodes (reader : Reader) : List Node :=
  reader.level.parts.reverse.map Part.toNode

variable {reader next finished : Reader} {text rest left : List Char} {body : Branch}

/-! ## Pieces -/

/-- The reader has these nodes in its only alternative. -/
structure HasRead (groups : Nat) (names : List (List Char)) (nodes : List Node) (reader : Reader) :
    Prop where
  flags : reader.flags = {}
  outermost : reader.enclosing = []
  only : reader.level.branches = []
  groups : reader.groups = groups
  names : reader.names = names
  nodes : reader.nodes = nodes

variable {groups : Nat} {names : List (List Char)} {nodes : List Node}

theorem HasRead.add (read : reader.HasRead groups names nodes) (node : Node) (height count : Nat)
    (given : List (List Char)) :
    HasRead count given (nodes ++ [node])
      { reader with
        groups := count
        names := given
        level := reader.level.add (.piece node height) } where
  flags := read.flags
  outermost := read.outermost
  only := read.only
  groups := rfl
  names := rfl
  nodes := by
    rw [← read.nodes]
    simp [Reader.nodes, Level.add, Part.toNode]

/-- A part that opens no group leaves the groups as they are. -/
theorem HasRead.addPiece (read : reader.HasRead groups names nodes) (node : Node) (height : Nat) :
    HasRead groups names (nodes ++ [node])
      { reader with level := reader.level.add (.piece node height) } := by
  have added := read.add node height groups names
  rwa [← read.groups, ← read.names] at added ⊢

/-- A step goes on with what it leaves. -/
theorem HasRead.readAll_of_step (read : reader.HasRead groups names nodes) {c : Char}
    (step : reader.step c rest = some (next, left)) :
    reader.readAll (c :: rest) = next.readAll left := by
  have shape : reader.flags.skipBlanks (c :: rest) = c :: rest := by
    rw [read.flags]
    rfl
  rw [readAll_of_cons shape, step, Option.bind_some]

theorem HasRead.readAll_nil (read : reader.HasRead groups names nodes) :
    reader.readAll [] = some reader :=
  readAll_of_nil (by rw [read.flags]; rfl)

/-- Escaped text is read to its end. -/
theorem HasRead.exists_escapeText (read : reader.HasRead groups names nodes)
    (text more : List Char) :
    ∃ next : Reader, next.HasRead groups names (nodes ++ text.map fun c => .literal [c]) ∧
      (next.level.IsLow ↔ reader.level.IsLow) ∧
      reader.readAll (escapeText text ++ more) = next.readAll more := by
  induction text generalizing reader nodes with
  | nil => exact ⟨reader, by rwa [List.map_nil, List.append_nil], Iff.rfl, rfl⟩
  | cons c rest ih =>
      have added : (reader.addFlat (.literal [c])).HasRead groups names (nodes ++ [.literal [c]]) :=
        read.addPiece (.literal [c]) 0
      have flat : (reader.addFlat (.literal [c])).level.IsLow ↔ reader.level.IsLow :=
        Level.isLow_add.trans (and_iff_right (Nat.succ_pos 249))
      have first : reader.readAll (escapeText (c :: rest) ++ more) =
          (reader.addFlat (.literal [c])).readAll (escapeText rest ++ more) := by
        cases special : isMeta c with
        | true =>
            have split : escapeText (c :: rest) ++ more =
                '\\' :: c :: (escapeText rest ++ more) := by
              simp [escapeText, special]
            rw [split, read.readAll_of_step (step_escape_of_isMeta special read.flags _)]
        | false =>
            have split : escapeText (c :: rest) ++ more = c :: (escapeText rest ++ more) := by
              simp [escapeText, special]
            have step := step_of_not_isMeta special reader (escapeText rest ++ more)
            rw [read.flags, literal?_default, Option.map_some] at step
            rw [split, read.readAll_of_step step]
      rcases ih added with ⟨next, nextRead, low, later⟩
      rw [List.append_assoc] at nextRead
      exact ⟨next, nextRead, low.trans flat, first.trans later⟩

/-- A placeholder is one group, if its names are new and it is not too high. -/
theorem HasRead.readAll_placeholder (read : reader.HasRead groups names nodes)
    (content : IsContent text finished body) (more : List Char) :
    reader.readAll ('(' :: text ++ [')'] ++ more) =
      if reader.clashes finished = false ∧ body.height < maxHeight
        then (reader.withGroup finished body).readAll more else none := by
  have opens : reader.step '(' (text ++ ')' :: more) =
      some (reader.openCapture, text ++ ')' :: more) := by
    have terse : reader.flags.verbose = false := by rw [read.flags]
    refine readGroup_of_head?_ne terse ?_
    cases shape : text with
    | nil => simp
    | cons c others =>
        rw [List.cons_append, List.head?_cons, ← @List.head?_cons _ c others, ← shape]
        exact content.head?_ne
  have split : '(' :: text ++ [')'] ++ more = '(' :: (text ++ ')' :: more) := by
    simp only [List.cons_append, List.append_assoc, List.nil_append]
  rw [split, read.readAll_of_step opens, content.readAll read.flags]

theorem HasRead.withGroup (read : reader.HasRead groups names nodes) (finished : Reader)
    (body : Branch) :
    (reader.withGroup finished body).HasRead (groups + 1 + finished.groups)
      (finished.names ++ names)
      (nodes ++ [.group (groups + 1) (body.node.renumber (groups + 1))]) := by
  have added := read.add (.group (groups + 1) (body.node.renumber (groups + 1)))
    (body.height + 1) (groups + 1 + finished.groups) (finished.names ++ names)
  rwa [← read.groups, ← read.names] at added ⊢

/-- Where no names but those of the placeholder pattern have been given, they clash if it gives
any. -/
theorem clashes_eq_false_iff (only : reader.names = [] ∨ reader.names = finished.names) :
    reader.clashes finished = false ↔ finished.names = [] ∨ reader.names = [] := by
  constructor
  · intro fresh
    by_contra both
    rcases not_or.mp both with ⟨named, taken⟩
    rcases List.exists_mem_of_ne_nil _ named with ⟨given, member⟩
    have again := List.any_eq_false.mp fresh given member
    rw [only.resolve_left taken] at again
    exact again (List.contains_iff_mem.mpr member)
  · rintro (unnamed | unnamed)
    · rw [clashes, unnamed]
      rfl
    · rw [clashes, unnamed]
      exact List.any_eq_false.mpr fun _ _ => Bool.false_ne_true

/-- Whether pieces can be read after some names have been given.  If the placeholder pattern gives
names, there may be only one placeholder. -/
def CanRead (finished : Reader) (body : Branch) (names : List (List Char)) (pieces : List Piece) :
    Prop :=
  pieceNames pieces = [] ∨ body.height < maxHeight ∧
    (finished.names = [] ∨ names = [] ∧ (pieceNames pieces).length = 1)

theorem canRead_placeholder {name : List Char} {pieces : List Piece} :
    CanRead finished body names (.placeholder name :: pieces) ↔
      ((finished.names = [] ∨ names = []) ∧ body.height < maxHeight) ∧
        CanRead finished body (finished.names ++ names) pieces := by
  have count : (pieceNames (.placeholder name :: pieces)).length = 1 ↔ pieceNames pieces = [] :=
    Nat.succ_inj.trans List.length_eq_zero_iff
  have some : pieceNames (.placeholder name :: pieces) ≠ [] := List.cons_ne_nil _ _
  rw [CanRead, CanRead, count, or_iff_right some]
  by_cases unnamed : finished.names = []
  · simp only [unnamed, true_or, and_true, true_and]
    exact (and_iff_left_of_imp fun low => .inr low).symm
  · have given : finished.names ++ names ≠ [] := List.append_ne_nil_of_left_ne_nil unnamed _
    simp only [unnamed, given, false_or, false_and, and_false, or_false]
    exact ⟨fun ⟨low, first, last⟩ => ⟨⟨first, low⟩, last⟩,
      fun ⟨⟨first, low⟩, last⟩ => ⟨low, first, last⟩⟩

/-- Pieces are read to their end, or not at all. -/
theorem HasRead.readAll_pieces (read : reader.HasRead groups names nodes)
    (content : IsContent text finished body) (only : names = [] ∨ names = finished.names)
    (pieces : List Piece) (more : List Char) :
    (CanRead finished body names pieces ∧ ∃ next : Reader,
      (∃ last given, next.HasRead last given
        (nodes ++ contentNodes finished.groups body.node groups pieces)) ∧
      (next.level.IsLow ↔
        (pieceNames pieces = [] ∨ body.height + 1 < maxHeight) ∧ reader.level.IsLow) ∧
      reader.readAll (pieces.flatMap (Template.pieceSource text) ++ more) = next.readAll more) ∨
    ¬CanRead finished body names pieces ∧
      reader.readAll (pieces.flatMap (Template.pieceSource text) ++ more) = none := by
  induction pieces generalizing reader nodes groups names with
  | nil =>
      refine .inl ⟨.inl rfl, reader, ⟨groups, names, ?_⟩, (and_iff_right (.inl rfl)).symm, rfl⟩
      rwa [contentNodes, List.append_nil]
  | cons piece pieces ih =>
      rw [List.flatMap_cons, List.append_assoc]
      cases piece with
      | literal literal =>
          rcases read.exists_escapeText literal
            (pieces.flatMap (Template.pieceSource text) ++ more) with ⟨next, nextRead, flat, first⟩
          refine (ih nextRead only).imp ?_ fun ⟨cannot, fails⟩ => ⟨cannot, first.trans fails⟩
          rintro ⟨can, final, ⟨last, given, finalRead⟩, low, later⟩
          rw [List.append_assoc] at finalRead
          rw [flat] at low
          exact ⟨can, final, ⟨last, given, finalRead⟩, low, first.trans later⟩
      | placeholder name =>
          have here := read.readAll_placeholder content
            (pieces.flatMap (Template.pieceSource text) ++ more)
          have new := clashes_eq_false_iff (read.names.symm ▸ only)
          rw [read.names] at new
          rw [canRead_placeholder]
          by_cases fresh : (finished.names = [] ∨ names = []) ∧ body.height < maxHeight
          · rw [if_pos ⟨new.mpr fresh.1, fresh.2⟩] at here
            have onlyLater : finished.names ++ names = [] ∨
                finished.names ++ names = finished.names := by
              rcases fresh.1 with unnamed | first
              · refine .inl (List.append_eq_nil_iff.mpr ⟨unnamed, ?_⟩)
                exact only.elim id fun same => same.trans unnamed
              · exact .inr (by rw [first, List.append_nil])
            refine (ih (read.withGroup finished body) onlyLater).imp ?_ fun ⟨cannot, fails⟩ =>
              ⟨fun can => cannot can.2, here.trans fails⟩
            rintro ⟨can, final, ⟨last, given, finalRead⟩, low, later⟩
            rw [List.append_assoc] at finalRead
            refine ⟨⟨fresh, can⟩, final, ⟨last, given, finalRead⟩, ?_, here.trans later⟩
            have group : (reader.withGroup finished body).level.IsLow ↔
                body.height + 1 < maxHeight ∧ reader.level.IsLow := Level.isLow_add
            have some : pieceNames (.placeholder name :: pieces) ≠ [] := List.cons_ne_nil _ _
            rw [low, group, or_iff_right some, ← and_assoc]
            exact and_congr_left' (and_iff_right_of_imp .inr)
          · rw [if_neg fun both => fresh ⟨new.mp both.1, both.2⟩] at here
            exact .inr ⟨fun can => fresh can.1, here⟩

/-- The end of a template is read to the end of the text. -/
theorem HasRead.exists_tail (read : reader.HasRead groups names nodes) :
    ∃ final : Reader, final.HasRead groups names (nodes ++ tailNodes) ∧
      (final.level.IsLow ↔ reader.level.IsLow) ∧ reader.readAll ['/', '?', '$'] = some final := by
  have optional := read.addPiece optionalSlash 1
  have whole := optional.addPiece (.assertion .textEnd) 0
  rw [List.append_assoc] at whole
  have slash : reader.step '/' ['?', '$'] = some (reader.addFlat (.literal ['/']), ['?', '$']) := by
    rw [step_of_not_isMeta (by decide), read.flags, literal?_default, Option.map_some]
  have question : (reader.addFlat (.literal ['/'])).readAll ['?', '$'] = _ :=
    (read.addPiece (.literal ['/']) 0).readAll_of_step (step_optionalSlash read.flags)
  let slashed : Reader := { reader with level := reader.level.add (.piece optionalSlash 1) }
  have ends : slashed.step '$' [] = some (slashed.addFlat (.assertion .textEnd), []) := by
    have multiLine : slashed.flags.multiLine = false := by rw [optional.flags]
    simp [Reader.step, lineEnd, multiLine]
  have dollar : slashed.readAll ['$'] = _ := optional.readAll_of_step ends
  refine ⟨_, whole, ?_, ?_⟩
  · rw [Level.isLow_add, Level.isLow_add, ← and_assoc]
    exact and_iff_right ⟨Nat.succ_pos 249, Nat.lt_add_left 248 Nat.one_lt_two⟩
  · rw [read.readAll_of_step slash, question, dollar]
    exact whole.readAll_nil

/-! ## Heights -/

theorem foldl_max_lt_iff {bound first : Nat} {heights : List Nat} :
    heights.foldl max first < bound ↔ first < bound ∧ ∀ height ∈ heights, height < bound := by
  induction heights generalizing first with
  | nil => exact (and_iff_left fun _ none => absurd none List.not_mem_nil).symm
  | cons height heights ih =>
      rw [List.foldl_cons, ih, Nat.max_lt, List.forall_mem_cons, and_assoc]

/-- Parts that stand beside each other need one level more. -/
theorem heightOver_le_iff {bound : Nat} {heights : List Nat} (several : 2 ≤ heights.length) :
    heightOver heights ≤ bound ↔ ∀ height ∈ heights, height < bound := by
  rw [heightOver, if_neg (Nat.not_lt_of_le several), Nat.succ_le_iff, foldl_max_lt_iff]
  refine and_iff_right_of_imp fun low => ?_
  rcases List.exists_mem_of_length_pos (Nat.lt_of_succ_lt several) with ⟨height, member⟩
  exact Nat.lt_of_le_of_lt (Nat.zero_le _) (low height member)

/-- What has been read of a template is closed, unless it is nested too high. -/
theorem HasRead.exists_close? (read : reader.HasRead groups names nodes)
    (several : 2 ≤ nodes.length) :
    ∃ height, reader.level.close? =
      if reader.level.IsLow then some ⟨Node.alternation [Node.concat nodes], height⟩
      else none := by
  have count : (reader.level.parts.map Part.height).length = nodes.length := by
    rw [← read.nodes, Reader.nodes, List.length_map, List.length_map, List.length_reverse]
  have low : heightOver [reader.level.branch.height] ≤ maxHeight ↔ reader.level.IsLow := by
    change max 0 reader.level.branch.height ≤ maxHeight ↔ _
    rw [Nat.zero_max]
    exact (heightOver_le_iff (count ▸ several)).trans List.forall_mem_map
  have branchNode : reader.level.branch.node = Node.concat nodes := by
    rw [← read.nodes]
    rfl
  refine ⟨heightOver [reader.level.branch.height], ?_⟩
  simp only [Level.close?, read.only, List.map_cons, List.map_nil, List.reverse_cons,
    List.reverse_nil, List.nil_append, branchNode, low]

/-! ## Templates -/

/-- The reader at the beginning of the pieces of a template. -/
def begun : Reader :=
  ({} : Reader).addFlat (.assertion .textStart)

theorem hasRead_begun : begun.HasRead 0 [] [.assertion .textStart] :=
  have empty : HasRead 0 [] [] {} := ⟨rfl, rfl, rfl, rfl, rfl, rfl⟩
  empty.addPiece (.assertion .textStart) 0

theorem readAll_source (placeholderPattern template : String) :
    Reader.readAll {} (Template.source placeholderPattern template) =
      begun.readAll ((Template.pieces template.toList).flatMap
        (Template.pieceSource placeholderPattern.toList) ++ ['/', '?', '$']) :=
  have empty : HasRead 0 [] [] {} := ⟨rfl, rfl, rfl, rfl, rfl, rfl⟩
  empty.readAll_of_step rfl

/-- Whether a template reads as a tree: without placeholders it always does, and else if they are
not too high and no name is given twice. -/
def FitsIn (finished : Reader) (body : Branch) (template : String) : Prop :=
  Template.names template = [] ∨ body.height + 1 < maxHeight ∧
    (finished.names = [] ∨ (Template.names template).length ≤ 1)

instance (finished : Reader) (body : Branch) (template : String) :
    Decidable (FitsIn finished body template) :=
  inferInstanceAs (Decidable (_ ∨ _ ∧ _))

theorem fitsIn_iff {template : String} : FitsIn finished body template ↔
    CanRead finished body [] (Template.pieces template.toList) ∧
      (pieceNames (Template.pieces template.toList) = [] ∨ body.height + 1 < maxHeight) := by
  rw [FitsIn, CanRead, Template.names_eq_nil_iff, Template.length_names]
  by_cases none : pieceNames (Template.pieces template.toList) = []
  · simp only [none, true_or, and_self]
  · have positive := List.length_pos_of_ne_nil none
    have single : (pieceNames (Template.pieces template.toList)).length ≤ 1 ↔
        (pieceNames (Template.pieces template.toList)).length = 1 :=
      ⟨fun most => Nat.le_antisymm most positive, Nat.le_of_eq⟩
    simp only [none, false_or, true_and, single]
    exact ⟨fun ⟨low, once⟩ => ⟨⟨Nat.lt_of_succ_lt low, once⟩, low⟩,
      fun ⟨⟨_, once⟩, low⟩ => ⟨low, once⟩⟩

end Reader

/-- A template reads as the tree of its pieces or not at all. -/
theorem exists_whole?_source {placeholderPattern : String} {finished : Reader} {body : Branch}
    (content : Reader.IsContent placeholderPattern.toList finished body) (template : String) :
    ∃ height, whole? (Template.source placeholderPattern template) =
      if Reader.FitsIn finished body template
        then some ⟨contentNode finished.groups body.node template, height⟩ else none := by
  rcases Reader.hasRead_begun.readAll_pieces content (.inl rfl) (Template.pieces template.toList)
      ['/', '?', '$'] with ⟨can, next, ⟨last, given, nextRead⟩, low, inside⟩ | ⟨cannot, fails⟩
  · rcases nextRead.exists_tail with ⟨final, finalRead, flat, ends⟩
    rcases finalRead.exists_close? (by rw [List.length_append]; exact Nat.le_add_left 2 _) with
      ⟨height, closed⟩
    have root : Node.alternation [Node.concat ([.assertion .textStart] ++
        contentNodes finished.groups body.node 0 (Template.pieces template.toList) ++
          Reader.tailNodes)] = contentNode finished.groups body.node template := by
      rw [List.append_assoc]
      apply Node.alternation_concat_assertion
      simp [Reader.tailNodes, Node.parts]
    have isLow : final.level.IsLow ↔ Reader.FitsIn finished body template := by
      have begunLow : Reader.begun.level.IsLow := by decide
      rw [flat, low, Reader.fitsIn_iff, and_iff_left begunLow, and_iff_right can]
    refine ⟨height, ?_⟩
    simp only [whole?, Reader.readAll_source, inside, ends, closed, finalRead.outermost, root,
      isLow, Option.bind_eq_bind, Option.bind_some, List.isEmpty_nil, if_true]
    split <;> rfl
  · refine ⟨0, ?_⟩
    rw [if_neg fun fits => cannot (Reader.fitsIn_iff.mp fits).1, whole?, Reader.readAll_source,
      fails]
    rfl

/-- The pattern of a template is that of its tree. -/
theorem root_eq_contentNode {placeholderPattern template : String} {finished : Reader}
    {body : Branch} {pattern : Pattern}
    (content : Reader.IsContent placeholderPattern.toList finished body)
    (read : ofChars? (Template.source placeholderPattern template) = some pattern) :
    pattern.root = contentNode finished.groups body.node template := by
  rcases exists_whole?_source content template with ⟨height, isWhole⟩
  rw [ofChars?_eq, isWhole] at read
  split at read
  · rw [Option.bind_some] at read
    split at read
    · rw [← Option.some.inj read, ofNode]
    · exact absurd read.symm (Option.some_ne_none _)
  · exact absurd read.symm (Option.some_ne_none _)

/-- The only groups of the tree are those of the pieces. -/
theorem groupIndices_contentNode (opened : Nat) (body : Node) (template : String) :
    (contentNode opened body template).groupIndices =
      (contentNodes opened body 0 (Template.pieces template.toList)).flatMap
        Node.groupIndices := by
  rw [contentNode, Node.groupIndices_concat, List.flatMap_cons, List.flatMap_append]
  exact List.append_nil _

/-- The pattern of a template has the program of its layout. -/
theorem exists_layout_of_source {placeholderPattern template : String} {finished : Reader}
    {body : Branch} {pattern : Pattern}
    (content : Reader.IsContent placeholderPattern.toList finished body)
    (read : ofChars? (Template.source placeholderPattern template) = some pattern) :
    ∃ nodes, Layout (Reader.HoldsContent body.node finished.groups) 0
        (Template.pieces template.toList) nodes ∧
      pattern.program.toList = wholeProgram nodes ∧
      ∀ index ∈ nodes.flatMap Node.groupIndices, index ≤ pattern.groupCount := by
  have root := root_eq_contentNode content read
  refine ⟨_, layout_contentNodes finished.groups body.node 0 _, ?_, ?_⟩
  · rw [pattern.program_eq, root, contentNode, Node.program_concat, List.flatMap_cons,
      List.flatMap_append]
    rfl
  · rw [← groupIndices_contentNode, ← root]
    exact fun index => Node.le_lastGroup_of_mem

end Pattern
/-- There are no placeholders, or the parenthesis after a placeholder is seen. -/
def Template.SeesEnds (placeholderPattern template : String) : Prop :=
  names template = [] ∨ Pattern.ofString? (placeholderPattern ++ ")") = none

instance (placeholderPattern template : String) :
    Decidable (Template.SeesEnds placeholderPattern template) :=
  inferInstanceAs (Decidable (_ ∨ _))

end PageRouting
