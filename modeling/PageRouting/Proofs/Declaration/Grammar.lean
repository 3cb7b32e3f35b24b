import PageRouting.Declaration.Line
import PageRouting.Pattern.Reading
import PageRouting.Proofs.Pattern.Parts
import PageRouting.Proofs.Text.CharSet
import PageRouting.Proofs.Text.Split

namespace PageRouting
namespace Declaration

/-!
# Lines and the grammar of declarations

The form of a declaration can be written as a pattern, whose match in a line has
a group for each part.  The parts overlap: the blanks of the indentation can be
given back for the space before a path or an index, and each of the optional
parts can be skipped for the next one to be tried.  Still at most one character
is ever given back, and only by the indentation.  Everything else ends where its
characters end, since the part after it cannot begin with one of them.  So lines
are read by the preferred match of the grammar, without a search for it.
-/

open Pattern

/-- The form of a line, with groups for its indentation, segment, path and index. -/
def grammar : String :=
  "^(\\s*)(\\S*)(?: \\(([^)]*)\\))?(?: -> (\\S*))? ?$"

/-- Read a line by the preferred match of the grammar. -/
def matchLine? (line : List Char) : Option Line :=
  if line.any Text.isAsciiWord then
    let depth := (line.takeWhile Text.isBlank).length
    let texts := (Pattern.ofString? grammar).bind fun pattern =>
      pattern.captures? (String.ofList line)
    some <|
      match texts with
      | some [_, segment, path, index] => ⟨depth, segment.getD "", path, index⟩
      | _ => Line.blank depth
  else
    none

/-! ## The program of the grammar -/

/-- Instructions for a text as it is. -/
def literalCode (text : List Char) : List Instruction :=
  text.map fun c => .take (.single c)

def blankMembers : Text.CharSet :=
  Text.BinaryProperty.whiteSpace

theorem contains_blankMembers : blankMembers.contains = Text.isBlank :=
  funext Text.CharSet.contains_whiteSpace

theorem contains_complement_blankMembers : blankMembers.complement.contains = notBlank := by
  funext c
  have outside : blankMembers.complement.contains c = !blankMembers.contains c :=
    Text.CharSet.contains_complement Text.CharSet.ascends_whiteSpace c
  rw [outside, contains_blankMembers, notBlank]

def endCode : List Instruction :=
  Instruction.optional true (literalCode [' ']) ++ [.check .textEnd]

def indexCode : List Instruction :=
  Instruction.optional true
    (literalCode [' ', '-', '>', ' '] ++ groupOf 4 blankMembers.complement) ++ endCode

def pathCode : List Instruction :=
  Instruction.optional true
    (literalCode [' ', '('] ++ (groupOf 3 (Text.CharSet.single ')').complement ++
      literalCode [')'])) ++ indexCode

def lineCode : List Instruction :=
  groupOf 1 blankMembers ++ (groupOf 2 blankMembers.complement ++ pathCode)

theorem ofString?_grammar :
    (Pattern.ofString? grammar).map (fun pattern =>
      (pattern.program.toList, pattern.groupCount)) =
        some (.check .textStart :: lineCode, 4) := by
  decide +kernel

/-! ## What the parts find -/

/-- Path and index as the texts of their groups. -/
def indexTexts (index : Option (List Char)) : GroupTexts :=
  (index.map fun index => (4, index)).toList

def Tail.groupTexts (tail : Tail) : GroupTexts :=
  indexTexts tail.index ++ (tail.path.map fun path => (3, path)).toList

variable {program : Array Instruction} {text : List Char}

theorem eq_space_of_isLineEnd {c : Char} {rest : List Char} (ends : isLineEnd (c :: rest) = true) :
    c = ' ' ∧ rest = [] := by
  unfold isLineEnd at ends
  split at ends
  · next nothing => cases nothing
  · next space => exact List.cons.inj space
  · exact absurd ends Bool.false_ne_true

/-- What begins with a character that is not blank is no end of a line. -/
theorem isLineEnd_cons_of_notBlank {c : Char} (solid : notBlank c = true) (rest : List Char) :
    isLineEnd (c :: rest) = false := by
  apply Bool.eq_false_iff.mpr
  intro ends
  rw [(eq_space_of_isLineEnd ends).1] at solid
  exact absurd solid (by decide)

theorem isPrefixOf?_append (front rest : List Char) :
    front.isPrefixOf? (front ++ rest) = some rest :=
  List.isPrefixOf?_eq_some_iff_append_eq.mpr rfl

theorem isPrefixOf?_eq_none_iff {front text : List Char} :
    front.isPrefixOf? text = none ↔ ∀ rest, text ≠ front ++ rest := by
  rw [Option.eq_none_iff_forall_ne_some]
  exact forall_congr' fun rest =>
    not_congr (List.isPrefixOf?_eq_some_iff_append_eq.trans eq_comm)

theorem finds_endCode :
    Finds program text endCode fun rest => if isLineEnd rest then some [] else none := by
  refine ((finds_end.literal [' ']).optional finds_end).congr fun rest => ?_
  rcases rest with _ | ⟨c, rest⟩
  · rfl
  · by_cases space : c = ' '
    · subst space
      cases rest with
      | nil => rfl
      | cons next rest => rfl
    · have prefixed : [' '].isPrefixOf? (c :: rest) = none :=
        isPrefixOf?_eq_none_iff.mpr fun _ same => space (List.cons.inj same).1
      have unfinished : ¬isLineEnd (c :: rest) = true := fun ends =>
        space (eq_space_of_isLineEnd ends).1
      rw [prefixed, if_neg unfinished, Option.bind_none, if_neg (List.cons_ne_nil c rest),
        Option.or_none]

theorem readIndex?_of_unmarked {text : List Char}
    (unmarked : ∀ rest, text ≠ [' ', '-', '>', ' '] ++ rest) :
    readIndex? text = if isLineEnd text then some none else none := by
  unfold readIndex?
  split
  · exact absurd rfl (unmarked _)
  · rfl

theorem readTail?_of_unmarked {text : List Char} (unmarked : ∀ rest, text ≠ [' ', '('] ++ rest) :
    readTail? text = (readIndex? text).map fun index => ⟨none, index⟩ := by
  unfold readTail?
  split
  · exact absurd rfl (unmarked _)
  · rfl

/-- A path ends at the first parenthesis that closes it, whatever comes then. -/
theorem readTail?_of_marked (text : List Char) :
    readTail? ([' ', '('] ++ text) =
      ([')'].isPrefixOf? (text.dropWhile (· != ')'))).bind fun behind =>
        (readIndex? behind).map fun index => ⟨some (text.takeWhile (· != ')')), index⟩ := by
  simp only [List.cons_append, List.nil_append, readTail?]
  by_cases closed : ')' ∈ text
  · rcases List.eq_append_cons_of_mem closed with ⟨path, behind, rfl, absent⟩
    have inPath : ∀ c ∈ path, (c != ')') = true := fun c member =>
      bne_iff_ne.mpr fun same => absent (same ▸ member)
    have taken : (path ++ ')' :: behind).takeWhile (· != ')') = path := by
      rw [List.takeWhile_append_of_pos inPath, List.takeWhile_cons_of_neg (by decide),
        List.append_nil]
    have left : (path ++ ')' :: behind).dropWhile (· != ')') = [')'] ++ behind := by
      rw [List.dropWhile_append_of_pos inPath, List.dropWhile_cons_of_neg (by decide)]
      rfl
    rw [Text.cutAt_append_cons absent, taken, left, isPrefixOf?_append, Option.bind_some]
  · have all : ∀ c ∈ text, (c != ')') = true := fun c member =>
      bne_iff_ne.mpr fun same => closed (same ▸ member)
    rw [Text.cutAt_of_not_mem closed, List.dropWhile_eq_nil_iff.mpr all]
    rfl

theorem finds_indexCode :
    Finds program text indexCode fun rest => (readIndex? rest).map indexTexts := by
  have inside := (@finds_endCode program text).group_all 4
    contains_complement_blankMembers fun c solid rest =>
      if_neg (Bool.eq_false_iff.mp (isLineEnd_cons_of_notBlank solid rest))
  have marked := inside.literal [' ', '-', '>', ' ']
  rw [← List.append_assoc] at marked
  refine (marked.optional finds_endCode).congr fun rest => ?_
  cases begins : [' ', '-', '>', ' '].isPrefixOf? rest with
  | some after =>
      have whole := List.isPrefixOf?_eq_some_iff_append_eq.mp begins
      subst whole
      change Option.or _ (if false = true then some [] else none) = Option.map indexTexts
        (if isLineEnd (after.dropWhile notBlank) then some (some (after.takeWhile notBlank))
          else none)
      rw [if_neg Bool.false_ne_true, Option.or_none, Option.bind_some]
      split
      · rfl
      · rfl
  | none =>
      have unmarked := isPrefixOf?_eq_none_iff.mp begins
      rw [readIndex?_of_unmarked unmarked, Option.bind_none, Option.none_or]
      split
      · rfl
      · rfl

theorem finds_pathCode :
    Finds program text pathCode fun rest => (readTail? rest).map Tail.groupTexts := by
  have index := @finds_indexCode program text
  have others : (Text.CharSet.single ')').complement.contains = fun c => c != ')' :=
    funext (Text.CharSet.contains_complement_single ')')
  have inside := (index.literal [')']).group_all 3 others fun c other rest => by
      rw [isPrefixOf?_eq_none_iff.mpr fun _ same => (bne_iff_ne.mp other) (List.cons.inj same).1]
      rfl
  have marked := inside.literal [' ', '(']
  rw [← List.append_assoc, ← List.append_assoc] at marked
  refine (marked.optional index).congr fun rest => ?_
  cases begins : [' ', '('].isPrefixOf? rest with
  | some after =>
      have whole := List.isPrefixOf?_eq_some_iff_append_eq.mp begins
      subst whole
      have noIndex : readIndex? ([' ', '('] ++ after) = none := rfl
      rw [readTail?_of_marked, noIndex, Option.map_none, Option.or_none, Option.bind_some]
      cases [')'].isPrefixOf? (after.dropWhile (· != ')')) with
      | none => rfl
      | some behind =>
          simp only [Option.bind_some, Option.map_map]
          rfl
  | none =>
      have unmarked := isPrefixOf?_eq_none_iff.mp begins
      rw [readTail?_of_unmarked unmarked, Option.bind_none, Option.none_or, Option.map_map]
      congr 1
      funext index
      simp [Tail.groupTexts]

/-- What can be read behind a segment begins with a space, unless it is empty, and a second blank
does not follow. -/
theorem eq_space_of_readTail? {c : Char} {rest : List Char} {tail : Tail}
    (read : readTail? (c :: rest) = some tail) :
    c = ' ' ∧ ∀ next ∈ rest.head?, notBlank next = true := by
  unfold readTail? at read
  split at read
  · next mark =>
      rcases List.cons.inj mark with ⟨rfl, rfl⟩
      refine ⟨rfl, fun next first => ?_⟩
      cases first
      decide
  · rcases Option.map_eq_some_iff.mp read with ⟨index, found, _⟩
    unfold readIndex? at found
    split at found
    · next mark =>
        rcases List.cons.inj mark with ⟨rfl, rfl⟩
        refine ⟨rfl, fun next first => ?_⟩
        cases first
        decide
    · split at found
      · next ends =>
          rcases eq_space_of_isLineEnd ends with ⟨rfl, rfl⟩
          exact ⟨rfl, fun next first => absurd first (Option.not_mem_none next)⟩
      · cases found

theorem readTail?_cons_of_ne {c : Char} (different : c ≠ ' ') (rest : List Char) :
    readTail? (c :: rest) = none := by
  cases read : readTail? (c :: rest) with
  | none => rfl
  | some tail => exact absurd (eq_space_of_readTail? read).1 different

theorem not_notBlank {c : Char} (blank : Text.isBlank c = true) : ¬notBlank c = true := by
  simp [notBlank, blank]

/-- The texts of a segment and of what follows it. -/
def segmentTexts? (rest : List Char) : Option GroupTexts :=
  (readTail? (rest.dropWhile notBlank)).map fun tail =>
    tail.groupTexts ++ [(2, rest.takeWhile notBlank)]

theorem segmentTexts?_cons_of_isBlank {c : Char} (blank : Text.isBlank c = true)
    (rest : List Char) :
    segmentTexts? (c :: rest) =
      (readTail? (c :: rest)).map fun tail => tail.groupTexts ++ [(2, [])] := by
  rw [segmentTexts?, List.dropWhile_cons_of_neg (not_notBlank blank),
    List.takeWhile_cons_of_neg (not_notBlank blank)]

theorem finds_segmentCode :
    Finds program text (groupOf 2 blankMembers.complement ++ pathCode) segmentTexts? := by
  refine (finds_pathCode.group_all 2 contains_complement_blankMembers ?_).congr ?_
  · intro c solid rest
    have different : c ≠ ' ' := by
      rintro rfl
      exact absurd solid (by decide)
    rw [readTail?_cons_of_ne different, Option.map_none]
  · intro rest
    rw [segmentTexts?, Option.map_map]
    rfl

/-- The indentation gives back one blank at most, as two blanks cannot begin anything. -/
theorem finds_lineCode :
    Finds program text lineCode fun rest =>
      let blanks := rest.takeWhile Text.isBlank
      let behind := rest.dropWhile Text.isBlank
      ((segmentTexts? behind).map fun found => found ++ [(1, blanks)]).or
        (blanks.getLast?.bind fun c =>
          (segmentTexts? (c :: behind)).map fun found => found ++ [(1, blanks.dropLast)]) := by
  refine (finds_segmentCode.group 1 blankMembers).congr fun rest => ?_
  rw [contains_blankMembers, takeMost_eq_or, List.nil_append, List.nil_append]
  intro c blank next nextBlank taken rest
  rw [segmentTexts?_cons_of_isBlank blank]
  cases read : readTail? (c :: next :: rest) with
  | none => rfl
  | some tail =>
      exact absurd ((eq_space_of_readTail? read).2 next rfl) (not_notBlank nextBlank)

/-! ## The match -/

/-- The texts of the groups of a match, in order. -/
theorem map_lookup_groupTexts (tail : Tail) (segment blanks : List Char) :
    ((List.range 4).map fun offset =>
      ((tail.groupTexts ++ [(2, segment)] ++ [(1, blanks)]).lookup (offset + 1)).map
        String.ofList) =
      [some (String.ofList blanks), some (String.ofList segment), tail.path.map String.ofList,
        tail.index.map String.ofList] := by
  rcases tail with ⟨_ | path, _ | index⟩ <;> rfl

theorem captures?_grammar (line : List Char) :
    let blanks := line.takeWhile Text.isBlank
    let behind := line.dropWhile Text.isBlank
    ((Pattern.ofString? grammar).bind fun pattern => pattern.captures? (String.ofList line)) =
      (((segmentTexts? behind).map fun found => found ++ [(1, blanks)]).or
        (blanks.getLast?.bind fun c =>
          (segmentTexts? (c :: behind)).map fun found => found ++ [(1, blanks.dropLast)])).map
        fun found => (List.range 4).map fun offset =>
          (found.lookup (offset + 1)).map String.ofList := by
  rcases Option.map_eq_some_iff.mp ofString?_grammar with ⟨pattern, read, made⟩
  rcases Prod.mk.inj made with ⟨program_eq, groups⟩
  rw [read, Option.bind_some, captures?_of_finds program_eq finds_lineCode, groups,
    String.toList_ofList]

/-- Lines are read by the preferred match of the grammar. -/
theorem readLine?_eq_matchLine? (line : List Char) : readLine? line = matchLine? line := by
  unfold readLine? matchLine?
  split
  case isFalse => rfl
  case isTrue =>
    simp only [captures?_grammar]
    cases named : readTail? ((line.dropWhile Text.isBlank).dropWhile notBlank) with
    | some tail =>
        simp only [segmentTexts?, named, Option.map_some, Option.some_or, map_lookup_groupTexts]
        rfl
    | none =>
        have nothing : segmentTexts? (line.dropWhile Text.isBlank) = none := by
          rw [segmentTexts?, named, Option.map_none]
        rw [nothing, Option.map_none, Option.none_or]
        cases last : (line.takeWhile Text.isBlank).getLast? with
        | none => rfl
        | some c =>
            have blank : Text.isBlank c = true :=
              List.mem_takeWhile_imp (List.mem_of_getLast? last)
            rw [Option.bind_some, segmentTexts?_cons_of_isBlank blank]
            by_cases space : c = ' '
            · subst space
              rw [if_pos rfl]
              cases readTail? (' ' :: line.dropWhile Text.isBlank) with
              | none => rfl
              | some tail =>
                  simp only [Option.map_some, map_lookup_groupTexts]
                  rfl
            · rw [if_neg fun same => space (Option.some.inj same), readTail?_cons_of_ne space]
              rfl

end Declaration
end PageRouting
