import Mathlib.Data.List.TakeWhile
import PageRouting.Declaration.Specification
import PageRouting.Proofs.Declaration.Outline
import PageRouting.Proofs.Text.Lines

namespace PageRouting
namespace Declaration

/-!
# Specifications that are read as they were written

A forest is written as one line for each page, a page before the pages below it,
behind as many tabs as there are pages above it.  The text is read back as the
same forest.  A segment must not be empty, and neither segments nor indices may
hold blanks, but they may look like the marks of a path or an index.  A path may
hold anything but the parenthesis that would close it and a line feed.
-/

/-! ## What may follow a segment -/

/-- How a path is written behind a segment. -/
def pathText : Option (List Char) → List Char
  | none => []
  | some path => ' ' :: '(' :: (path ++ [')'])

/-- How an index is written at the end of a line. -/
def indexText : Option (List Char) → List Char
  | none => []
  | some index => ' ' :: '-' :: '>' :: ' ' :: index

def Tail.text (tail : Tail) : List Char :=
  pathText tail.path ++ indexText tail.index

/-- Path and index end where they are meant to end. -/
structure Tail.IsPlain (tail : Tail) : Prop where
  path : ∀ path ∈ tail.path, ')' ∉ path
  index : ∀ index ∈ tail.index, ∀ c ∈ index, notBlank c = true

/-- One more space may end a line. -/
def IsOptionalSpace (space : List Char) : Prop :=
  space = [] ∨ space = [' ']

theorem IsOptionalSpace.isLineEnd {space : List Char} (optional : IsOptionalSpace space) :
    isLineEnd space = true := by
  rcases optional with rfl | rfl
  · rfl
  · rfl

theorem IsOptionalSpace.takeWhile {space : List Char} (optional : IsOptionalSpace space) :
    space.takeWhile notBlank = [] := by
  rcases optional with rfl | rfl
  · rfl
  · rfl

theorem IsOptionalSpace.dropWhile {space : List Char} (optional : IsOptionalSpace space) :
    space.dropWhile notBlank = space := by
  rcases optional with rfl | rfl
  · rfl
  · rfl

theorem readIndex?_indexText {index : Option (List Char)}
    (plain : ∀ text ∈ index, ∀ c ∈ text, notBlank c = true) {space : List Char}
    (optional : IsOptionalSpace space) :
    readIndex? (indexText index ++ space) = some index := by
  cases index with
  | none =>
      rcases optional with rfl | rfl
      · rfl
      · rfl
  | some text =>
      have all := plain text rfl
      simp only [indexText, List.cons_append, readIndex?, List.dropWhile_append_of_pos all,
        List.takeWhile_append_of_pos all, optional.dropWhile, optional.takeWhile,
        optional.isLineEnd, List.append_nil, if_true]

theorem readTail?_text_append {tail : Tail} (plain : tail.IsPlain) {space : List Char}
    (optional : IsOptionalSpace space) : readTail? (tail.text ++ space) = some tail := by
  rcases tail with ⟨_ | path, index⟩
  · have read := readIndex?_indexText plain.index optional
    -- an index does not look like a path, since its mark begins otherwise
    have unlike : readTail? (indexText index ++ space) =
        (readIndex? (indexText index ++ space)).map fun index => ⟨none, index⟩ := by
      rcases optional with rfl | rfl
      · cases index <;> rfl
      · cases index <;> rfl
    rw [Tail.text, pathText, List.nil_append, unlike, read, Option.map_some]
  · have cut : Text.cutAt ')' (path ++ ')' :: (indexText index ++ space)) =
        (path, some (indexText index ++ space)) :=
      Text.cutAt_append_cons (plain.path path rfl) _
    simp only [Tail.text, pathText, List.cons_append, List.append_assoc, List.nil_append, readTail?,
      cut, readIndex?_indexText plain.index optional, Option.map_some]

theorem readTail?_text {tail : Tail} (plain : tail.IsPlain) : readTail? tail.text = some tail := by
  have read := readTail?_text_append plain (Or.inl rfl)
  rwa [List.append_nil] at read

/-- What follows a segment begins with a blank. -/
theorem takeWhile_text (tail : Tail) : tail.text.takeWhile notBlank = [] := by
  rcases tail with ⟨_ | path, _ | index⟩ <;> rfl

theorem dropWhile_text (tail : Tail) : tail.text.dropWhile notBlank = tail.text := by
  rcases tail with ⟨_ | path, _ | index⟩ <;> rfl

theorem mem_pathText {c : Char} {path : Option (List Char)} (member : c ∈ pathText path) :
    c ∈ [' ', '(', ')'] ∨ ∃ text ∈ path, c ∈ text := by
  cases path with
  | none => exact absurd member List.not_mem_nil
  | some text =>
      simp only [pathText, List.mem_cons, List.mem_append, List.not_mem_nil, or_false] at member ⊢
      rcases member with blank | opening | inside | closing
      · exact Or.inl (Or.inl blank)
      · exact Or.inl (Or.inr (Or.inl opening))
      · exact Or.inr ⟨text, rfl, inside⟩
      · exact Or.inl (Or.inr (Or.inr closing))

theorem mem_indexText {c : Char} {index : Option (List Char)} (member : c ∈ indexText index) :
    c ∈ [' ', '-', '>'] ∨ ∃ text ∈ index, c ∈ text := by
  cases index with
  | none => exact absurd member List.not_mem_nil
  | some text =>
      simp only [indexText, List.mem_cons, List.not_mem_nil, or_false] at member ⊢
      rcases member with blank | dash | head | blank | inside
      · exact Or.inl (Or.inl blank)
      · exact Or.inl (Or.inr (Or.inl dash))
      · exact Or.inl (Or.inr (Or.inr head))
      · exact Or.inl (Or.inl blank)
      · exact Or.inr ⟨text, rfl, inside⟩

/-- A path ends with its parenthesis, whatever it holds. -/
theorem getLast?_pathText (path : Option (List Char)) :
    (pathText path).getLast? = path.map fun _ => ')' := by
  cases path with
  | none => rfl
  | some text =>
      rw [pathText, ← List.cons_append, ← List.cons_append, List.getLast?_append]
      rfl

theorem getLast?_append_ne {c : Char} {first second : List Char} (before : first.getLast? ≠ some c)
    (after : second.getLast? ≠ some c) : (first ++ second).getLast? ≠ some c := by
  rw [List.getLast?_append]
  cases last : second.getLast? with
  | none => rwa [Option.none_or]
  | some other => rwa [Option.some_or, ← last]

/-! ## Lines -/

/-- A line that is made of blanks, a segment and what follows it is read as such. -/
theorem readLine?_append {blanks segment : List Char} {tail : Tail}
    (blank : ∀ c ∈ blanks, Text.isBlank c = true) (nonempty : segment ≠ [])
    (solid : ∀ c ∈ segment, notBlank c = true) (plain : tail.IsPlain)
    (declares : ∃ c ∈ blanks ++ (segment ++ tail.text), Text.isAsciiWord c = true) :
    readLine? (blanks ++ (segment ++ tail.text)) =
      some (Line.of blanks.length segment tail) := by
  rcases List.exists_cons_of_ne_nil nonempty with ⟨first, others, rfl⟩
  have stop : Text.isBlank first = false := by
    simpa only [notBlank, Bool.not_eq_true'] using solid first List.mem_cons_self
  have indented : (blanks ++ (first :: others ++ tail.text)).takeWhile Text.isBlank = blanks := by
    rw [List.takeWhile_append_of_pos blank, List.cons_append,
      List.takeWhile_cons_of_neg (by simp [stop]),
      List.append_nil]
  have rest : (blanks ++ (first :: others ++ tail.text)).dropWhile Text.isBlank =
      first :: others ++ tail.text := by
    rw [List.dropWhile_append_of_pos blank, List.cons_append,
      List.dropWhile_cons_of_neg (by simp [stop])]
  have named : (first :: others ++ tail.text).takeWhile notBlank = first :: others := by
    rw [List.takeWhile_append_of_pos solid, takeWhile_text, List.append_nil]
  have behind : (first :: others ++ tail.text).dropWhile notBlank = tail.text := by
    rw [List.dropWhile_append_of_pos solid, dropWhile_text]
  simp only [readLine?, List.any_eq_true.mpr declares, if_true, indented, rest, named, behind,
    readTail?_text plain]

/-- Path and index of a declaration, as characters. -/
def tailOf (declaration : PageDeclaration) : Tail where
  path := declaration.path.map String.toList
  index := declaration.index.map String.toList

/-- The line of a page at a level. -/
def lineText (level : Nat) (declaration : PageDeclaration) : List Char :=
  List.replicate level '\t' ++ (declaration.segment.toList ++ (tailOf declaration).text)

/-- A declaration that a line can hold. -/
structure IsWritable (level : Nat) (declaration : PageDeclaration) : Prop where
  segment_ne : declaration.segment ≠ ""
  segment_solid : ∀ c ∈ declaration.segment.toList, Text.isBlank c = false
  path : ∀ path ∈ declaration.path, ')' ∉ path.toList ∧ '\n' ∉ path.toList
  index : ∀ index ∈ declaration.index, ∀ c ∈ index.toList, Text.isBlank c = false
  params : declaration.params = none
  word : ∃ c ∈ lineText level declaration, Text.isAsciiWord c = true

instance (level : Nat) (declaration : PageDeclaration) :
    Decidable (IsWritable level declaration) :=
  -- characters are looked at one by one, since there are too many to go through them all
  decidable_of_iff
    (declaration.segment ≠ "" ∧ declaration.segment.toList.all (!Text.isBlank ·) = true ∧
      (∀ path ∈ declaration.path, ')' ∉ path.toList ∧ '\n' ∉ path.toList) ∧
      (∀ index ∈ declaration.index, index.toList.all (!Text.isBlank ·) = true) ∧
      declaration.params = none ∧ (lineText level declaration).any Text.isAsciiWord = true) <| by
    simp only [List.all_eq_true, List.any_eq_true, Bool.not_eq_true']
    exact ⟨fun ⟨nonempty, solid, path, index, params, word⟩ =>
        ⟨nonempty, solid, path, index, params, word⟩,
      fun writable => ⟨writable.segment_ne, writable.segment_solid, writable.path, writable.index,
        writable.params, writable.word⟩⟩

namespace IsWritable

variable {level : Nat} {declaration : PageDeclaration}

theorem isPlain (writable : IsWritable level declaration) : (tailOf declaration).IsPlain where
  path := by
    intro path member
    rcases Option.map_eq_some_iff.mp member with ⟨text, given, rfl⟩
    exact (writable.path text given).1
  index := by
    intro index member c inside
    rcases Option.map_eq_some_iff.mp member with ⟨text, given, rfl⟩
    rw [notBlank, writable.index text given c inside, Bool.not_false]

theorem segment_toList_ne (writable : IsWritable level declaration) :
    declaration.segment.toList ≠ [] :=
  fun empty => writable.segment_ne (String.toList_eq_nil_iff.mp empty)

/-- The line is read as the level and the parts that it was written from. -/
theorem readLine?_lineText (writable : IsWritable level declaration) :
    readLine? (lineText level declaration) =
      some ⟨level, declaration.segment, declaration.path, declaration.index⟩ := by
  have tabs : ∀ c ∈ List.replicate level '\t', Text.isBlank c = true := by
    intro c member
    rw [List.eq_of_mem_replicate member]
    rfl
  have solid : ∀ c ∈ declaration.segment.toList, notBlank c = true := by
    intro c member
    rw [notBlank, writable.segment_solid c member, Bool.not_false]
  have parts (part : Option String) : (part.map String.toList).map String.ofList = part := by
    cases part <;> simp only [Option.map_none, Option.map_some, String.ofList_toList]
  rw [lineText, readLine?_append tabs writable.segment_toList_ne solid writable.isPlain
    writable.word]
  simp only [Line.of, tailOf, parts, List.length_replicate, String.ofList_toList]

theorem not_mem_lineText (writable : IsWritable level declaration) :
    '\n' ∉ lineText level declaration := by
  intro member
  rcases List.mem_append.mp member with tabs | member
  · exact absurd (List.eq_of_mem_replicate tabs) (by decide)
  rcases List.mem_append.mp member with segment | member
  · exact absurd (writable.segment_solid _ segment) (by decide)
  rcases List.mem_append.mp member with path | index
  · rcases mem_pathText path with mark | ⟨text, given, inside⟩
    · exact absurd mark (by decide)
    · rcases Option.map_eq_some_iff.mp given with ⟨path, declared, rfl⟩
      exact (writable.path path declared).2 inside
  · rcases mem_indexText index with mark | ⟨text, given, inside⟩
    · exact absurd mark (by decide)
    · rcases Option.map_eq_some_iff.mp given with ⟨index, declared, rfl⟩
      exact absurd (writable.index index declared _ inside) (by decide)

/-- A path may hold a carriage return, but it does not end a line. -/
theorem getLast?_lineText_ne (writable : IsWritable level declaration) :
    (lineText level declaration).getLast? ≠ some '\r' := by
  have path : (pathText (tailOf declaration).path).getLast? ≠ some '\r' := by
    rw [getLast?_pathText]
    cases (tailOf declaration).path <;> simp
  have index : (indexText (tailOf declaration).index).getLast? ≠ some '\r' := by
    intro last
    rcases mem_indexText (List.mem_of_getLast? last) with mark | ⟨text, given, inside⟩
    · exact absurd mark (by decide)
    · rcases Option.map_eq_some_iff.mp given with ⟨index, declared, rfl⟩
      exact absurd (writable.index index declared _ inside) (by decide)
  refine getLast?_append_ne ?_ (getLast?_append_ne ?_ (getLast?_append_ne path index))
  · exact fun last => absurd (List.eq_of_mem_replicate (List.mem_of_getLast? last)) (by decide)
  · exact fun last => absurd (writable.segment_solid _ (List.mem_of_getLast? last)) (by decide)

theorem isFirmLine (writable : IsWritable level declaration) :
    Text.IsFirmLine (lineText level declaration) where
  nonempty := by
    intro empty
    rcases List.append_eq_nil_iff.mp (List.append_eq_nil_iff.mp empty).2 with ⟨none, _⟩
    exact writable.segment_toList_ne none
  unbroken := writable.not_mem_lineText
  ends := writable.getLast?_lineText_ne

end IsWritable

/-! ## Forests -/

/-- A text that declares the pages of a forest. -/
def forestText (forest : List PageTree) : String :=
  String.ofList (Text.joinWith '\n'
    ((PageTree.preorderForest 0 forest).map fun entry => lineText entry.1 entry.2))

theorem readLines_forestText {forest : List PageTree}
    (writable : ∀ entry ∈ PageTree.preorderForest 0 forest, IsWritable entry.1 entry.2) :
    readLines (forestText forest) = (PageTree.preorderForest 0 forest).map fun entry =>
      ⟨entry.1, entry.2.segment, entry.2.path, entry.2.index⟩ := by
  have firm : ∀ line ∈ (PageTree.preorderForest 0 forest).map fun entry =>
      lineText entry.1 entry.2, Text.IsFirmLine line := by
    intro line member
    rcases List.mem_map.mp member with ⟨entry, among, rfl⟩
    exact (writable entry among).isFirmLine
  rw [readLines, forestText, String.toList_ofList, Text.lines_joinWith firm]
  generalize PageTree.preorderForest 0 forest = listing at writable
  induction listing with
  | nil => rfl
  | cons entry more ih =>
      have here := (writable entry List.mem_cons_self).readLine?_lineText
      have later := ih fun other member => writable other (List.mem_cons_of_mem _ member)
      rw [List.map_cons, List.filterMap_cons_some here, later, List.map_cons]

/-- A written forest is read back. -/
theorem readForest_forestText {forest : List PageTree}
    (writable : ∀ entry ∈ PageTree.preorderForest 0 forest, IsWritable entry.1 entry.2) :
    readForest (forestText forest) = forest := by
  have placed : ((readLines (forestText forest)).map fun line => (⟨line, none⟩ : Entry)).map
      Entry.place = (PageTree.preorderForest 0 forest).map fun entry => ⟨entry.1, entry.2⟩ := by
    rw [readLines_forestText writable, List.map_map, List.map_map]
    apply List.map_congr_left
    intro entry member
    have params := (writable entry member).params
    rcases entry with ⟨level, segment, path, index, given⟩
    exact congrArg (fun params => (⟨level, segment, path, index, params⟩ : Placed)) params.symm
  calc readForest (forestText forest)
      = forestOf (((readLines (forestText forest)).map fun line => (⟨line, none⟩ : Entry)).map
          Entry.place) := rfl
    _ = forestOf ((PageTree.preorderForest 0 forest).map fun entry => ⟨entry.1, entry.2⟩) := by
        rw [placed]
    _ = forest := forestOf_preorderForest forest

/-- Segments that look like the marks of a path and of an index, a path with blanks and
an opening parenthesis, and an empty path and index. -/
def markedForest : List PageTree :=
  [.page ⟨"(x", some "/a -> (b\r", some "->", none⟩
      [.page ⟨"->a", none, some "", none⟩ [.page ⟨"é)1", some "", none, none⟩ []],
        .page ⟨"b", none, none, none⟩ []],
    .page ⟨"-", some "c c", some "(d)", none⟩ []]

/-- The text has to be read line by line, and in each line the marks have to be told
from segments and paths that look like them. -/
theorem readForest_markedForest :
    (∀ entry ∈ PageTree.preorderForest 0 markedForest, IsWritable entry.1 entry.2) ∧
      readForest (forestText markedForest) = markedForest := by
  have writable : ∀ entry ∈ PageTree.preorderForest 0 markedForest,
      IsWritable entry.1 entry.2 := by
    decide +kernel
  exact ⟨writable, readForest_forestText writable⟩

end Declaration
end PageRouting
