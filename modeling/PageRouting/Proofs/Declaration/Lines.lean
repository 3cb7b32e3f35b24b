import PageRouting.Proofs.Declaration.Grammar
import PageRouting.Proofs.Declaration.Writing

namespace PageRouting
namespace Declaration

/-!
# What a line declares

A line is its leading blanks and the rest of it.  The rest begins with a segment
of characters that are not blank, which may be empty, and is read if a path, an
index and a space can follow, each of which may be absent.  If they cannot, the
space in front of the rest may belong to a path or an index instead, and the
segment is empty.  A line that cannot be read in either way still has its depth.

There is only one way to take what follows a segment apart.  So the parts of a
line that has been read make up the line again.
-/

/-- The text is a path, an index and a space, each of which may be absent. -/
structure IsTail (tail : Tail) (space text : List Char) : Prop where
  plain : tail.IsPlain
  optional : IsOptionalSpace space
  split : text = tail.text ++ space

theorem isOptionalSpace_of_isLineEnd {text : List Char} (ends : isLineEnd text = true) :
    IsOptionalSpace text := by
  cases text with
  | nil => exact Or.inl rfl
  | cons c rest =>
      rcases eq_space_of_isLineEnd ends with ⟨rfl, rfl⟩
      exact Or.inr rfl

theorem exists_of_readIndex? {text : List Char} {index : Option (List Char)}
    (read : readIndex? text = some index) :
    (∀ chars ∈ index, ∀ c ∈ chars, notBlank c = true) ∧
      ∃ space, IsOptionalSpace space ∧ text = indexText index ++ space := by
  unfold readIndex? at read
  split at read
  · next rest =>
      split at read
      · next ends =>
          cases read
          refine ⟨?_, _, isOptionalSpace_of_isLineEnd ends, ?_⟩
          · rintro _ ⟨⟩ c member
            exact List.mem_takeWhile_imp member
          · simp only [indexText, List.cons_append, List.takeWhile_append_dropWhile]
      · cases read
  · split at read
    · next ends =>
        cases read
        exact ⟨fun chars absent => absurd absent (Option.not_mem_none chars), _,
          isOptionalSpace_of_isLineEnd ends, rfl⟩
    · cases read

/-- Exactly the texts of this form can follow a segment. -/
theorem readTail?_eq_some_iff {text : List Char} {tail : Tail} :
    readTail? text = some tail ↔ ∃ space, IsTail tail space text := by
  constructor
  · intro read
    unfold readTail? at read
    split at read
    · next rest =>
        by_cases closed : ')' ∈ rest
        · rcases List.eq_append_cons_of_mem closed with ⟨path, behind, rfl, absent⟩
          rw [Text.cutAt_append_cons absent] at read
          rcases Option.map_eq_some_iff.mp read with ⟨index, found, rfl⟩
          rcases exists_of_readIndex? found with ⟨solid, space, optional, rfl⟩
          refine ⟨space, ⟨?_, solid⟩, optional, ?_⟩
          · rintro _ ⟨⟩
            exact absent
          · simp only [Tail.text, pathText, List.cons_append, List.append_assoc, List.nil_append]
        · rw [Text.cutAt_of_not_mem closed] at read
          cases read
    · rcases Option.map_eq_some_iff.mp read with ⟨index, found, rfl⟩
      rcases exists_of_readIndex? found with ⟨solid, space, optional, split⟩
      exact ⟨space, ⟨fun path absent => absurd absent (Option.not_mem_none path), solid⟩, optional,
        split⟩
  · rintro ⟨space, plain, optional, rfl⟩
    exact readTail?_text_append plain optional

/-- A text is taken apart in one way only. -/
theorem IsTail.unique {tail other : Tail} {space otherSpace text : List Char}
    (isTail : IsTail tail space text) (isOther : IsTail other otherSpace text) :
    tail = other ∧ space = otherSpace := by
  have same : tail = other := Option.some.inj
    ((readTail?_eq_some_iff.mpr ⟨space, isTail⟩).symm.trans
      (readTail?_eq_some_iff.mpr ⟨otherSpace, isOther⟩))
  subst same
  exact ⟨rfl, List.append_cancel_left (isTail.split.symm.trans isOther.split)⟩

/-! ## Parts of a line -/

/-- The parts of a line, as they are written. -/
def Line.text (declared : Line) : List Char :=
  declared.segment.toList ++ (pathText (declared.path.map String.toList) ++
    indexText (declared.index.map String.toList))

theorem text_of (depth : Nat) (segment : List Char) (tail : Tail) :
    (Line.of depth segment tail).text = segment ++ tail.text := by
  have same : ∀ part : Option (List Char),
      (part.map String.ofList).map String.toList = part := by
    rintro (_ | chars)
    · rfl
    · exact congrArg some String.toList_ofList
  simp only [Line.text, Line.of, same, String.toList_ofList, Tail.text]

theorem readLine?_of_declares {line : List Char}
    (declares : ∃ c ∈ line, Text.isAsciiWord c = true) :
    readLine? line = some
      (match readTail? ((line.dropWhile Text.isBlank).dropWhile notBlank) with
      | some tail => Line.of (line.takeWhile Text.isBlank).length
          ((line.dropWhile Text.isBlank).takeWhile notBlank) tail
      | none =>
          if (line.takeWhile Text.isBlank).getLast? = some ' ' then
            match readTail? (' ' :: line.dropWhile Text.isBlank) with
            | some tail => Line.of (line.takeWhile Text.isBlank).length [] tail
            | none => Line.blank (line.takeWhile Text.isBlank).length
          else
            Line.blank (line.takeWhile Text.isBlank).length) :=
  if_pos (List.any_eq_true.mpr declares)

theorem readTail?_eq_none {text : List Char} (never : ∀ tail space, ¬IsTail tail space text) :
    readTail? text = none := by
  cases read : readTail? text with
  | none => rfl
  | some tail =>
      rcases readTail?_eq_some_iff.mp read with ⟨space, isTail⟩
      exact absurd isTail (never tail space)

/-- How a line is read.  Here `blanks` are all of its leading blanks, `segment` is what follows them
up to the next blank, and `behind` is the rest of the line. -/
structure FollowsGrammar (line blanks segment behind : List Char) : Prop where
  /-- Only a line without letters, digits and underscores is skipped. -/
  silent : readLine? line = none ↔ ∀ c ∈ line, Text.isAsciiWord c = false
  named : ∀ tail space, IsTail tail space behind → (∃ c ∈ line, Text.isAsciiWord c = true) →
    readLine? line = some (Line.of blanks.length segment tail)
  /-- The last blank of the indentation can belong to a path or an index. -/
  unnamed : (∀ tail space, ¬IsTail tail space behind) → ∀ indentation tail space,
    blanks = indentation ++ [' '] → IsTail tail space (' ' :: (segment ++ behind)) →
    (tail.path.isSome = true ∨ tail.index.isSome = true) →
    (∃ c ∈ line, Text.isAsciiWord c = true) →
    readLine? line = some (Line.of blanks.length [] tail)
  malformed : (∀ tail space, ¬IsTail tail space behind) →
    (∀ indentation tail space, blanks = indentation ++ [' '] →
      IsTail tail space (' ' :: (segment ++ behind)) → tail.path = none ∧ tail.index = none) →
    (∃ c ∈ line, Text.isAsciiWord c = true) →
    readLine? line = some (Line.blank blanks.length)
  unique : ∀ text tail other space otherSpace, IsTail tail space text →
    IsTail other otherSpace text → tail = other ∧ space = otherSpace
  reassembled : ∀ declared, readLine? line = some declared →
    declared ≠ Line.blank blanks.length →
    ∃ indentation space, IsOptionalSpace space ∧
      line = indentation ++ (declared.text ++ space) ∧
      (indentation = blanks ∨ blanks = indentation ++ [' '] ∧ declared.segment = "")
  /-- This is also what the preferred match of the grammar says. -/
  matched : readLine? line = matchLine? line

/-- The parts of a line that has been read make it up again. -/
theorem exists_reassembled {line : List Char} {declared : Line}
    (read : readLine? line = some declared)
    (formed : declared ≠ Line.blank (line.takeWhile Text.isBlank).length) :
    ∃ indentation space, IsOptionalSpace space ∧ line = indentation ++ (declared.text ++ space) ∧
      (indentation = line.takeWhile Text.isBlank ∨
        line.takeWhile Text.isBlank = indentation ++ [' '] ∧ declared.segment = "") := by
  have whole : line.takeWhile Text.isBlank ++ line.dropWhile Text.isBlank = line :=
    List.takeWhile_append_dropWhile
  have declares : ∃ c ∈ line, Text.isAsciiWord c = true := by
    by_contra silent
    have nothing := (readLine?_eq_none_iff line).mpr fun c member =>
      Bool.eq_false_iff.mpr fun word => silent ⟨c, member, word⟩
    rw [nothing] at read
    cases read
  rw [readLine?_of_declares declares, Option.some.injEq] at read
  split at read
  · next tail found =>
      rcases readTail?_eq_some_iff.mp found with ⟨space, isTail⟩
      refine ⟨_, space, isTail.optional, ?_, Or.inl rfl⟩
      rw [← read, text_of, List.append_assoc, ← isTail.split, List.takeWhile_append_dropWhile,
        whole]
  · split at read
    · next last =>
        split at read
        · next tail found =>
            rcases readTail?_eq_some_iff.mp found with ⟨space, isTail⟩
            have given : (line.takeWhile Text.isBlank).dropLast ++ [' '] =
                line.takeWhile Text.isBlank :=
              List.dropLast_append_getLast? ' ' last
            refine ⟨_, space, isTail.optional, ?_, Or.inr ⟨given.symm, ?_⟩⟩
            · rw [← read, text_of, List.nil_append, ← isTail.split, ← List.singleton_append,
                ← List.append_assoc, given, whole]
            · rw [← read]
              rfl
        · exact absurd read.symm formed
    · exact absurd read.symm formed

/-- Every line is read as its grammar says. -/
theorem followsGrammar (line : List Char) :
    FollowsGrammar line (line.takeWhile Text.isBlank)
      ((line.dropWhile Text.isBlank).takeWhile notBlank)
      ((line.dropWhile Text.isBlank).dropWhile notBlank) where
  silent := readLine?_eq_none_iff line
  named := by
    intro tail space isTail declares
    rw [readLine?_of_declares declares, readTail?_eq_some_iff.mpr ⟨space, isTail⟩]
  unnamed := by
    intro never indentation tail space ends isTail _ declares
    rw [List.takeWhile_append_dropWhile] at isTail
    have last : (line.takeWhile Text.isBlank).getLast? = some ' ' := by
      rw [ends, List.getLast?_concat]
    rw [readLine?_of_declares declares, readTail?_eq_none never, if_pos last,
      readTail?_eq_some_iff.mpr ⟨space, isTail⟩]
  malformed := by
    intro never bare declares
    rw [List.takeWhile_append_dropWhile] at bare
    rw [readLine?_of_declares declares, readTail?_eq_none never]
    dsimp only
    congr 1
    split
    · next last =>
        split
        · next tail found =>
            rcases readTail?_eq_some_iff.mp found with ⟨space, isTail⟩
            rcases bare _ tail space (List.dropLast_append_getLast? ' ' last).symm isTail with
              ⟨path, index⟩
            rw [Line.of, path, index]
            rfl
        · rfl
    · rfl
  unique := fun _ _ _ _ _ isTail isOther => isTail.unique isOther
  reassembled := fun _ read formed => exists_reassembled read formed
  matched := readLine?_eq_matchLine? line

/-- The last blank is given back for a path, but not for one that would be read as a segment. -/
example :
    readLine? "  (/a b)".toList = some ⟨2, "", some "/a b", none⟩ ∧
      readLine? "  (/x)".toList = some ⟨2, "(/x)", none, none⟩ ∧
      readLine? " -> i".toList = some ⟨1, "", none, some "i"⟩ ∧
      readLine? "\t-> i".toList = some ⟨1, "", none, none⟩ := by
  decide

end Declaration
end PageRouting
