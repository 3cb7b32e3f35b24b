import Mathlib.Data.List.Infix
import PageRouting.Template

namespace PageRouting
namespace Template

/-!
# Ways to fill a template

A text can often be cut along a template in several ways: where placeholders
touch, or where a literal between them may also stand in a value.  Among them is
one in which the first value is as long as it can be, the second as long as it
can be after that, and so on.  It is computed here by trying the longest values
first, and shown to be the greatest of all ways.
-/

/-- Text of the pieces with values in the places of the placeholders, in order. -/
def fill : List Piece → List (List Char) → List Char
  | [], _ => []
  | .literal text :: pieces, values => text ++ fill pieces values
  | .placeholder _ :: pieces, [] => fill pieces []
  | .placeholder _ :: pieces, value :: values => value ++ fill pieces values

/-- Names of the placeholders among the pieces. -/
def pieceNames (pieces : List Piece) : List (List Char) :=
  pieces.filterMap Piece.name?

theorem length_names (template : String) :
    (names template).length = (pieceNames (pieces template.toList)).length :=
  List.length_map _

theorem names_eq_nil_iff {template : String} :
    names template = [] ↔ pieceNames (pieces template.toList) = [] :=
  List.map_eq_nil_iff

/-- Without placeholders the placeholder pattern does not occur. -/
theorem source_eq_of_names_eq_nil {template : String} (none : names template = [])
    (one other : String) : source one template = source other template := by
  have same : ∀ {pieces : List Piece}, pieceNames pieces = [] →
      pieces.flatMap (pieceSource one.toList) = pieces.flatMap (pieceSource other.toList) := by
    intro pieces none
    induction pieces with
    | nil => rfl
    | cons piece pieces ih =>
        cases piece with
        | literal text =>
            rw [List.flatMap_cons, List.flatMap_cons, ih none]
            rfl
        | placeholder name => exact absurd none (List.cons_ne_nil _ _)
  rw [source, source, same (names_eq_nil_iff.mp none)]

/-- The text is filled from nonempty values without slashes, and may have one
more slash at its end. -/
structure IsFilling (pieces : List Piece) (values : List (List Char)) (text : List Char) :
    Prop where
  count : values.length = (pieceNames pieces).length
  segments : ∀ value ∈ values, value ≠ [] ∧ '/' ∉ value
  text_eq : text = fill pieces values ∨ text = fill pieces values ++ ['/']

/-! ## Fillings piece by piece -/

theorem isFilling_nil {values : List (List Char)} {text : List Char} :
    IsFilling [] values text ↔ values = [] ∧ (text = [] ∨ text = ['/']) := by
  constructor
  · rintro ⟨count, _, text_eq⟩
    exact ⟨List.length_eq_zero_iff.mp count, text_eq⟩
  · rintro ⟨rfl, text_eq⟩
    exact ⟨rfl, fun _ member => absurd member List.not_mem_nil, text_eq⟩

theorem isFilling_literal {literal : List Char} {pieces : List Piece}
    {values : List (List Char)} {text : List Char} :
    IsFilling (.literal literal :: pieces) values text ↔
      ∃ rest, text = literal ++ rest ∧ IsFilling pieces values rest := by
  constructor
  · rintro ⟨count, segments, bare | slashed⟩
    · exact ⟨fill pieces values, bare, count, segments, Or.inl rfl⟩
    · refine ⟨fill pieces values ++ ['/'], ?_, count, segments, Or.inr rfl⟩
      rw [slashed, fill, List.append_assoc]
  · rintro ⟨rest, rfl, count, segments, bare | slashed⟩
    · exact ⟨count, segments, Or.inl (by rw [bare, fill])⟩
    · exact ⟨count, segments, Or.inr (by rw [slashed, fill, List.append_assoc])⟩

theorem isFilling_placeholder {name : List Char} {pieces : List Piece}
    {values : List (List Char)} {text : List Char} :
    IsFilling (.placeholder name :: pieces) values text ↔
      ∃ value others rest, values = value :: others ∧ text = value ++ rest ∧
        (value ≠ [] ∧ '/' ∉ value) ∧ IsFilling pieces others rest := by
  constructor
  · rintro ⟨count, segments, text_eq⟩
    cases values with
    | nil => exact absurd count (by simp [pieceNames, Piece.name?])
    | cons value others =>
        have later : others.length = (pieceNames pieces).length := by
          simpa [pieceNames, Piece.name?] using count
        have here := segments value List.mem_cons_self
        have rest := fun other member => segments other (List.mem_cons_of_mem _ member)
        rcases text_eq with bare | slashed
        · exact ⟨value, others, fill pieces others, rfl, bare, here, later, rest, Or.inl rfl⟩
        · refine ⟨value, others, fill pieces others ++ ['/'], rfl, ?_, here, later, rest,
            Or.inr rfl⟩
          rw [slashed, fill, List.append_assoc]
  · rintro ⟨value, others, rest, rfl, rfl, here, count, segments, text_eq⟩
    refine ⟨by simpa [pieceNames, Piece.name?] using count, ?_, ?_⟩
    · exact List.forall_mem_cons.mpr ⟨here, segments⟩
    · rcases text_eq with bare | slashed
      · exact Or.inl (by rw [bare, fill])
      · exact Or.inr (by rw [slashed, fill, List.append_assoc])

/-! ## Longest values first -/

/-- A value as long as possible, with the values that `later` finds after it. -/
def takeLongest (later : List Char → Option (List (List Char))) :
    List Char → Option (List Char × List (List Char))
  | [] => (later []).map fun values => ([], values)
  | c :: text =>
      if c = '/' then
        (later (c :: text)).map fun values => ([], values)
      else
        ((takeLongest later text).map fun (value, values) => (c :: value, values)).or
          ((later (c :: text)).map fun values => ([], values))

/-- The values of a text with the longest first, if the template can be filled to
give the text. -/
def longestValues? : List Piece → List Char → Option (List (List Char))
  | [], text => if text = [] ∨ text = ['/'] then some [] else none
  | .literal literal :: pieces, text => (literal.isPrefixOf? text).bind (longestValues? pieces)
  | .placeholder _ :: _, [] => none
  | .placeholder _ :: pieces, c :: text =>
      if c = '/' then none
      else
        (takeLongest (longestValues? pieces) text).map fun (value, values) =>
          (c :: value) :: values

variable {later : List Char → Option (List (List Char))} {text value : List Char}
  {values : List (List Char)}

/-- What is taken is a value, and the rest is left to the later ones. -/
theorem exists_rest_of_takeLongest (taken : takeLongest later text = some (value, values)) :
    ∃ rest, text = value ++ rest ∧ '/' ∉ value ∧ later rest = some values := by
  induction text generalizing value with
  | nil =>
      rcases Option.map_eq_some_iff.mp taken with ⟨found, here, same⟩
      rcases Prod.mk.inj same with ⟨rfl, rfl⟩
      exact ⟨[], rfl, List.not_mem_nil, here⟩
  | cons c text ih =>
      have stops : (later (c :: text)).map (fun values => ([], values)) = some (value, values) →
          ∃ rest, c :: text = value ++ rest ∧ '/' ∉ value ∧ later rest = some values := by
        intro stopped
        rcases Option.map_eq_some_iff.mp stopped with ⟨found, here, same⟩
        rcases Prod.mk.inj same with ⟨rfl, rfl⟩
        exact ⟨c :: text, rfl, List.not_mem_nil, here⟩
      unfold takeLongest at taken
      split at taken
      · exact stops taken
      · next slashless =>
          rcases Option.or_eq_some_iff.mp taken with longer | ⟨_, stopped⟩
          · rcases Option.map_eq_some_iff.mp longer with ⟨⟨inner, others⟩, found, same⟩
            rcases Prod.mk.inj same with ⟨rfl, rfl⟩
            rcases ih found with ⟨rest, split, absent, here⟩
            refine ⟨rest, by rw [split, List.cons_append], ?_, here⟩
            exact List.not_mem_cons_of_ne_of_not_mem (Ne.symm slashless) absent
          · exact stops stopped

/-- Nothing that leaves a rest to the later values is longer than what is taken. -/
theorem exists_takeLongest {rest : List Char} (slashless : '/' ∉ value)
    (found : later rest = some values) :
    ∃ longest others, takeLongest later (value ++ rest) = some (longest, others) ∧
      (value.length < longest.length ∨ value = longest ∧ values = others) := by
  induction value with
  | nil =>
      have stopped : (later rest).map (fun values => (([] : List Char), values)) =
          some ([], values) := by
        rw [found, Option.map_some]
      cases rest with
      | nil => exact ⟨[], values, stopped, Or.inr ⟨rfl, rfl⟩⟩
      | cons c text =>
          rw [List.nil_append]
          unfold takeLongest
          split
          · exact ⟨[], values, stopped, Or.inr ⟨rfl, rfl⟩⟩
          · cases longer : takeLongest later text with
            | none => exact ⟨[], values, stopped, Or.inr ⟨rfl, rfl⟩⟩
            | some pair => exact ⟨c :: pair.1, pair.2, rfl, Or.inl (Nat.zero_lt_succ _)⟩
  | cons c value ih =>
      rcases List.ne_and_not_mem_of_not_mem_cons slashless with ⟨different, absent⟩
      rcases ih absent with ⟨longest, others, taken, compared⟩
      refine ⟨c :: longest, others, ?_, ?_⟩
      · rw [List.cons_append]
        unfold takeLongest
        rw [if_neg (Ne.symm different), taken]
        rfl
      · rcases compared with shorter | ⟨same, sameValues⟩
        · exact Or.inl (Nat.succ_lt_succ shorter)
        · exact Or.inr ⟨by rw [same], sameValues⟩

/-- The longest values fill the template. -/
theorem isFilling_of_longestValues? {pieces : List Piece}
    (found : longestValues? pieces text = some values) : IsFilling pieces values text := by
  induction pieces generalizing text values with
  | nil =>
      unfold longestValues? at found
      split at found
      · next ends => exact isFilling_nil.mpr ⟨(Option.some.inj found).symm, ends⟩
      · exact absurd found.symm (Option.some_ne_none _)
  | cons piece pieces ih =>
      cases piece with
      | literal literal =>
          rcases Option.bind_eq_some_iff.mp found with ⟨rest, stripped, inside⟩
          have split := List.isPrefixOf?_eq_some_iff_append_eq.mp stripped
          exact isFilling_literal.mpr ⟨rest, split.symm, ih inside⟩
      | placeholder name =>
          cases text with
          | nil => exact absurd found.symm (Option.some_ne_none _)
          | cons c text =>
              unfold longestValues? at found
              split at found
              · exact absurd found.symm (Option.some_ne_none _)
              · next slashless =>
                  rcases Option.map_eq_some_iff.mp found with ⟨⟨value, others⟩, taken, rfl⟩
                  rcases exists_rest_of_takeLongest taken with ⟨rest, split, absent, inside⟩
                  refine isFilling_placeholder.mpr
                    ⟨c :: value, others, rest, rfl, ?_, ?_, ih inside⟩
                  · rw [split, List.cons_append]
                  · exact ⟨List.cons_ne_nil _ _,
                      List.not_mem_cons_of_ne_of_not_mem (Ne.symm slashless) absent⟩

/-- Every filling is at most as long as the longest values, compared from the
first value on, and only the longest values are as long as themselves. -/
theorem exists_longestValues? {pieces : List Piece} (filling : IsFilling pieces values text) :
    ∃ longest, longestValues? pieces text = some longest ∧
      (values = longest ∨
        List.Lex (· < ·) (values.map List.length) (longest.map List.length)) := by
  induction pieces generalizing text values with
  | nil =>
      rcases isFilling_nil.mp filling with ⟨rfl, ends⟩
      exact ⟨[], if_pos ends, Or.inl rfl⟩
  | cons piece pieces ih =>
      cases piece with
      | literal literal =>
          rcases isFilling_literal.mp filling with ⟨rest, rfl, inside⟩
          rcases ih inside with ⟨longest, found, compared⟩
          refine ⟨longest, ?_, compared⟩
          have stripped : literal.isPrefixOf? (literal ++ rest) = some rest :=
            List.isPrefixOf?_eq_some_iff_append_eq.mpr rfl
          rw [longestValues?, stripped, Option.bind_some, found]
      | placeholder name =>
          rcases isFilling_placeholder.mp filling with
            ⟨value, others, rest, rfl, rfl, ⟨nonempty, slashless⟩, inside⟩
          rcases ih inside with ⟨later, found, compared⟩
          cases value with
          | nil => exact absurd rfl nonempty
          | cons c value =>
              rcases List.ne_and_not_mem_of_not_mem_cons slashless with ⟨different, absent⟩
              rcases exists_takeLongest absent found with ⟨longest, after, taken, longer⟩
              refine ⟨(c :: longest) :: after, ?_, ?_⟩
              · rw [List.cons_append, longestValues?, if_neg (Ne.symm different), taken,
                  Option.map_some]
              · rcases longer with shorter | ⟨rfl, rfl⟩
                · exact Or.inr (.rel (Nat.succ_lt_succ shorter))
                · exact compared.imp (fun same => by rw [same]) fun less => .cons less

/-- Texts that are filled by the same values have the same longest values. -/
theorem longestValues?_congr {pieces : List Piece} {one other : List Char}
    (same : ∀ values, IsFilling pieces values one ↔ IsFilling pieces values other) :
    longestValues? pieces one = longestValues? pieces other := by
  cases otherFound : longestValues? pieces other with
  | none =>
      cases found : longestValues? pieces one with
      | none => rfl
      | some values =>
          have filling := (same values).mp (isFilling_of_longestValues? found)
          rcases exists_longestValues? filling with ⟨_, longest, _⟩
          exact absurd (otherFound.symm.trans longest).symm (Option.some_ne_none _)
  | some values =>
      have filling := (same values).mpr (isFilling_of_longestValues? otherFound)
      rcases exists_longestValues? filling with ⟨longest, found, compared⟩
      have otherFilling := (same longest).mp (isFilling_of_longestValues? found)
      rcases exists_longestValues? otherFilling with ⟨again, otherAgain, comparedAgain⟩
      cases otherFound.symm.trans otherAgain
      rw [found]
      -- neither is longer than the other
      rcases compared with equal | less
      · rw [equal]
      · rcases comparedAgain with equal | more
        · rw [equal]
        · exact absurd more (List.lt_asymm less)

/-! ## Separated placeholders -/

/-- What comes next ends a segment: a slash, or the end of the template. -/
def EndsSegment : List Piece → Prop
  | [] => True
  | .literal text :: _ => text.head? = some '/'
  | .placeholder _ :: _ => False

/-- Every placeholder stands at the end of its segment. -/
def IsSeparated : List Piece → Prop
  | [] => True
  | .literal _ :: pieces => IsSeparated pieces
  | .placeholder _ :: pieces => EndsSegment pieces ∧ IsSeparated pieces

theorem head?_of_endsSegment {pieces : List Piece} (ends : EndsSegment pieces)
    (filling : IsFilling pieces values text) : text.head? = none ∨ text.head? = some '/' := by
  cases pieces with
  | nil =>
      rcases isFilling_nil.mp filling with ⟨_, rfl | rfl⟩
      · exact Or.inl rfl
      · exact Or.inr rfl
  | cons piece pieces =>
      cases piece with
      | placeholder name => exact ends.elim
      | literal literal =>
          rcases isFilling_literal.mp filling with ⟨rest, rfl, _⟩
          rcases List.head?_eq_some_iff.mp ends with ⟨tail, rfl⟩
          exact Or.inr rfl

/-- A segment ends where a slash or the end of the text comes first. -/
theorem eq_of_append_eq {one other rest otherRest : List Char} (slashless : '/' ∉ one)
    (otherSlashless : '/' ∉ other) (ends : rest.head? = none ∨ rest.head? = some '/')
    (otherEnds : otherRest.head? = none ∨ otherRest.head? = some '/')
    (same : one ++ rest = other ++ otherRest) : one = other ∧ rest = otherRest := by
  -- a segment that goes on where the other one has ended would begin with a slash
  have stops : ∀ {c : Char} {others : List Char}, c ≠ '/' → c :: others = rest → False := by
    rintro c others different rfl
    rcases ends with none | slash
    · exact absurd none (Option.some_ne_none _)
    · exact different (Option.some.inj slash)
  have otherStops : ∀ {c : Char} {others : List Char}, c ≠ '/' → c :: others = otherRest →
      False := by
    rintro c others different rfl
    rcases otherEnds with none | slash
    · exact absurd none (Option.some_ne_none _)
    · exact different (Option.some.inj slash)
  induction one generalizing other with
  | nil =>
      cases other with
      | nil => exact ⟨rfl, same⟩
      | cons c others =>
          exact (stops (List.ne_of_not_mem_cons otherSlashless).symm same.symm).elim
  | cons c one ih =>
      cases other with
      | nil => exact (otherStops (List.ne_of_not_mem_cons slashless).symm same).elim
      | cons d others =>
          rcases List.cons.inj same with ⟨rfl, tails⟩
          rcases ih (List.not_mem_of_not_mem_cons slashless) (List.not_mem_of_not_mem_cons
              otherSlashless) tails with
            ⟨rfl, rests⟩
          exact ⟨rfl, rests⟩

/-- A template with separated placeholders can be filled in one way only. -/
theorem IsFilling.unique {pieces : List Piece} (separated : IsSeparated pieces)
    {others : List (List Char)} (filling : IsFilling pieces values text)
    (otherFilling : IsFilling pieces others text) : values = others := by
  induction pieces generalizing text values others with
  | nil => rw [(isFilling_nil.mp filling).1, (isFilling_nil.mp otherFilling).1]
  | cons piece pieces ih =>
      cases piece with
      | literal literal =>
          rcases isFilling_literal.mp filling with ⟨rest, rfl, inside⟩
          rcases isFilling_literal.mp otherFilling with ⟨otherRest, same, otherInside⟩
          exact ih separated inside (List.append_cancel_left same ▸ otherInside)
      | placeholder name =>
          rcases isFilling_placeholder.mp filling with
            ⟨value, values, rest, rfl, rfl, ⟨_, slashless⟩, inside⟩
          rcases isFilling_placeholder.mp otherFilling with
            ⟨other, others, otherRest, rfl, same, ⟨_, otherSlashless⟩, otherInside⟩
          rcases eq_of_append_eq slashless otherSlashless (head?_of_endsSegment separated.1 inside)
              (head?_of_endsSegment separated.1 otherInside) same with
            ⟨rfl, rfl⟩
          rw [ih separated.2 inside otherInside]

/-! ## Rendering -/

/-- The texts that stand for the placeholders in a rendered template. -/
def renderedValues (value : String → String) (pieces : List Piece) : List (List Char) :=
  (pieceNames pieces).map fun name => (value (String.ofList name)).toList

theorem flatMap_pieceText (value : String → String) (pieces : List Piece) :
    pieces.flatMap (pieceText value) = fill pieces (renderedValues value pieces) := by
  induction pieces with
  | nil => rfl
  | cons piece pieces ih =>
      rw [List.flatMap_cons, ih]
      cases piece with
      | literal text => rfl
      | placeholder name => rfl

/-- A rendered template is filled with the texts of its names. -/
theorem toList_render (value : String → String) (template : String) :
    (render value template).toList =
      fill (pieces template.toList) (renderedValues value (pieces template.toList)) := by
  rw [render, String.toList_ofList, flatMap_pieceText]

end Template
end PageRouting
