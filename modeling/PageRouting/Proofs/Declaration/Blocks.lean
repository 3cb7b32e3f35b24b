import Mathlib.Data.List.Induction
import PageRouting.Declaration.Specification
import PageRouting.Proofs.Text.Lines

namespace PageRouting
namespace Declaration

/-!
# Blocks of a specification

A specification declares the lines of all its texts, in their order, however they
are divided into blocks.  The division matters for mappers only: they are given to
the line that the text directly before them declares last.  Lines that declare
nothing may therefore be added to a text, and texts that follow each other may be
joined to one, under two conditions.

A line that ends in a carriage return loses it when another line follows, so a
text that ends in one can only be the last of those that are joined.  And where
mappers follow directly behind, the last of the texts has to declare something: if
it does not, the mappers have no effect as long as it stands alone, while behind
the joined text they go to the last line that an earlier one declares.
-/

/-! ## Lines of joined texts -/

/-- A line that declares nothing. -/
def IsSilent (line : List Char) : Prop :=
  ∀ c ∈ line, Text.isAsciiWord c = false

instance : DecidablePred IsSilent := fun line =>
  List.decidableBAll (fun c => Text.isAsciiWord c = false) line

/-- The second list has the lines of the first one, and silent lines among them. -/
inductive Padded : List (List Char) → List (List Char) → Prop
  | nil : Padded [] []
  | keep (line : List Char) {lines padded : List (List Char)} (rest : Padded lines padded) :
      Padded (line :: lines) (line :: padded)
  | insert {line : List Char} (silent : IsSilent line) {lines padded : List (List Char)}
      (rest : Padded lines padded) : Padded lines (line :: padded)

theorem readLine?_of_isSilent {line : List Char} (silent : IsSilent line) :
    readLine? line = none :=
  (readLine?_eq_none_iff line).mpr silent

/-- Silent lines among others declare nothing. -/
theorem Padded.filterMap_readLine? {lines padded : List (List Char)} (pads : Padded lines padded) :
    padded.filterMap readLine? = lines.filterMap readLine? := by
  induction pads with
  | nil => rfl
  | keep line _ ih => rw [List.filterMap_cons, List.filterMap_cons, ih]
  | insert silent _ ih => rw [List.filterMap_cons_none (readLine?_of_isSilent silent), ih]

/-- The texts, each on lines of its own. -/
def joinedText (texts : List String) : String :=
  String.ofList (Text.joinWith '\n' (texts.map String.toList))

/-- No text but the last ends in a carriage return. -/
def AreJoinable (texts : List String) : Prop :=
  ∀ text ∈ texts.dropLast, text.toList.getLast? ≠ some '\r'

instance : DecidablePred AreJoinable := fun texts =>
  List.decidableBAll (fun text : String => text.toList.getLast? ≠ some '\r') texts.dropLast

theorem toList_joinedText_cons (text : String) {others : List String} (some : others ≠ []) :
    (joinedText (text :: others)).toList = text.toList ++ '\n' :: (joinedText others).toList := by
  cases others with
  | nil => exact absurd rfl some
  | cons next others => simp only [joinedText, String.toList_ofList, List.map_cons, Text.joinWith]

/-- Joined texts declare the lines of each text. -/
theorem readLines_joinedText {texts : List String} (joinable : AreJoinable texts) :
    readLines (joinedText texts) = texts.flatMap readLines := by
  induction texts with
  | nil => rfl
  | cons text others ih =>
      cases others with
      | nil =>
          rw [List.flatMap_singleton]
          exact congrArg readLines String.ofList_toList
      | cons next others =>
          have ends := joinable text List.mem_cons_self
          have later := ih fun other member => joinable other (List.mem_cons_of_mem _ member)
          rcases Text.exists_lines_append ends (joinedText (next :: others)).toList with
            ⟨blank, empty, split⟩
          have silent : blank.filterMap readLine? = [] := by
            rcases empty with rfl | rfl <;> rfl
          rw [List.flatMap_cons, ← later]
          simp only [readLines, toList_joinedText_cons text (List.cons_ne_nil next others), split,
            List.filterMap_append, silent, List.nil_append]

/-! ## Placement of mappers -/

/-- Lines that a block declares. -/
def Block.declared : Block → List Line
  | .lines text => readLines text
  | .params _ => []

def declaredLines (blocks : List Block) : List Line :=
  blocks.flatMap Block.declared

/-- The last block is a text that declares something. -/
def EndsDeclaring (blocks : List Block) : Prop :=
  ∃ before text, blocks = before ++ [.lines text] ∧ readLines text ≠ []

/-- The mappers follow directly on a text, and the line at this place among all declared ones is
the last that the text declares. -/
def IsGiven (blocks : List Block) (place : Nat) (mappers : MapperTable) : Prop :=
  ∃ before after, blocks = before ++ .params mappers :: after ∧
    EndsDeclaring before ∧ place + 1 = (declaredLines before).length

theorem declaredLines_concat (blocks : List Block) (block : Block) :
    declaredLines (blocks ++ [block]) = declaredLines blocks ++ block.declared := by
  rw [declaredLines, List.flatMap_append, List.flatMap_singleton, declaredLines]

theorem endsDeclaring_concat_lines (blocks : List Block) (text : String) :
    EndsDeclaring (blocks ++ [.lines text]) ↔ readLines text ≠ [] := by
  constructor
  · rintro ⟨before, other, same, declares⟩
    cases List.append_inj_right' same rfl
    exact declares
  · exact fun declares => ⟨blocks, text, rfl, declares⟩

theorem not_endsDeclaring_concat_params (blocks : List Block) (mappers : MapperTable) :
    ¬ EndsDeclaring (blocks ++ [.params mappers]) := by
  rintro ⟨before, text, same, _⟩
  cases List.append_inj_right' same rfl

theorem not_endsDeclaring_nil : ¬ EndsDeclaring [] := by
  rintro ⟨before, text, same, _⟩
  exact absurd same.symm (List.append_ne_nil_of_right_ne_nil _ (List.cons_ne_nil _ _))

theorem isGiven_concat (blocks : List Block) (block : Block) (place : Nat)
    (mappers : MapperTable) :
    IsGiven (blocks ++ [block]) place mappers ↔
      IsGiven blocks place mappers ∨
        (block = .params mappers ∧ EndsDeclaring blocks ∧
          place + 1 = (declaredLines blocks).length) := by
  constructor
  · rintro ⟨before, after, split, ends, last⟩
    rcases List.eq_nil_or_concat after with rfl | ⟨front, final, rfl⟩
    · rcases List.append_inj' split rfl with ⟨rfl, same⟩
      exact .inr ⟨List.head_eq_of_cons_eq same, ends, last⟩
    · rw [List.concat_eq_append, ← List.cons_append, ← List.append_assoc] at split
      exact .inl ⟨before, front, List.append_inj_left' split rfl, ends, last⟩
  · rintro (⟨before, after, rfl, ends, last⟩ | ⟨rfl, ends, last⟩)
    · exact ⟨before, after ++ [block], by rw [List.append_assoc, List.cons_append], ends, last⟩
    · exact ⟨blocks, [], rfl, ends, last⟩

theorem IsGiven.lt_length {blocks : List Block} {place : Nat} {mappers : MapperTable}
    (given : IsGiven blocks place mappers) : place < (declaredLines blocks).length := by
  rcases given with ⟨before, after, rfl, _, last⟩
  rw [declaredLines, List.flatMap_append, List.length_append]
  exact Nat.lt_of_lt_of_le (Nat.lt_of_succ_le (Nat.le_of_eq last)) (Nat.le_add_right _ _)

/-- Nothing has been given yet to the line that was declared last. -/
theorem IsGiven.succ_lt_length {blocks : List Block} (ends : EndsDeclaring blocks) {place : Nat}
    {mappers : MapperTable} (given : IsGiven blocks place mappers) :
    place + 1 < (declaredLines blocks).length := by
  rcases ends with ⟨before, text, rfl, declares⟩
  rcases (isGiven_concat _ _ _ _).mp given with earlier | ⟨other, _⟩
  · rw [declaredLines_concat, List.length_append]
    exact Nat.add_le_add (Nat.succ_le_of_lt earlier.lt_length)
      (List.length_pos_iff.mpr declares)
  · cases other

/-! ## Entries of a specification -/

/-- The entries are the declared lines, with the mappers given to them. -/
structure Describes (blocks : List Block) (entries : List Entry) : Prop where
  lines : entries.map Entry.line = declaredLines blocks
  params : ∀ place mappers,
    entries[place]?.bind Entry.params = some mappers ↔ IsGiven blocks place mappers

namespace Specification

theorem ofBlocks_append (before after : List Block) :
    ofBlocks (before ++ after) = after.foldl add (ofBlocks before) :=
  List.foldl_append

theorem ofBlocks_concat (blocks : List Block) (block : Block) :
    ofBlocks (blocks ++ [block]) = (ofBlocks blocks).add block :=
  ofBlocks_append blocks [block]

theorem awaiting_ofBlocks (blocks : List Block) :
    (ofBlocks blocks).awaiting = true ↔ EndsDeclaring blocks := by
  induction blocks using List.reverseRecOn with
  | nil => exact ⟨fun waits => absurd waits Bool.false_ne_true, fun ends =>
      absurd ends not_endsDeclaring_nil⟩
  | append_singleton blocks block _ =>
      rw [ofBlocks_concat]
      cases block with
      | lines text =>
          rw [endsDeclaring_concat_lines]
          simp only [add, Bool.not_eq_true', List.isEmpty_eq_false_iff]
      | params mappers =>
          have never : ((ofBlocks blocks).add (.params mappers)).awaiting = false := by
            rw [add]
            split
            · rfl
            · next idle => exact eq_false_of_ne_true idle
          simp only [never, Bool.false_eq_true, not_endsDeclaring_concat_params]

/-- Mappers behind anything but a text that declares something are dropped. -/
theorem add_params_of_not_endsDeclaring {blocks : List Block} (idle : ¬ EndsDeclaring blocks)
    (mappers : MapperTable) : (ofBlocks blocks).add (.params mappers) = ofBlocks blocks :=
  if_neg fun waits => idle ((awaiting_ofBlocks blocks).mp waits)

theorem entries_add_params {blocks : List Block} (ends : EndsDeclaring blocks)
    (mappers : MapperTable) :
    ((ofBlocks blocks).add (.params mappers)).entries =
      giveToLast mappers (ofBlocks blocks).entries := by
  rw [add, if_pos ((awaiting_ofBlocks blocks).mpr ends)]

end Specification

theorem giveToLast_concat (mappers : MapperTable) (entries : List Entry) (last : Entry) :
    giveToLast mappers (entries ++ [last]) = entries ++ [{ last with params := some mappers }] := by
  induction entries with
  | nil => rfl
  | cons entry entries ih =>
      rw [List.cons_append, List.cons_append, giveToLast, ih]
      exact fun alone => absurd alone (List.append_ne_nil_of_right_ne_nil _ (List.cons_ne_nil _ _))

theorem Describes.add_lines {blocks : List Block} {entries : List Entry}
    (describes : Describes blocks entries) (text : String) :
    Describes (blocks ++ [.lines text])
      (entries ++ (readLines text).map fun line => ⟨line, none⟩) where
  lines := by
    rw [declaredLines_concat, List.map_append, describes.lines, List.map_map]
    exact congrArg _ (List.map_id _)
  params place mappers := by
    have unchanged : (entries ++ (readLines text).map fun line =>
        (⟨line, none⟩ : Entry))[place]?.bind Entry.params = entries[place]?.bind Entry.params := by
      rcases Nat.lt_or_ge place entries.length with within | beyond
      · rw [List.getElem?_append_left within]
      · rw [List.getElem?_append_right beyond, List.getElem?_eq_none beyond, List.getElem?_map]
        cases (readLines text)[place - entries.length]? <;> rfl
    rw [unchanged, describes.params, isGiven_concat]
    exact ⟨.inl, fun given => given.resolve_right fun other => Block.noConfusion other.1⟩

theorem Describes.add_params {blocks : List Block} {entries : List Entry}
    (describes : Describes blocks entries) (ends : EndsDeclaring blocks) (given : MapperTable) :
    Describes (blocks ++ [.params given]) (giveToLast given entries) := by
  have count : entries.length = (declaredLines blocks).length := by
    rw [← describes.lines, List.length_map]
  obtain ⟨others, last, rfl⟩ : ∃ others last, entries = others ++ [last] := by
    rcases ends with ⟨before, text, rfl, declares⟩
    rw [declaredLines_concat, List.length_append] at count
    have some : entries ≠ [] := List.ne_nil_of_length_pos
      (count ▸ Nat.add_pos_right _ (List.length_pos_iff.mpr declares))
    exact ⟨_, _, (List.dropLast_concat_getLast some).symm⟩
  rw [giveToLast_concat]
  rw [List.length_append, List.length_singleton] at count
  constructor
  · rw [declaredLines_concat, ← describes.lines, List.map_append, List.map_append]
    exact (List.append_nil _).symm
  · intro place mappers
    have earlier := describes.params place mappers
    rw [isGiven_concat, ← earlier, ← count]
    rcases Nat.lt_trichotomy place others.length with within | rfl | beyond
    · rw [List.getElem?_append_left within, List.getElem?_append_left within]
      exact ⟨.inl, fun known => known.resolve_right fun other =>
        absurd (Nat.succ.inj other.2.2) (Nat.ne_of_lt within)⟩
    · rw [List.getElem?_concat_length]
      constructor
      · rintro ⟨⟩
        exact .inr ⟨rfl, ends, rfl⟩
      · rintro (known | ⟨⟨⟩, _⟩)
        · exact absurd (count ▸ (earlier.mp known).succ_lt_length ends) (Nat.lt_irrefl _)
        · rfl
    · have outside : ∀ entry : Entry, (others ++ [entry])[place]? = none := fun entry =>
        List.getElem?_eq_none (by simpa using Nat.succ_le_of_lt beyond)
      rw [outside, outside]
      exact ⟨fun none => absurd none (by simp), fun known => known.resolve_right fun other =>
        absurd (Nat.succ.inj other.2.2) (Nat.ne_of_gt beyond)⟩

/-- A specification holds the declared lines, each with the mappers given to it. -/
theorem describes_ofBlocks (blocks : List Block) :
    Describes blocks (Specification.ofBlocks blocks).entries := by
  induction blocks using List.reverseRecOn with
  | nil =>
      refine ⟨rfl, fun place mappers => ⟨fun found => ?_, fun given => ?_⟩⟩
      · cases found
      · exact absurd given.lt_length (Nat.not_lt_zero _)
  | append_singleton blocks block ih =>
      rw [Specification.ofBlocks_concat]
      cases block with
      | lines text => exact ih.add_lines text
      | params mappers =>
          by_cases ends : EndsDeclaring blocks
          · rw [Specification.entries_add_params ends]
            exact ih.add_params ends mappers
          · rw [Specification.add_params_of_not_endsDeclaring ends]
            refine ⟨?_, fun place other => ?_⟩
            · rw [declaredLines_concat, Block.declared, List.append_nil, ih.lines]
            · rw [ih.params, isGiven_concat]
              exact ⟨.inl, fun given => given.resolve_right fun last => ends last.2.1⟩

/-! ## Forests of blocks -/

namespace Specification

theorem entries_foldl_add_lines (specification : Specification) (texts : List String) :
    ((texts.map Block.lines).foldl add specification).entries =
      specification.entries ++ (texts.flatMap readLines).map fun line => ⟨line, none⟩ := by
  induction texts generalizing specification with
  | nil => exact (List.append_nil _).symm
  | cons text texts ih =>
      rw [List.map_cons, List.foldl_cons, ih, List.flatMap_cons, List.map_append,
        ← List.append_assoc]
      rfl

/-- Before a text only the entries matter, and whether mappers are awaited does not. -/
theorem forest_foldl_add_congr {one other : Specification} (same : one.entries = other.entries)
    {after : List Block}
    (agree : ∀ mappers, after.head? = some (.params mappers) → one.awaiting = other.awaiting) :
    (after.foldl add one).forest = (after.foldl add other).forest := by
  rcases one with ⟨entries, awaiting⟩
  cases same
  cases after with
  | nil => rfl
  | cons block after =>
      cases block with
      | lines text => rfl
      | params mappers =>
          cases agree mappers rfl
          rfl

theorem forest_ofBlocks_params {before : List Block} (idle : ¬ EndsDeclaring before)
    (mappers : MapperTable) (after : List Block) :
    (ofBlocks (before ++ .params mappers :: after)).forest =
      (ofBlocks (before ++ after)).forest := by
  rw [ofBlocks_append, List.foldl_cons, add_params_of_not_endsDeclaring idle, ← ofBlocks_append]

/-- Texts with no mappers between them are as good as one.  If mappers follow, the last text has to
declare something: of the one text it is the last line that declares something which counts. -/
theorem forest_ofBlocks_joined {texts : List String} (joinable : AreJoinable texts)
    (before after : List Block)
    (declares : ∀ mappers, after.head? = some (.params mappers) →
      EndsDeclaring (texts.map .lines)) :
    (ofBlocks (before ++ (texts.map .lines ++ after))).forest =
      (ofBlocks (before ++ .lines (joinedText texts) :: after)).forest := by
  have joined : (ofBlocks before).add (.lines (joinedText texts)) =
      ⟨(ofBlocks before).entries ++ (texts.flatMap readLines).map fun line => ⟨line, none⟩,
        !(texts.flatMap readLines).isEmpty⟩ := by
    rw [add, readLines_joinedText joinable]
  rw [ofBlocks_append, List.foldl_append, ofBlocks_append, List.foldl_cons, joined]
  apply forest_foldl_add_congr (entries_foldl_add_lines _ _)
  intro mappers first
  rcases declares mappers first with ⟨front, text, split, some⟩
  have waits : EndsDeclaring (before ++ texts.map .lines) :=
    ⟨before ++ front, text, by rw [split, List.append_assoc], some⟩
  have declared : texts.flatMap readLines ≠ [] := by
    have member : Block.lines text ∈ texts.map .lines :=
      split ▸ List.mem_append_right _ List.mem_cons_self
    rcases List.mem_map.mp member with ⟨_, among, ⟨⟩⟩
    exact fun none => some (List.flatMap_eq_nil_iff.mp none text among)
  rw [← ofBlocks_append, (awaiting_ofBlocks _).mpr waits]
  exact (congrArg Bool.not (List.isEmpty_eq_false_iff.mpr declared)).symm

-- Mappers behind a text that declares nothing are lost, and are not when it is joined to another.
example :
    (ofBlocks [.lines "home", .lines "--", .params []]).forest =
        [.page ⟨"home", none, none, none⟩ []] ∧
      (ofBlocks [.lines "home\n--", .params []]).forest =
        [.page ⟨"home", none, none, some []⟩ []] :=
  ⟨rfl, rfl⟩

theorem forest_ofBlocks_padded {old new : String}
    (pads : Padded (Text.lines old.toList) (Text.lines new.toList)) (before after : List Block) :
    (ofBlocks (before ++ .lines new :: after)).forest =
      (ofBlocks (before ++ .lines old :: after)).forest := by
  have same : readLines new = readLines old := pads.filterMap_readLine?
  rw [ofBlocks_append, ofBlocks_append, List.foldl_cons, List.foldl_cons, add, add, same]

/-- A specification makes up the tree of all declared lines, each with the mappers that stand
directly behind the text in which it is the last.  All other mappers have no effect.  A run of texts
of which only the last may end in a carriage return makes up the tree of the text that joins them,
and can be joined among other blocks too, except where mappers follow directly and the last text
declares nothing.  Silent lines within a text have no effect. -/
theorem forest_ofBlocks :
    (∀ blocks, ∃ entries, Describes blocks entries ∧
        (ofBlocks blocks).forest = forestOf (entries.map Entry.place)) ∧
      (∀ before mappers after, ¬ EndsDeclaring before →
        (ofBlocks (before ++ .params mappers :: after)).forest =
          (ofBlocks (before ++ after)).forest) ∧
      (∀ texts, AreJoinable texts →
        (ofBlocks (texts.map .lines)).forest = readForest (joinedText texts)) ∧
      (∀ before texts after, AreJoinable texts →
        (∀ mappers, after.head? = some (.params mappers) → EndsDeclaring (texts.map .lines)) →
        (ofBlocks (before ++ (texts.map .lines ++ after))).forest =
          (ofBlocks (before ++ .lines (joinedText texts) :: after)).forest) ∧
      ∀ before old new after, Padded (Text.lines old.toList) (Text.lines new.toList) →
        (ofBlocks (before ++ .lines new :: after)).forest =
          (ofBlocks (before ++ .lines old :: after)).forest := by
  refine ⟨fun blocks => ⟨_, describes_ofBlocks blocks, rfl⟩,
    fun _ mappers after idle => forest_ofBlocks_params idle mappers after,
    fun texts joinable => ?_,
    fun before _ after joinable declares => forest_ofBlocks_joined joinable before after declares,
    fun before _ _ after pads => forest_ofBlocks_padded pads before after⟩
  have alone := forest_ofBlocks_joined joinable [] [] fun _ first => by cases first
  rwa [List.nil_append, List.nil_append, List.append_nil] at alone

/-- Mappers that cannot be taken for each other. -/
def numbered (identity : Nat) : MapperTable :=
  [("id", ⟨identity, fun _ => "", fun _ => .null⟩)]

/-- Mappers at the beginning, after other mappers and after a text that declares nothing. -/
def scatteredBlocks : List Block :=
  [.params (numbered 0), .lines "home\r\n  user (/users/:id)", .params (numbered 1),
    .params (numbered 2), .lines "  --", .params (numbered 3), .lines "about"]

theorem forest_ofBlocks_scattered :
    (∃ entries, Describes scatteredBlocks entries ∧
        (ofBlocks scatteredBlocks).forest = forestOf (entries.map Entry.place)) ∧
      (ofBlocks scatteredBlocks).forest =
        [.page ⟨"home", none, none, none⟩
            [.page ⟨"user", some "/users/:id", none, some (numbered 1)⟩ []],
          .page ⟨"about", none, none, none⟩ []] ∧
      (ofBlocks scatteredBlocks).forest =
        (ofBlocks (scatteredBlocks.take 3 ++ scatteredBlocks.drop 4)).forest ∧
      (ofBlocks (["home\r\n user", "--", " about"].map .lines)).forest =
        readForest "home\r\n user\n--\n about" ∧
      (ofBlocks [.lines "home\r\n--\n user\n\n", .params (numbered 1)]).forest =
        (ofBlocks [.lines "home\n user", .params (numbered 1)]).forest := by
  rcases forest_ofBlocks with ⟨described, dropped, joined, _, padded⟩
  refine ⟨described scatteredBlocks, rfl, ?_, ?_, ?_⟩
  · refine dropped (scatteredBlocks.take 3) (numbered 2) (scatteredBlocks.drop 4) ?_
    exact not_endsDeclaring_concat_params (scatteredBlocks.take 2) (numbered 1)
  · exact joined ["home\r\n user", "--", " about"] (by decide)
  · have few : Text.lines "home\n user".toList = ["home".toList, " user".toList] := by decide
    have many : Text.lines "home\r\n--\n user\n\n".toList =
        ["home".toList, "--".toList, " user".toList, []] := by decide
    have dashes : IsSilent "--".toList := by decide
    have nothing : IsSilent [] := fun _ none => absurd none List.not_mem_nil
    apply padded [] "home\n user" "home\r\n--\n user\n\n" [.params (numbered 1)]
    rw [few, many]
    exact .keep _ (.insert dashes (.keep _ (.insert nothing .nil)))

end Specification

end Declaration
end PageRouting
