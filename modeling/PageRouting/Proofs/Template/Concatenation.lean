import PageRouting.Proofs.Template.Filling

namespace PageRouting
namespace Template

/-!
# Templates put together

Templates are joined as texts, before anyone looks for placeholders in them.
What stands in front decides nothing about the text behind it.  That text can
only lengthen the last name in front, or make a placeholder of a colon at the
end, and does so only if it begins with a word character.  If it does not, the
joined template has the names of its parts, and is rendered part by part.

The pieces themselves are not those of the parts, because literal text on both
sides of the boundary is one literal.  So the statements are about what is
written of the pieces, and hold for every way to write them that does not see
where a literal is cut.
-/

/-- The text is empty, or begins with a character that no name has. -/
def StartsApart : List Char → Prop
  | [] => True
  | c :: _ => Text.isWord c = false

instance : DecidablePred StartsApart
  | [] => isTrue trivial
  | c :: _ => inferInstanceAs (Decidable (Text.isWord c = false))

theorem StartsApart.append {front back : List Char} (apart : StartsApart front)
    (behind : StartsApart back) : StartsApart (front ++ back) := by
  cases front with
  | nil => exact behind
  | cons c rest => exact apart

theorem StartsApart.join {texts : List String} (apart : ∀ text ∈ texts, StartsApart text.toList) :
    StartsApart (String.join texts).toList := by
  induction texts with
  | nil => exact trivial
  | cons text texts ih =>
      rcases List.forall_mem_cons.mp apart with ⟨here, later⟩
      rw [String.join_cons, String.toList_append]
      exact here.append (ih later)

theorem StartsApart.word_scan {text : List Char} (apart : StartsApart text) :
    (scan text).word = [] := by
  cases text with
  | nil => rfl
  | cons c rest =>
      have outside : Text.isWord c = false := apart
      simp only [scan, outside, Bool.false_eq_true, if_false]
      split <;> rfl

/-! ## What is written of the pieces -/

/-- What is written of a literal is written of its parts. -/
def SplitsLiterals {Item : Type} (write : Piece → List Item) : Prop :=
  ∀ one other, write (.literal (one ++ other)) = write (.literal one) ++ write (.literal other)

theorem splitsLiterals_pieceText (value : String → String) : SplitsLiterals (pieceText value) :=
  fun _ _ => rfl

theorem splitsLiterals_name? : SplitsLiterals fun piece => (Piece.name? piece).toList :=
  fun _ _ => rfl

namespace SplitsLiterals

variable {Item : Type} {write : Piece → List Item} (splits : SplitsLiterals write)
include splits

theorem literal_nil : write (.literal []) = [] :=
  List.self_eq_append_right.mp (splits [] [])

theorem flatMap_addLiteral (text : List Char) (pieces : List Piece) :
    (addLiteral text pieces).flatMap write = write (.literal text) ++ pieces.flatMap write := by
  unfold addLiteral
  split
  · next empty =>
      rw [List.isEmpty_iff.mp empty, splits.literal_nil, List.nil_append]
  · split
    · rw [List.flatMap_cons, List.flatMap_cons, splits, List.append_assoc]
    · rw [List.flatMap_cons]

/-- Reading from the end comes to the boundary without a word, and goes on as if nothing stood
behind it. -/
theorem flatMap_scan_append (front : List Char) {back : List Char} (apart : StartsApart back) :
    (scan (front ++ back)).word = (scan front).word ∧
      (scan (front ++ back)).pieces.flatMap write =
        (scan front).pieces.flatMap write ++ (scan back).pieces.flatMap write := by
  induction front with
  | nil => exact ⟨apart.word_scan, rfl⟩
  | cons c front ih =>
      rcases ih with ⟨word, written⟩
      simp only [List.cons_append, scan, word]
      split
      · exact ⟨rfl, written⟩
      · split
        · refine ⟨rfl, ?_⟩
          rw [List.flatMap_cons, List.flatMap_cons, written, List.append_assoc]
        · refine ⟨rfl, ?_⟩
          rw [splits.flatMap_addLiteral, splits.flatMap_addLiteral, written, List.append_assoc]

theorem flatMap_pieces_append (front : List Char) {back : List Char} (apart : StartsApart back) :
    (pieces (front ++ back)).flatMap write =
      (pieces front).flatMap write ++ (pieces back).flatMap write := by
  rcases splits.flatMap_scan_append front apart with ⟨word, written⟩
  simp only [pieces, splits.flatMap_addLiteral, word, written, apart.word_scan,
    splits.literal_nil, List.nil_append, List.append_assoc]

end SplitsLiterals

/-! ## Names and texts -/

variable {front back : String}

theorem names_append (apart : StartsApart back.toList) :
    names (front ++ back) = names front ++ names back := by
  simp only [names, List.filterMap_eq_flatMap_toList, String.toList_append,
    splitsLiterals_name?.flatMap_pieces_append _ apart, List.map_append]

example : names ("/:a:" ++ ":b") = ["a", "b"] ∧ names ("/:a:" ++ "b") = ["a", "b"] ∧
    names ("/:a" ++ "b") = ["ab"] := by
  decide

/-- The names of joined templates are those of the one after the other. -/
theorem names_join {texts : List String} (apart : ∀ text ∈ texts, StartsApart text.toList) :
    names (String.join texts) = texts.flatMap names := by
  induction texts with
  | nil => rfl
  | cons text texts ih =>
      rcases List.forall_mem_cons.mp apart with ⟨_, later⟩
      rw [String.join_cons, names_append (StartsApart.join later), ih later, List.flatMap_cons]

theorem render_append (value : String → String) (apart : StartsApart back.toList) :
    render value (front ++ back) = render value front ++ render value back := by
  simp only [render, String.toList_append,
    (splitsLiterals_pieceText value).flatMap_pieces_append _ apart, String.ofList_append]

/-- Only the texts of the names of a template matter. -/
theorem render_congr {template : String} {one other : String → String}
    (same : ∀ name ∈ names template, one name = other name) :
    render one template = render other template := by
  apply String.toList_inj.mp
  rw [toList_render, toList_render]
  apply congrArg
  apply List.map_congr_left
  intro name member
  rw [same (String.ofList name) (List.mem_map_of_mem member)]

end Template
end PageRouting
