import PageRouting.Proofs.Router.Table
import PageRouting.Proofs.Table.Outcome
import PageRouting.Proofs.Template.Segments

namespace PageRouting

/-!
# Which valid configurations have routers

A configuration is checked before anything is compiled, and its placeholder pattern
is then read again in the place of each placeholder.  For a forest whose indices
all lead to pages below, there is a router if two things are right that the check
does not ask for.  The parenthesis after the pattern must be seen, so that the
pattern may not end in an open comment.  And a name may be given to a group only
once, also to a group that is left out of the pattern, so that with such a name
there is room for one placeholder at most.
-/

namespace Template

variable {placeholderPattern template : String}

/-- The placeholder pattern gives no names, or there is one placeholder at most. -/
def NamesOnce (placeholderPattern template : String) : Prop :=
  Pattern.groupNames placeholderPattern = [] ∨ (names template).length ≤ 1

/-- The limits of nesting and of size are not reached. -/
structure HasSpace (placeholderPattern template : String) : Prop where
  low : ∀ whole ∈ Pattern.whole? placeholderPattern.toList,
    names template = [] ∨ whole.height + 1 < Pattern.maxHeight
  fits : ∀ whole ∈ Pattern.whole? (source placeholderPattern template), whole.node.fits = true

instance (placeholderPattern template : String) :
    Decidable (NamesOnce placeholderPattern template) :=
  inferInstanceAs (Decidable (_ ∨ _))

instance (placeholderPattern template : String) :
    Decidable (HasSpace placeholderPattern template) :=
  decidable_of_iff ((∀ whole ∈ Pattern.whole? placeholderPattern.toList,
      names template = [] ∨ whole.height + 1 < Pattern.maxHeight) ∧
    ∀ whole ∈ Pattern.whole? (source placeholderPattern template), whole.node.fits = true)
    ⟨fun both => ⟨both.1, both.2⟩, fun space => ⟨space.low, space.fits⟩⟩

/-- If it has the size of a pattern, a template is one exactly if it reads as a tree. -/
theorem HasSpace.isSome_iff (space : HasSpace placeholderPattern template) :
    (Pattern.ofChars? (source placeholderPattern template)).isSome = true ↔
      (Pattern.whole? (source placeholderPattern template)).isSome = true := by
  rw [Pattern.ofChars?_eq]
  cases isWhole : Pattern.whole? (source placeholderPattern template) with
  | none => exact Iff.rfl
  | some whole => rw [Option.bind_some, if_pos (space.fits whole isWhole)]; exact Iff.rfl

/-- A template whose placeholders end where they are seen to end reads as a pattern exactly if no
name is given twice. -/
theorem isSome_ofChars?_source_iff
    (valid : (Pattern.ofString? placeholderPattern).isSome = true)
    (ends : SeesEnds placeholderPattern template) (space : HasSpace placeholderPattern template) :
    (Pattern.ofChars? (source placeholderPattern template)).isSome = true ↔
      NamesOnce placeholderPattern template := by
  rw [space.isSome_iff]
  rcases ends with none | unclosed
  · have single : (names template).length ≤ 1 := by rw [none]; exact Nat.zero_le 1
    rcases Pattern.exists_isContent_segment with ⟨finished, content, _, _⟩
    rcases Pattern.exists_whole?_source content template with ⟨height, isWhole⟩
    rw [source_eq_of_names_eq_nil none placeholderPattern "[^/]+", isWhole, if_pos (.inl none)]
    exact iff_of_true rfl (.inr single)
  · rcases Option.isSome_iff_exists.mp valid with ⟨alone, read⟩
    rw [Pattern.ofString?, String.toList_append] at unclosed
    rcases Pattern.Reader.exists_isContent read unclosed with ⟨finished, body, content, _⟩
    have isBody : Pattern.whole? placeholderPattern.toList = some body :=
      Pattern.whole?_eq_some_iff.mpr ⟨finished, content.reads, content.outermost, content.closes⟩
    rcases Pattern.exists_whole?_source content template with ⟨height, isWhole⟩
    rw [isWhole, Option.isSome_ite, NamesOnce, content.groupNames_eq]
    constructor
    · rintro (none | ⟨_, once⟩)
      · exact .inr (by rw [none]; exact Nat.zero_le 1)
      · exact once
    · exact fun once => (space.low body isBody).imp id fun low => ⟨low, once⟩

end Template

namespace PageTree

/-- The templates that are compiled: those of the pages without an index. -/
def templates (forest : List PageTree) : List String :=
  ((trailsForest forest).filter fun trail => (trailIndex? trail).isNone).map fun trail =>
    String.join (trail.map PageDeclaration.ownPath)

theorem hasPattern_iff {placeholderPattern : String} {params : MapperTable}
    {forest : List PageTree} :
    (∀ visit ∈ postorderForest [] forest, visit.HasPattern placeholderPattern (.root params)) ↔
      ∀ template ∈ templates forest,
        (Pattern.ofChars? (Template.source placeholderPattern template)).isSome = true := by
  have path : ∀ trail : List PageDeclaration, ((Base.root params).along trail).path =
      String.join (trail.map PageDeclaration.ownPath) := fun trail =>
    (Base.path_along _ trail).trans String.empty_append
  have visited := perm_map_trail_postorderForest [] forest
  simp only [List.nil_append, List.map_id'] at visited
  constructor
  · intro has template member
    rcases List.mem_map.mp member with ⟨trail, among, rfl⟩
    rcases List.mem_filter.mp among with ⟨leads, unmarked⟩
    rcases List.mem_map.mp (visited.mem_iff.mpr leads) with ⟨visit, listed, rfl⟩
    rw [← path]
    exact has visit listed (Option.isNone_iff_eq_none.mp unmarked)
  · intro read visit listed unmarked
    have leads := visited.mem_iff.mp (List.mem_map_of_mem listed)
    rw [path]
    exact read _ (List.mem_map_of_mem
      (List.mem_filter.mpr ⟨leads, Option.isNone_iff_eq_none.mpr unmarked⟩))

end PageTree

namespace Router

open PageTree

/-- A valid configuration has a router exactly if each page of the forest gets a row. -/
theorem exists_build_iff_compiles {forest : List PageTree} {config : Config}
    (valid : config.error? = none) :
    (∃ router, build forest config = .ok router) ↔
      ∀ visit ∈ postorderForest [] forest,
        visit.Compiles config.placeholderPattern (.root config.params) := by
  have outcome : Table.IsCompilation config.placeholderPattern (.root config.params)
      (postorderForest [] forest)
      (Table.forestRows config.placeholderPattern (.root config.params) forest) :=
    Table.isCompilation_forestRows [] forest
  have compiled : Table.compile forest config.params config.placeholderPattern =
      (Table.forestRows config.placeholderPattern (.root config.params) forest).map Table.mk := rfl
  generalize Table.forestRows config.placeholderPattern (.root config.params) forest = result
    at outcome compiled
  cases outcome with
  | rows compile => exact iff_of_true ⟨_, build_eq_ok valid compiled⟩ compile
  | @stops before after visit split compile fails =>
      refine iff_of_false (fun ⟨router, built⟩ => ?_) fun all => fails (all visit ?_)
      · cases compiled.symm.trans (compile_of_build built)
      · exact split ▸ List.mem_append_right _ List.mem_cons_self

/-- A valid configuration has a router for a forest whose indices lead to pages below and whose
placeholders end where they are seen to end, exactly if no name is given twice. -/
theorem exists_build_iff_namesOnce {forest : List PageTree} {config : Config}
    (valid : config.error? = none)
    (found : ∀ visit ∈ postorderForest [] forest, visit.FindsIndex (.root config.params))
    (ends : ∀ template ∈ templates forest,
      Template.SeesEnds config.placeholderPattern template)
    (space : ∀ template ∈ templates forest,
      Template.HasSpace config.placeholderPattern template) :
    (∃ router, build forest config = .ok router) ↔
      ∀ template ∈ templates forest, Template.NamesOnce config.placeholderPattern template := by
  rcases Config.exists_ofString?_of_error? valid with ⟨alone, read, _⟩
  rw [exists_build_iff_compiles valid]
  calc (∀ visit ∈ postorderForest [] forest,
        visit.Compiles config.placeholderPattern (.root config.params))
      ↔ ∀ visit ∈ postorderForest [] forest,
          visit.HasPattern config.placeholderPattern (.root config.params) :=
        forall₂_congr fun visit member => and_iff_right (found visit member)
    _ ↔ ∀ template ∈ templates forest,
          (Pattern.ofChars?
            (Template.source config.placeholderPattern template)).isSome = true :=
        hasPattern_iff
    _ ↔ ∀ template ∈ templates forest, Template.NamesOnce config.placeholderPattern template :=
        forall₂_congr fun template member => Template.isSome_ofChars?_source_iff
          (Option.isSome_of_eq_some read) (ends template member) (space template member)

/-- An error that can be computed. -/
theorem build_eq_error {forest : List PageTree} {config : Config} {error : RouterError}
    (computed : (match build forest config with
      | .error error => some error
      | .ok _ => none) = some error) :
    build forest config = .error error := by
  split at computed
  · next built => rw [built, Option.some.inj computed]
  · exact absurd computed.symm (Option.some_ne_none _)

/-- Words, or pairs of digits, where blanks do not count. -/
def courseConfig : Config :=
  { placeholderPattern := "[a-z]+|(?x: [0-9] [0-9] )+" }

/-- The index of the course names a page two levels below. -/
def courseForest : List PageTree :=
  [.page ⟨"course", some "/course", some "part.start", none⟩
    [.page ⟨"part", some "/:lang-:part", none, none⟩
      [.page ⟨"start", some "/:page", none, none⟩ []]]]

/-- A course with two placeholders in a segment and an index over two levels has a router. -/
theorem exists_build_courseForest :
    courseConfig.error? = none ∧
      (∀ visit ∈ postorderForest [] courseForest,
        visit.FindsIndex (.root courseConfig.params)) ∧
      (∀ template ∈ templates courseForest,
        Template.SeesEnds courseConfig.placeholderPattern template) ∧
      (∀ template ∈ templates courseForest,
        Template.HasSpace courseConfig.placeholderPattern template) ∧
      ∃ router, build courseForest courseConfig = .ok router := by
  have valid : courseConfig.error? = none := by decide +kernel
  have found : ∀ visit ∈ postorderForest [] courseForest,
      visit.FindsIndex (.root courseConfig.params) := by decide +kernel
  have ends : ∀ template ∈ templates courseForest,
      Template.SeesEnds courseConfig.placeholderPattern template := by decide +kernel
  have space : ∀ template ∈ templates courseForest,
      Template.HasSpace courseConfig.placeholderPattern template := by decide +kernel
  exact ⟨valid, found, ends, space,
    (exists_build_iff_namesOnce valid found ends space).mpr (by decide +kernel)⟩

/-- The index of the users names the page below. -/
def usersForest : List PageTree :=
  [.page ⟨"users", some "/users", some "tab", none⟩
    [.page ⟨"tab", some "/:id/:tab", none, none⟩ []]]

/-- Two placeholder patterns that are valid by themselves and in no template: one ends in an open
comment, and one gives a name to a group that is left out. -/
theorem build_usersForest :
    (∀ visit ∈ postorderForest [] usersForest, visit.FindsIndex (.root [])) ∧
      ∀ pattern ∈ ["(?x)[a-z]+ # letters", "(?P<_>a){0}[a-z]+"],
        Config.error? { placeholderPattern := pattern } = none ∧
          (∀ template ∈ templates usersForest, Template.HasSpace pattern template) ∧
          build usersForest { placeholderPattern := pattern } =
            .error (.table (.invalidPattern "/users/:id/:tab" "users.tab")) := by
  have computed : ∀ pattern ∈ ["(?x)[a-z]+ # letters", "(?P<_>a){0}[a-z]+"],
      Config.error? { placeholderPattern := pattern } = none ∧
        (∀ template ∈ templates usersForest, Template.HasSpace pattern template) ∧
        (match build usersForest { placeholderPattern := pattern } with
          | .error error => some error
          | .ok _ => none) =
            some (.table (.invalidPattern "/users/:id/:tab" "users.tab")) := by
    decide +kernel
  refine ⟨by decide +kernel, fun pattern member => ?_⟩
  rcases computed pattern member with ⟨valid, space, fails⟩
  exact ⟨valid, space, build_eq_error fails⟩

end Router
end PageRouting
