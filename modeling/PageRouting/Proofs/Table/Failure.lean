import PageRouting.Config
import PageRouting.Proofs.Table.Outcome
import PageRouting.Proofs.Template.Segments

namespace PageRouting

/-!
# Forests without a table

With the default placeholder pattern a page without an index always gets a row, as
long as there is room for its pattern.  A page with an index gets one exactly if
the parts of the index are the segments on the way to a page below it, at whatever
depth, and also if that page has an index itself.  So the only error is that of an
unknown index, and it is the error of the first page compiled whose index leads
nowhere.
-/

namespace PageTree

/-- The index of the page, if it has one, leads down to one of the pages below. -/
def Visit.Resolves (visit : Visit) : Prop :=
  ∀ index, trailIndex? visit.trail = some index →
    ∃ below ∈ trailsForest visit.children,
      Text.splitOn '.' index.toList = below.map fun declaration => declaration.segment.toList

/-- All segments of a forest are such that pages can be told apart by them. -/
def HasValidSegments (forest : List PageTree) : Prop :=
  ∀ trail ∈ trailsForest forest, ∀ declaration ∈ trail, declaration.hasValidSegment = true

/-- There is room for the pattern of each page without an index. -/
def HasRoom (above : String) (forest : List PageTree) : Prop :=
  ∀ trail ∈ trailsForest forest, trailIndex? trail = none →
    (Pattern.templateNode (above ++ String.join (trail.map PageDeclaration.ownPath))).fits = true

end PageTree

namespace Table

open PageTree

/-! ## Outcomes -/

/-- What compiling the visited pages gives: rows if all indices lead somewhere, and else the error
of the first page for which this is not so. -/
inductive IsOutcome (visits : List Visit) : Except TableError (List Row) → Prop where
  | compiles {rows : List Row} (resolve : ∀ visit ∈ visits, visit.Resolves) :
      IsOutcome visits (.ok rows)
  | unknownIndex {before after : List Visit} {visit : Visit} {index : String}
      (split : visits = before ++ visit :: after) (resolve : ∀ earlier ∈ before, earlier.Resolves)
      (fails : ¬visit.Resolves) (marked : trailIndex? visit.trail = some index) :
      IsOutcome visits (.error (.unknownIndex index (trailName visit.trail)))

variable {forest : List PageTree} {visit : Visit} {params : MapperTable}

/-- With the default placeholder pattern a page of the forest gets a row exactly if the parts of its
index lead down to one of the pages below. -/
theorem compiles_iff_resolves (valid : HasValidSegments forest) (room : HasRoom "" forest)
    (member : visit ∈ postorderForest [] forest) :
    visit.Compiles "[^/]+" (.root params) ↔ visit.Resolves := by
  rcases mem_trailsForest_of_mem_postorderForest member with ⟨leads, down⟩
  have validAlong : ∀ below ∈ trailsForest visit.children, ∀ declaration ∈ visit.trail ++ below,
      declaration.hasValidSegment = true := fun below among => valid _ (down below among)
  have finds : visit.FindsIndex (.root params) ↔ visit.Resolves := by
    refine forall_congr' fun index => forall_congr' fun _ => exists_congr fun below =>
      and_congr_right fun among => ?_
    rw [Base.page_root_along (validAlong below among), Base.page_root_along (valid _ leads)]
    exact trailName_append_eq_iff (ne_nil_of_mem_trailsForest leads) (validAlong below among) index
  have hasPattern : visit.HasPattern "[^/]+" (.root params) := by
    intro unmarked
    have fits := room _ leads unmarked
    rw [Base.path_along, Pattern.ofChars?_source]
    exact Option.isSome_ite.mpr fits
  exact (and_iff_left hasPattern).trans finds

/-- A page without an index leads somewhere. -/
theorem exists_index_of_not_resolves (fails : ¬visit.Resolves) :
    ∃ index, trailIndex? visit.trail = some index := by
  refine Option.ne_none_iff_exists'.mp fun unmarked => fails fun index marked => ?_
  cases unmarked.symm.trans marked

/-- A forest has rows if all its indices lead somewhere, and else the error of the first page for
which this is not so. -/
theorem isOutcome_forestRows (valid : HasValidSegments forest) (room : HasRoom "" forest) :
    IsOutcome (postorderForest [] forest) (forestRows "[^/]+" (.root params) forest) := by
  have compiles_iff : ∀ visit ∈ postorderForest [] forest,
      visit.Compiles "[^/]+" (.root params) ↔ visit.Resolves :=
    fun visit => compiles_iff_resolves valid room
  have outcome : IsCompilation "[^/]+" (.root params) (postorderForest [] forest)
      (forestRows "[^/]+" (.root params) forest) := isCompilation_forestRows [] forest
  generalize forestRows "[^/]+" (.root params) forest = result at outcome
  cases outcome with
  | rows compile =>
      exact .compiles fun visit member => (compiles_iff visit member).mp (compile visit member)
  | @stops before after visit split compile fails =>
      have among : visit ∈ postorderForest [] forest :=
        split ▸ List.mem_append_right _ List.mem_cons_self
      have earlier : ∀ visit ∈ before, visit.Resolves := fun visit member =>
        (compiles_iff visit (split ▸ List.mem_append_left _ member)).mp (compile visit member)
      have unresolved := fails ∘ (compiles_iff visit among).mpr
      rcases exists_index_of_not_resolves unresolved with ⟨index, marked⟩
      have named : (Base.along (.root params) visit.trail).page = trailName visit.trail :=
        Base.page_root_along (valid _ (mem_trailsForest_of_mem_postorderForest among).1) params
      have error : visit.error (.root params) = .unknownIndex index (trailName visit.trail) := by
        simp only [Visit.error, marked, named]
      rw [error]
      exact .unknownIndex split earlier unresolved marked

/-- How a forest is judged: by the pages of which the index leads nowhere, in the order of
compilation. -/
structure Judged (forest : List PageTree) (config : Config) : Prop where
  complete : ((postorderForest [] forest).map Visit.trail).Perm (trailsForest forest)
  compiles_iff :
    (∃ table, compile forest config.params config.placeholderPattern = .ok table) ↔
      ∀ visit ∈ postorderForest [] forest, visit.Resolves
  error_eq : ∀ error, compile forest config.params config.placeholderPattern = .error error →
    ∃ before visit after index, postorderForest [] forest = before ++ visit :: after ∧
      (∀ earlier ∈ before, earlier.Resolves) ∧ ¬visit.Resolves ∧
      trailIndex? visit.trail = some index ∧
      error = .unknownIndex index (trailName visit.trail)

/-- With the default placeholder pattern, and where there is room for all patterns, a forest with
valid segments has a table exactly if all its indices lead somewhere. -/
theorem judged_of_hasRoom {forest : List PageTree} {config : Config}
    (segments : config.placeholderPattern = "[^/]+") (valid : HasValidSegments forest)
    (room : HasRoom "" forest) : Judged forest config := by
  have outcome : IsOutcome (postorderForest [] forest)
      (forestRows "[^/]+" (.root config.params) forest) :=
    isOutcome_forestRows valid room
  have complete := perm_map_trail_postorderForest [] forest
  simp only [List.nil_append, List.map_id'] at complete
  have compiled : compile forest config.params config.placeholderPattern =
      (forestRows "[^/]+" (.root config.params) forest).map Table.mk := by
    rw [segments]
    rfl
  generalize forestRows "[^/]+" (.root config.params) forest = result at outcome compiled
  cases outcome with
  | compiles resolve =>
      refine ⟨complete, iff_of_true ⟨_, compiled⟩ resolve, fun error failed => ?_⟩
      cases compiled.symm.trans failed
  | @unknownIndex before after visit index split resolve fails marked =>
      refine ⟨complete, iff_of_false ?_ fun all => ?_, fun error failed => ?_⟩
      · rintro ⟨table, built⟩
        cases compiled.symm.trans built
      · exact fails (all visit (split ▸ List.mem_append_right _ List.mem_cons_self))
      · cases compiled.symm.trans failed
        exact ⟨before, visit, after, index, split, resolve, fails, marked, rfl⟩

/-- Two pages have indices that lead nowhere.  That of `docs` is declared earlier, and names a page
of another tree; that of `guide` is compiled earlier.  The index of `intro` leads on through a page
with an index. -/
def tangledForest : List PageTree :=
  [.page ⟨"docs", none, some "home", none⟩
      [.page ⟨"intro", none, some "first.start", none⟩
        [.page ⟨"first", none, some "start", none⟩ [.page ⟨"start", none, none, none⟩ []]],
      .page ⟨"guide", none, some "intro.start", none⟩ [.page ⟨"start", none, none, none⟩ []]],
    .page ⟨"home", some "/:lang", none, none⟩ []]

theorem judged_tangledForest :
    Judged tangledForest {} ∧
      compile tangledForest [] "[^/]+" = .error (.unknownIndex "intro.start" "docs.guide") := by
  have valid : HasValidSegments tangledForest := by
    unfold HasValidSegments
    decide
  have room : HasRoom "" tangledForest := by
    unfold HasRoom
    decide +kernel
  have computed : (match compile tangledForest [] "[^/]+" with
      | .error error => some error
      | .ok _ => none) = some (.unknownIndex "intro.start" "docs.guide") := by
    decide +kernel
  refine ⟨@judged_of_hasRoom tangledForest {} rfl valid room, ?_⟩
  cases compiled : compile tangledForest [] "[^/]+" with
  | ok table => rw [compiled] at computed; cases computed
  | error error => rw [compiled] at computed; exact congrArg Except.error (Option.some.inj computed)

end Table
end PageRouting
