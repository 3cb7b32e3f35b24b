import PageRouting.Proofs.Router.Return
import PageRouting.Proofs.Row.Groups

namespace PageRouting

/-!
# The row that answers a path

Whether a row accepts a path and what it captures from it are asked of the same
search, and all lookups go through the rows in the same order.  So they agree on
the row that answers.  That its texts belong to its placeholders is another matter:
there must be a group for each placeholder and no other, which the check of the
placeholder pattern does not ensure if the pattern opens groups and leaves them
out.
-/

namespace Router

/-- What answers a location: the first row that accepts its path, or else the page that is not
found. -/
inductive IsAnswered (router : Router) (location : Location) : Prop where
  | byRow {before after : List Row} {row : Row} {data : Json.Object}
      (rows : router.table.rows = before ++ row :: after)
      (refuse : ∀ earlier ∈ before, earlier.matchesPath location.pathname = false)
      (accepts : row.matchesPath location.pathname = true)
      (captures : row.capture? location.pathname = some data)
      (found : router.table.findByPath? location.pathname = some row)
      (captured : router.table.capturePath? location.pathname = some (row, data))
      (route : router.routeAt location = ⟨row.page, data, Query.read location.search⟩)
  | byNone (refuse : ∀ row ∈ router.table.rows, row.matchesPath location.pathname = false)
      (found : router.table.findByPath? location.pathname = none)
      (captured : router.table.capturePath? location.pathname = none)
      (route : router.routeAt location =
        ⟨router.config.notFoundPage, [], Query.read location.search⟩)

/-- The lookups of a path and the route at it agree, whatever the rows are. -/
theorem isAnswered (router : Router) (location : Location) : router.IsAnswered location := by
  have same := Table.map_fst_capturePath? router.table location.pathname
  cases captured : router.table.capturePath? location.pathname with
  | none =>
      rw [captured] at same
      have route : router.routeAt location =
          ⟨router.config.notFoundPage, [], Query.read location.search⟩ := by
        simp only [routeAt, captured]
      exact .byNone (Table.capturePath?_eq_none_iff.mp captured) same.symm captured route
  | some answer =>
      rcases answer with ⟨row, data⟩
      rw [captured] at same
      rcases Table.exists_shape_of_capturePath? captured with
        ⟨before, after, rows, captures, refuse⟩
      have accepts : row.matchesPath location.pathname = true := by
        rw [← Row.capture?_isSome, captures, Option.isSome_some]
      have route : router.routeAt location = ⟨row.page, data, Query.read location.search⟩ := by
        simp only [routeAt, captured]
      exact .byRow rows refuse accepts captures same.symm captured route

/-- How the rows of a router stand to the path of a location. -/
structure Answers (router : Router) (location : Location) : Prop where
  isAnswered : router.IsAnswered location
  isSome_capture? : ∀ row ∈ router.table.rows,
    (row.capture? location.pathname).isSome = row.matchesPath location.pathname
  groupCount_eq : ∀ row ∈ router.table.rows,
    Template.SeesEnds router.config.placeholderPattern row.path →
      row.pattern.groupCount = row.placeholders.length +
        (row.placeholders.length - 1) * Pattern.openedGroups router.config.placeholderPattern
  captured : ∀ row ∈ router.table.rows,
    Template.SeesEnds router.config.placeholderPattern row.path →
    row.placeholders.length ≤ 1 ∨ Pattern.openedGroups router.config.placeholderPattern = 0 →
      row.pattern.groupCount = row.placeholders.length ∧
        ∀ data, row.capture? location.pathname = some data →
          ∃ values, row.Captured location.pathname data values

/-- All lookups agree on the row that answers a path, and its data are those of its placeholders,
unless its placeholder pattern has opened groups that it has left out. -/
theorem answers_of_build {forest : List PageTree} {config : Config} {router : Router}
    (built : build forest config = .ok router) (location : Location) :
    router.Answers location := by
  rcases isCompiled_of_build built with ⟨rfl, compiled⟩
  rcases Config.exists_ofString?_of_error? (error?_of_build built) with ⟨alone, read, plain⟩
  have groupCount : ∀ row ∈ router.table.rows,
      Template.SeesEnds router.config.placeholderPattern row.path →
        row.pattern.groupCount = row.placeholders.length +
          (row.placeholders.length - 1) *
            Pattern.openedGroups router.config.placeholderPattern :=
    fun row member => Row.groupCount_eq (compiled row member) read plain
  refine ⟨router.isAnswered location, fun row _ => row.capture?_isSome location.pathname,
    groupCount, fun row member ends few => ?_⟩
  have groups : row.pattern.groupCount = row.placeholders.length := by
    rw [groupCount row member ends]
    rcases few with single | none
    · rw [Nat.sub_eq_zero_of_le single, Nat.zero_mul, Nat.add_zero]
    · rw [none, Nat.mul_zero, Nat.add_zero]
  exact ⟨groups, fun data => Row.exists_captured (compiled row member)
    (Option.isSome_of_eq_some read) ends groups⟩

/-- A row with alternatives for its placeholders has the two texts of a path. -/
theorem answers_docsLocation :
    ∃ router row data values, build docsForest wordsConfig = .ok router ∧
      router.Answers ⟨"/docs/v2/intro/", "?tab=1"⟩ ∧
      router.table.capturePath? "/docs/v2/intro/" = some (row, data) ∧
      row.placeholders = ["version", "page"] ∧ row.Captured "/docs/v2/intro/" data values := by
  rcases exists_of_computed docsForest wordsConfig "/docs/v2/intro/"
      (fun router row => decide
        (Template.SeesEnds router.config.placeholderPattern row.path ∧
          Pattern.openedGroups router.config.placeholderPattern = 0 ∧
          row.placeholders = ["version", "page"]))
      (by decide +kernel) with
    ⟨router, row, data, built, captured, holds⟩
  rcases of_decide_eq_true holds with ⟨ends, opened, names⟩
  have answers := answers_of_build built ⟨"/docs/v2/intro/", "?tab=1"⟩
  rcases mem_of_capturePath? captured with ⟨member, captures⟩
  rcases (answers.captured row member ends (.inr opened)).2 data captures with ⟨values, texts⟩
  exact ⟨router, row, data, values, built, answers, captured, names, texts⟩

/-- A group that is left out of the placeholder pattern stands between the two placeholders, and
the second of them has its text. -/
theorem captures_of_erased_group :
    ∃ router row data, build (pairForest "/:a/:b") erasedConfig = .ok router ∧
      router.table.capturePath? "/x/y" = some (row, data) ∧ row.placeholders = ["a", "b"] ∧
      row.pattern.groupCount = 3 ∧
      row.pattern.captures? "/x/y" = some [some "x", none, some "y"] ∧
      (router.routeAt ⟨"/x/y", ""⟩).data.same [("a", .string "x"), ("b", .string "")] = true := by
  rcases exists_of_computed (pairForest "/:a/:b") erasedConfig "/x/y"
      (fun router row => decide
        (row.placeholders = ["a", "b"] ∧ row.pattern.groupCount = 3 ∧
          row.pattern.captures? "/x/y" = some [some "x", none, some "y"] ∧
          (router.routeAt ⟨"/x/y", ""⟩).data.same
            [("a", .string "x"), ("b", .string "")] = true))
      (by decide +kernel) with
    ⟨router, row, data, built, captured, holds⟩
  rcases of_decide_eq_true holds with ⟨names, groups, texts, answer⟩
  exact ⟨router, row, data, built, captured, names, groups, texts, answer⟩

end Router
end PageRouting
