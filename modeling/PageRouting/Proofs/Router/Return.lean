import PageRouting.Proofs.Row.Alignment
import PageRouting.Proofs.Router.RoundTrip

namespace PageRouting
namespace Router

/-!
# Locations that come back from their routes

The route at a location leads to the same path again, except for one slash at
the end.  The page is found by its name and not by the path, so no other page may
have that name.  Besides, the row of the page must be aligned.  A configuration
is checked for groups in the placeholder pattern, but only for those that are
left in it, and only by itself.
-/

/-- The first row that accepts a path is among the rows and captures from it. -/
theorem mem_of_capturePath? {table : Table} {pathname : String} {row : Row} {data : Json.Object}
    (captured : table.capturePath? pathname = some (row, data)) :
    row ∈ table.rows ∧ row.capture? pathname = some data := by
  rcases List.exists_of_findSome?_eq_some captured with ⟨other, member, found⟩
  rcases Option.map_eq_some_iff.mp found with ⟨texts, isTexts, same⟩
  rcases Prod.mk.inj same with ⟨rfl, rfl⟩
  exact ⟨member, isTexts⟩

/-- A row with a name of its own is found by it. -/
theorem findByPage?_eq_some {table : Table} (distinct : (table.rows.map Row.page).Nodup) {row : Row}
    (member : row ∈ table.rows) : table.findByPage? row.page = some row := by
  rcases List.append_of_mem member with ⟨before, after, shape⟩
  rw [shape, List.map_append, List.map_cons] at distinct
  rcases List.nodup_append.mp distinct with ⟨_, _, apart⟩
  rw [Table.findByPage?, shape, List.find?_append]
  have earlier : before.find? (fun other => other.page == row.page) = none := by
    apply List.find?_eq_none.mpr
    intro other among same
    exact apart _ (List.mem_map_of_mem among) _ List.mem_cons_self (eq_of_beq same)
  rw [earlier, Option.none_or, List.find?_cons_of_pos (by exact beq_self_eq_true _)]

/-- The placeholder pattern of a router is well formed. -/
theorem isSome_ofString?_of_build {forest : List PageTree} {config : Config} {router : Router}
    (built : build forest config = .ok router) :
    (Pattern.ofString? config.placeholderPattern).isSome = true := by
  rcases Config.exists_ofString?_of_error? (error?_of_build built) with ⟨_, read, _⟩
  exact Option.isSome_of_eq_some read

/-- If the row that accepts a path is aligned, its names are distinct and its mappers
spell what they have read, then the route at the path leads back to it. -/
theorem pathname_locationOf_routeAt {forest : List PageTree} {config : Config} {router : Router}
    (built : build forest config = .ok router)
    (distinct : (router.table.rows.map Row.page).Nodup) {location : Location} {row : Row}
    {data : Json.Object}
    (captured : router.table.capturePath? location.pathname = some (row, data))
    (names : row.placeholders.Nodup) (restores : row.Restores location.pathname)
    (aligned : row.IsAligned config.placeholderPattern) :
    (router.locationOf (router.routeAt location)).pathname = location.pathname ∨
      (router.locationOf (router.routeAt location)).pathname ++ "/" = location.pathname := by
  rcases mem_of_capturePath? captured with ⟨member, captures⟩
  have compiled := (isCompiled_of_build built).2 row member
  have rendered := Row.renderPath_of_capture? compiled (isSome_ofString?_of_build built) aligned
    names restores captures
  have returned : (router.locationOf (router.routeAt location)).pathname = row.renderPath data := by
    simp only [routeAt, captured, locationOf, findByPage?_eq_some distinct member]
  rwa [returned]

/-- What can be computed of a router and of the row that accepts a path holds of
them. -/
theorem exists_of_computed (forest : List PageTree) (config : Config) (pathname : String)
    (holds : Router → Row → Bool)
    (computed : (match build forest config with
      | .error _ => false
      | .ok router =>
          match router.table.capturePath? pathname with
          | none => false
          | some (row, _) => holds router row) = true) :
    ∃ router row data, build forest config = .ok router ∧
      router.table.capturePath? pathname = some (row, data) ∧ holds router row = true := by
  split at computed
  · exact absurd computed Bool.false_ne_true
  · next router built =>
      split at computed
      · exact absurd computed Bool.false_ne_true
      · next row data captured => exact ⟨router, row, data, built, captured, computed⟩

/-- Placeholders are versions or words. -/
def wordsConfig : Config :=
  { docsConfig with placeholderPattern := "v[0-9]|[a-z]+" }

/-- A path with a mapped text and a slash at its end leads back but for the slash. -/
theorem pathname_docsLocation :
    ∃ router row data, build docsForest wordsConfig = .ok router ∧
      (router.table.rows.map Row.page).Nodup ∧
      router.table.capturePath? "/docs/v2/intro/" = some (row, data) ∧
      row.placeholders.Nodup ∧ row.Restores "/docs/v2/intro/" ∧
      row.IsAligned wordsConfig.placeholderPattern ∧
      ((router.locationOf (router.routeAt ⟨"/docs/v2/intro/", ""⟩)).pathname = "/docs/v2/intro/" ∨
        (router.locationOf (router.routeAt ⟨"/docs/v2/intro/", ""⟩)).pathname ++ "/" =
          "/docs/v2/intro/") := by
  rcases exists_of_computed docsForest wordsConfig "/docs/v2/intro/"
      (fun router row => decide
        ((router.table.rows.map Row.page).Nodup ∧ row.placeholders.Nodup ∧
          row.Restores "/docs/v2/intro/" ∧ row.IsAligned wordsConfig.placeholderPattern))
      (by decide +kernel) with
    ⟨router, row, data, built, captured, holds⟩
  rcases of_decide_eq_true holds with ⟨distinct, names, restores, aligned⟩
  exact ⟨router, row, data, built, distinct, captured, names, restores, aligned,
    pathname_locationOf_routeAt built distinct captured names restores aligned⟩

def pairForest (path : String) : List PageTree :=
  [.page ⟨"pair", some path, none, none⟩ []]

/-- A group that is repeated zero times is left out of the pattern, so it is not
refused. -/
def erasedConfig : Config :=
  { placeholderPattern := "(a){0}[a-z]+" }

/-- The index after that of the first placeholder is taken by the group that is left
out, so the text of the second one is lost. -/
theorem pathname_of_erased_group :
    ∃ router row data, build (pairForest "/:a/:b") erasedConfig = .ok router ∧
      (router.table.rows.map Row.page).Nodup ∧
      router.table.capturePath? "/x/y" = some (row, data) ∧ row.placeholders.Nodup ∧
      row.Restores "/x/y" ∧
      (router.locationOf (router.routeAt ⟨"/x/y", ""⟩)).pathname = "/x/" ∧
      ¬((router.locationOf (router.routeAt ⟨"/x/y", ""⟩)).pathname = "/x/y" ∨
        (router.locationOf (router.routeAt ⟨"/x/y", ""⟩)).pathname ++ "/" = "/x/y") := by
  rcases exists_of_computed (pairForest "/:a/:b") erasedConfig "/x/y"
      (fun router row => decide
        ((router.table.rows.map Row.page).Nodup ∧ row.placeholders.Nodup ∧
          row.Restores "/x/y" ∧
          (router.locationOf (router.routeAt ⟨"/x/y", ""⟩)).pathname = "/x/"))
      (by decide +kernel) with
    ⟨router, row, data, built, captured, holds⟩
  rcases of_decide_eq_true holds with ⟨distinct, names, restores, path⟩
  refine ⟨router, row, data, built, distinct, captured, names, restores, path, ?_⟩
  rw [path]
  decide

-- The pattern ends in an open comment.  It goes on to the next line of the whole pattern, which
-- begins in the second placeholder, and the numbers of groups and placeholders agree by accident.
example :
    (match build (pairForest ":a:b") { placeholderPattern := "(?x)(?:\n)#(\n#" } with
      | .error _ => none
      | .ok router =>
          some (router.table.rows.map fun row => row.pattern.groupCount,
            (router.locationOf (router.routeAt ⟨"#\n#", ""⟩)).pathname)) =
      some ([2], "\n#") := by
  decide +kernel

end Router
end PageRouting
