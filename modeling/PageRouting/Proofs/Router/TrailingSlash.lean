import PageRouting.Proofs.Router.Canonical

namespace PageRouting

/-!
# One slash more at the end of a path

The slash that the pattern of a template allows at the end of a path makes no
difference: the same row takes the path with it and without it, and captures the
same data.  This rests on the templates.  A placeholder takes no slash, so a path
that fills a template ends in a slash only if the template does, and of these
there is only that of the root, which no longer path fills.
-/

namespace Row

variable {row : Row}

/-- A row captures the same data with and without a slash at the end of a path. -/
theorem capture?_append_slash (compiled : row.IsCompiled "[^/]+")
    (ends : row.path = "/" ∨ row.path.toList.getLast? ≠ some '/') {pathname : String}
    (nonempty : pathname ≠ "") (bare : pathname.toList.getLast? ≠ some '/') :
    row.capture? (pathname ++ "/") = row.capture? pathname := by
  have begun : pathname.toList ≠ [] := fun none => nonempty (String.toList_eq_nil_iff.mp none)
  rw [capture?_eq compiled, capture?_eq compiled, String.toList_append]
  exact congrArg _ (Template.longestValues?_congr (isFilling_append_slash ends begun bare))

end Row

/-- If all rows capture the same, the same row is found, with the same data. -/
theorem Table.capturePath?_congr {table : Table} {one other : String}
    (same : ∀ row ∈ table.rows, row.capture? one = row.capture? other) :
    table.capturePath? one = table.capturePath? other := by
  rcases table with ⟨rows⟩
  simp only [capturePath?] at same ⊢
  induction rows with
  | nil => rfl
  | cons row rows ih =>
      rcases List.forall_mem_cons.mp same with ⟨here, later⟩
      rw [List.findSome?_cons, List.findSome?_cons, here, ih later]

namespace Router

/-- If only the template of the root ends in a slash, a slash at the end of a path is ignored. -/
theorem routeAt_append_slash {forest : List PageTree} {config : Config} {router : Router}
    (built : build forest config = .ok router) (segments : config.placeholderPattern = "[^/]+")
    (ends : ∀ row ∈ router.table.rows, row.path = "/" ∨ row.path.toList.getLast? ≠ some '/')
    {pathname : String} (nonempty : pathname ≠ "") (bare : pathname.toList.getLast? ≠ some '/')
    (search : String) :
    router.routeAt ⟨pathname ++ "/", search⟩ = router.routeAt ⟨pathname, search⟩ := by
  have compiled := (isCompiled_of_build built).2
  rw [segments] at compiled
  have same : router.table.capturePath? (pathname ++ "/") = router.table.capturePath? pathname :=
    Table.capturePath?_congr fun row member =>
      Row.capture?_append_slash (compiled row member) (ends row member) nonempty bare
  simp only [routeAt, same]

/-- A range of lines is cut in the same way with a slash behind it, and so is what is not found. -/
theorem routeAt_append_slash_linesForest :
    ∃ router, build linesForest docsConfig = .ok router ∧
      (∀ row ∈ router.table.rows, row.path = "/" ∨ row.path.toList.getLast? ≠ some '/') ∧
      (router.routeAt ⟨"/v2/1-2-3", "?q=a"⟩).page = "lines" ∧
      (router.routeAt ⟨"/v2/1", "?q=a"⟩).page = "404" ∧
      router.routeAt ⟨"/v2/1-2-3" ++ "/", "?q=a"⟩ = router.routeAt ⟨"/v2/1-2-3", "?q=a"⟩ ∧
      router.routeAt ⟨"/v2/1" ++ "/", "?q=a"⟩ = router.routeAt ⟨"/v2/1", "?q=a"⟩ := by
  rcases exists_of_computed linesForest docsConfig "/v2/1-2-3"
      (fun router _ => decide
        ((∀ row ∈ router.table.rows, row.path = "/" ∨ row.path.toList.getLast? ≠ some '/') ∧
          (router.routeAt ⟨"/v2/1-2-3", "?q=a"⟩).page = "lines" ∧
          (router.routeAt ⟨"/v2/1", "?q=a"⟩).page = "404"))
      (by decide +kernel) with
    ⟨router, _, _, built, _, holds⟩
  rcases of_decide_eq_true holds with ⟨ends, found, missed⟩
  exact ⟨router, built, ends, found, missed,
    routeAt_append_slash built rfl ends (by decide) (by decide) "?q=a",
    routeAt_append_slash built rfl ends (by decide) (by decide) "?q=a"⟩

end Router
end PageRouting
