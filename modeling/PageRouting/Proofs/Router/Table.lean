import PageRouting.Proofs.Table.Compilation
import PageRouting.Router

namespace PageRouting

/-!
# Rows of a table

Every row of a table has the pattern of its own template, also under the name of
another page, so what is shown for rows applies to all rows of all routers.  The
row that is found by a path is the first that accepts it.
-/

namespace Table

/-- The patterns of all rows of a table are those of their templates. -/
theorem isCompiled_of_compile {forest : List PageTree} {params : MapperTable}
    {placeholderPattern : String} {table : Table}
    (compiled : compile forest params placeholderPattern = .ok table) :
    ∀ row ∈ table.rows, row.IsCompiled placeholderPattern :=
  (hasRows_of_compile compiled).isCompiled

/-- What can be computed of the table of a forest holds of it. -/
theorem exists_of_computed {forest : List PageTree} {params : MapperTable}
    {placeholderPattern : String} {holds : Table → Bool}
    (computed : (compile forest params placeholderPattern).toOption.any holds = true) :
    ∃ table, compile forest params placeholderPattern = .ok table ∧ holds table = true := by
  cases compiled : compile forest params placeholderPattern with
  | error error =>
      rw [compiled] at computed
      exact absurd computed Bool.false_ne_true
  | ok table =>
      rw [compiled] at computed
      exact ⟨table, rfl, computed⟩

/-- The row of a page is the first one under its name. -/
theorem exists_of_findByPage? {table : Table} {page : String} {row : Row}
    (found : table.findByPage? page = some row) :
    row.page = page ∧ ∃ before after, table.rows = before ++ row :: after ∧
      ∀ other ∈ before, other.page ≠ page := by
  rcases List.find?_eq_some_iff_append.mp found with ⟨same, before, after, rows, others⟩
  refine ⟨eq_of_beq same, before, after, rows, fun other member => ?_⟩
  have different := others other member
  rwa [Bool.not_eq_true', beq_eq_false_iff_ne] at different

theorem findByPage?_eq_none_iff {table : Table} {page : String} :
    table.findByPage? page = none ↔ ∀ row ∈ table.rows, row.page ≠ page := by
  simp only [findByPage?, List.find?_eq_none, beq_iff_eq]

/-- A row that no earlier one forestalls is the one that is found by its path. -/
theorem capturePath?_eq {table : Table} {before after : List Row} {row : Row}
    (rows : table.rows = before ++ row :: after) {pathname : String} {data : Json.Object}
    (refused : ∀ other ∈ before, other.matchesPath pathname = false)
    (captured : row.capture? pathname = some data) :
    table.capturePath? pathname = some (row, data) := by
  have skipped : before.findSome? (fun other =>
      (other.capture? pathname).map fun data => (other, data)) = none := by
    apply List.findSome?_eq_none_iff.mpr
    intro other member
    have missed := refused other member
    rw [← Row.capture?_isSome, Option.isSome_eq_false_iff] at missed
    rw [Option.isNone_iff_eq_none.mp missed, Option.map_none]
  rw [capturePath?, rows, List.findSome?_append, skipped, Option.none_or,
    List.findSome?_cons_of_isSome]
  · rw [captured, Option.map_some]
  · rw [captured, Option.map_some, Option.isSome_some]

/-- The row that a path is captured by is the first that accepts it. -/
theorem exists_shape_of_capturePath? {table : Table} {pathname : String} {row : Row}
    {data : Json.Object} (captured : table.capturePath? pathname = some (row, data)) :
    ∃ before after, table.rows = before ++ row :: after ∧ row.capture? pathname = some data ∧
      ∀ other ∈ before, other.matchesPath pathname = false := by
  rcases List.findSome?_eq_some_iff.mp captured with ⟨before, found, after, shape, here, missed⟩
  rcases Option.map_eq_some_iff.mp here with ⟨captures, isCaptures, same⟩
  rcases Prod.mk.inj same with ⟨rfl, rfl⟩
  refine ⟨before, after, shape, isCaptures, fun other member => ?_⟩
  rw [← Row.capture?_isSome, Option.map_eq_none_iff.mp (missed other member), Option.isSome_none]

theorem capturePath?_eq_none_iff {table : Table} {pathname : String} :
    table.capturePath? pathname = none ↔
      ∀ row ∈ table.rows, row.matchesPath pathname = false := by
  simp only [capturePath?, List.findSome?_eq_none_iff, Option.map_eq_none_iff,
    ← Row.capture?_isSome, Option.isSome_eq_false_iff, Option.isNone_iff_eq_none]

/-- Looking up a path finds the same row with and without its data. -/
theorem map_fst_capturePath? (table : Table) (pathname : String) :
    (table.capturePath? pathname).map Prod.fst = table.findByPath? pathname := by
  rcases table with ⟨rows⟩
  simp only [capturePath?, findByPath?]
  induction rows with
  | nil => rfl
  | cons row rows ih =>
      rw [List.findSome?_cons, List.find?_cons, ← Row.capture?_isSome]
      cases row.capture? pathname with
      | none => exact ih
      | some data => rfl

theorem exists_capturePath?_eq_some {table : Table} {pathname : String} {row : Row}
    (found : table.findByPath? pathname = some row) :
    ∃ data, table.capturePath? pathname = some (row, data) := by
  rw [← map_fst_capturePath?] at found
  rcases Option.map_eq_some_iff.mp found with ⟨⟨_, data⟩, captured, rfl⟩
  exact ⟨data, captured⟩

/-- The first row that accepts a path comes no later than any other one. -/
theorem findByPath?_of_matchesPath {table : Table} {before after : List Row} {row : Row}
    (shape : table.rows = before ++ row :: after) {pathname : String}
    (accepts : row.matchesPath pathname = true) :
    ∃ first ∈ before ++ [row], table.findByPath? pathname = some first := by
  rw [findByPath?, shape, List.append_cons before row after, List.find?_append]
  cases found : (before ++ [row]).find? fun row => row.matchesPath pathname with
  | none =>
      have refused := List.find?_eq_none.mp found row
        (List.mem_append_right _ List.mem_cons_self)
      exact absurd accepts refused
  | some first => exact ⟨first, List.mem_of_find?_eq_some found, rfl⟩

theorem mem_of_findByPath? {table : Table} {pathname : String} {row : Row}
    (found : table.findByPath? pathname = some row) :
    row ∈ table.rows ∧ row.matchesPath pathname = true := by
  rw [findByPath?] at found
  have accepts := List.find?_some found
  exact ⟨List.mem_of_find?_eq_some found, accepts⟩

end Table

/-- The placeholder pattern of a valid configuration reads as a pattern without groups. -/
theorem Config.exists_ofString?_of_error? {config : Config} (valid : config.error? = none) :
    ∃ alone, Pattern.ofString? config.placeholderPattern = some alone ∧ alone.groupCount = 0 := by
  unfold error? at valid
  split at valid
  · exact absurd valid (Option.some_ne_none _)
  · next allowed =>
      unfold patternError? at allowed
      split at allowed
      · exact absurd allowed (Option.some_ne_none _)
      · split at allowed
        · exact absurd allowed (Option.some_ne_none _)
        · next alone read =>
            split at allowed
            · next groups => exact ⟨alone, read, groups⟩
            · exact absurd allowed (Option.some_ne_none _)

/-- A router has a valid configuration. -/
theorem Router.error?_of_build {forest : List PageTree} {config : Config} {router : Router}
    (built : build forest config = .ok router) : config.error? = none := by
  unfold build at built
  split at built
  · exact absurd built (by simp)
  · next valid => exact valid

theorem Router.isCompiled_of_build {forest : List PageTree} {config : Config} {router : Router}
    (built : build forest config = .ok router) : router.config = config ∧
      ∀ row ∈ router.table.rows, row.IsCompiled config.placeholderPattern := by
  unfold build at built
  split at built
  · exact absurd built (by simp)
  · split at built
    · exact absurd built (by simp)
    · next table compiled =>
        rw [← Except.ok.inj built]
        exact ⟨rfl, Table.isCompiled_of_compile compiled⟩

/-- The table of a router is that of its forest. -/
theorem Router.compile_of_build {forest : List PageTree} {config : Config} {router : Router}
    (built : build forest config = .ok router) :
    Table.compile forest config.params config.placeholderPattern = .ok router.table := by
  unfold build at built
  split at built
  · exact absurd built (by simp)
  · split at built
    · exact absurd built (by simp)
    · next table compiled => rw [← Except.ok.inj built, compiled]

theorem Router.build_eq_ok {forest : List PageTree} {config : Config} {table : Table}
    (valid : config.error? = none)
    (compiled : Table.compile forest config.params config.placeholderPattern = .ok table) :
    build forest config = .ok ⟨config, table⟩ := by
  simp only [build, valid, compiled]

end PageRouting
