import PageRouting.Proofs.Router.Table

namespace PageRouting

/-!
# Forests with others after them

The table of two forests, one after the other, has the rows of the first and then
those of the second.  Both lookups go through the rows in order, so what the
first table answers is not changed by the second one, and what it does not
answer is left to the second, whatever names and templates the two have in
common.  Indices are resolved below their own pages only, and so each forest has
a table by itself.
-/

namespace Table

/-- The rows of a table and then those of another. -/
def append (first second : Table) : Table :=
  ⟨first.rows ++ second.rows⟩

/-- The first error is that of the first forest. -/
theorem forestRows_append (placeholderPattern : String) (base : Base)
    (first second : List PageTree) :
    forestRows placeholderPattern base (first ++ second) =
      (forestRows placeholderPattern base first).bind fun rows =>
        (forestRows placeholderPattern base second).map (rows ++ ·) := by
  induction first with
  | nil =>
      rw [List.nil_append, forestRows]
      cases forestRows placeholderPattern base second <;> rfl
  | cons tree trees ih =>
      rw [List.cons_append, forestRows, forestRows, ih]
      cases treeRows placeholderPattern base tree with
      | error error => rfl
      | ok rows =>
          cases forestRows placeholderPattern base trees with
          | error error => rfl
          | ok more =>
              cases forestRows placeholderPattern base second with
              | error error => rfl
              | ok others => exact congrArg Except.ok (List.append_assoc rows more others).symm

theorem compile_append (first second : List PageTree) (params : MapperTable)
    (placeholderPattern : String) :
    compile (first ++ second) params placeholderPattern =
      (compile first params placeholderPattern).bind fun table =>
        (compile second params placeholderPattern).map table.append := by
  simp only [compile, forestRows_append]
  cases forestRows placeholderPattern ⟨"", "", params⟩ first with
  | error error => rfl
  | ok rows => cases forestRows placeholderPattern ⟨"", "", params⟩ second <;> rfl

theorem findByPage?_append (first second : Table) (page : String) :
    (first.append second).findByPage? page =
      (first.findByPage? page).or (second.findByPage? page) :=
  List.find?_append

theorem capturePath?_append (first second : Table) (pathname : String) :
    (first.append second).capturePath? pathname =
      (first.capturePath? pathname).or (second.capturePath? pathname) :=
  List.findSome?_append

end Table

namespace Router

/-- A location is read by the first table if that accepts its path, and by the second otherwise. -/
theorem routeAt_append (config : Config) (first second : Table) (location : Location) :
    routeAt ⟨config, first.append second⟩ location =
      if (first.capturePath? location.pathname).isSome then routeAt ⟨config, first⟩ location
      else routeAt ⟨config, second⟩ location := by
  simp only [routeAt, Table.capturePath?_append]
  cases first.capturePath? location.pathname with
  | none => rfl
  | some captured => rfl

/-- A route is located by the first table if that has its page, and by the second otherwise. -/
theorem locationOf_append (config : Config) (first second : Table) (route : Route) :
    locationOf ⟨config, first.append second⟩ route =
      if (first.findByPage? route.page).isSome then locationOf ⟨config, first⟩ route
      else locationOf ⟨config, second⟩ route := by
  simp only [locationOf, Table.findByPage?_append]
  cases first.findByPage? route.page with
  | none => rfl
  | some row => rfl

/-- A table of which the first rows answer as before, and the others answer what is left. -/
structure Extends (config : Config) (first second table : Table) : Prop where
  rows : table.rows = first.rows ++ second.rows
  routeAt_of_accepted : ∀ location row, row ∈ first.rows →
    row.matchesPath location.pathname = true →
      routeAt ⟨config, table⟩ location = routeAt ⟨config, first⟩ location
  routeAt_of_refused : ∀ location,
    (∀ row ∈ first.rows, row.matchesPath location.pathname = false) →
      routeAt ⟨config, table⟩ location = routeAt ⟨config, second⟩ location
  locationOf_of_named : ∀ route row, row ∈ first.rows → row.page = route.page →
    locationOf ⟨config, table⟩ route = locationOf ⟨config, first⟩ route
  locationOf_of_unnamed : ∀ route, (∀ row ∈ first.rows, row.page ≠ route.page) →
    locationOf ⟨config, table⟩ route = locationOf ⟨config, second⟩ route

theorem extends_append (config : Config) (first second : Table) :
    Extends config first second (first.append second) where
  rows := rfl
  routeAt_of_accepted := by
    intro location row member accepts
    have captured : (first.capturePath? location.pathname).isSome = true := by
      rw [Option.isSome_iff_ne_none]
      intro none
      rw [Table.capturePath?_eq_none_iff.mp none row member] at accepts
      exact Bool.false_ne_true accepts
    rw [routeAt_append, if_pos captured]
  routeAt_of_refused := by
    intro location refuse
    rw [routeAt_append, Table.capturePath?_eq_none_iff.mpr refuse]
    rfl
  locationOf_of_named := by
    intro route row member same
    have found : (first.findByPage? route.page).isSome = true := by
      rw [Option.isSome_iff_ne_none]
      exact fun none => Table.findByPage?_eq_none_iff.mp none row member same
    rw [locationOf_append, if_pos found]
  locationOf_of_unnamed := by
    intro route others
    rw [locationOf_append, Table.findByPage?_eq_none_iff.mpr others]
    rfl

/-- Two forests with tables have a table together, and the routers of the first forest and of both
agree on all that the first one knows. -/
theorem exists_extends_of_compile {config : Config} {forest others : List PageTree}
    {first second : Table}
    (compiled : Table.compile forest config.params config.placeholderPattern = .ok first)
    (compiledToo : Table.compile others config.params config.placeholderPattern = .ok second) :
    ∃ table, Table.compile (forest ++ others) config.params config.placeholderPattern =
        .ok table ∧
      Extends config first second table ∧
      (config.error? = none → build forest config = .ok ⟨config, first⟩ ∧
        build (forest ++ others) config = .ok ⟨config, table⟩) := by
  have together : Table.compile (forest ++ others) config.params config.placeholderPattern =
      .ok (first.append second) := by
    rw [Table.compile_append, compiled, compiledToo]
    rfl
  exact ⟨first.append second, together, extends_append config first second,
    fun valid => ⟨build_eq_ok valid compiled, build_eq_ok valid together⟩⟩

def notesForest : List PageTree :=
  [.page ⟨"notes", some "/notes", some "note", none⟩ [.page ⟨"note", some "/:id", none, none⟩ []]]

/-- A page with a name of the notes, and one with their template. -/
def archiveForest : List PageTree :=
  [.page ⟨"notes", some "/archive", none, none⟩ [.page ⟨"note", some "/:id", none, none⟩ []],
    .page ⟨"draft", some "/notes/:id", none, none⟩ []]

/-- The notes stay where they are and are found as before, and of the pages after them those are
found that have a path of their own. -/
theorem exists_extends_notesForest :
    ∃ first second table, Table.compile notesForest [] "[^/]+" = .ok first ∧
      Table.compile archiveForest [] "[^/]+" = .ok second ∧
      Table.compile (notesForest ++ archiveForest) [] "[^/]+" = .ok table ∧
      Extends {} first second table ∧
      first.rows.map Row.page = ["notes.note", "notes"] ∧
      second.rows.map Row.page = ["notes", "notes.note", "draft"] ∧
      (routeAt ⟨{}, table⟩ ⟨"/notes/7", ""⟩).page = "notes.note" ∧
      (routeAt ⟨{}, table⟩ ⟨"/archive/7", ""⟩).page = "notes.note" ∧
      (locationOf ⟨{}, table⟩ ⟨"notes", [("id", .string "7")], []⟩).pathname = "/notes/7" := by
  have computed : (Table.compile notesForest [] "[^/]+").toOption.any (fun first => decide
      (first.rows.map Row.page = ["notes.note", "notes"] ∧
        (∃ row ∈ first.rows, row.matchesPath "/notes/7" = true) ∧
        (∃ row ∈ first.rows, row.page = "notes") ∧
        (∀ row ∈ first.rows, row.matchesPath "/archive/7" = false) ∧
        (routeAt ⟨{}, first⟩ ⟨"/notes/7", ""⟩).page = "notes.note" ∧
        (locationOf ⟨{}, first⟩ ⟨"notes", [("id", .string "7")], []⟩).pathname = "/notes/7")) =
      true := by
    decide +kernel
  have computedToo : (Table.compile archiveForest [] "[^/]+").toOption.any (fun second => decide
      (second.rows.map Row.page = ["notes", "notes.note", "draft"] ∧
        (routeAt ⟨{}, second⟩ ⟨"/archive/7", ""⟩).page = "notes.note")) = true := by
    decide +kernel
  rcases Table.exists_of_computed computed with ⟨first, compiled, holds⟩
  rcases Table.exists_of_computed computedToo with ⟨second, compiledToo, holdsToo⟩
  rcases of_decide_eq_true holds with
    ⟨pages, ⟨found, among, accepts⟩, ⟨named, amongToo, name⟩, refuse, route, location⟩
  rcases of_decide_eq_true holdsToo with ⟨pagesToo, routeToo⟩
  rcases @exists_extends_of_compile {} notesForest archiveForest first second compiled
      compiledToo with ⟨table, together, extending, _⟩
  refine ⟨first, second, table, compiled, compiledToo, together, extending, pages, pagesToo,
    ?_, ?_, ?_⟩
  · rw [extending.routeAt_of_accepted ⟨"/notes/7", ""⟩ found among accepts, route]
  · rw [extending.routeAt_of_refused ⟨"/archive/7", ""⟩ refuse, routeToo]
  · rw [extending.locationOf_of_named ⟨"notes", [("id", .string "7")], []⟩ named amongToo name,
      location]

end Router
end PageRouting
