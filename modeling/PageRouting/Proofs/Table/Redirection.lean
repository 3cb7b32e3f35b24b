import Mathlib.Logic.Relation
import PageRouting.Proofs.Router.Return
import PageRouting.Proofs.Table.Compilation

namespace PageRouting
namespace Table

open PageTree Relation

/-!
# Pages shown in the place of others

The row of a page with an index is a copy of that of the page that the index
names, under its own name.  The copy comes later, so that names lead to the
template further down, and a path is never found under the name of the copy.
Following indices goes down the tree, and ends at a page without an index.
-/

variable {forest : List PageTree} {params : MapperTable} {placeholderPattern : String}
  {rows : List Row} {trail : List PageDeclaration}

theorem page_along_root (named : isWellNamedForest forest = true)
    (member : trail ∈ trailsForest forest) (params : MapperTable) :
    ((Base.root params).along trail).page = trailName trail :=
  Base.page_root_along (hasValidSegment_of_mem named member) params

/-- The rows of a forest are named as its pages. -/
theorem HasRows.perm_trailName (named : isWellNamedForest forest = true)
    (made : HasRows placeholderPattern (.root params) forest rows) :
    (rows.map Row.page).Perm ((trailsForest forest).map trailName) := by
  have names : (trailsForest forest).map (fun trail => ((Base.root params).along trail).page) =
      (trailsForest forest).map trailName :=
    List.map_congr_left fun trail member => page_along_root named member params
  exact names ▸ made.perm_page

theorem HasRows.nodup_page (named : isWellNamedForest forest = true)
    (made : HasRows placeholderPattern (.root params) forest rows) :
    (rows.map Row.page).Nodup :=
  (made.perm_trailName named).nodup_iff.mpr (nodup_trailName named)

/-- Rows under one name stand in one place. -/
theorem eq_of_page_eq (distinct : (rows.map Row.page).Nodup) {before after front back : List Row}
    {row other : Row} (shape : rows = before ++ row :: after)
    (shape' : rows = front ++ other :: back) (same : row.page = other.page) :
    before = front ∧ row = other ∧ after = back := by
  have equal : row = other :=
    List.inj_on_of_nodup_map distinct (shape ▸ List.mem_append_right _ List.mem_cons_self)
      (shape' ▸ List.mem_append_right _ List.mem_cons_self) same
  subst equal
  have once := distinct.of_map
  rw [shape] at once
  rcases List.nodup_append.mp once with ⟨_, later, apart⟩
  have notBefore : row ∉ before := fun member => apart row member row List.mem_cons_self rfl
  exact (List.append_cons_inj_of_notMem notBefore (List.nodup_cons.mp later).1).mp
    (shape.symm.trans shape')

/-- Rows that come after a row come after the ones at or before it. -/
theorem exists_shape_of_mem {before after : List Row} {row earlier : Row}
    (shape : rows = before ++ row :: after) (sooner : earlier ∈ before ++ [row]) :
    ∃ front back, rows = front ++ earlier :: back ∧ ∀ later ∈ after, later ∈ back := by
  rw [List.append_cons] at shape
  rcases List.append_of_mem sooner with ⟨front, between, whole⟩
  refine ⟨front, between ++ after, ?_, fun later member => List.mem_append_right _ member⟩
  rw [shape, whole, List.append_assoc, List.cons_append]

/-- The row of a page with an index is that of the page that the index names, which comes
earlier. -/
theorem HasRows.exists_target (named : isWellNamedForest forest = true)
    (made : HasRows placeholderPattern (.root params) forest rows)
    (member : trail ∈ trailsForest forest) {index : String}
    (marked : trailIndex? trail = some index) :
    ∃ target targetRow before after, RedirectsTo forest trail target ∧
      rows = before ++ targetRow.aliased (trailName trail) :: after ∧ targetRow ∈ before ∧
      targetRow.page = trailName target := by
  have stands := made.stands member
  rw [marked] at stands
  cases stands with
  | @indexed _ before after targetRow shape earlier name =>
      rw [page_along_root named member] at shape name
      have listed : targetRow.page ∈ rows.map Row.page :=
        List.mem_map_of_mem (shape ▸ List.mem_append_left _ earlier)
      rcases List.mem_map.mp ((made.perm_trailName named).mem_iff.mp listed) with
        ⟨target, among, same⟩
      exact ⟨target, targetRow, before, after,
        ⟨member, among, index, marked, same.trans name⟩, shape, earlier, same.symm⟩

/-- Following indices ends at a page without an index.  Its row stands at or before that of the
page where one has started, which differs from it in the name only. -/
theorem HasRows.exists_last (named : isWellNamedForest forest = true)
    (made : HasRows placeholderPattern (.root params) forest rows)
    (member : trail ∈ trailsForest forest) {before after : List Row} {row : Row}
    (shape : rows = before ++ row :: after) (isRow : row.page = trailName trail) :
    ∃ last lastRow, ReflTransGen (RedirectsTo forest) trail last ∧ last ∈ trailsForest forest ∧
      trailIndex? last = none ∧
      Row.compile? (trailName last) ((Base.root params).along last).path
        ((Base.root params).along last).mappers placeholderPattern = some lastRow ∧
      lastRow ∈ before ++ [row] ∧ row = lastRow.aliased (trailName trail) := by
  have distinct := made.nodup_page named
  -- on the number of rows before, since the row that is copied comes earlier
  induction place : before.length using Nat.strong_induction_on
    generalizing trail before after row with
  | _ count ih =>
      cases marked : trailIndex? trail with
      | none =>
          have stands := made.stands member
          rw [marked] at stands
          cases stands with
          | @own own among compiled =>
              rw [page_along_root named member] at compiled
              rcases List.append_of_mem among with ⟨front, back, shape'⟩
              have name := (Row.isCompiled_of_compile? compiled).2.1
              rcases eq_of_page_eq distinct shape shape' (isRow.trans name.symm) with ⟨_, rfl, _⟩
              exact ⟨trail, row, .refl, member, marked, compiled,
                List.mem_append_right _ List.mem_cons_self, isRow ▸ rfl⟩
      | some index =>
          rcases made.exists_target named member marked with
            ⟨target, targetRow, front, back, redirects, shape', earlier, isTarget⟩
          rcases eq_of_page_eq distinct shape shape' isRow with ⟨rfl, rfl, rfl⟩
          rcases List.append_of_mem earlier with ⟨front, between, rfl⟩
          rw [List.append_assoc, List.cons_append] at shape
          have fewer : front.length < count := by
            rw [← place, List.length_append, List.length_cons]
            omega
          rcases ih front.length fewer redirects.2.1 shape isTarget rfl with
            ⟨last, lastRow, follows, among, ends, compiled, sooner, same⟩
          refine ⟨last, lastRow, .head redirects follows, among, ends, compiled, ?_, ?_⟩
          · rcases List.mem_append.mp sooner with front | here
            · exact List.mem_append_left _ (List.mem_append_left _ front)
            · rw [List.mem_singleton.mp here]
              exact List.mem_append_left _ (List.mem_append_right _ List.mem_cons_self)
          · rw [same]; rfl

/-! ## Lookups -/

/-- A row is not found by a path if an earlier one accepts all its paths. -/
theorem page_ne_of_findByPath? {table : Table} (distinct : (table.rows.map Row.page).Nodup)
    {before after : List Row} {first row found : Row}
    (shape : table.rows = before ++ first :: after) (later : row ∈ after) {pathname : String}
    (covers : row.matchesPath pathname = true → first.matchesPath pathname = true)
    (isFound : table.findByPath? pathname = some found) : found.page ≠ row.page := by
  intro same
  have member : row ∈ table.rows :=
    shape ▸ List.mem_append_right _ (List.mem_cons_of_mem _ later)
  rcases mem_of_findByPath? isFound with ⟨among, accepts⟩
  have equal := List.inj_on_of_nodup_map distinct among member same
  rcases findByPath?_of_matchesPath shape (covers (equal ▸ accepts)) with ⟨sooner, among, isSooner⟩
  cases isSooner.symm.trans isFound
  have once := distinct.of_map
  rw [shape, List.append_cons before first after] at once
  exact (List.nodup_append.mp once).2.2 _ among _ later equal

/-! ## Following indices -/

theorem descends_of_transGen (named : isWellNamedForest forest = true)
    {other : List PageDeclaration} (follows : TransGen (RedirectsTo forest) trail other) :
    trail <+: other ∧ trail ≠ other := by
  have further : trail <+: other ∧ trail.length < other.length := by
    induction follows with
    | single redirects => exact redirects.descends named
    | tail _ redirects ih =>
        have next := redirects.descends named
        exact ⟨ih.1.trans next.1, Nat.lt_trans ih.2 next.2⟩
  exact ⟨further.1, fun same => Nat.ne_of_lt further.2 (congrArg _ same)⟩

/-- Wherever one is on the way, one comes to the page without an index. -/
theorem leadsOn (named : isWellNamedForest forest = true) {other last : List PageDeclaration}
    (reaches : ReflTransGen (RedirectsTo forest) trail last) (ends : trailIndex? last = none)
    (follows : ReflTransGen (RedirectsTo forest) trail other) :
    ReflTransGen (RedirectsTo forest) other last := by
  have unique : Relator.RightUnique (RedirectsTo forest) :=
    fun _ _ _ redirects again => redirects.unique named again
  rcases ReflTransGen.total_of_right_unique unique follows reaches with onward | back
  · exact onward
  · rcases back.cases_head with same | ⟨next, ⟨_, _, index, marked, _⟩, _⟩
    · exact same ▸ .refl
    · exact absurd (ends.symm.trans marked) (Option.some_ne_none index).symm

/-- A page with an index, the page that the index names, and the page at which following
indices ends, with their rows. -/
structure Redirection (forest : List PageTree) (config : Config) (table : Table)
    (trail target last : List PageDeclaration) (row targetRow lastRow : Row) : Prop where
  /-- The index names one page. -/
  names : ∀ other, RedirectsTo forest trail other ↔ other = target
  /-- Following indices goes down, wherever one is, and leads on to the last page. -/
  descends : ∀ other, TransGen (RedirectsTo forest) trail other →
    trail <+: other ∧ trail ≠ other ∧ ReflTransGen (RedirectsTo forest) other last
  reaches : TransGen (RedirectsTo forest) trail last
  ends : trailIndex? last = none
  row_eq : table.findByPage? (trailName trail) = some row
  targetRow_eq : table.findByPage? (trailName target) = some targetRow
  lastRow_eq : table.findByPage? (trailName last) = some lastRow
  /-- The row of the page is that of its target. -/
  path : row.path = targetRow.path
  placeholders : row.placeholders = targetRow.placeholders
  mappers : row.mappers = targetRow.mappers
  matchesPath : row.matchesPath = targetRow.matchesPath
  /-- The template and the mappers of all three rows are those declared on the last trail. -/
  lastPath : targetRow.path = ((Base.root config.params).along last).path
  lastMappers : targetRow.mappers = ((Base.root config.params).along last).mappers
  /-- The three pages are at the same locations. -/
  targetLocation : ∀ data query, Router.locationOf ⟨config, table⟩ ⟨trailName trail, data, query⟩ =
    Router.locationOf ⟨config, table⟩ ⟨trailName target, data, query⟩
  lastLocation : ∀ data query, Router.locationOf ⟨config, table⟩ ⟨trailName trail, data, query⟩ =
    Router.locationOf ⟨config, table⟩ ⟨trailName last, data, query⟩
  /-- The page is not found by a path. -/
  hiddenFromPath : ∀ pathname found, table.findByPath? pathname = some found →
    found.page ≠ trailName trail
  hiddenFromCapture : ∀ pathname found data, table.capturePath? pathname = some (found, data) →
    found.page ≠ trailName trail
  /-- A path that the row of the page accepts is found at or before the row of the last page. -/
  forestalled : ∃ before after, table.rows = before ++ lastRow :: after ∧ row ∈ after ∧
    ∀ pathname, row.matchesPath pathname = true → ∃ found ∈ before ++ [lastRow],
      table.findByPath? pathname = some found ∧
        ∃ data, table.capturePath? pathname = some (found, data)

/-- Every index of a well named forest with a table redirects its page. -/
theorem exists_redirection {config : Config} {table : Table}
    (named : isWellNamedForest forest = true)
    (compiled : compile forest config.params config.placeholderPattern = .ok table)
    (member : trail ∈ trailsForest forest) {index : String}
    (marked : trailIndex? trail = some index) :
    ∃ target last row targetRow lastRow,
      Redirection forest config table trail target last row targetRow lastRow := by
  have made := hasRows_of_compile compiled
  have distinct := made.nodup_page named
  rcases made.exists_target named member marked with
    ⟨target, targetRow, before, after, redirects, shape, earlier, isTarget⟩
  rcases List.append_of_mem earlier with ⟨front, between, rfl⟩
  rw [List.append_assoc, List.cons_append] at shape
  rcases made.exists_last named redirects.2.1 shape isTarget with
    ⟨last, lastRow, follows, _, ends, ownRow, sooner, same⟩
  have reaches : TransGen (RedirectsTo forest) trail last := .head' redirects follows
  rcases Row.isCompiled_of_compile? ownRow with ⟨_, isLast, lastPath, lastMappers⟩
  -- the rows stand in the order of the last page, the target and the page itself
  rcases exists_shape_of_mem shape sooner with ⟨sooner, later, lastShape, onward⟩
  have rowLater := onward _ (List.mem_append_right between List.mem_cons_self)
  have rowFound : table.findByPage? (trailName trail) =
      some (targetRow.aliased (trailName trail)) :=
    Router.findByPage?_eq_some distinct
      (lastShape ▸ List.mem_append_right _ (List.mem_cons_of_mem _ rowLater))
  have targetFound : table.findByPage? (trailName target) = some targetRow :=
    isTarget ▸ Router.findByPage?_eq_some distinct
      (shape ▸ List.mem_append_right _ List.mem_cons_self)
  have lastFound : table.findByPage? (trailName last) = some lastRow :=
    isLast ▸ Router.findByPage?_eq_some distinct
      (lastShape ▸ List.mem_append_right _ List.mem_cons_self)
  have covers : ∀ pathname, (targetRow.aliased (trailName trail)).matchesPath pathname = true →
      lastRow.matchesPath pathname = true := by
    intro pathname accepts
    rw [same] at accepts
    exact accepts
  have hidden : ∀ pathname found, table.findByPath? pathname = some found →
      found.page ≠ trailName trail := fun pathname found isFound =>
    page_ne_of_findByPath? distinct lastShape rowLater (covers pathname) isFound
  refine ⟨target, last, targetRow.aliased (trailName trail), targetRow, lastRow, ?_⟩
  exact {
    names := fun other =>
      ⟨fun again => again.unique named redirects, fun equal => equal ▸ redirects⟩
    descends := fun other followed =>
      have further := descends_of_transGen named followed
      ⟨further.1, further.2, leadsOn named reaches.to_reflTransGen ends followed.to_reflTransGen⟩
    reaches := reaches
    ends := ends
    row_eq := rowFound
    targetRow_eq := targetFound
    lastRow_eq := lastFound
    path := rfl
    placeholders := rfl
    mappers := rfl
    matchesPath := rfl
    lastPath := same ▸ lastPath
    lastMappers := same ▸ lastMappers
    targetLocation := fun data query => by
      simp only [Router.locationOf, rowFound, targetFound, Row.renderPath_aliased]
    lastLocation := fun data query => by
      simp only [Router.locationOf, rowFound, lastFound, same, Row.renderPath_aliased]
    hiddenFromPath := hidden
    hiddenFromCapture := fun pathname found data captured =>
      hidden pathname found (by rw [← map_fst_capturePath?, captured, Option.map_some])
    forestalled := by
      refine ⟨sooner, later, lastShape, rowLater, fun pathname accepts => ?_⟩
      rcases findByPath?_of_matchesPath lastShape (covers pathname accepts) with
        ⟨found, among, isFound⟩
      exact ⟨found, among, isFound, exists_capturePath?_eq_some isFound⟩ }

/-- A mapper that leaves texts as they are. -/
def wordMapper : Mapper where
  identity := 1
  encode := plainText
  decode := .string

def handbookPage : PageDeclaration :=
  ⟨"docs", some "/docs/:version", some "guide", some [("version", Router.versionMapper)]⟩

/-- The handbook is shown as its guide, and the guide as a page two levels below, for which the
mapper of the handbook is replaced. -/
def handbookForest : List PageTree :=
  [.page handbookPage
    [.page ⟨"guide", none, some "intro.start", none⟩
      [.page ⟨"intro", some "/:chapter", none, some [("version", wordMapper)]⟩
        [.page ⟨"start", some "", none, none⟩ []]]]]

/-- The page where indices end has the template of the page above it, which forestalls it too. -/
theorem exists_redirection_handbook :
    ∃ table target last row targetRow lastRow,
      compile handbookForest [] "[^/]+" = .ok table ∧
      Redirection handbookForest {} table [handbookPage] target last row targetRow lastRow ∧
      row.path = "/docs/:version/guide/:chapter" ∧
      (row.mappers.get? "version").map Mapper.identity = some 1 ∧
      (table.findByPath? "/docs/latest/guide/setup").map Row.page = some "docs.guide.intro" := by
  have computed : (compile handbookForest [] "[^/]+").toOption.map (fun table =>
      ((table.findByPage? "docs").map fun row =>
          (row.path, (row.mappers.get? "version").map Mapper.identity),
        (table.findByPath? "/docs/latest/guide/setup").map Row.page)) =
      some (some ("/docs/:version/guide/:chapter", some 1), some "docs.guide.intro") := by
    decide +kernel
  cases compiled : compile handbookForest [] "[^/]+" with
  | error error => rw [compiled] at computed; cases computed
  | ok table =>
      rw [compiled] at computed
      rcases Prod.mk.inj (Option.some.inj computed) with ⟨shown, found⟩
      rcases @exists_redirection handbookForest [handbookPage] {} table rfl compiled (.head _)
          "guide" rfl with
        ⟨target, last, row, targetRow, lastRow, redirection⟩
      have isRow : table.findByPage? "docs" = some row := redirection.row_eq
      rw [isRow] at shown
      rcases Prod.mk.inj (Option.some.inj shown) with ⟨path, mapper⟩
      exact ⟨table, target, last, row, targetRow, lastRow, rfl, redirection, path, mapper, found⟩

end Table
end PageRouting
