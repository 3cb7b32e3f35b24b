import PageRouting.Proofs.Query.RoundTrip
import PageRouting.Proofs.Router.Table

namespace PageRouting

/-!
# Routes that come back from their locations

A route is read back from the location it leads to if nothing is lost on the
way: the query is one that comes back from its text, each value of the data is
spelled by one segment that determines it, placeholders stand at the ends of
segments, and no earlier row takes the path for itself.
-/

open Json (Value Object)

/-! ## Data of one row -/

/-- A text that fills a placeholder of one segment. -/
def IsSegmentText (text : String) : Prop :=
  text ≠ "" ∧ '/' ∉ text.toList

instance (text : String) : Decidable (IsSegmentText text) :=
  inferInstanceAs (Decidable (_ ∧ _))

namespace Row

/-- The value of a placeholder is spelled by a segment text from which it is read
back. -/
def IsInvertible (row : Row) (name : String) (value : Value) : Prop :=
  match row.mappers.get? name with
  | none => ∃ text, value = .string text ∧ IsSegmentText text
  | some mapper =>
      IsSegmentText (mapper.encode value) ∧
        (mapper.decode (mapper.encode value)).same value = true

theorem IsInvertible.isSegmentText {row : Row} {name : String} {value : Value} {data : Object}
    (invertible : row.IsInvertible name value) (found : data.get? name = some value) :
    IsSegmentText (row.placeholderText data name) := by
  unfold IsInvertible at invertible
  unfold placeholderText
  cases mapper : row.mappers.get? name with
  | none =>
      rw [mapper] at invertible
      rcases invertible with ⟨text, rfl, segment⟩
      rw [found]
      exact segment
  | some mapped =>
      rw [mapper] at invertible
      rw [found]
      exact invertible.1

theorem IsInvertible.same {row : Row} {name : String} {value : Value} {data : Object}
    (invertible : row.IsInvertible name value) (found : data.get? name = some value) :
    (row.placeholderValue name (row.placeholderText data name)).same value = true := by
  unfold IsInvertible at invertible
  unfold placeholderText placeholderValue
  cases mapper : row.mappers.get? name with
  | none =>
      rw [mapper] at invertible
      rcases invertible with ⟨text, rfl, _⟩
      rw [found]
      exact beq_self_eq_true text
  | some mapped =>
      rw [mapper] at invertible
      rw [found]
      exact invertible.2

/-- Data for exactly the placeholders of a row, each value invertible. -/
structure Covers (row : Row) (data : Object) : Prop where
  distinct : data.keys.Nodup
  keys : ∀ name, name ∈ data.keys ↔ name ∈ row.placeholders
  invertible : ∀ entry ∈ data, row.IsInvertible entry.1 entry.2

variable {row : Row} {data : Object}

theorem Covers.exists_get? (covers : row.Covers data) {name : String}
    (member : name ∈ row.placeholders) :
    ∃ value, data.get? name = some value ∧ row.IsInvertible name value := by
  rcases Object.mem_keys.mp ((covers.keys name).mpr member) with ⟨value, entry⟩
  exact ⟨value, Object.get?_eq_some_of_mem covers.distinct entry, covers.invertible _ entry⟩

/-- Texts of the placeholders, in their order. -/
def placeholderTexts (row : Row) (data : Object) : List (List Char) :=
  Template.renderedValues (row.placeholderText data) (Template.pieces row.path.toList)

theorem isFilling_renderPath (covers : row.Covers data) :
    Template.IsFilling (Template.pieces row.path.toList) (row.placeholderTexts data)
      (row.renderPath data).toList where
  count := List.length_map _
  segments := by
    intro value member
    rcases List.mem_map.mp member with ⟨name, among, rfl⟩
    rcases covers.exists_get? (List.mem_map_of_mem among) with ⟨found, get?, invertible⟩
    rcases invertible.isSegmentText get? with ⟨nonempty, slashless⟩
    exact ⟨fun empty => nonempty (String.toList_eq_nil_iff.mp empty), slashless⟩
  text_eq := Or.inl (Template.toList_render _ _)

/-- Separated placeholders have the texts they were rendered with. -/
theorem capture?_renderPath (compiled : row.IsCompiled "[^/]+")
    (separated : Template.IsSeparated (Template.pieces row.path.toList))
    (covers : row.Covers data) :
    row.capture? (row.renderPath data) = some (row.dataOfValues (row.placeholderTexts data)) := by
  have filling := isFilling_renderPath covers
  rcases Template.exists_longestValues? filling with ⟨longest, found, _⟩
  have same := filling.unique separated (Template.isFilling_of_longestValues? found)
  rw [capture?_eq compiled, found, Option.map_some, same]

theorem lookup_reverse_map {α : Type} (names : List String) (value : String → α) (name : String) :
    (names.map fun other => (other, value other)).reverse.lookup name =
      if name ∈ names then some (value name) else none := by
  induction names using List.reverseRecOn with
  | nil => rfl
  | append_singleton names last ih =>
      rw [List.map_append, List.reverse_append]
      simp only [List.map_cons, List.map_nil, List.reverse_singleton, List.singleton_append,
        List.lookup_cons, List.mem_append, List.mem_singleton]
      by_cases same : name = last
      · simp [same]
      · simp only [beq_eq_false_iff_ne.mpr same, ih, same, or_false]

/-- The data that is read back has the placeholders for its keys, and under each
of them what its text stands for. -/
theorem get?_dataOfValues_placeholderTexts (row : Row) (data : Object) (name : String) :
    (row.dataOfValues (row.placeholderTexts data)).get? name =
      if name ∈ row.placeholders then
        some (row.placeholderValue name (row.placeholderText data name))
      else none := by
  have zipped : row.placeholders.zip (row.placeholderTexts data) =
      row.placeholders.map fun other => (other, (row.placeholderText data other).toList) := by
    rw [placeholderTexts, renderedValues_pieces, List.map_prod_left_eq_zip]
  rw [get?_dataOfValues, zipped, lookup_reverse_map]
  split
  · rw [Option.map_some, String.ofList_toList]
  · rfl

theorem same_dataOfValues (covers : row.Covers data) :
    (row.dataOfValues (row.placeholderTexts data)).same data = true := by
  have distinct : (row.dataOfValues (row.placeholderTexts data)).keys.Nodup :=
    row.nodup_keys_dataOf _
  rw [Object.same_iff distinct covers.distinct]
  constructor
  · intro entry member
    have found := Object.get?_eq_some_of_mem distinct member
    rw [get?_dataOfValues_placeholderTexts] at found
    split at found
    · next among =>
        rcases covers.exists_get? among with ⟨value, get?, invertible⟩
        refine ⟨value, Object.mem_of_get?_eq_some get?, ?_⟩
        rw [← Option.some.inj found]
        exact invertible.same get?
    · exact absurd found.symm (Option.some_ne_none _)
  · intro entry member
    have among := (covers.keys entry.1).mp (Object.mem_keys.mpr ⟨entry.2, member⟩)
    have found := get?_dataOfValues_placeholderTexts row data entry.1
    rw [if_pos among] at found
    exact ⟨_, Object.mem_of_get?_eq_some found,
      (covers.invertible entry member).same (Object.get?_eq_some_of_mem covers.distinct member)⟩

end Row

/-! ## Routes -/

/-- A route of the given row that leads to a location of its own. -/
structure Route.LeadsBack (route : Route) (row : Row) : Prop where
  separated : Template.IsSeparated (Template.pieces row.path.toList)
  covers : row.Covers route.data
  wellFormed : (Value.object route.query).WellFormed
  plain : ∀ key ∈ (Value.object route.query).allKeys, Query.IsPlainKey key
  roundTrips : Query.RoundTrips route.query

namespace Router

/-- With the default placeholder pattern, a route that leads back is read from its
location, with or without a search text that says nothing, unless an earlier row
accepts the path. -/
theorem same_routeAt_locationOf {forest : List PageTree} {config : Config} {router : Router}
    (built : build forest config = .ok router) (segments : config.placeholderPattern = "[^/]+")
    {route : Route} {row : Row} (found : router.table.findByPage? route.page = some row)
    (leadsBack : route.LeadsBack row)
    (refused : ∀ earlier ∈ router.table.rows.takeWhile fun other => other.page != route.page,
      earlier.matchesPath (row.renderPath route.data) = false) :
    (router.routeAt (router.locationOf route)).same route = true ∧
      (router.routeAt (router.locationOf route).withoutEmptySearch).same route = true := by
  rcases isCompiled_of_build built with ⟨_, compiled⟩
  rw [segments] at compiled
  rcases Table.exists_of_findByPage? found with ⟨atPage, before, after, rows, others⟩
  have among : row ∈ router.table.rows :=
    rows ▸ List.mem_append_right _ List.mem_cons_self
  have earlier : router.table.rows.takeWhile (fun other => other.page != route.page) = before := by
    have differ := fun other member => bne_iff_ne.mpr (others other member)
    rw [rows, List.takeWhile_append_of_pos differ, List.takeWhile_cons_of_neg (by simp [atPage]),
      List.append_nil]
  rw [earlier] at refused
  have captured := Table.capturePath?_eq rows refused
    (Row.capture?_renderPath (compiled row among) leadsBack.separated leadsBack.covers)
  have data := Row.same_dataOfValues leadsBack.covers
  rcases leadsBack.roundTrips.read_write leadsBack.wellFormed leadsBack.plain with ⟨bare, marked⟩
  have query : Object.same route.query route.query = true :=
    Json.Value.same_refl_of_wellFormed leadsBack.wellFormed
  have location : router.locationOf route =
      ⟨row.renderPath route.data, "?" ++ Query.write route.query⟩ := by
    simp only [locationOf, found]
  have back : ∀ search, Query.read search = route.query →
      (router.routeAt ⟨row.renderPath route.data, search⟩).same route = true := by
    intro search read
    simp only [routeAt, captured, Route.same, atPage, beq_self_eq_true, data, read, query,
      Bool.and_self]
  constructor
  · rw [location]
    exact back _ marked
  · rw [location, Location.withoutEmptySearch]
    split
    · next silent =>
        -- a search text that says nothing is that of the empty query
        have empty : Query.write route.query = "" := by
          have texts := congrArg String.toList silent
          rw [String.toList_append] at texts
          exact String.toList_eq_nil_iff.mp (List.cons.inj texts).2
        rw [empty] at bare
        exact back _ bare
    · exact back _ marked

/-- A mapper that marks versions in a path with a letter. -/
def versionMapper : Mapper where
  identity := 0
  encode := fun value => "v" ++ plainText value
  decode := fun text => .string (String.ofList (text.toList.drop 1))

def docsForest : List PageTree :=
  [.page ⟨"docs", some "/docs/:version/:page", none, none⟩ []]

def docsConfig : Config :=
  { params := [("version", versionMapper)] }

def docsRoute : Route where
  page := "docs"
  data := [("page", .string "a-b"), ("version", .string "2")]
  query := Query.nestedQuery

theorem exists_build_docsForest :
    ∃ row : Row, build docsForest docsConfig = .ok ⟨docsConfig, ⟨[row]⟩⟩ ∧ row.page = "docs" ∧
      row.path = "/docs/:version/:page" ∧ row.mappers = docsConfig.params := by
  have compiles : (Row.compile? "docs" "/docs/:version/:page" docsConfig.params
      docsConfig.placeholderPattern).isSome = true := by decide +kernel
  rcases Option.isSome_iff_exists.mp compiles with ⟨row, compiled⟩
  rcases Row.isCompiled_of_compile? compiled with ⟨_, page, path, mappers⟩
  have valid : docsConfig.error? = none := by decide +kernel
  have name : Base.pageBelow ⟨"", "", docsConfig.params⟩ "docs" = "docs" := by decide
  have own : PageDeclaration.ownPath ⟨"docs", some "/docs/:version/:page", none, none⟩ =
      "/docs/:version/:page" := rfl
  refine ⟨row, ?_, page, path, mappers⟩
  simp only [build, valid, Table.compile, docsForest, Table.forestRows, Table.treeRows,
    Table.pageRows, Base.below, name, own, String.empty_append]
  rw [compiled]
  rfl

theorem leadsBack_docsRoute {row : Row} (path : row.path = "/docs/:version/:page")
    (mappers : row.mappers = docsConfig.params) : docsRoute.LeadsBack row := by
  have pieces : Template.pieces row.path.toList =
      [.literal "/docs/".toList, .placeholder "version".toList, .literal ['/'],
        .placeholder "page".toList] := by
    rw [path]
    decide
  have names : row.placeholders = ["version", "page"] := by
    rw [Row.placeholders, path]
    decide
  have version : row.IsInvertible "version" (.string "2") := by
    unfold Row.IsInvertible
    rw [mappers]
    exact ⟨by decide, rfl⟩
  have page : row.IsInvertible "page" (.string "a-b") := by
    unfold Row.IsInvertible
    rw [mappers]
    exact ⟨"a-b", rfl, by decide⟩
  have covers : row.Covers docsRoute.data :=
    { distinct := by decide
      keys := by
        intro name
        rw [names]
        simp only [docsRoute, Object.keys, List.map_cons, List.map_nil, List.mem_cons,
          List.not_mem_nil, or_false]
        exact or_comm
      invertible :=
        List.forall_mem_cons.mpr ⟨page, List.forall_mem_cons.mpr ⟨version, by simp⟩⟩ }
  exact
    { separated := by
        rw [pieces]
        exact ⟨rfl, trivial, trivial⟩
      covers := covers
      wellFormed := Query.wellFormed_nestedQuery
      plain := Query.plain_nestedQuery
      roundTrips := Query.roundTrips_nestedQuery }

/-- A route with a mapped value and a nested query is read back. -/
theorem same_routeAt_docsRoute :
    ∃ router row, build docsForest docsConfig = .ok router ∧
      router.table.findByPage? docsRoute.page = some row ∧ docsRoute.LeadsBack row ∧
      (router.routeAt (router.locationOf docsRoute)).same docsRoute = true := by
  rcases exists_build_docsForest with ⟨row, built, page, path, mappers⟩
  have found : Table.findByPage? ⟨[row]⟩ docsRoute.page = some row := by
    rw [Table.findByPage?, List.find?_cons_of_pos (by rw [page]; rfl)]
  have leadsBack := leadsBack_docsRoute path mappers
  have back := same_routeAt_locationOf built rfl found leadsBack (by simp [docsRoute, page])
  exact ⟨_, row, built, found, leadsBack, back.1⟩

end Router

end PageRouting
