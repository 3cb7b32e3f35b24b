import PageRouting.Proofs.Table.Arrangement

namespace PageRouting

/-!
# Mappers that are inherited

A page inherits the mappers of the pages above it, and each of them may set
others in their place.  So the mapper of a name is the one declared nearest to
the page on the way up to its root, and that of the configuration if there is
none on the way.  What other pages declare does not matter.

The row of a page uses this mapper wherever the name stands in the full template.
A mapper that is declared far down also writes and reads the placeholders that
the pages above have declared.
-/

/-! ## Lookups -/

namespace MapperTable

/-- The later entries take the place of the earlier ones, and all of them that of the table. -/
theorem get?_override (table own : MapperTable) (name : String) :
    (table.override own).get? name = (own.reverse.lookup name).or (table.get? name) := by
  induction own generalizing table with
  | nil => rw [List.reverse_nil, List.lookup_nil, Option.none_or]; rfl
  | cons entry own ih =>
      rcases entry with ⟨key, mapper⟩
      have first : (table.override ((key, mapper) :: own)).get? name =
          ((table.insert key mapper).override own).get? name := rfl
      rw [first, ih, get?_insert, List.reverse_cons, List.lookup_append, Option.or_assoc,
        List.lookup_cons, List.lookup_nil]
      by_cases same : name = key
      · rw [if_pos same, beq_iff_eq.mpr same, Option.some_or]
      · rw [if_neg same, beq_eq_false_iff_ne.mpr same, Option.none_or]

end MapperTable

/-- The mapper that a page declares for a name by itself.  Of two for one name the later counts. -/
def PageDeclaration.ownMapper? (declaration : PageDeclaration) (name : String) : Option Mapper :=
  declaration.params.bind fun own => own.reverse.lookup name

/-- The mapper declared nearest to the end of a trail, and else the one for all pages. -/
def PageTree.nearestMapper? (params : MapperTable) (trail : List PageDeclaration) (name : String) :
    Option Mapper :=
  (trail.reverse.findSome? fun declaration => declaration.ownMapper? name).or (params.get? name)

theorem PageTree.nearestMapper?_concat (params : MapperTable) (trail : List PageDeclaration)
    (declaration : PageDeclaration) (name : String) :
    nearestMapper? params (trail ++ [declaration]) name =
      (declaration.ownMapper? name).or (nearestMapper? params trail name) := by
  rw [nearestMapper?, nearestMapper?, List.reverse_concat, List.findSome?_cons]
  cases declaration.ownMapper? name <;> rfl

open PageTree (nearestMapper? trailAt? trailIndex? trailName isWellNamedForest rowPlacesForest)

namespace Base

/-- One page sets its own mappers in the place of the inherited ones. -/
theorem get?_mappers_below (base : Base) (declaration : PageDeclaration) (name : String) :
    (base.below declaration).mappers.get? name =
      (declaration.ownMapper? name).or (base.mappers.get? name) := by
  rcases declaration with ⟨segment, path, index, _ | own⟩
  · exact (Option.none_or ..).symm
  · exact MapperTable.get?_override base.mappers own name

theorem get?_mappers_along (base : Base) (trail : List PageDeclaration) (name : String) :
    (base.along trail).mappers.get? name = nearestMapper? base.mappers trail name := by
  induction trail generalizing base with
  | nil => exact (Option.none_or ..).symm
  | cons declaration trail ih =>
      have first : base.along (declaration :: trail) = (base.below declaration).along trail := rfl
      rw [first, ih, nearestMapper?, nearestMapper?, get?_mappers_below, List.reverse_cons,
        List.findSome?_append, List.findSome?_singleton, Option.or_assoc]

end Base

/-! ## Texts and values -/

/-- The text of a value with the mapper of its placeholder, if there are any. -/
def encodedBy : Option Mapper → Option Json.Value → String
  | some mapper, value => mapper.encode (value.getD .null)
  | none, some value => plainText value
  | none, none => ""

/-- The value of a text with the mapper of its placeholder, if there is one. -/
def decodedBy : Option Mapper → String → Json.Value
  | some mapper, text => mapper.decode text
  | none, text => .string text

namespace Row

theorem placeholderText_eq_encodedBy (row : Row) (data : Json.Object) (name : String) :
    row.placeholderText data name = encodedBy (row.mappers.get? name) (data.get? name) := by
  unfold placeholderText
  cases row.mappers.get? name with
  | none => cases data.get? name <;> rfl
  | some mapper => cases data.get? name <;> rfl

theorem placeholderValue_eq_decodedBy (row : Row) (name text : String) :
    row.placeholderValue name text = decodedBy (row.mappers.get? name) text := by
  unfold placeholderValue
  cases row.mappers.get? name <;> rfl

end Row

namespace Table

/-- The row of a page uses the nearest mappers, to write locations and to read them. -/
structure MapsByNearest (forest : List PageTree) (config : Config) (table : Table)
    (trail : List PageDeclaration) (row : Row) : Prop where
  mapper : ∀ name, row.mappers.get? name = nearestMapper? config.params trail name
  path : row.path = String.join (trail.map PageDeclaration.ownPath)
  /-- The row is found by the name of the page, if no other page has that name. -/
  found : isWellNamedForest forest = true → table.findByPage? (trailName trail) = some row
  encodes : ∀ route, table.findByPage? route.page = some row →
    Router.urlOf ⟨config, table⟩ route = Location.href
      ⟨Template.render (fun name =>
          encodedBy (nearestMapper? config.params trail name) (route.data.get? name))
        (String.join (trail.map PageDeclaration.ownPath)),
        "?" ++ Query.write route.query⟩
  /-- The texts are those that the pattern captures, and the last one counts for a name. -/
  decodes : ∀ location data, table.capturePath? location.pathname = some (row, data) →
    (Router.routeAt ⟨config, table⟩ location).data = data ∧
      ∃ texts, row.pattern.captures? location.pathname = some texts ∧
        ∀ name, data.get? name =
          (((Template.names (String.join (trail.map PageDeclaration.ownPath))).zip
            texts).reverse.lookup name).map fun text =>
              decodedBy (nearestMapper? config.params trail name) (text.getD "")

/-- The row at a place is where the place is in the order of rows. -/
theorem HasRows.exists_rowAt {placeholderPattern : String} {base : Base} {forest : List PageTree}
    {rows : List Row} (made : HasRows placeholderPattern base forest rows) {place : List Nat}
    {trail : List PageDeclaration} (leads : trailAt? forest place = some trail) :
    ∃ (number : Nat) (row : Row), (rowPlacesForest forest)[number]? = some place ∧
      rows[number]? = some row ∧ RowAt placeholderPattern base forest rows place row := by
  have listed := PageTree.mem_rowPlacesForest.mpr ⟨trail, leads⟩
  rcases List.getElem_of_mem listed with ⟨number, inside, here⟩
  rcases List.forall₂_iff_get.mp made.forall₂_rowAt with ⟨lengths, related⟩
  have isRow := related number inside (lengths ▸ inside)
  refine ⟨number, rows[number], List.getElem?_eq_some_iff.mpr ⟨inside, here⟩,
    List.getElem?_eq_getElem _, ?_⟩
  rwa [List.get_eq_getElem, here] at isRow

/-- The row of a page without an index is compiled from what its trail contributes. -/
theorem RowAt.compile?_eq {placeholderPattern : String} {base : Base} {forest : List PageTree}
    {rows : List Row} {place : List Nat} {row : Row}
    (isRow : RowAt placeholderPattern base forest rows place row) {trail : List PageDeclaration}
    (leads : trailAt? forest place = some trail) (unmarked : trailIndex? trail = none) :
    Row.compile? (base.along trail).page (base.along trail).path (base.along trail).mappers
      placeholderPattern = some row := by
  rcases isRow with ⟨other, otherLeads, isRow⟩
  cases leads.symm.trans otherLeads
  rw [unmarked] at isRow
  cases isRow with
  | own compiled => exact compiled

/-- The row of a page without an index is the one at its place in the order of rows, and uses for
each name the mapper that is declared nearest on the trail. -/
theorem exists_mapsByNearest {forest : List PageTree} {config : Config} {table : Table}
    (compiled : compile forest config.params config.placeholderPattern = .ok table)
    {place : List Nat} {trail : List PageDeclaration} (leads : trailAt? forest place = some trail)
    (unmarked : trailIndex? trail = none) :
    ∃ (number : Nat) (row : Row), (rowPlacesForest forest)[number]? = some place ∧
      table.rows[number]? = some row ∧ MapsByNearest forest config table trail row := by
  have made := hasRows_of_compile compiled
  rcases made.exists_rowAt leads with ⟨number, row, placed, standing, isRow⟩
  rcases Row.isCompiled_of_compile? (isRow.compile?_eq leads unmarked) with
    ⟨_, page, path, mappers⟩
  have mapper : ∀ name, row.mappers.get? name = nearestMapper? config.params trail name := by
    intro name
    rw [mappers]
    exact Base.get?_mappers_along (.root config.params) trail name
  have whole : row.path = String.join (trail.map PageDeclaration.ownPath) := by
    rw [path, Base.path_along]
    exact String.empty_append
  refine ⟨number, row, placed, standing, mapper, whole, ?_, ?_, ?_⟩
  · intro named
    have member := PageTree.exists_trailAt?_iff.mp ⟨place, leads⟩
    rw [← page_along_root named member config.params, ← page]
    exact Router.findByPage?_eq_some (made.nodup_page named) (List.mem_of_getElem? standing)
  · intro route found
    have texts : row.placeholderText route.data = fun name =>
        encodedBy (nearestMapper? config.params trail name) (route.data.get? name) := by
      funext name
      rw [row.placeholderText_eq_encodedBy, mapper]
    simp only [Router.urlOf, Router.locationOf, found, Row.renderPath, texts, whole]
  · intro location data captured
    refine ⟨by simp only [Router.routeAt, captured], ?_⟩
    rcases List.exists_of_findSome?_eq_some captured with ⟨other, _, found⟩
    rcases Option.map_eq_some_iff.mp found with ⟨_, capture, same⟩
    cases same
    rcases Option.map_eq_some_iff.mp capture with ⟨texts, groups, rfl⟩
    refine ⟨texts, groups, fun name => ?_⟩
    rw [Row.get?_dataOf, Row.placeholders, whole]
    simp only [Row.placeholderValue_eq_decodedBy, mapper]

def manualPage : PageDeclaration :=
  ⟨"docs", some "/docs/:version", none, some [("version", Router.versionMapper)]⟩

def referencePage : PageDeclaration :=
  ⟨"api", none, none, some [("version", wordMapper)]⟩

def methodPage : PageDeclaration :=
  ⟨"methods", some "/:method", none, none⟩

/-- The reference sets another mapper for the version, which stands in the path of the page above
it.  Its sibling keeps the one of that page. -/
def manualForest : List PageTree :=
  [.page manualPage
    [.page referencePage [.page methodPage []], .page ⟨"guide", none, none, none⟩ []]]

def manualConfig : Config :=
  { params := [("method", Router.versionMapper), ("version", Router.versionMapper)] }

theorem exists_mapsByNearest_manual :
    ∃ table row, compile manualForest manualConfig.params "[^/]+" = .ok table ∧
      MapsByNearest manualForest manualConfig table [manualPage, referencePage, methodPage] row ∧
      Router.urlOf ⟨manualConfig, table⟩
        ⟨"docs.api.methods", [("method", .string "3"), ("version", .string "2")], []⟩ =
          "/docs/2/api/v3" ∧
      Router.urlOf ⟨manualConfig, table⟩ ⟨"docs.guide", [("version", .string "2")], []⟩ =
        "/docs/v2/guide" := by
  have computed : (compile manualForest manualConfig.params "[^/]+").toOption.any (fun table =>
      decide (Router.urlOf ⟨manualConfig, table⟩
          ⟨"docs.api.methods", [("method", .string "3"), ("version", .string "2")], []⟩ =
            "/docs/2/api/v3" ∧
        Router.urlOf ⟨manualConfig, table⟩ ⟨"docs.guide", [("version", .string "2")], []⟩ =
          "/docs/v2/guide")) = true := by
    decide +kernel
  rcases exists_of_computed computed with ⟨table, compiled, urls⟩
  have leads : trailAt? manualForest [0, 0, 0] = some [manualPage, referencePage, methodPage] := rfl
  rcases @exists_mapsByNearest manualForest manualConfig table compiled _ _ leads rfl with
    ⟨number, row, _, _, maps⟩
  exact ⟨table, row, compiled, maps, of_decide_eq_true urls⟩

end Table
end PageRouting
