import PageRouting.Proofs.Table.Inheritance
import PageRouting.Proofs.Template.Concatenation

namespace PageRouting

/-!
# Paths that are inherited

The path of a page goes on from that of the page above it.  The two are joined
as texts, so a page could change the last placeholder above it: after `/:a` the
path `b` gives the name `ab`.  It cannot if its own path begins outside of words,
as it does with a slash.  Then the placeholders of a page are those declared on
its trail, and its path is rendered as that of the page above it and its own.

The second of these needs the mappers to be the same.  A page that sets another
mapper for an inherited placeholder renders the inherited part anew.
-/

open PageTree (nearestMapper? trailAt? trailIndex? rowPlacesForest trailsForest)

/-- No page of the forest declares a path that begins with a word character. -/
def PageTree.PathsStartApart (forest : List PageTree) : Prop :=
  ∀ trail ∈ trailsForest forest, ∀ declaration ∈ trail,
    Template.StartsApart declaration.ownPath.toList

/-- A path that goes on from that of another row is rendered as that path and the rest, if the
mappers of the placeholders up to there are the same. -/
theorem Row.renderPath_eq_append {row above : Row} {rest : String}
    (path : row.path = above.path ++ rest) (apart : Template.StartsApart rest.toList)
    (mappers : ∀ name ∈ above.placeholders, row.mappers.get? name = above.mappers.get? name)
    (data : Json.Object) :
    row.renderPath data =
      above.renderPath data ++ Template.render (row.placeholderText data) rest := by
  rw [renderPath, renderPath, path, Template.render_append _ apart]
  congr 1
  apply Template.render_congr
  intro name member
  rw [placeholderText_eq_encodedBy, placeholderText_eq_encodedBy, mappers name member]

namespace Table

/-- The row is the one of the page at the place: it stands where the place stands in the order of
rows. -/
def StandsAt (forest : List PageTree) (table : Table) (place : List Nat) (row : Row) : Prop :=
  ∃ number : Nat, (rowPlacesForest forest)[number]? = some place ∧ table.rows[number]? = some row

variable {forest : List PageTree} {table : Table} {place : List Nat}
  {trail : List PageDeclaration}

/-- The row of a page without an index has the paths on its trail, and the nearest mappers. -/
theorem HasRows.exists_standsAt {params : MapperTable} {placeholderPattern : String}
    (made : HasRows placeholderPattern (.root params) forest table.rows)
    (leads : trailAt? forest place = some trail) (unmarked : trailIndex? trail = none) :
    ∃ row, StandsAt forest table place row ∧
      row.path = String.join (trail.map PageDeclaration.ownPath) ∧
      ∀ name, row.mappers.get? name = nearestMapper? params trail name := by
  rcases made.exists_rowAt leads with ⟨number, row, placed, standing, isRow⟩
  rcases Row.isCompiled_of_compile? (isRow.compile?_eq leads unmarked) with
    ⟨_, _, path, mappers⟩
  refine ⟨row, ⟨number, placed, standing⟩, ?_, fun name => ?_⟩
  · rw [path, Base.path_along]
    exact String.empty_append
  · rw [mappers]
    exact Base.get?_mappers_along (.root params) trail name

/-- The row of a page without an index has the placeholders of all paths on its trail, and the rows
of the pages directly below go on from it. -/
structure PassesPathOn (forest : List PageTree) (table : Table) (place : List Nat)
    (trail : List PageDeclaration) (row : Row) : Prop where
  stands : StandsAt forest table place row
  placeholders : row.placeholders = trail.flatMap fun declaration =>
    Template.names declaration.ownPath
  /-- If a page below sets no mapper for these placeholders, its path is rendered as the path of
  this page with its own path behind. -/
  below : ∀ number declaration,
    trailAt? forest (place ++ [number]) = some (trail ++ [declaration]) →
    declaration.index = none → (∀ name ∈ row.placeholders, declaration.ownMapper? name = none) →
    ∃ child, StandsAt forest table (place ++ [number]) child ∧
      ∀ data, child.renderPath data =
        row.renderPath data ++ Template.render (child.placeholderText data) declaration.ownPath

/-- If no path begins with a word character, paths are passed on to the pages below as they
are. -/
theorem exists_passesPathOn {config : Config}
    (compiled : compile forest config.params config.placeholderPattern = .ok table)
    (apart : PageTree.PathsStartApart forest) (leads : trailAt? forest place = some trail)
    (unmarked : trailIndex? trail = none) :
    ∃ row, PassesPathOn forest table place trail row := by
  have made := hasRows_of_compile compiled
  rcases made.exists_standsAt leads unmarked with ⟨row, stands, path, mappers⟩
  refine ⟨row, stands, ?_, ?_⟩
  · have along := apart trail (PageTree.exists_trailAt?_iff.mp ⟨place, leads⟩)
    rw [Row.placeholders, path, Template.names_join (List.forall_mem_map.mpr along),
      List.flatMap_map]
  · intro number declaration further ownUnmarked keeps
    have own : Template.StartsApart declaration.ownPath.toList :=
      apart _ (PageTree.exists_trailAt?_iff.mp ⟨_, further⟩) declaration List.mem_concat_self
    rcases made.exists_standsAt further
        ((PageTree.trailIndex?_concat trail declaration).trans ownUnmarked) with
      ⟨child, childStands, childPath, childMappers⟩
    refine ⟨child, childStands, Row.renderPath_eq_append ?_ own ?_⟩
    · rw [childPath, path, List.map_append, List.map_singleton, String.join_append,
        String.join_cons, String.join_nil, String.append_empty]
    · intro name member
      rw [childMappers, mappers, PageTree.nearestMapper?_concat, keeps name member, Option.none_or]

def volumePage : PageDeclaration :=
  ⟨"docs", some "/docs/:version:", none, some [("version", Router.versionMapper)]⟩

def passagePage : PageDeclaration :=
  ⟨"passage", some ":passage", none, some [("passage", wordMapper)]⟩

/-- The path above ends in a colon and the one below begins with one.  Both colons in the middle
are outside of names: the first is literal, and the second marks a placeholder. -/
def volumeForest : List PageTree :=
  [.page volumePage [.page passagePage []]]

theorem passesPathOn_volumeForest :
    ∃ table row child, compile volumeForest [] "[^/]+" = .ok table ∧
      PageTree.PathsStartApart volumeForest ∧
      PassesPathOn volumeForest table [0] [volumePage] row ∧ row.placeholders = ["version"] ∧
      StandsAt volumeForest table [0, 0] child ∧
      (∀ data, child.renderPath data =
        row.renderPath data ++ Template.render (child.placeholderText data) ":passage") ∧
      table.rows.map (fun row =>
          row.renderPath [("passage", .string "intro"), ("version", .string "2")]) =
        ["/docs/v2:", "/docs/v2:intro"] := by
  have computed : (compile volumeForest [] "[^/]+").toOption.any (fun table =>
      decide (table.rows.map (fun row =>
          row.renderPath [("passage", .string "intro"), ("version", .string "2")]) =
        ["/docs/v2:", "/docs/v2:intro"])) = true := by
    decide +kernel
  rcases exists_of_computed computed with ⟨table, compiled, rendered⟩
  have apart : PageTree.PathsStartApart volumeForest := by
    unfold PageTree.PathsStartApart
    decide
  have leads : trailAt? volumeForest [0] = some [volumePage] := rfl
  rcases @exists_passesPathOn volumeForest table _ _ {} compiled apart leads rfl with
    ⟨row, passes⟩
  have placeholders : row.placeholders = ["version"] := by
    rw [passes.placeholders]
    decide
  have keeps : ∀ name ∈ row.placeholders, passagePage.ownMapper? name = none := by
    intro name member
    rw [placeholders] at member
    rw [List.mem_singleton.mp member]
    rfl
  rcases passes.below 0 passagePage rfl rfl keeps with ⟨child, stands, renders⟩
  exact ⟨table, row, child, compiled, apart, passes, placeholders, stands, renders,
    of_decide_eq_true rendered⟩

end Table
end PageRouting
