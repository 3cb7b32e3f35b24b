import PageRouting.Proofs.Query.Exactness
import PageRouting.Proofs.Selection.Order
import PageRouting.Proofs.Table.Redirection

namespace PageRouting

open Json (Value Object)
open PageTree Relation

/-!
# Following a link

Who follows a link comes to a route that the link selects, and finds the link
unchanged there.  The page where one arrives need not be the one that the link
names: it is the page at which following indices ends, and lies below it.  The
data are read from the path, and the query from the search text, so that they
are those of the link up to the order of keys.

Equality of values does not see that order, but a mapper may.  A text is
therefore asked to be spelled the same again from the value that is read from
it, which is so if that value is the original one.
-/

/-! ## Pages below a page -/

/-- The page at which following indices ends is selected by the page where one starts. -/
theorem pageMatches_of_follows {forest : List PageTree} {trail last : List PageDeclaration}
    (follows : ReflTransGen (RedirectsTo forest) trail last) :
    pageMatches (trailName trail) (trailName last) = true := by
  induction follows with
  | refl => exact pageMatches_self _
  | tail _ redirects ih =>
      rcases redirects with ⟨_, _, index, _, name⟩
      rw [name]
      exact pageMatches_trans ih (pageMatches_append _ index)

/-- No page of a well named forest has an empty name. -/
theorem isEmpty_trailName {forest : List PageTree} (named : isWellNamedForest forest = true)
    {trail : List PageDeclaration} (member : trail ∈ trailsForest forest) :
    (trailName trail).isEmpty = false := by
  rcases exists_eq_cons_of_mem_trailsForest member with ⟨tree, _, below, rfl⟩
  exact isEmpty_trailName_cons (hasValidSegment_of_mem named member _ List.mem_cons_self) below

/-! ## Texts that are spelled again -/

namespace Row

variable {row : Row} {data : Object}

/-- Each mapper spells a value that it has read from a text of the data as it was. -/
def Respells (row : Row) (data : Object) : Prop :=
  ∀ entry ∈ data, ∀ mapper ∈ row.mappers.get? entry.1,
    mapper.encode (mapper.decode (mapper.encode entry.2)) = mapper.encode entry.2

/-- Values that are read back as they are are spelled again. -/
theorem respells_of_decode_encode (back : ∀ entry ∈ data, ∀ mapper ∈ row.mappers.get? entry.1,
    mapper.decode (mapper.encode entry.2) = entry.2) : row.Respells data :=
  fun entry member mapper isMapper => congrArg mapper.encode (back entry member mapper isMapper)

theorem placeholderText_dataOfValues (covers : row.Covers data) (respells : row.Respells data)
    {name : String} (among : name ∈ row.placeholders) :
    row.placeholderText (row.dataOfValues (row.placeholderTexts data)) name =
      row.placeholderText data name := by
  have read := get?_dataOfValues_placeholderTexts row data name
  rw [if_pos among] at read
  rcases covers.exists_get? among with ⟨value, found, _⟩
  unfold placeholderText at read ⊢
  rw [read, found]
  cases mapper : row.mappers.get? name with
  | none => simp only [placeholderValue, mapper, plainText]
  | some mapped =>
      simp only [placeholderValue, mapper]
      exact respells _ (Object.mem_of_get?_eq_some found) mapped mapper

/-- The data that is read from a rendered path renders it again. -/
theorem renderPath_dataOfValues (covers : row.Covers data) (respells : row.Respells data) :
    row.renderPath (row.dataOfValues (row.placeholderTexts data)) = row.renderPath data := by
  apply String.toList_inj.mp
  rw [renderPath, renderPath, Template.toList_render, Template.toList_render,
    renderedValues_pieces, renderedValues_pieces]
  refine congrArg _ (List.map_congr_left fun name among => ?_)
  rw [placeholderText_dataOfValues covers respells among]

/-- Data that are replaced do not matter, and others render the same. -/
theorem renderPath_getD {landed current : Object} {expected : Option Object}
    (again : row.renderPath landed = row.renderPath (expected.getD current)) :
    row.renderPath (expected.getD landed) = row.renderPath (expected.getD current) := by
  cases expected with
  | none => exact again
  | some expected => rfl

end Row

/-! ## The row where a path is found -/

namespace Table

variable {forest : List PageTree} {trail last : List PageDeclaration}

/-- Following indices ends at one page only. -/
theorem eq_of_follows (named : isWellNamedForest forest = true)
    (follows : ReflTransGen (RedirectsTo forest) trail last) (ends : trailIndex? last = none)
    {other : List PageDeclaration} (otherFollows : ReflTransGen (RedirectsTo forest) trail other)
    (otherEnds : trailIndex? other = none) : other = last := by
  rcases (leadsOn named follows ends otherFollows).cases_head with
    same | ⟨next, ⟨_, _, index, marked, _⟩, _⟩
  · exact same
  · exact absurd (otherEnds.symm.trans marked) (Option.some_ne_none index).symm

/-- The row of a page is a copy of that of the page at which following indices ends. -/
theorem exists_lastRow (named : isWellNamedForest forest = true) {params : MapperTable}
    {placeholderPattern : String} {table : Table}
    (compiled : compile forest params placeholderPattern = .ok table)
    (member : trail ∈ trailsForest forest) {row : Row}
    (found : table.findByPage? (trailName trail) = some row)
    (follows : ReflTransGen (RedirectsTo forest) trail last) (ends : trailIndex? last = none) :
    ∃ before lastRow after, table.rows = before ++ lastRow :: after ∧
      (table.rows.takeWhile fun other => other.page != trailName last) = before ∧
      Row.compile? (trailName last) ((Base.root params).along last).path
        ((Base.root params).along last).mappers placeholderPattern = some lastRow ∧
      row = lastRow.aliased (trailName trail) := by
  have made := hasRows_of_compile compiled
  have distinct := made.nodup_page named
  rcases exists_of_findByPage? found with ⟨atPage, _, _, shape, _⟩
  rcases made.exists_last named member shape atPage with
    ⟨other, lastRow, otherFollows, _, otherEnds, ownRow, sooner, copied⟩
  cases eq_of_follows named follows ends otherFollows otherEnds
  have isLast := (Row.isCompiled_of_compile? ownRow).2.1
  rcases exists_shape_of_mem shape sooner with ⟨before, after, lastShape, _⟩
  have lastFound : table.findByPage? (trailName last) = some lastRow :=
    isLast ▸ Router.findByPage?_eq_some distinct
      (lastShape ▸ List.mem_append_right _ List.mem_cons_self)
  rcases exists_of_findByPage? lastFound with ⟨_, front, back, shape', others⟩
  rcases eq_of_page_eq distinct lastShape shape' rfl with ⟨rfl, _, _⟩
  refine ⟨before, lastRow, after, lastShape, ?_, ownRow, copied⟩
  rw [lastShape, List.takeWhile_append_of_pos fun other among => bne_iff_ne.mpr (others other among),
    List.takeWhile_cons_of_neg (by simp [isLast]), List.append_nil]

end Table

/-! ## The route where a link leads -/

/-- A route of the given row that is found again at the location it leads to. -/
structure Route.IsReached (route : Route) (row : Row) : Prop where
  separated : Template.IsSeparated (Template.pieces row.path.toList)
  covers : row.Covers route.data
  respells : row.Respells route.data
  wellFormed : (Value.object route.query).WellFormed
  returns : (Query.read (Query.write route.query)).same route.query = true

/-- A route that leads back to its row is found there again, if its texts are spelled again. -/
theorem Route.LeadsBack.isReached {route : Route} {row : Row} (leadsBack : route.LeadsBack row)
    (respells : row.Respells route.data) : route.IsReached row where
  separated := leadsBack.separated
  covers := leadsBack.covers
  respells := respells
  wellFormed := leadsBack.wellFormed
  returns := by
    rw [(leadsBack.roundTrips.read_write leadsBack.wellFormed leadsBack.plain).1]
    exact Value.same_refl_of_wellFormed leadsBack.wellFormed

namespace Router

/-- The route at the location of another one, whose row is a copy of the first row that accepts the
path. -/
theorem routeAt_locationOf_eq {router : Router} {route : Route} {row lastRow : Row}
    (found : router.table.findByPage? route.page = some row) (compiled : row.IsCompiled "[^/]+")
    (copied : row = lastRow.aliased route.page) {before after : List Row}
    (shape : router.table.rows = before ++ lastRow :: after)
    (refused : ∀ earlier ∈ before, earlier.matchesPath (row.renderPath route.data) = false)
    (reached : route.IsReached row) :
    router.routeAt (router.locationOf route) =
      ⟨lastRow.page, row.dataOfValues (row.placeholderTexts route.data), route.query⟩ := by
  have captured : lastRow.capture? (row.renderPath route.data) =
      some (row.dataOfValues (row.placeholderTexts route.data)) := by
    rw [← Row.capture?_aliased lastRow route.page, ← copied]
    exact Row.capture?_renderPath compiled reached.separated reached.covers
  have first := Table.capturePath?_eq shape refused captured
  have read := (Query.read_write_eq_of_same reached.wellFormed reached.returns).2
  simp only [locationOf, found, routeAt, first, read]

/-- A link whose route is found again at its location is active there.  It leads to the same address
from there as well, since its mapped texts are spelled again from the values that are read from them,
which `Route.IsReached` asks for too: without that the address may be another one. -/
theorem link_routeAt_locationOf {forest : List PageTree} {config : Config} {router : Router}
    (named : isWellNamedForest forest = true) (built : build forest config = .ok router)
    (segments : config.placeholderPattern = "[^/]+") {current : Route} {patch : RoutePatch}
    {trail last : List PageDeclaration} (member : trail ∈ trailsForest forest)
    (page : patch.page = some (trailName trail)) {row : Row}
    (found : router.table.findByPage? (trailName trail) = some row)
    (follows : ReflTransGen (RedirectsTo forest) trail last) (ends : trailIndex? last = none)
    (reached : (current.patched patch).IsReached row)
    (refused : ∀ earlier ∈ router.table.rows.takeWhile fun other => other.page != trailName last,
      earlier.matchesPath (row.renderPath (current.patched patch).data) = false) :
    let landed := router.routeAt (router.locationOf (current.patched patch))
    landed.page = trailName last ∧ (router.link landed patch).active = true ∧
      (router.link landed patch).href = (router.link current patch).href := by
  have target : (current.patched patch).page = trailName trail := by
    rw [Route.patched, page, Option.getD_some]
  rcases Table.exists_lastRow named (compile_of_build built) member found follows ends with
    ⟨before, lastRow, after, shape, earlier, ownRow, copied⟩
  have isLast := (Row.isCompiled_of_compile? ownRow).2.1
  rw [earlier] at refused
  rw [← target] at found copied
  have among : row ∈ router.table.rows := by
    rcases Table.exists_of_findByPage? found with ⟨_, _, _, shape, _⟩
    exact shape ▸ List.mem_append_right _ List.mem_cons_self
  have compiled := (isCompiled_of_build built).2 row among
  rw [segments] at compiled
  have arrives := routeAt_locationOf_eq found compiled copied shape refused reached
  rw [isLast] at arrives
  intro landed
  have landed_eq : landed = _ := arrives
  refine ⟨congrArg Route.page landed_eq, ?_, ?_⟩
  · have data : keysMatch landed.data patch.data = true := by
      rw [landed_eq]
      exact keysMatch_of_same_getD (row.nodup_keys_dataOf _) reached.covers.distinct
        (Row.same_dataOfValues reached.covers)
    have query : keysMatch landed.query patch.query = true := by
      rw [landed_eq]
      exact keysMatch_of_same_getD reached.wellFormed.here reached.wellFormed.here
        (Value.same_refl_of_wellFormed reached.wellFormed)
    have below : pageMatches (trailName trail) landed.page = true :=
      landed_eq ▸ pageMatches_of_follows follows
    simp only [link, Selector.selects, page, isEmpty_trailName named member, below, data, query,
      Bool.not_false, Bool.and_self]
  · have path : row.renderPath (landed.patched patch).data =
        row.renderPath (current.patched patch).data := by
      have again := Row.renderPath_dataOfValues reached.covers reached.respells
      rw [landed_eq]
      exact Row.renderPath_getD again
    have query : (landed.patched patch).query = (current.patched patch).query := by
      rw [landed_eq]
      unfold Route.patched
      cases patch.query <;> rfl
    have samePage : (landed.patched patch).page = (current.patched patch).page := by
      rw [target, Route.patched, page, Option.getD_some]
    have again : router.locationOf (landed.patched patch) =
        router.locationOf (current.patched patch) := by
      simp only [locationOf, samePage, found, path, query]
    exact congrArg Location.href again

def manualPage : PageDeclaration :=
  ⟨"manual", some "/docs", some "reader", none⟩

def readerPage : PageDeclaration :=
  ⟨"reader", some "/:version/:page", none, none⟩

/-- A manual that is shown as its reader, beside a home page. -/
def manualForest : List PageTree :=
  [.page ⟨"home", some "/", none, none⟩ [], .page manualPage [.page readerPage []]]

/-- The query of the home page is kept. -/
def homeRoute : Route where
  page := "home"
  query := Query.nestedQuery

def manualPatch : RoutePatch where
  page := some "manual"
  data := some docsRoute.data

/-- A link to the manual leads to its reader, and is active there. -/
theorem link_manualPatch :
    ∃ router row, build manualForest docsConfig = .ok router ∧
      router.table.findByPage? "manual" = some row ∧
      (homeRoute.patched manualPatch).IsReached row ∧
      (router.routeAt (router.locationOf (homeRoute.patched manualPatch))).page =
        "manual.reader" ∧
      (router.link (router.routeAt (router.locationOf (homeRoute.patched manualPatch)))
        manualPatch).active = true ∧
      (router.link (router.routeAt (router.locationOf (homeRoute.patched manualPatch)))
        manualPatch).href = (router.link homeRoute manualPatch).href := by
  have computed : (build manualForest docsConfig).toOption.any (fun router =>
      (router.table.findByPage? "manual").any fun row =>
        (router.table.rows.takeWhile fun other => other.page != "manual.reader").all
          fun earlier => !earlier.matchesPath (row.renderPath docsRoute.data)) = true := by
    decide +kernel
  rcases (Option.any_eq_true _ _).mp computed with ⟨router, isRouter, computed⟩
  rcases (Option.any_eq_true _ _).mp computed with ⟨row, found, computed⟩
  have built : build manualForest docsConfig = .ok router := by
    cases made : build manualForest docsConfig with
    | error error => rw [made] at isRouter; cases isRouter
    | ok other => rw [made] at isRouter; cases isRouter; rfl
  have named : isWellNamedForest manualForest = true := by decide
  have member : [manualPage] ∈ trailsForest manualForest := .tail _ (.head _)
  have below : [manualPage, readerPage] ∈ trailsForest manualForest := .tail _ (.tail _ (.head _))
  have redirects : RedirectsTo manualForest [manualPage] [manualPage, readerPage] :=
    ⟨member, below, "reader", rfl, by decide⟩
  rcases Table.exists_lastRow named (compile_of_build built) member found (.single redirects) rfl
    with ⟨_, lastRow, _, _, _, ownRow, copied⟩
  rcases Row.isCompiled_of_compile? ownRow with ⟨_, _, path, own⟩
  have mappers : row.mappers = docsConfig.params := by
    rw [copied]
    exact own
  have leadsBack : (homeRoute.patched manualPatch).LeadsBack row := by
    have docs : docsRoute.LeadsBack row := leadsBack_docsRoute (copied ▸ path) mappers
    exact ⟨docs.separated, docs.covers, docs.wellFormed, docs.plain, docs.roundTrips⟩
  have reached := leadsBack.isReached (Row.respells_of_decode_encode (by
    intro entry among mapper isMapper
    rw [mappers] at isMapper
    rcases List.mem_cons.mp among with rfl | later
    · cases isMapper
    · rcases List.mem_singleton.mp later with rfl
      cases isMapper
      rfl))
  have refused : ∀ earlier ∈ router.table.rows.takeWhile fun other =>
      other.page != trailName [manualPage, readerPage],
      earlier.matchesPath (row.renderPath (homeRoute.patched manualPatch).data) = false := by
    intro earlier among
    have missed := List.all_eq_true.mp computed earlier among
    rwa [Bool.not_eq_true'] at missed
  rcases link_routeAt_locationOf named built rfl member rfl found (.single redirects) rfl reached
    refused with ⟨page, active, href⟩
  exact ⟨router, row, built, found, reached, page, active, href⟩

end Router
end PageRouting
