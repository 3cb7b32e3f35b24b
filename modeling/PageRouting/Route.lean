import PageRouting.Json.Writer

namespace PageRouting

/-!
Routes and locations.  A route names a page and gives the values of its path and
its query; a location is the pair of texts that an address consists of.  A patch
says which parts of a route to replace, each as a whole.
-/

structure Route where
  page : String
  data : Json.Object := []
  query : Json.Object := []

structure RoutePatch where
  page : Option String := none
  data : Option Json.Object := none
  query : Option Json.Object := none

structure Location where
  pathname : String
  search : String
deriving DecidableEq, Repr

/-- The target of a link, and whether it is where one is already. -/
structure Link where
  href : String
  active : Bool
deriving DecidableEq, Repr

namespace RoutePatch

/-- The patch that replaces the page only. -/
def ofPage (page : String) : RoutePatch where
  page := some page

/-- The patch that replaces everything. -/
def ofRoute (route : Route) : RoutePatch where
  page := some route.page
  data := some route.data
  query := some route.query

end RoutePatch

namespace Route

/-- The route with the parts that the patch has. -/
def patched (route : Route) (patch : RoutePatch) : Route where
  page := patch.page.getD route.page
  data := patch.data.getD route.data
  query := patch.query.getD route.query

/-- Equality of routes, whatever the order of keys. -/
def same (left right : Route) : Bool :=
  left.page == right.page && left.data.same right.data && left.query.same right.query

end Route

namespace Location

/-- The search text that says nothing. -/
def emptySearch : String := "?"

/-- The address as one text, without a search text that says nothing. -/
def href (location : Location) : String :=
  if location.search = emptySearch then location.pathname
  else location.pathname ++ location.search

def withoutEmptySearch (location : Location) : Location :=
  if location.search = emptySearch then { location with search := "" } else location

end Location

end PageRouting
