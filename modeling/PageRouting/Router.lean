import PageRouting.Config
import PageRouting.Query.Reading
import PageRouting.Query.Writing
import PageRouting.Selection
import PageRouting.Table

namespace PageRouting

/-!
Routers.  A router turns routes into locations and locations into routes by one
compiled table.  A route to an unknown page leads to the configured path, and a
location that no row accepts is the configured page.
-/

structure Router where
  config : Config
  table : Table

/-- Why there is no router. -/
inductive RouterError where
  | config (error : ConfigError)
  | table (error : TableError)
deriving DecidableEq, Repr

namespace RouterError

def message : RouterError → String
  | .config error => error.message
  | .table error => error.message

end RouterError

namespace Router

/-- The router of a forest.  The configuration is checked before anything is
compiled. -/
def build (forest : List PageTree) (config : Config) : Except RouterError Router :=
  match config.error? with
  | some error => .error (.config error)
  | none =>
      match Table.compile forest config.params config.placeholderPattern with
      | .error error => .error (.table error)
      | .ok table => .ok ⟨config, table⟩

/-- Where a route leads.  The search text of a known page is never missing, even
if the query is empty. -/
def locationOf (router : Router) (route : Route) : Location :=
  match router.table.findByPage? route.page with
  | none => ⟨router.config.notFoundPath, ""⟩
  | some row => ⟨row.renderPath route.data, "?" ++ Query.write route.query⟩

/-- The address a route leads to, as one text. -/
def urlOf (router : Router) (route : Route) : String :=
  (router.locationOf route).href

/-- The route at a location. -/
def routeAt (router : Router) (location : Location) : Route :=
  let query := Query.read location.search
  match router.table.capturePath? location.pathname with
  | some (row, data) => ⟨row.page, data, query⟩
  | none => ⟨router.config.notFoundPage, [], query⟩

/-- The address of a route with some parts replaced. -/
def patchedUrl (router : Router) (current : Route) (patch : RoutePatch) : String :=
  router.urlOf (current.patched patch)

/-- The link from a current route to the one with some parts replaced.  It is
active when the replaced parts select the current route already. -/
def link (router : Router) (current : Route) (patch : RoutePatch) : Link where
  href := router.patchedUrl current patch
  active := (Selector.structured patch).selects current

end Router

/-- A route that has been found at a location, with the router that found it. -/
structure ResolvedRoute where
  router : Router
  route : Route

namespace ResolvedRoute

/-- The address of this route with some parts replaced. -/
def url (resolved : ResolvedRoute) (patch : RoutePatch) : String :=
  resolved.router.patchedUrl resolved.route patch

end ResolvedRoute

/-- The route at a location, together with the router. -/
def Router.resolve (router : Router) (location : Location) : ResolvedRoute :=
  ⟨router, router.routeAt location⟩

end PageRouting
