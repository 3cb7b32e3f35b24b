import PageRouting.History.Run
import PageRouting.Router

namespace PageRouting

/-!
Navigating a history by routes.  Routes go in as the locations they lead to,
without a search text that says nothing, and the current location comes out as
the route found there.
-/

structure Navigator (ε : Type) where
  router : Router
  history : History ε

namespace Navigator

variable {ε : Type}

/-- The location a route is visited at. -/
def locationOf (navigator : Navigator ε) (route : Route) : Location :=
  (navigator.router.locationOf route).withoutEmptySearch

/-- Do an action on the history itself. -/
def apply (navigator : Navigator ε) (action : History.Action ε) : Navigator ε :=
  { navigator with history := navigator.history.apply action }

/-- Visit a route. -/
def navigate (navigator : Navigator ε) (route : Route) : Navigator ε :=
  navigator.apply (.push (navigator.locationOf route))

/-- Put a route in the place of the current one. -/
def redirect (navigator : Navigator ε) (route : Route) : Navigator ε :=
  navigator.apply (.replace (navigator.locationOf route))

/-- The route at the current location. -/
def current (navigator : Navigator ε) : ResolvedRoute :=
  navigator.router.resolve navigator.history.current

/-- Note the current route, and from then on the route of every location the
history settles on. -/
def onRoute (navigator : Navigator ε) (observe : ResolvedRoute → ε) : Navigator ε :=
  navigator.apply
    (.subscribe (.mk (fun location _ => observe (navigator.router.resolve location)) []))

end Navigator

end PageRouting
