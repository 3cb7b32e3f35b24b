import PageRouting.Route
import PageRouting.Text.Quoted

namespace PageRouting

/-!
Selecting routes: by a page and the pages below it, by such a page together with
expected values, or by any condition.  Expected values are compared key by key;
keys that are not expected do not matter.
-/

/-- Whether a page is the expected one or lies below it. -/
def pageMatches (expected actual : String) : Bool :=
  actual == expected || (expected.toList ++ ['.']).isPrefixOf actual.toList

/-- Whether an object has all expected values. -/
def keysMatch (actual : Json.Object) (expected : Option Json.Object) : Bool :=
  match expected with
  | none => true
  | some expected => expected.all fun (key, value) =>
      match actual.get? key with
      | some other => other.same value
      | none => false

inductive Selector where
  | within (page : String)
  | structured (expected : RoutePatch)
  | predicate (holds : Route → Bool)

namespace Selector

/-- Whether the selector selects the route.  Expected values without a page, or
with an empty one, select nothing. -/
def selects (selector : Selector) (route : Route) : Bool :=
  match selector with
  | .within page => pageMatches page route.page
  | .structured expected =>
      match expected.page with
      | none => false
      | some page =>
          !page.isEmpty && pageMatches page route.page &&
            keysMatch route.data expected.data && keysMatch route.query expected.query
  | .predicate holds => holds route

end Selector

end PageRouting
