import Mathlib.Logic.Relation
import PageRouting.Proofs.Json.Nested
import PageRouting.Proofs.Text.Split
import PageRouting.Selection
import PageRouting.Table

namespace PageRouting

open Json (Value Object)
open Relation (ReflTransGen)

/-!
# The order of selection

A page is selected by the pages whose components come first in its own name, and
an object by the objects whose entries it has.  Both are orders, so a route, taken
as what is expected, selects the routes that say more: they lie further down, and
have all its values.  Routes that select each other are equal, where equality is
the one that does not see the order of keys.

What expects less selects more.  This is said of one change of a patch at a time,
and holds for any number of them.
-/

/-! ## Pages below a page -/

/-- The name of a page, cut at the separators. -/
def pageComponents (page : String) : List (List Char) :=
  Text.splitOn '.' page.toList

theorem pageMatches_iff {expected actual : String} :
    pageMatches expected actual = true ↔ pageComponents expected <+: pageComponents actual := by
  rw [pageComponents, pageComponents, Text.splitOn_isPrefix_splitOn_iff, String.toList_inj,
    pageMatches, Bool.or_eq_true_iff, beq_iff_eq, List.isPrefixOf_iff_prefix]

theorem pageMatches_self (page : String) : pageMatches page page = true :=
  pageMatches_iff.mpr List.prefix_rfl

theorem pageMatches_append (page rest : String) :
    pageMatches page (page ++ pageSeparator ++ rest) = true := by
  refine Bool.or_eq_true_iff.mpr (Or.inr (List.isPrefixOf_iff_prefix.mpr ⟨rest.toList, ?_⟩))
  rw [String.toList_append, String.toList_append]
  rfl

theorem pageMatches_trans {first second third : String} (one : pageMatches first second = true)
    (other : pageMatches second third = true) : pageMatches first third = true :=
  pageMatches_iff.mpr ((pageMatches_iff.mp one).trans (pageMatches_iff.mp other))

theorem eq_of_pageMatches {left right : String} (one : pageMatches left right = true)
    (other : pageMatches right left = true) : left = right := by
  have prefixes := pageMatches_iff.mp one
  have components := prefixes.eq_of_length_le (pageMatches_iff.mp other).length_le
  exact String.toList_inj.mp (Text.splitOn_injective '.' components)

/-! ## Expected values -/

theorem keysMatch_some_iff {actual expected : Object} :
    keysMatch actual (some expected) = true ↔
      ∀ entry ∈ expected, ∃ other, actual.get? entry.1 = some other ∧
        other.same entry.2 = true := by
  rw [keysMatch, List.all_eq_true]
  apply forall₂_congr
  rintro ⟨key, value⟩ member
  cases found : actual.get? key with
  | none => simp [found]
  | some other => simp [found]

/-- Keys match if the values are the same, whatever their order. -/
theorem keysMatch_of_same {actual expected : Object} (actualDistinct : actual.keys.Nodup)
    (expectedDistinct : expected.keys.Nodup) (same : actual.same expected = true) :
    keysMatch actual (some expected) = true := by
  apply keysMatch_some_iff.mpr
  intro entry member
  rcases ((Object.same_iff actualDistinct expectedDistinct).mp same).2 entry member with
    ⟨other, found, equal⟩
  exact ⟨other, Object.get?_eq_some_of_mem actualDistinct found, equal⟩

/-- What is not expected matches, and what is expected is the same. -/
theorem keysMatch_of_same_getD {actual current : Object} {expected : Option Object}
    (actualDistinct : actual.keys.Nodup) (expectedDistinct : (expected.getD current).keys.Nodup)
    (same : actual.same (expected.getD current) = true) : keysMatch actual expected = true := by
  cases expected with
  | none => rfl
  | some expected => exact keysMatch_of_same actualDistinct expectedDistinct same

theorem keysMatch_trans {first second third : Object} (one : keysMatch second (some first) = true)
    (other : keysMatch third (some second) = true) : keysMatch third (some first) = true := by
  rw [keysMatch_some_iff] at one other ⊢
  intro entry member
  rcases one entry member with ⟨middle, found, equal⟩
  rcases other _ (Object.mem_of_get?_eq_some found) with ⟨last, further, next⟩
  exact ⟨last, further, Value.same_trans next equal⟩

/-- Two objects are equal exactly if each has the values of the other. -/
theorem keysMatch_and_keysMatch_iff {left right : Object}
    (leftDistinct : (Value.object left).WellFormed)
    (rightDistinct : (Value.object right).WellFormed) :
    keysMatch right (some left) = true ∧ keysMatch left (some right) = true ↔
      left.same right = true := by
  constructor
  · rintro ⟨one, other⟩
    rw [keysMatch_some_iff] at one other
    refine (Object.same_iff leftDistinct.here rightDistinct.here).mpr ⟨?_, ?_⟩
    · intro entry member
      rcases one entry member with ⟨value, found, equal⟩
      have among := Object.mem_of_get?_eq_some found
      exact ⟨value, among, Value.same_symm
        ((Value.everywhere_object.mp rightDistinct).2 _ among)
        ((Value.everywhere_object.mp leftDistinct).2 _ member) equal⟩
    · intro entry member
      rcases other entry member with ⟨value, found, equal⟩
      exact ⟨value, Object.mem_of_get?_eq_some found, equal⟩
  · intro same
    have again : right.same left = true := Value.same_symm leftDistinct rightDistinct same
    exact ⟨keysMatch_of_same rightDistinct.here leftDistinct.here again,
      keysMatch_of_same leftDistinct.here rightDistinct.here same⟩

/-! ## Routes that say more -/

theorem Selector.selects_structured_iff {patch : RoutePatch} {route : Route} :
    (Selector.structured patch).selects route = true ↔
      ∃ page, patch.page = some page ∧ page ≠ "" ∧ pageMatches page route.page = true ∧
        keysMatch route.data patch.data = true ∧ keysMatch route.query patch.query = true := by
  rcases patch with ⟨_ | page, data, query⟩
  · simp [selects]
  · simp [selects, and_assoc]

namespace Route

/-- Whether the other route is selected by the first one, if all that the first one says is
expected. -/
def selects (expected actual : Route) : Bool :=
  (Selector.structured (.ofRoute expected)).selects actual

theorem selects_iff {expected actual : Route} :
    expected.selects actual = true ↔
      expected.page ≠ "" ∧ pageMatches expected.page actual.page = true ∧
        keysMatch actual.data (some expected.data) = true ∧
        keysMatch actual.query (some expected.query) = true := by
  rw [selects, Selector.selects_structured_iff]
  simp only [RoutePatch.ofRoute, Option.some.injEq, exists_eq_left']

/-- The page has a name, and no object in the route has a key twice. -/
structure IsNamed (route : Route) : Prop where
  named : route.page ≠ ""
  data : (Value.object route.data).WellFormed
  query : (Value.object route.query).WellFormed

theorem IsNamed.selects_self {route : Route} (isNamed : route.IsNamed) :
    route.selects route = true := by
  have matches_self : ∀ {object : Object}, (Value.object object).WellFormed →
      keysMatch object (some object) = true := fun distinct =>
    keysMatch_of_same distinct.here distinct.here (Value.same_refl_of_wellFormed distinct)
  exact selects_iff.mpr ⟨isNamed.named, pageMatches_self _, matches_self isNamed.data,
    matches_self isNamed.query⟩

theorem selects_trans {first second third : Route} (one : first.selects second = true)
    (other : second.selects third = true) : first.selects third = true := by
  rcases selects_iff.mp one with ⟨named, page, data, query⟩
  rcases selects_iff.mp other with ⟨_, nextPage, nextData, nextQuery⟩
  exact selects_iff.mpr ⟨named, pageMatches_trans page nextPage, keysMatch_trans data nextData,
    keysMatch_trans query nextQuery⟩

/-- Routes select each other exactly if they are equal. -/
theorem selects_and_selects_iff {left right : Route} (isLeft : left.IsNamed)
    (isRight : right.IsNamed) :
    left.selects right = true ∧ right.selects left = true ↔ left.same right = true := by
  rw [same, Bool.and_eq_true, Bool.and_eq_true, beq_iff_eq,
    ← keysMatch_and_keysMatch_iff isLeft.data isRight.data,
    ← keysMatch_and_keysMatch_iff isLeft.query isRight.query, selects_iff, selects_iff]
  constructor
  · rintro ⟨⟨_, page, data, query⟩, ⟨_, samePage, sameData, sameQuery⟩⟩
    exact ⟨⟨eq_of_pageMatches page samePage, data, sameData⟩, query, sameQuery⟩
  · rintro ⟨⟨page, data, sameData⟩, query, sameQuery⟩
    rw [page]
    exact ⟨⟨isRight.named, pageMatches_self _, data, query⟩,
      isRight.named, pageMatches_self _, sameData, sameQuery⟩

end Route

/-! ## Expecting less -/

/-- Nothing is expected any more, or some entries only. -/
inductive Drops : Option Object → Option Object → Prop where
  | all {expected : Option Object} : Drops expected none
  | some {expected fewer : Object} (among : fewer ⊆ expected) : Drops (some expected) (some fewer)

/-- One change by which a patch expects less: a page above with a name, or fewer values. -/
inductive RoutePatch.Loosens : RoutePatch → RoutePatch → Prop where
  | page {above rest : String} {data query : Option Object} (named : above ≠ "") :
      Loosens ⟨some (above ++ pageSeparator ++ rest), data, query⟩ ⟨some above, data, query⟩
  | data {page : Option String} {data fewer query : Option Object} (drops : Drops data fewer) :
      Loosens ⟨page, data, query⟩ ⟨page, fewer, query⟩
  | query {page : Option String} {data query fewer : Option Object} (drops : Drops query fewer) :
      Loosens ⟨page, data, query⟩ ⟨page, data, fewer⟩

theorem Drops.keysMatch {actual : Object} {expected fewer : Option Object}
    (drops : Drops expected fewer) (isMatch : keysMatch actual expected = true) :
    keysMatch actual fewer = true := by
  cases drops with
  | all => rfl
  | some among =>
      rw [keysMatch_some_iff] at isMatch ⊢
      exact fun entry member => isMatch entry (among member)

namespace RoutePatch

variable {patch looser : RoutePatch} {route : Route}

theorem Loosens.selects (loosens : patch.Loosens looser)
    (selected : (Selector.structured patch).selects route = true) :
    (Selector.structured looser).selects route = true := by
  rw [Selector.selects_structured_iff] at selected ⊢
  rcases selected with ⟨page, isPage, named, within, data, query⟩
  cases loosens with
  | @page above rest _ _ isNamed =>
      cases isPage
      exact ⟨above, rfl, isNamed, pageMatches_trans (pageMatches_append above rest) within, data,
        query⟩
  | data drops => exact ⟨page, isPage, named, within, drops.keysMatch data, query⟩
  | query drops => exact ⟨page, isPage, named, within, data, drops.keysMatch query⟩

theorem selects_of_loosens (loosens : ReflTransGen Loosens patch looser)
    (selected : (Selector.structured patch).selects route = true) :
    (Selector.structured looser).selects route = true := by
  induction loosens with
  | refl => exact selected
  | tail _ last ih => exact last.selects ih

end RoutePatch

/-- Selection is a partial order on routes to pages with names, it is monotone in what is expected,
and its part on pages is the order of prefixes. -/
theorem selects_partialOrder :
    (∀ route : Route, route.IsNamed → route.selects route = true) ∧
    (∀ first second third : Route, first.selects second = true → second.selects third = true →
      first.selects third = true) ∧
    (∀ left right : Route, left.IsNamed → right.IsNamed →
      (left.selects right = true ∧ right.selects left = true ↔ left.same right = true)) ∧
    (∀ patch looser : RoutePatch, ReflTransGen RoutePatch.Loosens patch looser → ∀ route,
      (Selector.structured patch).selects route = true →
        (Selector.structured looser).selects route = true) ∧
    ∀ expected actual : String,
      pageMatches expected actual = true ↔ pageComponents expected <+: pageComponents actual := by
  refine ⟨?_, ?_, ?_, ?_, ?_⟩
  · exact fun route isNamed => isNamed.selects_self
  · exact fun first second third one other => Route.selects_trans one other
  · exact fun left right isLeft isRight => Route.selects_and_selects_iff isLeft isRight
  · exact fun patch looser loosens route selected => RoutePatch.selects_of_loosens loosens selected
  · exact fun expected actual => pageMatches_iff

def shelfRoute : Route where
  page := "docs"
  query := [("filter", .object [("lang", .string "en"), ("year", .number (.integer 2024))])]

def chapterRoute : Route where
  page := "docs.guide"
  data := [("version", .string "2"), ("chapter", .array [.string "intro", .null])]
  query := [("filter", .object [("year", .number (.integer 2024)), ("lang", .string "en")]),
    ("tab", .bool true)]

/-- The chapter, with the keys in another order. -/
def turnedRoute : Route where
  page := "docs.guide"
  data := [("chapter", .array [.string "intro", .null]), ("version", .string "2")]
  query := [("tab", .bool true),
    ("filter", .object [("lang", .string "en"), ("year", .number (.integer 2024))])]

def sectionRoute : Route where
  page := "docs.guide..first"
  data := chapterRoute.data ++ [("section", .string "1")]
  query := turnedRoute.query

theorem selects_partialOrder_shelf :
    (chapterRoute.IsNamed ∧ turnedRoute.IsNamed ∧ chapterRoute.selects chapterRoute = true) ∧
    (shelfRoute.selects chapterRoute = true ∧ chapterRoute.selects sectionRoute = true ∧
      shelfRoute.selects sectionRoute = true) ∧
    (chapterRoute.selects turnedRoute = true ∧ turnedRoute.selects chapterRoute = true ∧
      chapterRoute.same turnedRoute = true) ∧
    (Selector.structured
      ⟨some "docs", some [("version", .string "2")], none⟩).selects sectionRoute = true ∧
    pageMatches "docs.guide." "docs.guide..first" = true := by
  rcases selects_partialOrder with ⟨self, trans, antisymm, monotone, page⟩
  have isChapter : chapterRoute.IsNamed := ⟨by decide, by decide, by decide⟩
  have isTurned : turnedRoute.IsNamed := ⟨by decide, by decide, by decide⟩
  have further : shelfRoute.selects chapterRoute = true := by decide
  have deeper : chapterRoute.selects sectionRoute = true := by decide
  have there : chapterRoute.selects turnedRoute = true := by decide
  have back : turnedRoute.selects chapterRoute = true := by decide
  have above : RoutePatch.Loosens (.ofRoute chapterRoute)
      ⟨some "docs", some chapterRoute.data, some chapterRoute.query⟩ :=
    @RoutePatch.Loosens.page "docs" "guide" _ _ (by decide)
  have fewer : Drops (some chapterRoute.data) (some [("version", .string "2")]) :=
    .some (List.cons_subset.mpr ⟨List.mem_cons_self, List.nil_subset _⟩)
  have looser : ReflTransGen RoutePatch.Loosens (.ofRoute chapterRoute)
      ⟨some "docs", some [("version", .string "2")], none⟩ :=
    .tail (.tail (.single above) (.data fewer)) (.query .all)
  refine ⟨⟨isChapter, isTurned, self _ isChapter⟩,
    ⟨further, deeper, trans _ _ _ further deeper⟩,
    ⟨there, back, (antisymm _ _ isChapter isTurned).mp ⟨there, back⟩⟩,
    monotone _ _ looser sectionRoute deeper, (page _ _).mpr ?_⟩
  decide

end PageRouting
