import PageRouting.Proofs.Query.Exactness
import PageRouting.Proofs.Router.Return

namespace PageRouting

open Json (Value Object)

/-!
# Routes that come back from locations

The location that the route at a location leads to is canonical: its path may
have lost one slash at the end, and its search text is written anew.  The route
there is the same route again.  For this no template may be empty, and only the
template of the root may end in a slash.  Otherwise a path without its slash
could be taken by an earlier row, or could be cut in another way.
-/

namespace Template

variable {pieces : List Piece} {values : List (List Char)}

/-- Only the empty template is filled to give the empty text. -/
theorem unread_eq_nil_of_fill_eq_nil (count : values.length = (pieceNames pieces).length)
    (segments : ∀ value ∈ values, value ≠ [] ∧ '/' ∉ value) (empty : fill pieces values = []) :
    unread pieces = [] := by
  induction pieces generalizing values with
  | nil => rfl
  | cons piece pieces ih =>
      cases piece with
      | literal text =>
          rcases List.append_eq_nil_iff.mp empty with ⟨none, rest⟩
          rw [unread, none, ih count segments rest, List.append_nil]
      | placeholder name =>
          cases values with
          | nil => exact absurd count (by simp [pieceNames, Piece.name?])
          | cons value values =>
              exact absurd (List.append_eq_nil_iff.mp empty).1 (segments value List.mem_cons_self).1

/-- A filled template ends in a slash only if the template does. -/
theorem getLast?_unread (count : values.length = (pieceNames pieces).length)
    (segments : ∀ value ∈ values, value ≠ [] ∧ '/' ∉ value)
    (slashed : (fill pieces values).getLast? = some '/') :
    (unread pieces).getLast? = some '/' := by
  induction pieces generalizing values with
  | nil => exact absurd slashed.symm (Option.some_ne_none _)
  | cons piece pieces ih =>
      cases piece with
      | literal text =>
          have same : values.length = (pieceNames pieces).length := count
          rw [fill, List.getLast?_append] at slashed
          rw [unread, List.getLast?_append]
          rcases Option.or_eq_some_iff.mp slashed with later | ⟨none, here⟩
          · rw [ih same segments later, Option.some_or]
          · rw [unread_eq_nil_of_fill_eq_nil same segments (List.getLast?_eq_none_iff.mp none)]
            exact here
      | placeholder name =>
          cases values with
          | nil => exact absurd count (by simp [pieceNames, Piece.name?])
          | cons value values =>
              rcases List.forall_mem_cons.mp segments with ⟨⟨_, slashless⟩, others⟩
              have fewer : values.length = (pieceNames pieces).length := by
                simpa [pieceNames, Piece.name?] using count
              rw [fill, List.getLast?_append] at slashed
              rcases Option.or_eq_some_iff.mp slashed with later | ⟨_, here⟩
              · rw [unread, List.getLast?_append, ih fewer others later, Option.some_or]
              · exact absurd (List.mem_of_getLast? here) slashless

end Template

namespace Row

variable {row : Row} {pathname bare : String} {data : Object}

/-- The template is not empty, and only that of the root ends in a slash. -/
def IsTrimmed (row : Row) : Prop :=
  row.path ≠ "" ∧ (row.path = "/" ∨ row.path.toList.getLast? ≠ some '/')

instance (row : Row) : Decidable row.IsTrimmed :=
  inferInstanceAs (Decidable (_ ∧ _))

/-- A row accepts the texts that fill its template. -/
theorem matchesPath_iff (compiled : row.IsCompiled "[^/]+") (pathname : String) :
    row.matchesPath pathname = true ↔
      ∃ values, Template.IsFilling (Template.pieces row.path.toList) values pathname.toList := by
  rw [← capture?_isSome, capture?_eq compiled, Option.isSome_map, Option.isSome_iff_exists]
  constructor
  · rintro ⟨values, longest⟩
    exact ⟨values, Template.isFilling_of_longestValues? longest⟩
  · rintro ⟨values, filling⟩
    rcases Template.exists_longestValues? filling with ⟨longest, found, _⟩
    exact ⟨longest, found⟩

/-- A trimmed template is not filled to give the empty text. -/
theorem IsTrimmed.fill_ne_nil (trimmed : row.IsTrimmed) {values : List (List Char)}
    {text : List Char} (filling : Template.IsFilling (Template.pieces row.path.toList) values text) :
    Template.fill (Template.pieces row.path.toList) values ≠ [] := by
  intro empty
  have none := Template.unread_eq_nil_of_fill_eq_nil filling.count filling.segments empty
  rw [Template.unread_pieces] at none
  exact trimmed.1 (String.toList_eq_nil_iff.mp none)

/-- If no template but that of the root ends in a slash, no other one is filled to give a text with a
slash at its end. -/
theorem path_eq_of_getLast?_fill (ends : row.path = "/" ∨ row.path.toList.getLast? ≠ some '/')
    {values : List (List Char)}
    (count : values.length = (Template.pieceNames (Template.pieces row.path.toList)).length)
    (segments : ∀ value ∈ values, value ≠ [] ∧ '/' ∉ value)
    (slashed : (Template.fill (Template.pieces row.path.toList) values).getLast? = some '/') :
    row.path = "/" := by
  have last := Template.getLast?_unread count segments slashed
  rw [Template.unread_pieces] at last
  exact ends.resolve_right fun other => other last

/-- A trimmed template is filled to give a text with a slash at its end only if it is that of the
root. -/
theorem IsTrimmed.path_eq (trimmed : row.IsTrimmed) {values : List (List Char)}
    {text : List Char} (filling : Template.IsFilling (Template.pieces row.path.toList) values text)
    (slashed : (Template.fill (Template.pieces row.path.toList) values).getLast? = some '/') :
    row.path = "/" :=
  path_eq_of_getLast?_fill trimmed.2 filling.count filling.segments slashed

/-- The path of the root is filled in one way. -/
theorem fill_root {values : List (List Char)} (root : row.path = "/")
    (count : values.length = (Template.pieceNames (Template.pieces row.path.toList)).length) :
    values = [] ∧ Template.fill (Template.pieces row.path.toList) values = ['/'] := by
  have pieces : Template.pieces row.path.toList = [.literal ['/']] := by
    rw [root]
    decide
  rw [pieces] at count ⊢
  rcases List.length_eq_zero_iff.mp count with rfl
  exact ⟨rfl, rfl⟩

/-- What a row accepts without a slash at its end, it also accepts with it, if the path is a
filling of a trimmed template. -/
theorem matchesPath_append_slash {earlier : Row} (compiled : earlier.IsCompiled "[^/]+")
    (earlierTrimmed : earlier.IsTrimmed) (trimmed : row.IsTrimmed) {values : List (List Char)}
    {text : List Char} (filling : Template.IsFilling (Template.pieces row.path.toList) values text)
    (fills : bare.toList = Template.fill (Template.pieces row.path.toList) values)
    (accepts : earlier.matchesPath bare = true) : earlier.matchesPath (bare ++ "/") = true := by
  rcases (matchesPath_iff compiled bare).mp accepts with ⟨others, other⟩
  refine (matchesPath_iff compiled _).mpr ⟨others, other.count, other.segments, .inr ?_⟩
  rw [String.toList_append]
  refine congrArg (· ++ ['/']) (other.text_eq.resolve_right fun slashed => ?_)
  -- only the path of the root ends in a slash, and nothing is left in front of it
  have ends : (Template.fill (Template.pieces row.path.toList) values).getLast? = some '/' := by
    rw [← fills, slashed, List.getLast?_concat]
  have root := (fill_root (trimmed.path_eq filling ends) filling.count).2
  rw [← fills, slashed] at root
  exact earlierTrimmed.fill_ne_nil other (List.append_eq_singleton_iff.mp root |>.elim
    (fun only => only.1) fun only => absurd only.2 (List.cons_ne_nil _ _))

/-- A text without a slash at its end is filled by the same values as the text with one. -/
theorem isFilling_append_slash
    (ends : row.path = "/" ∨ row.path.toList.getLast? ≠ some '/') {text : List Char}
    (nonempty : text ≠ []) (bare : text.getLast? ≠ some '/') (values : List (List Char)) :
    Template.IsFilling (Template.pieces row.path.toList) values (text ++ ['/']) ↔
      Template.IsFilling (Template.pieces row.path.toList) values text := by
  constructor
  · rintro ⟨count, segments, whole | slashed⟩
    · have root := path_eq_of_getLast?_fill ends count segments (by
        rw [← whole, List.getLast?_concat])
      rw [(fill_root root count).2] at whole
      exact absurd (List.append_left_eq_self.mp whole) nonempty
    · exact ⟨count, segments, .inl (List.append_cancel_right slashed)⟩
  · rintro ⟨count, segments, whole | slashed⟩
    · exact ⟨count, segments, .inr (congrArg (· ++ ['/']) whole)⟩
    · exact absurd (by rw [slashed, List.getLast?_concat]) bare

/-- The longest values of a path are also the longest ones without the slash at its end. -/
theorem longestValues?_bare (trimmed : row.IsTrimmed) {values : List (List Char)}
    {text : List Char}
    (longest : Template.longestValues? (Template.pieces row.path.toList) text = some values) :
    Template.longestValues? (Template.pieces row.path.toList)
      (Template.fill (Template.pieces row.path.toList) values) = some values := by
  have filling := Template.isFilling_of_longestValues? longest
  have bare : Template.IsFilling (Template.pieces row.path.toList) values
      (Template.fill (Template.pieces row.path.toList) values) :=
    ⟨filling.count, filling.segments, .inl rfl⟩
  rcases filling.text_eq with whole | slashed
  · rwa [whole] at longest
  · by_cases ends : (Template.fill (Template.pieces row.path.toList) values).getLast? = some '/'
    · have root := trimmed.path_eq filling ends
      rcases Template.exists_longestValues? bare with ⟨others, found, _⟩
      have other := Template.isFilling_of_longestValues? found
      rw [found, (fill_root root filling.count).1, (fill_root root other.count).1]
    · rw [slashed] at longest
      rwa [Template.longestValues?_congr
        (isFilling_append_slash trimmed.2 (trimmed.fill_ne_nil filling) ends)] at longest

/-- What is captured from a path is captured from the path that is rendered of it. -/
theorem exists_filling_of_capture? (compiled : row.IsCompiled "[^/]+") (trimmed : row.IsTrimmed)
    (distinct : row.placeholders.Nodup) (restores : row.Restores pathname)
    (captured : row.capture? pathname = some data) :
    row.capture? (row.renderPath data) = some data ∧ ∃ values,
      Template.IsFilling (Template.pieces row.path.toList) values pathname.toList ∧
        (row.renderPath data).toList = Template.fill (Template.pieces row.path.toList) values := by
  rcases captures?_eq_or compiled pathname with
    ⟨_, missed⟩ | ⟨values, more, count, longest, texts⟩
  · rw [capture?, missed] at captured
    exact absurd captured.symm (Option.some_ne_none _)
  · rw [capture?_eq compiled, longest] at captured
    cases captured
    have rendered := toList_renderPath_dataOfValues count distinct restores texts
    refine ⟨?_, values, Template.isFilling_of_longestValues? longest, rendered⟩
    rw [capture?_eq compiled, rendered, longestValues?_bare trimmed longest, Option.map_some]

end Row

namespace Router

/-- The route at a location is found again at the location it leads to, if the names and the
templates of all rows are as they should be. -/
theorem routeAt_locationOf_routeAt {forest : List PageTree} {config : Config} {router : Router}
    (built : build forest config = .ok router) (segments : config.placeholderPattern = "[^/]+")
    (distinct : (router.table.rows.map Row.page).Nodup)
    (trimmed : ∀ row ∈ router.table.rows, row.IsTrimmed) {location : Location} {row : Row}
    {data : Object} (captured : router.table.capturePath? location.pathname = some (row, data))
    (names : row.placeholders.Nodup) (restores : row.Restores location.pathname)
    (returns : (Query.read (Query.write (Query.read location.search))).same
      (Query.read location.search) = true) :
    router.routeAt (router.locationOf (router.routeAt location)) = router.routeAt location := by
  rcases Table.exists_shape_of_capturePath? captured with
    ⟨before, after, shape, captures, missed⟩
  have member : row ∈ router.table.rows := shape ▸ List.mem_append_right _ List.mem_cons_self
  have compiled := (isCompiled_of_build built).2
  rw [segments] at compiled
  rcases Row.exists_filling_of_capture? (compiled row member) (trimmed row member) names restores
    captures with ⟨again, values, filling, rendered⟩
  have captured' : router.table.capturePath? (row.renderPath data) = some (row, data) := by
    refine Table.capturePath?_eq shape (fun earlier among => ?_) again
    have earlierMember : earlier ∈ router.table.rows := shape ▸ List.mem_append_left _ among
    refine Bool.eq_false_iff.mpr fun accepts => Bool.eq_false_iff.mp (missed earlier among) ?_
    rcases filling.text_eq with bare | slashed
    · rw [← rendered] at bare
      rw [String.toList_inj.mp bare]
      exact accepts
    · have whole : location.pathname = row.renderPath data ++ "/" := by
        rw [← String.toList_inj, String.toList_append, slashed, rendered]
        rfl
      rw [whole]
      exact Row.matchesPath_append_slash (compiled earlier earlierMember)
        (trimmed earlier earlierMember) (trimmed row member) filling rendered accepts
  have read : Query.read ("?" ++ Query.write (Query.read location.search)) =
      Query.read location.search :=
    (Query.read_write_eq_of_same (Query.isReadObject_ofPairs _).distinct returns).2
  simp only [routeAt, captured, locationOf, findByPage?_eq_some distinct member, captured', read]

/-- Ranges of lines, which can be cut in more than one way. -/
def linesForest : List PageTree :=
  [.page ⟨"home", some "/", none, none⟩ [],
    .page ⟨"lines", some "/:version/:first-:last", none, none⟩ []]

def linesLocation : Location :=
  ⟨"/v2/1-2-3/", "?q=a+b"⟩

/-- The slash at the end is lost, and the lines are cut as before. -/
theorem routeAt_locationOf_linesLocation :
    ∃ router row data, build linesForest docsConfig = .ok router ∧
      (router.table.rows.map Row.page).Nodup ∧ (∀ row ∈ router.table.rows, row.IsTrimmed) ∧
      router.table.capturePath? linesLocation.pathname = some (row, data) ∧
      row.placeholders.Nodup ∧ row.Restores linesLocation.pathname ∧
      (router.locationOf (router.routeAt linesLocation)).pathname = "/v2/1-2-3" ∧
      router.routeAt (router.locationOf (router.routeAt linesLocation)) =
        router.routeAt linesLocation := by
  rcases exists_of_computed linesForest docsConfig linesLocation.pathname
      (fun router row => decide
        ((router.table.rows.map Row.page).Nodup ∧ (∀ row ∈ router.table.rows, row.IsTrimmed) ∧
          row.placeholders.Nodup ∧ row.Restores linesLocation.pathname ∧
          (router.locationOf (router.routeAt linesLocation)).pathname = "/v2/1-2-3"))
      (by decide +kernel) with
    ⟨router, row, data, built, captured, holds⟩
  rcases of_decide_eq_true holds with ⟨distinct, trimmed, names, restores, path⟩
  have returns : (Query.read (Query.write (Query.read linesLocation.search))).same
      (Query.read linesLocation.search) = true := by decide +kernel
  exact ⟨router, row, data, built, distinct, trimmed, captured, names, restores, path,
    routeAt_locationOf_routeAt built rfl distinct trimmed captured names restores returns⟩

end Router
end PageRouting
