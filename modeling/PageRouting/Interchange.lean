import PageRouting.Json.Record
import PageRouting.Json.Writer
import PageRouting.Route

namespace PageRouting

/-!
Routes, patches, locations and links as JSON texts.  Each is a record of its
fields.  A route may leave out what it has none of, and a patch what it does not
replace; written texts have all fields of a route and leave out those of a patch
that are not set.
-/

open Json (Record Object)

namespace Route

def record (route : Route) : Object :=
  [("page", .string route.page), ("data", .object route.data), ("query", .object route.query)]

def text (route : Route) : String :=
  route.record.text

def ofRecord? (record : Record) : Option Route := do
  let page ← record.required? "page" Json.Term.string?
  let data ← record.withDefault? "data" [] (Json.Term.object? Record.fieldLevels)
  let query ← record.withDefault? "query" [] (Json.Term.object? Record.fieldLevels)
  pure ⟨page, data, query⟩

def ofText? (text : String) : Option Route :=
  (Record.ofText? ["page", "data", "query"] text).bind ofRecord?

end Route

namespace RoutePatch

def record (patch : RoutePatch) : Object :=
  (patch.page.map fun page => ("page", Json.Value.string page)).toList ++
    (patch.data.map fun data => ("data", Json.Value.object data)).toList ++
    (patch.query.map fun query => ("query", Json.Value.object query)).toList

def text (patch : RoutePatch) : String :=
  patch.record.text

def ofRecord? (record : Record) : Option RoutePatch := do
  let page ← record.optional? "page" Json.Term.string?
  let data ← record.optional? "data" (Json.Term.object? Record.fieldLevels)
  let query ← record.optional? "query" (Json.Term.object? Record.fieldLevels)
  pure ⟨page, data, query⟩

def ofText? (text : String) : Option RoutePatch :=
  (Record.ofText? ["page", "data", "query"] text).bind ofRecord?

end RoutePatch

namespace Location

def record (location : Location) : Object :=
  [("pathname", .string location.pathname), ("search", .string location.search)]

def text (location : Location) : String :=
  location.record.text

def ofRecord? (record : Record) : Option Location := do
  let pathname ← record.required? "pathname" Json.Term.string?
  let search ← record.required? "search" Json.Term.string?
  pure ⟨pathname, search⟩

def ofText? (text : String) : Option Location :=
  (Record.ofText? ["pathname", "search"] text).bind ofRecord?

end Location

namespace Link

def record (link : Link) : Object :=
  [("href", .string link.href), ("active", .bool link.active)]

def text (link : Link) : String :=
  link.record.text

def ofRecord? (record : Record) : Option Link := do
  let href ← record.required? "href" Json.Term.string?
  let active ← record.required? "active" Json.Term.bool?
  pure ⟨href, active⟩

def ofText? (text : String) : Option Link :=
  (Record.ofText? ["href", "active"] text).bind ofRecord?

end Link

end PageRouting
