import PageRouting.Json.Term

namespace PageRouting
namespace Json

/-!
Records.  A record has named fields in a fixed order.  It is written as an
object, or as an array of its fields in this order, in which the last ones may
be left out.  An object may have further entries, whose terms need not denote
values, but none of the fields twice.
-/

/-- The fields that a record has. -/
abbrev Record := List (String × Term)

namespace Record

/-- Levels of arrays and objects in a record, the record itself being one. -/
def maxLevels : Nat := 127

/-- Levels left to the fields of a record. -/
def fieldLevels : Nat := maxLevels - 1

/-- Entries of an object under the texts of their keys. -/
def namedEntries? : List (List StringPart × Term) → Option (List (String × Term))
  | [] => some []
  | (key, term) :: rest =>
      match StringPart.text? key with
      | none => none
      | some name => (namedEntries? rest).map ((name, term) :: ·)

/-- The record with the given field names that a term stands for. -/
def ofTerm? (names : List String) : Term → Option Record
  | .object entries =>
      match namedEntries? entries with
      | none => none
      | some named =>
          let known := named.filter fun entry => names.contains entry.1
          if (known.map fun entry => entry.1).Nodup then some known else none
  | .array items => if items.length ≤ names.length then some (names.zip items) else none
  | _ => none

/-- The record with the given field names that a text stands for. -/
def ofText? (names : List String) (text : String) : Option Record :=
  (Term.ofText? text).bind (ofTerm? names)

/-- A field that the record must have. -/
def required? {α : Type} (record : Record) (name : String) (read? : Term → Option α) :
    Option α :=
  (record.lookup name).bind read?

/-- A field that stands for the given value if it is left out. -/
def withDefault? {α : Type} (record : Record) (name : String) (missing : α)
    (read? : Term → Option α) : Option α :=
  match record.lookup name with
  | none => some missing
  | some term => read? term

/-- A field that may be left out, or may be null to the same effect. -/
def optional? {α : Type} (record : Record) (name : String) (read? : Term → Option α) :
    Option (Option α) :=
  match record.lookup name with
  | none => some none
  | some .null => some none
  | some term => (read? term).map some

end Record

end Json
end PageRouting
