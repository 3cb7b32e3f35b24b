import PageRouting.Json.Writer

namespace PageRouting

/-!
Mappers between the structured value of a placeholder and its text in a path.
A mapper is compared by identity and never by what it computes: two mappers are
the same only if they were made as one.  A table keeps one mapper for a name.
-/

structure Mapper where
  identity : Nat
  encode : Json.Value → String
  decode : String → Json.Value

namespace Mapper

def same (left right : Mapper) : Bool :=
  left.identity == right.identity

end Mapper

/-- Mappers by name. -/
abbrev MapperTable := List (String × Mapper)

namespace MapperTable

def get? (table : MapperTable) (name : String) : Option Mapper :=
  match table with
  | [] => none
  | (key, mapper) :: rest => if key == name then some mapper else get? rest name

/-- Set the mapper of a name, in place of an earlier one. -/
def insert (table : MapperTable) (name : String) (mapper : Mapper) : MapperTable :=
  match table with
  | [] => [(name, mapper)]
  | (key, current) :: rest =>
      if key == name then (key, mapper) :: rest else (key, current) :: insert rest name mapper

/-- Set all mappers of `own`, which take the place of inherited ones. -/
def override (table own : MapperTable) : MapperTable :=
  own.foldl (fun result entry => MapperTable.insert result entry.1 entry.2) table

/-- The table with the given entries; of two for one name the later is kept. -/
def ofEntries (entries : List (String × Mapper)) : MapperTable :=
  override [] entries

/-- Names in the order of their characters. -/
def names (table : MapperTable) : List String :=
  (table.map fun entry => entry.1).mergeSort fun left right => left ≤ right

/-- Whether two tables hold the same mappers under the same names. -/
def same (left right : MapperTable) : Bool :=
  left.length == right.length &&
    left.all fun (name, mapper) =>
      match MapperTable.get? right name with
      | some other => mapper.same other
      | none => false

theorem get?_insert (table : MapperTable) (name other : String) (mapper : Mapper) :
    (table.insert name mapper).get? other =
      if other = name then some mapper else table.get? other := by
  induction table with
  | nil =>
      simp only [insert, get?, beq_iff_eq]
      by_cases same : name = other
      · simp [same]
      · simp [same, Ne.symm same]
  | cons entry rest ih =>
      obtain ⟨key, current⟩ := entry
      simp only [insert]
      split
      · next here =>
          have equal : key = name := eq_of_beq here
          subst equal
          simp only [get?, beq_iff_eq]
          by_cases same : key = other
          · simp [same]
          · simp [same, Ne.symm same]
      · next elsewhere =>
          have different : key ≠ name := by simpa using elsewhere
          simp only [get?, ih, beq_iff_eq]
          by_cases same : key = other
          · simp [← same, different]
          · simp [same]

end MapperTable

/-- The text of a value that no mapper encodes: a string without quotes, and
anything else as JSON. -/
def plainText : Json.Value → String
  | .string text => text
  | value => value.text

end PageRouting
