import PageRouting.Json.Number

namespace PageRouting
namespace Json

/-!
Structured values.  An object keeps its entries in the order in which their
keys were first inserted, and that order shows in every text written from it;
equality of objects, `Value.same`, does not look at it.  No key of an object
built by `Object.insert` and `Object.alter` occurs twice.
-/

inductive Value where
  | null
  | bool (value : Bool)
  | number (value : Number)
  | string (value : String)
  | array (items : List Value)
  | object (entries : List (String × Value))

instance : Inhabited Value := ⟨.null⟩

/-- Entries in insertion order. -/
abbrev Object := List (String × Value)

namespace Object

/-- Value of the first entry with the key. -/
def get? (object : Object) (key : String) : Option Value :=
  match object with
  | [] => none
  | (name, value) :: rest => if name == key then some value else get? rest key

def keys (object : Object) : List String :=
  object.map fun entry => entry.1

/-- Change the value under a key in its place, or append an entry for the key. -/
def alter (object : Object) (key : String) (change : Option Value → Value) : Object :=
  match object with
  | [] => [(key, change none)]
  | (name, value) :: rest =>
      if name == key then
        (name, change (some value)) :: rest
      else
        (name, value) :: alter rest key change

/-- Set the value under a key.  A key that is present keeps its place. -/
def insert (object : Object) (key : String) (value : Value) : Object :=
  object.alter key fun _ => value

/-- Insert all entries of `extra`, in order. -/
def insertAll (object extra : Object) : Object :=
  extra.foldl (fun result entry => Object.insert result entry.1 entry.2) object

@[simp] theorem get?_alter_self (object : Object) (key : String)
    (change : Option Value → Value) :
    (object.alter key change).get? key = some (change (object.get? key)) := by
  induction object with
  | nil => simp [alter, get?]
  | cons entry rest ih =>
      obtain ⟨name, value⟩ := entry
      simp only [alter, get?]
      split
      · simp_all [get?]
      · simp_all [get?]

theorem get?_alter_of_ne (object : Object) {key other : String} (different : other ≠ key)
    (change : Option Value → Value) :
    (object.alter key change).get? other = object.get? other := by
  induction object with
  | nil => simp [alter, get?, Ne.symm different]
  | cons entry rest ih =>
      obtain ⟨name, value⟩ := entry
      simp only [alter]
      split
      · next here =>
          have : name ≠ other := fun equal => different (by rw [← equal, eq_of_beq here])
          simp [get?, this]
      · simp only [get?, ih]

theorem keys_alter (object : Object) (key : String) (change : Option Value → Value) :
    (object.alter key change).keys =
      if key ∈ object.keys then object.keys else object.keys ++ [key] := by
  induction object with
  | nil => simp [alter, keys]
  | cons entry rest ih =>
      obtain ⟨name, value⟩ := entry
      simp only [alter]
      split
      · next here => simp [keys, eq_of_beq here]
      · next elsewhere =>
          have different : key ≠ name := fun equal => elsewhere (by simp [equal])
          by_cases present : key ∈ keys rest
          · simp_all [keys]
          · simp_all [keys]

end Object

mutual

/-- Equality of structured values, whatever the order of object entries. -/
def Value.same : Value → Value → Bool
  | .null, .null => true
  | .bool left, .bool right => left == right
  | .number left, .number right => left.same right
  | .string left, .string right => left == right
  | .array left, .array right => sameItems left right
  | .object left, .object right => left.length == right.length && sameEntries left right
  | _, _ => false

def sameItems : List Value → List Value → Bool
  | [], [] => true
  | left :: lefts, right :: rights => left.same right && sameItems lefts rights
  | _, _ => false

/-- Whether every entry of the first object has an equal one in the second. -/
def sameEntries : List (String × Value) → List (String × Value) → Bool
  | [], _ => true
  | (key, value) :: rest, entries =>
      (match Object.get? entries key with
        | some other => value.same other
        | none => false) &&
      sameEntries rest entries

end

/-- Equality of objects: as many entries, and equal values under equal keys. -/
def Object.same (left right : Object) : Bool :=
  left.length == right.length && sameEntries left right

end Json
end PageRouting
