import PageRouting.Proofs.Json.Nested
import PageRouting.Proofs.Query.KeyPath

namespace PageRouting
namespace Query

open Json (Value Object)

/-!
# Placing the leaves of an object rebuilds it

Leaves that come from one object never meet: their paths share only the keys of
the containers they are in.  Placing them in order therefore adds one entry after
the other, and gives the object back with its arrays spelled out as objects of
positions.  What remains to be undone is that spelling, which is the subject of
compaction.
-/

mutual

/-- The value with every array written as an object of its positions. -/
def expandValue : Value → Value
  | .object entries => .object (expandEntries entries)
  | .array items => .object (expandItems 0 items)
  | .null => .null
  | .bool value => .bool value
  | .number value => .number value
  | .string value => .string value

def expandItems (position : Nat) : List Value → Object
  | [] => []
  | item :: items => (positionKey position, expandValue item) :: expandItems (position + 1) items

def expandEntries : List (String × Value) → Object
  | [] => []
  | (key, value) :: rest => (key, expandValue value) :: expandEntries rest

end

/-- Place a leaf at its path. -/
def placeLeaf (target : Object) (leaf : Leaf) : Object :=
  insert leaf.value leaf.path target

/-- No array and no object is empty.  An empty one leaves no trace in a query. -/
def IsFilled : Value → Prop
  | .object entries => entries ≠ []
  | .array items => items ≠ []
  | _ => True

/-- No key of the object is empty. -/
def HasNamedKeys (value : Value) : Prop :=
  ∀ key ∈ value.ownKeys, key ≠ ""

/-! ## Positions as keys -/

theorem positionKey_ne_empty (position : Nat) : positionKey position ≠ "" := by
  intro empty
  have none := congrArg String.toList empty
  rw [positionKey, String.toList_ofList] at none
  exact Nat.toDigits_ne_nil none

theorem decimalValue_positionKey (position : Nat) :
    decimalValue (positionKey position).toList = position := by
  rw [positionKey, String.toList_ofList]
  exact Nat.ofDigitChars_ten_toDigits

theorem positionKey_injective {one other : Nat} (same : positionKey one = positionKey other) :
    one = other := by
  rw [← decimalValue_positionKey one, same, decimalValue_positionKey]

/-! ## Leaves of one value, placed under one key -/

theorem alter_append_of_not_mem {target : Object} {key : String} (fresh : key ∉ target.keys)
    (rest : Object) (change : Option Value → Value) :
    (target ++ rest).alter key change = target ++ rest.alter key change := by
  induction target with
  | nil => rfl
  | cons entry others ih =>
      rcases entry with ⟨name, value⟩
      have different : (name == key) = false := by
        apply beq_eq_false_iff_ne.mpr
        intro same
        exact fresh (same ▸ List.mem_cons_self)
      have later : key ∉ Object.keys others :=
        fun member => fresh (List.mem_cons_of_mem _ member)
      simp only [List.cons_append, Object.alter, different, Bool.false_eq_true, if_false,
        ih later]

theorem segmentKey_of_ne {key : String} (named : key ≠ "") (target : Object) :
    segmentKey key target = key := by
  simp only [segmentKey, String.isEmpty_iff, named, if_false]

/-- A first leaf in a container opens the container at the end of the target. -/
theorem placeLeaf_under_new {target : Object} {key : String} (fresh : key ∉ target.keys)
    (named : key ≠ "") {leaf : Leaf} (deeper : leaf.path ≠ []) :
    placeLeaf target (leaf.under key) = target ++ [(key, .object (placeLeaf [] leaf))] := by
  rcases leaf with ⟨path, value⟩
  cases path with
  | nil => exact absurd rfl deeper
  | cons next rest =>
      have placed := alter_append_of_not_mem fresh [] (descend (insert value (next :: rest)))
      rw [List.append_nil] at placed
      simp only [placeLeaf, Leaf.under, insert, segmentKey_of_ne named, placed]
      rfl

/-- Further leaves of the container go on in it. -/
theorem placeLeaf_under_last {target inner : Object} {key : String}
    (fresh : key ∉ target.keys) (named : key ≠ "") {leaf : Leaf} (deeper : leaf.path ≠ []) :
    placeLeaf (target ++ [(key, .object inner)]) (leaf.under key) =
      target ++ [(key, .object (placeLeaf inner leaf))] := by
  rcases leaf with ⟨path, value⟩
  cases path with
  | nil => exact absurd rfl deeper
  | cons next rest =>
      simp only [placeLeaf, Leaf.under, insert, segmentKey_of_ne named,
        alter_append_of_not_mem fresh, Object.alter, beq_self_eq_true, if_true, descend]

theorem foldl_placeLeaf_under_last {target inner : Object} {key : String}
    (fresh : key ∉ target.keys) (named : key ≠ "") {inside : List Leaf}
    (deeper : ∀ leaf ∈ inside, leaf.path ≠ []) :
    (inside.map (Leaf.under key)).foldl placeLeaf (target ++ [(key, .object inner)]) =
      target ++ [(key, .object (inside.foldl placeLeaf inner))] := by
  induction inside generalizing inner with
  | nil => rfl
  | cons leaf others ih =>
      rw [List.map_cons, List.foldl_cons, List.foldl_cons,
        placeLeaf_under_last fresh named (deeper leaf List.mem_cons_self)]
      exact ih fun other member => deeper other (List.mem_cons_of_mem _ member)

/-- All leaves of a container together are one new entry: the container as its
leaves build it. -/
theorem foldl_placeLeaf_under {target : Object} {key : String} (fresh : key ∉ target.keys)
    (named : key ≠ "") {inside : List Leaf} (filled : inside ≠ [])
    (deeper : ∀ leaf ∈ inside, leaf.path ≠ []) :
    (inside.map (Leaf.under key)).foldl placeLeaf target =
      target ++ [(key, .object (inside.foldl placeLeaf []))] := by
  cases inside with
  | nil => exact absurd rfl filled
  | cons leaf others =>
      rw [List.map_cons, List.foldl_cons, List.foldl_cons,
        placeLeaf_under_new fresh named (deeper leaf List.mem_cons_self)]
      exact foldl_placeLeaf_under_last fresh named fun other member =>
        deeper other (List.mem_cons_of_mem _ member)

/-! ## Leaves of an object, placed in order -/

theorem path_ne_nil_of_mem_entryLeaves {entries : Object} {leaf : Leaf}
    (member : leaf ∈ entryLeaves entries) : leaf.path ≠ [] := by
  induction entries with
  | nil => exact absurd member List.not_mem_nil
  | cons entry rest ih =>
      rcases List.mem_append.mp member with here | later
      · rcases List.mem_map.mp here with ⟨inner, _, rfl⟩
        exact List.cons_ne_nil _ _
      · exact ih later

theorem path_ne_nil_of_mem_itemLeaves {position : Nat} {items : List Value} {leaf : Leaf}
    (member : leaf ∈ itemLeaves position items) : leaf.path ≠ [] := by
  induction items generalizing position with
  | nil => exact absurd member List.not_mem_nil
  | cons item rest ih =>
      rcases List.mem_append.mp member with here | later
      · rcases List.mem_map.mp here with ⟨inner, _, rfl⟩
        exact List.cons_ne_nil _ _
      · exact ih later

/-- Nothing that is filled at every level is without leaves. -/
theorem valueLeaves_ne_nil {value : Value} (filled : value.Everywhere IsFilled) :
    valueLeaves value ≠ [] := by
  induction value using Value.nestedInduction with
  | leaf value leaf => cases value <;> simp_all [valueLeaves, Value.IsLeaf]
  | array items ih =>
      rcases Value.everywhere_array.mp filled with ⟨some, inside⟩
      cases items with
      | nil => exact absurd rfl some
      | cons item rest =>
          have first := ih item List.mem_cons_self (inside item List.mem_cons_self)
          simp [valueLeaves, itemLeaves, first]
  | object entries ih =>
      rcases Value.everywhere_object.mp filled with ⟨some, inside⟩
      cases entries with
      | nil => exact absurd rfl some
      | cons entry rest =>
          have first := ih entry List.mem_cons_self (inside entry List.mem_cons_self)
          simp [valueLeaves, entryLeaves, first]

/-- The leaves of the value, placed under a new key, add its expansion. -/
def PlacesWhole (value : Value) : Prop :=
  ∀ (target : Object) (key : String), key ∉ target.keys → key ≠ "" →
    ((valueLeaves value).map (Leaf.under key)).foldl placeLeaf target =
      target ++ [(key, expandValue value)]

theorem keys_append (left right : Object) :
    Object.keys (left ++ right) = left.keys ++ right.keys := by
  simp [Object.keys]

theorem foldl_placeLeaf_itemLeaves {items : List Value}
    (whole : ∀ item ∈ items, PlacesWhole item) (position : Nat) {target : Object}
    (fresh : ∀ later, position ≤ later → positionKey later ∉ target.keys) :
    (itemLeaves position items).foldl placeLeaf target = target ++ expandItems position items := by
  induction items generalizing position target with
  | nil => simp [itemLeaves, expandItems]
  | cons item rest ih =>
      have first := whole item List.mem_cons_self target (positionKey position)
        (fresh position (Nat.le_refl _)) (positionKey_ne_empty position)
      rw [itemLeaves, List.foldl_append, first,
        ih (fun other member => whole other (List.mem_cons_of_mem _ member)), expandItems,
        List.append_assoc, List.singleton_append]
      intro later after member
      rw [keys_append] at member
      rcases List.mem_append.mp member with before | last
      · exact fresh later (by omega) before
      · have same := positionKey_injective (List.mem_singleton.mp last)
        omega

theorem foldl_placeLeaf_entryLeaves {entries : Object}
    (whole : ∀ entry ∈ entries, PlacesWhole entry.2) {target : Object}
    (named : ∀ key ∈ entries.keys, key ≠ "") (distinct : entries.keys.Nodup)
    (fresh : ∀ key ∈ entries.keys, key ∉ target.keys) :
    (entryLeaves entries).foldl placeLeaf target = target ++ expandEntries entries := by
  induction entries generalizing target with
  | nil => simp [entryLeaves, expandEntries]
  | cons entry rest ih =>
      rcases entry with ⟨key, value⟩
      rcases List.nodup_cons.mp distinct with ⟨absent, others⟩
      have first := whole _ List.mem_cons_self target key (fresh key List.mem_cons_self)
        (named key List.mem_cons_self)
      rw [entryLeaves, List.foldl_append, first,
        ih (fun other member => whole other (List.mem_cons_of_mem _ member))
          (fun other member => named other (List.mem_cons_of_mem _ member)) others,
        expandEntries, List.append_assoc, List.singleton_append]
      intro other member before
      rw [keys_append] at before
      rcases List.mem_append.mp before with before | last
      · exact fresh other (List.mem_cons_of_mem _ member) before
      · exact absent (List.mem_singleton.mp last ▸ member)

/-- What placing needs to know of an object or an array. -/
structure IsPlaceable (value : Value) : Prop where
  filled : IsFilled value
  named : HasNamedKeys value
  distinct : value.ownKeys.Nodup

theorem placesWhole {value : Value} (placeable : value.Everywhere IsPlaceable) :
    PlacesWhole value := by
  have some := valueLeaves_ne_nil (placeable.imp fun _ inner => inner.filled)
  induction value using Value.nestedInduction with
  | leaf value leaf =>
      intro target key fresh named
      have placed := alter_append_of_not_mem fresh [] (collect value)
      rw [List.append_nil] at placed
      cases value with
      | object entries => exact leaf.elim
      | array items => exact leaf.elim
      | _ =>
          simp only [valueLeaves, List.map_cons, List.map_nil, List.foldl_cons, List.foldl_nil,
            placeLeaf, Leaf.under, insert, segmentKey_of_ne named, placed]
          rfl
  | array items ih =>
      intro target key fresh named
      rcases Value.everywhere_array.mp placeable with ⟨_, inside⟩
      have whole : ∀ item ∈ items, PlacesWhole item := fun item member =>
        ih item member (inside item member)
          (valueLeaves_ne_nil ((inside item member).imp fun _ inner => inner.filled))
      have placed := foldl_placeLeaf_under fresh named some
        fun leaf member => path_ne_nil_of_mem_itemLeaves member
      rw [placed, valueLeaves, foldl_placeLeaf_itemLeaves whole 0 fun _ _ => List.not_mem_nil,
        List.nil_append, expandValue]
  | object entries ih =>
      intro target key fresh named
      rcases Value.everywhere_object.mp placeable with ⟨here, inside⟩
      have whole : ∀ entry ∈ entries, PlacesWhole entry.2 := fun entry member =>
        ih entry member (inside entry member)
          (valueLeaves_ne_nil ((inside entry member).imp fun _ inner => inner.filled))
      have placed := foldl_placeLeaf_under fresh named some
        fun leaf member => path_ne_nil_of_mem_entryLeaves member
      rw [placed, valueLeaves,
        foldl_placeLeaf_entryLeaves whole here.named here.distinct fun _ _ => List.not_mem_nil,
        List.nil_append, expandValue]

/-- Placing the leaves of an object in order gives the object back with its
arrays spelled out. -/
theorem foldl_placeLeaf_entryLeaves_eq {object : Object} (named : HasNamedKeys (.object object))
    (distinct : object.keys.Nodup)
    (inside : ∀ entry ∈ object, entry.2.Everywhere IsPlaceable) :
    (entryLeaves object).foldl placeLeaf [] = expandEntries object := by
  have whole : ∀ entry ∈ object, PlacesWhole entry.2 :=
    fun entry member => placesWhole (inside entry member)
  rw [foldl_placeLeaf_entryLeaves whole named distinct fun _ _ => List.not_mem_nil,
    List.nil_append]

end Query
end PageRouting
