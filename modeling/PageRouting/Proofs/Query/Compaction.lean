import PageRouting.Proofs.Query.Placement

namespace PageRouting
namespace Query

open Json (Value Object)

/-!
# Compaction undoes the spelling of arrays

An array of at most `maxArrayIndex + 1` items that has been spelled out as an
object of positions is turned back into the array.  A longer one stays an
object, because the key of a later position is no index.  Objects with some key
that is no index are left alone.  Both directions matter: the second shows which
arrays and objects can not come back.
-/

/-- An array that is short enough to be recognised by its positions. -/
def IsShort : Value → Prop
  | .array items => items.length ≤ maxArrayIndex + 1
  | _ => True

/-- An object with a key that is no index, so that it is not taken for an array. -/
def IsNamed : Value → Prop
  | .object entries => ∃ key ∈ Object.keys entries, arrayIndex? key = none
  | _ => True

/-- Values under the keys of their positions. -/
def positionEntries (position : Nat) : List Value → Object
  | [] => []
  | value :: values => (positionKey position, value) :: positionEntries (position + 1) values

/-- Values with their positions. -/
def numbered (position : Nat) : List Value → List (Nat × Value)
  | [] => []
  | value :: values => (position, value) :: numbered (position + 1) values

/-! ## Entries one by one -/

theorem compactItems_eq (items : List Value) : compactItems items = items.map compact := by
  induction items with
  | nil => rfl
  | cons item items ih => rw [compactItems, ih, List.map_cons]

theorem compactEntries_eq (entries : Object) :
    compactEntries entries = entries.map fun entry => (entry.1, compact entry.2) := by
  induction entries with
  | nil => rfl
  | cons entry entries ih => rw [compactEntries, ih, List.map_cons]

theorem expandEntries_eq (entries : Object) :
    expandEntries entries = entries.map fun entry => (entry.1, expandValue entry.2) := by
  induction entries with
  | nil => rfl
  | cons entry entries ih => rw [expandEntries, ih, List.map_cons]

theorem expandItems_eq (position : Nat) (items : List Value) :
    expandItems position items = positionEntries position (items.map expandValue) := by
  induction items generalizing position with
  | nil => rfl
  | cons item items ih => rw [expandItems, ih, List.map_cons, positionEntries]

theorem compactEntries_positionEntries (position : Nat) (values : List Value) :
    compactEntries (positionEntries position values) =
      positionEntries position (values.map compact) := by
  induction values generalizing position with
  | nil => rfl
  | cons value values ih => rw [positionEntries, compactEntries, ih, List.map_cons, positionEntries]

theorem compactEntries_expandEntries (entries : Object) :
    compactEntries (expandEntries entries) =
      entries.map fun entry => (entry.1, compact (expandValue entry.2)) := by
  rw [compactEntries_eq, expandEntries_eq, List.map_map]
  rfl

theorem keys_map_values (entries : Object) (change : Value → Value) :
    Object.keys (entries.map fun entry => (entry.1, change entry.2)) = entries.keys := by
  simp [Object.keys]

/-- An object whose values have been changed is the same only if each of its
values is. -/
theorem same_of_mem_of_map_values {entries : Object} (distinct : entries.keys.Nodup)
    (change : Value → Value)
    (same : Object.same (entries.map fun entry => (entry.1, change entry.2)) entries = true)
    (entry : String × Value) (member : entry ∈ entries) :
    (change entry.2).same entry.2 = true := by
  have mappedDistinct := distinct
  rw [← keys_map_values entries change] at mappedDistinct
  rcases ((Object.same_iff mappedDistinct distinct).mp same).2 entry member with
    ⟨other, otherMember, equal⟩
  rcases List.mem_map.mp otherMember with ⟨source, sourceMember, sourceEq⟩
  rcases Prod.mk.inj sourceEq with ⟨sameKey, sameValue⟩
  have found := Object.get?_eq_some_of_mem distinct sourceMember
  have alsoFound := Object.get?_eq_some_of_mem distinct member
  rw [sameKey, alsoFound] at found
  rw [← sameValue, ← Option.some.inj found] at equal
  exact equal

/-! ## Which objects are arrays -/

theorem arrayIndex?_positionKey (position : Nat) :
    arrayIndex? (positionKey position) =
      if position ≤ maxArrayIndex then some position else none := by
  have digits : (Nat.toDigits 10 position).all Char.isDigit = true :=
    List.all_eq_true.mpr fun c member =>
      Nat.isDigit_of_mem_toDigits (by decide) (by decide) member
  have some : (Nat.toDigits 10 position).isEmpty = false :=
    List.isEmpty_eq_false_iff.mpr Nat.toDigits_ne_nil
  have value := decimalValue_positionKey position
  simp only [positionKey, String.toList_ofList] at value
  simp only [arrayIndex?, positionKey, String.toList_ofList, digits, some, value, Bool.not_true,
    Bool.or_self, Bool.false_eq_true, if_false]

/-- An entry with its index, if its key denotes one. -/
def withIndex? (entry : String × Value) : Option (Nat × Value) :=
  (arrayIndex? entry.1).map fun index => (index, entry.2)

theorem indexedEntries?_of_ne_nil {entries : Object} (some : entries ≠ []) :
    indexedEntries? entries = entries.mapM withIndex? := by
  cases entries with
  | nil => exact absurd rfl some
  | cons entry rest =>
      rw [indexedEntries?]
      · congr 1
        funext other
        cases index : arrayIndex? other.1 <;> simp [withIndex?, index]
      · simp

/-- Entries that all have an index, each with its own. -/
theorem map_of_mapM_withIndex? {entries : Object} {indexed : List (Nat × Value)}
    (found : entries.mapM withIndex? = some indexed) :
    (indexed.map fun entry => (some entry.1, entry.2)) =
      entries.map fun entry => (arrayIndex? entry.1, entry.2) := by
  induction entries generalizing indexed with
  | nil =>
      rw [← Option.some.inj found]
      rfl
  | cons entry rest ih =>
      rw [List.mapM_cons] at found
      cases index : arrayIndex? entry.1 with
      | none => simp [withIndex?, index] at found
      | some number =>
          cases later : rest.mapM withIndex? with
          | none => simp [withIndex?, index, later] at found
          | some others =>
              simp only [withIndex?, index, later, Option.map_some, Option.bind_eq_bind,
                Option.bind_some, Option.pure_def, Option.some.injEq] at found
              rw [← found, List.map_cons, List.map_cons, ih later, index]

theorem mapM_withIndex?_eq_none {entries : Object} :
    entries.mapM withIndex? = none ↔ ∃ key ∈ entries.keys, arrayIndex? key = none := by
  induction entries with
  | nil => simp [Object.keys]
  | cons entry rest ih =>
      rcases entry with ⟨key, value⟩
      cases index : arrayIndex? key with
      | none => simp [withIndex?, index, Object.keys]
      | some number =>
          have later : (∃ other ∈ Object.keys ((key, value) :: rest),
              arrayIndex? other = none) ↔ ∃ other ∈ Object.keys rest, arrayIndex? other = none := by
            simp [Object.keys, index]
          rw [later, ← ih, List.mapM_cons]
          cases rest.mapM withIndex? <;> simp [withIndex?, index]

theorem indexedEntries?_eq_none {entries : Object} :
    indexedEntries? entries = none ↔
      entries = [] ∨ ∃ key ∈ entries.keys, arrayIndex? key = none := by
  by_cases none : entries = []
  · simp [none, indexedEntries?]
  · rw [indexedEntries?_of_ne_nil none, mapM_withIndex?_eq_none, or_iff_right none]

theorem compactObject_of_named {entries : Object} (named : IsNamed (.object entries)) :
    compactObject entries = .object entries := by
  rw [compactObject, indexedEntries?_eq_none.mpr (Or.inr named)]

/-- An object that has become an array had only indices for keys. -/
theorem compactObject_eq_or (entries : Object) :
    (compactObject entries = .object entries ∧ (entries ≠ [] → IsNamed (.object entries))) ∨
      ∃ indexed, indexedEntries? entries = some indexed ∧ compactObject entries =
        .array ((indexed.mergeSort fun left right => left.1 ≤ right.1).map
          fun entry => entry.2) := by
  cases found : indexedEntries? entries with
  | none =>
      refine Or.inl ⟨by rw [compactObject, found], ?_⟩
      exact (indexedEntries?_eq_none.mp found).resolve_left
  | some indexed => exact Or.inr ⟨indexed, rfl, by rw [compactObject, found]⟩

/-! ## Arrays of positions -/

theorem mapM_positionEntries {position : Nat} {values : List Value}
    (short : position + values.length ≤ maxArrayIndex + 1) :
    (positionEntries position values).mapM withIndex? = some (numbered position values) := by
  induction values generalizing position with
  | nil => rfl
  | cons value values ih =>
      rw [List.length_cons] at short
      have index : arrayIndex? (positionKey position) = some position := by
        rw [arrayIndex?_positionKey, if_pos (by omega)]
      have others := @ih (position + 1) (by omega)
      simp [positionEntries, numbered, List.mapM_cons, withIndex?, index, others]

theorem map_snd_numbered (position : Nat) (values : List Value) :
    ((numbered position values).map fun entry => entry.2) = values := by
  induction values generalizing position with
  | nil => rfl
  | cons value values ih => rw [numbered, List.map_cons, ih]

theorem le_of_mem_numbered {position : Nat} {values : List Value} {entry : Nat × Value}
    (member : entry ∈ numbered position values) : position ≤ entry.1 := by
  induction values generalizing position with
  | nil => exact absurd member List.not_mem_nil
  | cons value values ih =>
      rcases List.mem_cons.mp member with here | later
      · exact Nat.le_of_eq (congrArg Prod.fst here).symm
      · have := ih later
        omega

theorem pairwise_numbered (position : Nat) (values : List Value) :
    (numbered position values).Pairwise fun left right => decide (left.1 ≤ right.1) = true := by
  induction values generalizing position with
  | nil => exact List.Pairwise.nil
  | cons value values ih =>
      refine List.pairwise_cons.mpr ⟨?_, ih (position + 1)⟩
      intro later member
      have := le_of_mem_numbered member
      simp only [decide_eq_true_eq]
      omega

theorem compactObject_positionEntries {values : List Value} (some : values ≠ [])
    (short : values.length ≤ maxArrayIndex + 1) :
    compactObject (positionEntries 0 values) = .array values := by
  have indexed : indexedEntries? (positionEntries 0 values) = .some (numbered 0 values) := by
    rw [indexedEntries?_of_ne_nil, mapM_positionEntries (by omega)]
    cases values with
    | nil => exact absurd rfl some
    | cons value values => exact List.cons_ne_nil _ _
  simp only [compactObject, indexed, List.mergeSort_of_pairwise (pairwise_numbered 0 values),
    map_snd_numbered]

theorem positionKey_mem_keys {position later : Nat} {values : List Value}
    (after : position ≤ later) (before : later < position + values.length) :
    positionKey later ∈ Object.keys (positionEntries position values) := by
  induction values generalizing position with
  | nil => simp only [List.length_nil] at before; omega
  | cons value values ih =>
      rw [List.length_cons] at before
      by_cases here : later = position
      · exact here ▸ List.mem_cons_self
      · exact List.mem_cons_of_mem _ (ih (by omega) (by omega))

/-- The key of the first position that is no index keeps a long array an object. -/
theorem compactObject_positionEntries_of_long {values : List Value}
    (long : maxArrayIndex + 1 < values.length) :
    compactObject (positionEntries 0 values) = .object (positionEntries 0 values) := by
  apply compactObject_of_named
  refine ⟨positionKey (maxArrayIndex + 1), positionKey_mem_keys (by omega) (by omega), ?_⟩
  rw [arrayIndex?_positionKey, if_neg (by omega)]

/-! ## Values that come back -/

/-- What compaction needs to know of an array or an object. -/
structure IsCompactable (value : Value) : Prop where
  filled : IsFilled value
  named : IsNamed value
  short : IsShort value

theorem compact_expandValue {value : Value} (compactable : value.Everywhere IsCompactable) :
    compact (expandValue value) = value := by
  induction value using Value.nestedInduction with
  | leaf value leaf =>
      cases value with
      | object entries => exact leaf.elim
      | array items => exact leaf.elim
      | _ => rfl
  | array items ih =>
      rcases Value.everywhere_array.mp compactable with ⟨here, inside⟩
      have back : (items.map expandValue).map compact = items := by
        rw [List.map_map]
        exact (List.map_congr_left fun item member => ih item member (inside item member)).trans
          (List.map_id items)
      rw [expandValue, compact, expandItems_eq, compactEntries_positionEntries, back,
        compactObject_positionEntries here.filled here.short]
  | object entries ih =>
      rcases Value.everywhere_object.mp compactable with ⟨here, inside⟩
      have back : (entries.map fun entry => (entry.1, compact (expandValue entry.2))) =
          entries := by
        refine (List.map_congr_left ?_).trans (List.map_id entries)
        intro entry member
        rw [ih entry member (inside entry member)]
        rfl
      rw [expandValue, compact, compactEntries_expandEntries, back,
        compactObject_of_named here.named]

/-- What comes back the same had short arrays only, and no object that could be
taken for an array. -/
theorem everywhere_of_same_compact {value : Value} (distinct : value.WellFormed)
    (filled : value.Everywhere IsFilled)
    (same : (compact (expandValue value)).same value = true) :
    value.Everywhere fun inner => IsNamed inner ∧ IsShort inner := by
  induction value using Value.nestedInduction with
  | leaf value leaf =>
      refine (Value.everywhere_of_isLeaf leaf).mpr ?_
      cases value with
      | object entries => exact leaf.elim
      | array items => exact leaf.elim
      | _ => exact ⟨trivial, trivial⟩
  | array items ih =>
      rcases Value.everywhere_array.mp filled with ⟨some, inside⟩
      have nonempty : items ≠ [] := some
      rw [expandValue, compact, expandItems_eq, compactEntries_positionEntries,
        List.map_map] at same
      by_cases long : maxArrayIndex + 1 < items.length
      · rw [compactObject_positionEntries_of_long (by simpa using long)] at same
        exact absurd same (by simp [Value.same])
      · have short : items.length ≤ maxArrayIndex + 1 := by omega
        rw [compactObject_positionEntries (by simpa using nonempty) (by simpa using short)] at same
        refine Value.everywhere_array.mpr ⟨⟨trivial, short⟩, ?_⟩
        intro item member
        have itemSame : (compact (expandValue item)).same item = true := by
          have paired := Json.sameItems_iff.mp same
          rw [List.forall₂_map_left_iff, List.forall₂_same] at paired
          exact paired item member
        exact ih item member ((Value.everywhere_array.mp distinct).2 item member)
          (inside item member) itemSame
  | object entries ih =>
      rcases Value.everywhere_object.mp filled with ⟨some, inside⟩
      have nonempty : entries ≠ [] := some
      have keysDistinct : entries.keys.Nodup := distinct.here
      rw [expandValue, compact, compactEntries_expandEntries] at same
      rcases compactObject_eq_or (entries.map fun entry =>
          (entry.1, compact (expandValue entry.2))) with ⟨kept, named⟩ | ⟨indexed, _, taken⟩
      · have here : IsNamed (.object entries) := by
          rcases named (by simpa using nonempty) with ⟨key, member, unindexed⟩
          rw [keys_map_values entries fun value => compact (expandValue value)] at member
          exact ⟨key, member, unindexed⟩
        refine Value.everywhere_object.mpr ⟨⟨here, trivial⟩, ?_⟩
        intro entry member
        have entrySame : (compact (expandValue entry.2)).same entry.2 = true := by
          rw [kept] at same
          exact same_of_mem_of_map_values keysDistinct
            (fun value => compact (expandValue value)) same entry member
        exact ih entry member ((Value.everywhere_object.mp distinct).2 entry member)
          (inside entry member) entrySame
      · rw [taken] at same
        exact absurd same (by simp [Value.same])

end Query
end PageRouting
