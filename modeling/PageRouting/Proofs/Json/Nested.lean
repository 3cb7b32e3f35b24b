import Mathlib.Data.List.Perm.Subperm
import PageRouting.Json.Value

namespace PageRouting
namespace Json

/-!
# Values inside values

What a nested value is made of: the values in it, the keys at every level, and
its leaves with the keys and positions on the way to them.  Statements about a
value at every level are statements about the members of these lists, and the
induction principle of this module has one case for each kind of container.

Equality up to the order of entries is treated here too.  For objects without
repeated keys, which are the only ones that maps can denote, it pairs the
entries of the two sides off against each other.
-/

namespace Value

mutual

/-- A value and all values in it, from the outside in. -/
def nested : Value → List Value
  | .object entries => .object entries :: nestedEntries entries
  | .array items => .array items :: nestedItems items
  | .null => [.null]
  | .bool value => [.bool value]
  | .number value => [.number value]
  | .string value => [.string value]

def nestedItems : List Value → List Value
  | [] => []
  | item :: items => item.nested ++ nestedItems items

def nestedEntries : List (String × Value) → List Value
  | [] => []
  | (_, value) :: rest => value.nested ++ nestedEntries rest

end

/-- Keys of an object; other values have none. -/
def ownKeys : Value → List String
  | .object entries => Object.keys entries
  | _ => []

/-- Keys at all levels of a value. -/
def allKeys (value : Value) : List String :=
  value.nested.flatMap ownKeys

/-- Neither an object nor an array. -/
def IsLeaf : Value → Prop
  | .object _ => False
  | .array _ => False
  | _ => True

/-- A value is a leaf, or an array or an object of smaller values. -/
theorem nestedInduction {motive : Value → Prop} (leaf : ∀ value, IsLeaf value → motive value)
    (array : ∀ items, (∀ item ∈ items, motive item) → motive (.array items))
    (object : ∀ entries : Object, (∀ entry ∈ entries, motive entry.2) → motive (.object entries))
    (value : Value) : motive value := by
  refine Value.rec (motive_1 := motive) (motive_2 := fun items => ∀ item ∈ items, motive item)
    (motive_3 := fun entries => ∀ entry ∈ entries, motive entry.2)
    (motive_4 := fun entry => motive entry.2) ?_ ?_ ?_ ?_ ?_ ?_ ?_ ?_ ?_ ?_ ?_ value
  · exact leaf .null trivial
  · exact fun value => leaf (.bool value) trivial
  · exact fun value => leaf (.number value) trivial
  · exact fun value => leaf (.string value) trivial
  · exact array
  · exact object
  · exact fun item member => absurd member List.not_mem_nil
  · intro head tail here later item member
    rcases List.mem_cons.mp member with same | member
    · exact same ▸ here
    · exact later item member
  · exact fun entry member => absurd member List.not_mem_nil
  · intro head tail here later entry member
    rcases List.mem_cons.mp member with same | member
    · exact same ▸ here
    · exact later entry member
  · exact fun key value held => held

/-! ## Members of the list of nested values -/

theorem nested_of_isLeaf {value : Value} (leaf : value.IsLeaf) : value.nested = [value] := by
  cases value with
  | object entries => exact leaf.elim
  | array items => exact leaf.elim
  | null => rfl
  | bool value => rfl
  | number value => rfl
  | string value => rfl

theorem mem_nestedItems {inner : Value} {items : List Value} :
    inner ∈ nestedItems items ↔ ∃ item ∈ items, inner ∈ item.nested := by
  induction items with
  | nil => simp [nestedItems]
  | cons item items ih => simp [nestedItems, ih]

theorem mem_nestedEntries {inner : Value} {entries : Object} :
    inner ∈ nestedEntries entries ↔ ∃ entry ∈ entries, inner ∈ entry.2.nested := by
  induction entries with
  | nil => simp [nestedEntries]
  | cons entry entries ih => simp [nestedEntries, ih]

/-- What is true of a value and of all values in it. -/
def Everywhere (holds : Value → Prop) (value : Value) : Prop :=
  ∀ inner ∈ value.nested, holds inner

variable {holds : Value → Prop}

theorem isLeaf_string (text : String) : IsLeaf (.string text) := trivial

theorem everywhere_of_isLeaf {value : Value} (leaf : value.IsLeaf) :
    value.Everywhere holds ↔ holds value := by
  simp [Everywhere, nested_of_isLeaf leaf]

theorem everywhere_array {items : List Value} :
    (Value.array items).Everywhere holds ↔
      holds (.array items) ∧ ∀ item ∈ items, item.Everywhere holds := by
  simp only [Everywhere, nested, List.forall_mem_cons, mem_nestedItems]
  exact and_congr_right fun _ =>
    ⟨fun every item member inner inside => every inner ⟨item, member, inside⟩,
      fun every inner ⟨item, member, inside⟩ => every item member inner inside⟩

theorem everywhere_object {entries : Object} :
    (Value.object entries).Everywhere holds ↔
      holds (.object entries) ∧ ∀ entry ∈ entries, entry.2.Everywhere holds := by
  simp only [Everywhere, nested, List.forall_mem_cons, mem_nestedEntries]
  exact and_congr_right fun _ =>
    ⟨fun every entry member inner inside => every inner ⟨entry, member, inside⟩,
      fun every inner ⟨entry, member, inside⟩ => every entry member inner inside⟩

theorem self_mem_nested (value : Value) : value ∈ value.nested := by
  cases value <;> simp [nested]

theorem Everywhere.here {value : Value} (every : value.Everywhere holds) : holds value :=
  every value (self_mem_nested value)

theorem Everywhere.imp {weaker : Value → Prop} {value : Value}
    (every : value.Everywhere holds) (weaken : ∀ inner, holds inner → weaker inner) :
    value.Everywhere weaker :=
  fun inner member => weaken inner (every inner member)

theorem forall_mem_allKeys {value : Value} {holds : String → Prop} :
    (∀ key ∈ value.allKeys, holds key) ↔
      value.Everywhere fun inner => ∀ key ∈ inner.ownKeys, holds key := by
  simp only [allKeys, List.mem_flatMap, Everywhere]
  exact ⟨fun every inner inside key member => every key ⟨inner, inside, member⟩,
    fun every key ⟨inner, inside, member⟩ => every inner inside key member⟩

theorem mem_allKeys_array {key : String} {items : List Value} :
    key ∈ (Value.array items).allKeys ↔ ∃ item ∈ items, key ∈ item.allKeys := by
  simp only [allKeys, nested, List.flatMap_cons, ownKeys, List.nil_append, List.mem_flatMap,
    mem_nestedItems]
  exact ⟨fun ⟨inner, ⟨item, member, inside⟩, own⟩ => ⟨item, member, inner, inside, own⟩,
    fun ⟨item, member, inner, inside, own⟩ => ⟨inner, ⟨item, member, inside⟩, own⟩⟩

theorem mem_allKeys_object {key : String} {entries : Object} :
    key ∈ (Value.object entries).allKeys ↔
      key ∈ entries.keys ∨ ∃ entry ∈ entries, key ∈ entry.2.allKeys := by
  simp only [allKeys, nested, List.flatMap_cons, ownKeys, List.mem_append, List.mem_flatMap,
    mem_nestedEntries]
  apply or_congr Iff.rfl
  exact ⟨fun ⟨inner, ⟨entry, member, inside⟩, own⟩ => ⟨entry, member, inner, inside, own⟩,
    fun ⟨entry, member, inner, inside, own⟩ => ⟨inner, ⟨entry, member, inside⟩, own⟩⟩

/-- No object of the value has a key twice.  A map cannot have one twice. -/
def WellFormed (value : Value) : Prop :=
  value.Everywhere fun inner => inner.ownKeys.Nodup

instance (value : Value) : Decidable value.WellFormed :=
  inferInstanceAs (Decidable (∀ inner ∈ value.nested, inner.ownKeys.Nodup))

end Value

/-! ## Looking up entries -/

namespace Object

theorem mem_keys {object : Object} {key : String} :
    key ∈ object.keys ↔ ∃ value, (key, value) ∈ object := by
  simp [keys]

theorem mem_of_get?_eq_some {object : Object} {key : String} {value : Value}
    (found : object.get? key = some value) : (key, value) ∈ object := by
  induction object with
  | nil => simp [get?] at found
  | cons entry rest ih =>
      rcases entry with ⟨name, other⟩
      simp only [get?] at found
      split at found
      · next here =>
          rw [eq_of_beq here, Option.some.inj found]
          exact List.mem_cons_self
      · exact List.mem_cons_of_mem _ (ih found)

theorem get?_eq_some_of_mem {object : Object} (distinct : object.keys.Nodup) {key : String}
    {value : Value} (member : (key, value) ∈ object) : object.get? key = some value := by
  induction object with
  | nil => exact absurd member List.not_mem_nil
  | cons entry rest ih =>
      rcases entry with ⟨name, other⟩
      rcases List.nodup_cons.mp distinct with ⟨absent, distinct⟩
      rcases List.mem_cons.mp member with same | later
      · rcases Prod.mk.inj same with ⟨rfl, rfl⟩
        simp [get?]
      · have different : name ≠ key := by
          intro same
          exact absent (same ▸ mem_keys.mpr ⟨value, later⟩)
        simp only [get?, beq_eq_false_iff_ne.mpr different, Bool.false_eq_true, if_false]
        exact ih distinct later

theorem get?_eq_none_iff {object : Object} {key : String} :
    object.get? key = none ↔ key ∉ object.keys := by
  induction object with
  | nil => simp [get?, keys]
  | cons entry rest ih =>
      rcases entry with ⟨name, value⟩
      by_cases same : name = key
      · simp [get?, keys, same]
      · have others : key ∉ Object.keys ((name, value) :: rest) ↔ key ∉ Object.keys rest := by
          simp [keys, Ne.symm same]
        rw [others, ← ih, get?, if_neg (by simpa using same)]

/-- Objects without repeated keys and with as many entries, all keys of the one
being keys of the other, have the same keys. -/
theorem keys_perm {left right : Object} (distinct : left.keys.Nodup)
    (sizes : left.length = right.length) (included : left.keys ⊆ right.keys) :
    left.keys.Perm right.keys := by
  apply (List.subperm_of_subset distinct included).perm_of_length_le
  simp only [keys, List.length_map, sizes, Nat.le_refl]

end Object

/-! ## Equality whatever the order of entries -/

theorem sameItems_iff {left right : List Value} :
    sameItems left right = true ↔ List.Forall₂ (fun one other => one.same other = true)
      left right := by
  induction left generalizing right with
  | nil => cases right <;> simp [sameItems]
  | cons item items ih => cases right <;> simp [sameItems, ih]

/-- Every item of the right side stands opposite to an equal one. -/
theorem exists_same_of_mem {left right : List Value} (same : sameItems left right = true) :
    ∀ item ∈ right, ∃ other ∈ left, other.same item = true := by
  rw [sameItems_iff] at same
  induction same with
  | nil => exact fun item member => absurd member List.not_mem_nil
  | cons equal others ih =>
      intro item member
      rcases List.mem_cons.mp member with here | later
      · exact ⟨_, List.mem_cons_self, here ▸ equal⟩
      · rcases ih item later with ⟨other, member, equal⟩
        exact ⟨other, List.mem_cons_of_mem _ member, equal⟩

theorem sameEntries_iff {left right : Object} :
    sameEntries left right = true ↔
      ∀ entry ∈ left, ∃ other, right.get? entry.1 = some other ∧ entry.2.same other = true := by
  induction left with
  | nil => simp [sameEntries]
  | cons entry rest ih =>
      rcases entry with ⟨key, value⟩
      simp only [sameEntries, Bool.and_eq_true, ih, List.forall_mem_cons]
      apply and_congr_left'
      cases right.get? key with
      | none => simp
      | some other => simp

/-- Two objects without repeated keys are the same exactly when every entry of
either side has an equal one on the other. -/
theorem Object.same_iff {left right : Object} (leftDistinct : left.keys.Nodup)
    (rightDistinct : right.keys.Nodup) :
    left.same right = true ↔
      (∀ entry ∈ left, ∃ other, (entry.1, other) ∈ right ∧ entry.2.same other = true) ∧
        ∀ entry ∈ right, ∃ other, (entry.1, other) ∈ left ∧ other.same entry.2 = true := by
  simp only [Object.same, Bool.and_eq_true, beq_iff_eq, sameEntries_iff]
  constructor
  · rintro ⟨sizes, paired⟩
    have included : left.keys ⊆ right.keys := by
      intro key member
      rcases Object.mem_keys.mp member with ⟨value, member⟩
      rcases paired _ member with ⟨other, found, _⟩
      exact Object.mem_keys.mpr ⟨other, Object.mem_of_get?_eq_some found⟩
    have keysPerm := Object.keys_perm leftDistinct sizes included
    constructor
    · intro entry member
      rcases paired entry member with ⟨other, found, equal⟩
      exact ⟨other, Object.mem_of_get?_eq_some found, equal⟩
    · intro entry member
      have key := keysPerm.mem_iff.mpr (Object.mem_keys.mpr ⟨entry.2, member⟩)
      rcases Object.mem_keys.mp key with ⟨value, leftMember⟩
      rcases paired _ leftMember with ⟨other, found, equal⟩
      have here := Object.get?_eq_some_of_mem rightDistinct member
      rw [here] at found
      exact ⟨value, leftMember, Option.some.inj found ▸ equal⟩
  · rintro ⟨leftPaired, rightPaired⟩
    have included : left.keys ⊆ right.keys := by
      intro key member
      rcases Object.mem_keys.mp member with ⟨value, member⟩
      rcases leftPaired _ member with ⟨other, found, _⟩
      exact Object.mem_keys.mpr ⟨other, found⟩
    have includes : right.keys ⊆ left.keys := by
      intro key member
      rcases Object.mem_keys.mp member with ⟨value, member⟩
      rcases rightPaired _ member with ⟨other, found, _⟩
      exact Object.mem_keys.mpr ⟨other, found⟩
    have sizes : left.keys.length = right.keys.length :=
      Nat.le_antisymm (List.subperm_of_subset leftDistinct included).length_le
        (List.subperm_of_subset rightDistinct includes).length_le
    constructor
    · simpa only [Object.keys, List.length_map] using sizes
    · intro entry member
      rcases leftPaired entry member with ⟨other, found, equal⟩
      exact ⟨other, Object.get?_eq_some_of_mem rightDistinct found, equal⟩

/-- What is true of a value at every level is true of a value that is the same,
if it can be told from the shape of a level. -/
theorem Value.Everywhere.of_same {holds : Value → Prop}
    (transfer : ∀ one other : Value, one.WellFormed → other.WellFormed →
      one.same other = true → holds one → holds other)
    {one other : Value} (oneDistinct : one.WellFormed) (otherDistinct : other.WellFormed)
    (same : one.same other = true) (every : one.Everywhere holds) : other.Everywhere holds := by
  induction one using Value.nestedInduction generalizing other with
  | leaf value leaf =>
      have otherLeaf : other.IsLeaf := by
        cases value <;> cases other <;> simp_all [Value.same, Value.IsLeaf]
      exact (Value.everywhere_of_isLeaf otherLeaf).mpr
        (transfer _ _ oneDistinct otherDistinct same every.here)
  | array items ih =>
      cases other with
      | array others =>
          have here := transfer _ _ oneDistinct otherDistinct same every.here
          refine Value.everywhere_array.mpr ⟨here, ?_⟩
          intro item member
          rcases exists_same_of_mem same item member with ⟨before, beforeMember, equal⟩
          exact ih before beforeMember ((Value.everywhere_array.mp oneDistinct).2 _ beforeMember)
            ((Value.everywhere_array.mp otherDistinct).2 _ member) equal
            ((Value.everywhere_array.mp every).2 _ beforeMember)
      | _ => exact absurd same (by simp [Value.same])
  | object entries ih =>
      cases other with
      | object others =>
          have here := transfer _ _ oneDistinct otherDistinct same every.here
          refine Value.everywhere_object.mpr ⟨here, ?_⟩
          intro entry member
          have paired := (Object.same_iff oneDistinct.here otherDistinct.here).mp same
          rcases paired.2 entry member with ⟨value, valueMember, equal⟩
          exact ih _ valueMember ((Value.everywhere_object.mp oneDistinct).2 _ valueMember)
            ((Value.everywhere_object.mp otherDistinct).2 _ member) equal
            ((Value.everywhere_object.mp every).2 _ valueMember)
      | _ => exact absurd same (by simp [Value.same])

theorem Value.same_refl_of_wellFormed {value : Value} (distinct : value.WellFormed) :
    value.same value = true := by
  induction value using Value.nestedInduction with
  | leaf value leaf =>
      cases value with
      | object entries => exact leaf.elim
      | array items => exact leaf.elim
      | number value => exact Number.same_refl value
      | _ => simp [Value.same]
  | array items ih =>
      change sameItems items items = true
      rw [sameItems_iff, List.forall₂_same]
      intro item member
      exact ih item member ((Value.everywhere_array.mp distinct).2 item member)
  | object entries ih =>
      change Object.same entries entries = true
      have equal : ∀ entry ∈ entries, entry.2.same entry.2 = true := fun entry member =>
        ih entry member ((Value.everywhere_object.mp distinct).2 entry member)
      exact (Object.same_iff distinct.here distinct.here).mpr
        ⟨fun entry member => ⟨entry.2, member, equal entry member⟩,
          fun entry member => ⟨entry.2, member, equal entry member⟩⟩

theorem Number.same_symm {left right : Number} (same : left.same right = true) :
    right.same left = true := by
  cases left with
  | integer left =>
      cases right with
      | integer right => exact beq_iff_eq.mpr (eq_of_beq same).symm
      | binary right => exact absurd same Bool.false_ne_true
  | binary left =>
      cases right with
      | integer right => exact absurd same Bool.false_ne_true
      | binary right =>
          rcases Bool.or_eq_true_iff.mp same with zeros | equal
          · have both := Bool.and_eq_true_iff.mp zeros
            exact Bool.or_eq_true_iff.mpr (Or.inl (Bool.and_eq_true_iff.mpr ⟨both.2, both.1⟩))
          · exact Bool.or_eq_true_iff.mpr (Or.inr (beq_iff_eq.mpr (eq_of_beq equal).symm))

theorem Value.same_symm {left right : Value} (leftDistinct : left.WellFormed)
    (rightDistinct : right.WellFormed) (same : left.same right = true) :
    right.same left = true := by
  induction left using Value.nestedInduction generalizing right with
  | leaf value leaf =>
      cases value with
      | object entries => exact leaf.elim
      | array items => exact leaf.elim
      | null =>
          cases right with
          | null => rfl
          | _ => exact absurd same Bool.false_ne_true
      | bool value =>
          cases right with
          | bool other => exact beq_iff_eq.mpr (eq_of_beq same).symm
          | _ => exact absurd same Bool.false_ne_true
      | number value =>
          cases right with
          | number other => exact Number.same_symm same
          | _ => exact absurd same Bool.false_ne_true
      | string value =>
          cases right with
          | string other => exact beq_iff_eq.mpr (eq_of_beq same).symm
          | _ => exact absurd same Bool.false_ne_true
  | array items ih =>
      cases right with
      | array others =>
          change sameItems others items = true
          have paired := sameItems_iff.mp same
          rw [sameItems_iff]
          have swapped : List.Forall₂ (fun item other => item ∈ items ∧ other ∈ others ∧
              item.same other = true) items others := by
            rw [List.forall₂_iff_get] at paired ⊢
            exact ⟨paired.1, fun position before after =>
              ⟨List.get_mem _ _, List.get_mem _ _, paired.2 position before after⟩⟩
          apply swapped.flip.imp
          rintro other item ⟨itemMember, otherMember, equal⟩
          exact ih item itemMember ((Value.everywhere_array.mp leftDistinct).2 _ itemMember)
            ((Value.everywhere_array.mp rightDistinct).2 _ otherMember) equal
      | _ => exact absurd same (by simp [Value.same])
  | object entries ih =>
      cases right with
      | object others =>
          change Object.same others entries = true
          have paired := (Object.same_iff leftDistinct.here rightDistinct.here).mp same
          rw [Object.same_iff rightDistinct.here leftDistinct.here]
          constructor
          · intro entry member
            rcases paired.2 entry member with ⟨value, valueMember, equal⟩
            exact ⟨value, valueMember, ih _ valueMember
              ((Value.everywhere_object.mp leftDistinct).2 _ valueMember)
              ((Value.everywhere_object.mp rightDistinct).2 _ member) equal⟩
          · intro entry member
            rcases paired.1 entry member with ⟨other, otherMember, equal⟩
            exact ⟨other, otherMember, ih entry member
              ((Value.everywhere_object.mp leftDistinct).2 _ member)
              ((Value.everywhere_object.mp rightDistinct).2 _ otherMember) equal⟩
      | _ => exact absurd same (by simp [Value.same])

theorem Number.same_trans {first second third : Number} (one : first.same second = true)
    (other : second.same third = true) : first.same third = true := by
  cases first with
  | integer value =>
      cases second with
      | integer middle => exact eq_of_beq one ▸ other
      | binary middle => exact absurd one Bool.false_ne_true
  | binary value =>
      cases second with
      | integer middle => exact absurd one Bool.false_ne_true
      | binary middle =>
          cases third with
          | integer last => exact absurd other Bool.false_ne_true
          | binary last =>
              -- the two zeros are equal to each other only
              rcases Bool.or_eq_true_iff.mp one with zeros | equal
              · rcases Bool.or_eq_true_iff.mp other with more | further
                · exact Bool.or_eq_true_iff.mpr (Or.inl (Bool.and_eq_true_iff.mpr
                    ⟨(Bool.and_eq_true_iff.mp zeros).1, (Bool.and_eq_true_iff.mp more).2⟩))
                · exact eq_of_beq further ▸ one
              · exact eq_of_beq equal ▸ other

theorem sameItems_trans {first second third : List Value}
    (values : ∀ item ∈ first, ∀ middle last : Value, item.same middle = true →
      middle.same last = true → item.same last = true)
    (one : sameItems first second = true) (other : sameItems second third = true) :
    sameItems first third = true := by
  rw [sameItems_iff] at one other ⊢
  induction one generalizing third with
  | nil => exact other
  | cons equal _ ih =>
      cases other with
      | cons next rest =>
          rcases List.forall_mem_cons.mp values with ⟨here, later⟩
          exact .cons (here _ _ equal next) (ih later rest)

theorem Value.same_trans {first second third : Value} (one : first.same second = true)
    (other : second.same third = true) : first.same third = true := by
  induction first using Value.nestedInduction generalizing second third with
  | leaf value leaf =>
      cases value with
      | object entries => exact leaf.elim
      | array items => exact leaf.elim
      | null =>
          cases second with
          | null => exact other
          | _ => exact absurd one Bool.false_ne_true
      | bool value =>
          cases second with
          | bool middle => exact eq_of_beq one ▸ other
          | _ => exact absurd one Bool.false_ne_true
      | number value =>
          cases second with
          | number middle =>
              cases third with
              | number last => exact Number.same_trans one other
              | _ => exact absurd other Bool.false_ne_true
          | _ => exact absurd one Bool.false_ne_true
      | string value =>
          cases second with
          | string middle => exact eq_of_beq one ▸ other
          | _ => exact absurd one Bool.false_ne_true
  | array items ih =>
      cases second with
      | array middles =>
          cases third with
          | array lasts =>
              exact sameItems_trans (fun item member _ _ => ih item member) one other
          | _ => exact absurd other Bool.false_ne_true
      | _ => exact absurd one Bool.false_ne_true
  | object entries ih =>
      cases second with
      | object middles =>
          cases third with
          | object lasts =>
              simp only [Value.same, Bool.and_eq_true, beq_iff_eq, sameEntries_iff] at one other ⊢
              refine ⟨one.1.trans other.1, fun entry member => ?_⟩
              rcases one.2 entry member with ⟨middle, found, equal⟩
              rcases other.2 _ (Object.mem_of_get?_eq_some found) with ⟨last, further, next⟩
              exact ⟨last, further, ih entry member equal next⟩
          | _ => exact absurd other Bool.false_ne_true
      | _ => exact absurd one Bool.false_ne_true

/-- Values that are the same have the same keys, in whatever order. -/
theorem Value.mem_ownKeys_of_same {one other : Value} (oneDistinct : one.WellFormed)
    (otherDistinct : other.WellFormed) (same : one.same other = true) {key : String}
    (member : key ∈ one.ownKeys) : key ∈ other.ownKeys := by
  cases one with
  | object entries =>
      cases other with
      | object others =>
          rcases Object.mem_keys.mp member with ⟨value, member⟩
          rcases ((Object.same_iff oneDistinct.here otherDistinct.here).mp same).1 _ member with
            ⟨paired, found, _⟩
          exact Object.mem_keys.mpr ⟨paired, found⟩
      | _ => exact absurd same (by simp [Value.same])
  | _ => exact absurd member List.not_mem_nil

end Json
end PageRouting
