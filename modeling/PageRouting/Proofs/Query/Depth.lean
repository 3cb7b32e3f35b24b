import PageRouting.Proofs.Query.Exactness

namespace PageRouting
namespace Query

open Json (Value Object)

/-!
# How deep reading can build

However many brackets a key has, it is read as a few segments.  Each segment
leads into an object, and into an array before that if other values have met
under its key.  So the number of segments that are left bounds how much deeper
anything can be placed, in whatever order keys clash, and compaction moves no
leaf further down or up.

With what is known of every level, this is all that can be said of the shape of
what has been read: small arrays and named objects of texts, none of them empty
and none nested deeper than a bound that does not depend on the search text.
-/

/-! ## Segments of a key -/

theorem length_bracketSegments_le (depth : Nat) (text : List Char) :
    (bracketSegments depth text).length ≤ depth + 1 := by
  induction depth generalizing text with
  | zero => cases text <;> simp [bracketSegments]
  | succ depth ih =>
      unfold bracketSegments
      split
      · next further inner same =>
          cases same
          split
          · exact Nat.succ_le_succ (ih _)
          · exact Nat.le_add_left 1 _
      · exact Nat.zero_le _
      · exact Nat.le_add_left 1 _

/-- A key has a name, as many segments in brackets as are read, and a remainder. -/
theorem length_keyPath_le (key : List Char) : (keyPath key).length ≤ maxKeyDepth + 2 := by
  rw [keyPath, List.length_map, keySegments]
  split
  · split
    · exact Nat.le_add_left 1 _
    · exact Nat.succ_le_succ (length_bracketSegments_le _ _)
  · exact Nat.le_add_left 1 _

/-! ## Placing a value -/

/-- The values that have met under one key. -/
def metValues : Value → List Value
  | .array items => items
  | value => [value]

/-- What can stand under a key after which a path has at most so many further segments: leaves,
and objects under whose keys there is one segment less to come. -/
def Admits : Nat → Value → Prop
  | 0, value => ∀ met ∈ metValues value, met.IsLeaf
  | further + 1, value => ∀ met ∈ metValues value,
      met.IsLeaf ∨ ∃ entries, met = .object entries ∧ ∀ entry ∈ entries, Admits further entry.2

/-- Leaves may join what stands under a key. -/
theorem Admits.of_kept {further : Nat} {existing value : Value} (admits : Admits further existing)
    (kept : ∀ met ∈ metValues value, met ∈ metValues existing ∨ met.IsLeaf) :
    Admits further value := by
  cases further with
  | zero => exact fun met member => (kept met member).elim (admits met) id
  | succ further => exact fun met member => (kept met member).elim (admits met) .inl

theorem admits_string (further : Nat) (text : String) : Admits further (.string text) := by
  have nothing : Admits further (.array []) := by
    cases further <;> exact fun _ absent => absurd absent List.not_mem_nil
  refine nothing.of_kept fun met member => .inr ?_
  rw [List.mem_singleton.mp member]
  exact Value.isLeaf_string text

theorem metValues_collect (value existing : Value) :
    metValues (collect value (some existing)) = metValues existing ++ [value] := by
  cases existing <;> rfl

theorem Admits.collect {further : Nat} {existing : Value} (admits : Admits further existing)
    (text : String) : Admits further (collect (.string text) (some existing)) := by
  refine admits.of_kept fun met member => ?_
  rw [metValues_collect] at member
  rcases List.mem_append.mp member with before | last
  · exact .inl before
  · exact .inr (List.mem_singleton.mp last ▸ Value.isLeaf_string text)

theorem mem_descendLast {change : Object → Object} {items : List Value} {item : Value}
    (member : item ∈ descendLast change items) :
    item ∈ items ∨ item = .object (change []) ∨
      ∃ entries, .object entries ∈ items ∧ item = .object (change entries) := by
  induction items with
  | nil => exact .inr (.inl (List.mem_singleton.mp member))
  | cons first rest ih =>
      unfold descendLast at member
      split at member
      · next none => exact absurd none (List.cons_ne_nil _ _)
      · next entries only =>
          rcases List.cons.inj only with ⟨rfl, rfl⟩
          exact .inr (.inr ⟨entries, List.mem_cons_self, List.mem_singleton.mp member⟩)
      · next other others _ only =>
          rcases List.cons.inj only with ⟨rfl, rfl⟩
          rcases List.mem_cons.mp member with here | later
          · exact .inl (here ▸ List.mem_cons_self)
          · rcases ih later with kept | opened | ⟨entries, among, changed⟩
            · exact .inl (List.mem_cons_of_mem _ kept)
            · exact .inr (.inl opened)
            · exact .inr (.inr ⟨entries, List.mem_cons_of_mem _ among, changed⟩)

/-- Descending keeps what has met, but for one object, which is changed or opened. -/
theorem mem_metValues_descend {change : Object → Object} {existing met : Value}
    (member : met ∈ metValues (descend change (some existing))) :
    met ∈ metValues existing ∨ met = .object (change []) ∨
      ∃ entries, .object entries ∈ metValues existing ∧ met = .object (change entries) := by
  cases existing with
  | object entries =>
      exact .inr (.inr ⟨entries, List.mem_singleton.mpr rfl, List.mem_singleton.mp member⟩)
  | array items => exact mem_descendLast member
  | _ =>
      rcases List.mem_cons.mp member with scalar | opened
      · exact .inl (List.mem_singleton.mpr scalar)
      · exact .inr (.inl (List.mem_singleton.mp opened))

/-- Where an object is needed there is one more segment to come. -/
theorem Admits.descend {further : Nat} {change : Object → Object} {existing : Value}
    (admits : Admits (further + 1) existing)
    (keeps : ∀ entries : Object, (∀ entry ∈ entries, Admits further entry.2) →
      ∀ entry ∈ change entries, Admits further entry.2) :
    Admits (further + 1) (descend change (some existing)) := by
  intro met member
  rcases mem_metValues_descend member with kept | opened | ⟨entries, among, changed⟩
  · exact admits met kept
  · exact .inr ⟨_, opened, keeps [] fun _ absent => absurd absent List.not_mem_nil⟩
  · rcases admits _ among with leaf | ⟨_, same, inside⟩
    · exact leaf.elim
    · cases same
      exact .inr ⟨_, changed, keeps entries inside⟩

/-- A path that is not too long can be placed. -/
theorem admits_of_mem_insert (text : String) {path : List String} {further : Nat}
    (short : path.length ≤ further + 1) {target : Object}
    (admits : ∀ entry ∈ target, Admits further entry.2) :
    ∀ entry ∈ insert (.string text) path target, Admits further entry.2 := by
  induction path generalizing further target with
  | nil => exact admits
  | cons segment rest ih =>
      intro entry member
      cases rest with
      | nil =>
          rcases mem_alter member with before | added | ⟨value, held, changed⟩
          · exact admits entry before
          · exact added ▸ admits_string further text
          · exact changed ▸ (admits _ held).collect text
      | cons next rest =>
          rw [List.length_cons, List.length_cons] at short
          obtain ⟨fewer, rfl⟩ := Nat.exists_eq_add_of_le' (show 1 ≤ further by omega)
          have keeps : ∀ entries : Object, (∀ entry ∈ entries, Admits fewer entry.2) →
              ∀ entry ∈ insert (.string text) (next :: rest) entries, Admits fewer entry.2 :=
            fun entries inside => ih (by rw [List.length_cons]; omega) inside
          rcases mem_alter member with before | added | ⟨value, held, changed⟩
          · exact admits entry before
          · intro met fresh
            rw [added] at fresh
            exact .inr ⟨_, List.mem_singleton.mp fresh,
              keeps [] fun _ absent => absurd absent List.not_mem_nil⟩
          · exact changed ▸ (admits _ held).descend keeps

theorem admits_foldl_placePair (pairs : List Pair) {target : Object}
    (admits : ∀ entry ∈ target, Admits (maxKeyDepth + 1) entry.2) :
    ∀ entry ∈ pairs.foldl placePair target, Admits (maxKeyDepth + 1) entry.2 := by
  induction pairs generalizing target with
  | nil => exact admits
  | cons pair rest ih =>
      exact ih (admits_of_mem_insert pair.value (length_keyPath_le pair.key) admits)

/-! ## Lengths of paths to leaves -/

theorem length_path_le_of_mem_metValues {value : Value} {bound : Nat}
    (below : ∀ met ∈ metValues value, ∀ leaf ∈ valueLeaves met, leaf.path.length ≤ bound) :
    ∀ leaf ∈ valueLeaves value, leaf.path.length ≤ bound + 1 := by
  intro leaf member
  cases value with
  | array items =>
      rcases exists_of_mem_itemLeaves member with ⟨item, among, inner, inside, _, rfl⟩
      exact Nat.succ_le_succ (below item among inner inside)
  | _ => exact Nat.le_succ_of_le (below _ (List.mem_singleton.mpr rfl) leaf member)

/-- Each segment leads through an object and an array at most, and the last one into an array. -/
theorem Admits.length_path_le {further : Nat} {value : Value} (admits : Admits further value) :
    ∀ leaf ∈ valueLeaves value, leaf.path.length ≤ 2 * further + 1 := by
  induction further generalizing value with
  | zero =>
      refine length_path_le_of_mem_metValues fun met among leaf member => ?_
      rw [path_eq_nil_of_isLeaf (admits met among) member]
      exact Nat.le_refl 0
  | succ further ih =>
      refine length_path_le_of_mem_metValues fun met among leaf member => ?_
      rcases admits met among with isLeaf | ⟨entries, rfl, inside⟩
      · rw [path_eq_nil_of_isLeaf isLeaf member]
        exact Nat.zero_le _
      · rcases mem_entryLeaves.mp member with ⟨entry, among, inner, innerMember, rfl⟩
        exact Nat.succ_le_succ (ih (inside entry among) inner innerMember)

/-- Compaction gives leaves other positions, but moves none to another depth. -/
theorem exists_length_path_eq_of_mem_compact {value : Value} {leaf : Leaf}
    (member : leaf ∈ valueLeaves (compact value)) :
    ∃ origin ∈ valueLeaves value, origin.path.length = leaf.path.length := by
  induction value using Value.nestedInduction generalizing leaf with
  | leaf value isLeaf =>
      cases value with
      | object entries => exact isLeaf.elim
      | array items => exact isLeaf.elim
      | _ => exact ⟨leaf, member, rfl⟩
  | array items ih =>
      rw [compact, compactItems_eq] at member
      rcases exists_of_mem_itemLeaves member with ⟨item, among, inner, inside, _, rfl⟩
      rcases List.mem_map.mp among with ⟨source, sourceMember, rfl⟩
      rcases ih source sourceMember inside with ⟨origin, originMember, same⟩
      rcases exists_mem_itemLeaves sourceMember originMember 0 with ⟨_, found⟩
      exact ⟨_, found, congrArg (· + 1) same⟩
  | object entries ih =>
      -- whatever the object becomes, the leaf stands in a compacted entry
      have stands : ∃ entry ∈ entries, ∃ inner ∈ valueLeaves (compact entry.2),
          inner.path.length + 1 = leaf.path.length := by
        rw [compact, compactEntries_eq] at member
        by_cases none : entries.map (fun entry => (entry.1, compact entry.2)) = []
        · rw [none] at member
          exact absurd member List.not_mem_nil
        · rcases compactObject_eq_or_perm none with ⟨kept, _⟩ | ⟨values, taken, moved, _⟩
          · rw [kept] at member
            rcases mem_entryLeaves.mp member with ⟨entry, among, inner, inside, rfl⟩
            rcases List.mem_map.mp among with ⟨source, sourceMember, rfl⟩
            exact ⟨source, sourceMember, inner, inside, rfl⟩
          · rw [taken] at member
            rcases exists_of_mem_itemLeaves member with ⟨item, among, inner, inside, _, rfl⟩
            rcases List.mem_map.mp (moved.mem_iff.mp among) with ⟨entry, listed, rfl⟩
            rcases List.mem_map.mp listed with ⟨source, sourceMember, rfl⟩
            exact ⟨source, sourceMember, inner, inside, rfl⟩
      rcases stands with ⟨entry, among, inner, inside, deeper⟩
      rcases ih entry among inside with ⟨origin, originMember, same⟩
      have found := mem_entryLeaves.mpr ⟨entry, among, origin, originMember, rfl⟩
      exact ⟨_, found, (congrArg (· + 1) same).trans deeper⟩

/-! ## The shape of what is read -/

/-- A key of decimal digits that denotes a small number. -/
def IsSmallNumeral (key : String) : Prop :=
  key ≠ "" ∧ (∀ c ∈ key.toList, c.isDigit = true) ∧ decimalValue key.toList ≤ maxArrayIndex

theorem arrayIndex?_eq_none_iff {key : String} :
    arrayIndex? key = none ↔ ¬IsSmallNumeral key := by
  have named : key.toList.isEmpty = false ↔ key ≠ "" := by
    rw [← Bool.not_eq_true, List.isEmpty_iff, ne_eq, String.toList_eq_nil_iff]
  have digits : key.toList.all Char.isDigit = true ↔ ∀ c ∈ key.toList, c.isDigit = true :=
    List.all_eq_true
  simp only [arrayIndex?, IsSmallNumeral, ← named, ← digits]
  split
  · next refused =>
      refine iff_of_true rfl ?_
      rintro ⟨filled, all, _⟩
      rw [filled, all] at refused
      exact Bool.false_ne_true refused
  · next accepted =>
      rw [Bool.or_eq_true_iff, not_or, Bool.not_eq_true, Bool.not_eq_true'] at accepted
      rw [Bool.not_eq_false] at accepted
      simp only [accepted, true_and, ite_eq_right_iff, reduceCtorEq, imp_false]

/-- The shape of a query that has been read. -/
structure IsShapely (query : Object) : Prop where
  texts : ∀ leaf ∈ entryLeaves query, ∃ text, leaf.value = .string text
  filled : ∀ entry ∈ query, entry.2.Everywhere IsFilled
  named : ∀ key ∈ (Value.object query).allKeys, key ≠ ""
  /-- An object below the query has a key that is no small numeral; others are arrays. -/
  arrayLike : ∀ entry ∈ query, ∀ inner ∈ entry.2.nested, ∀ entries : Object,
    inner = .object entries → ∃ key ∈ entries.keys, ¬IsSmallNumeral key
  /-- The path to a leaf has a key of the query, and one key or position for each object or array
  below the query in which the leaf lies. -/
  shallow : ∀ entry ∈ query, ∀ leaf ∈ valueLeaves entry.2,
    leaf.path.length ≤ 2 * maxKeyDepth + 3

/-- Whatever the search text is, the query that is read from it has this shape. -/
theorem isShapely_read (search : String) : IsShapely (read search) := by
  have readObject := isReadObject_ofPairs (readPairs search)
  have levels : ∀ entry ∈ read search, entry.2.Everywhere IsRead := readObject.inside
  have nothing : ∀ entry ∈ ([] : Object), Admits (maxKeyDepth + 1) entry.2 :=
    fun _ absent => absurd absent List.not_mem_nil
  exact
    { texts := by
        intro leaf member
        rcases mem_entryLeaves.mp member with ⟨entry, among, inner, inside, rfl⟩
        exact everywhere_isText_iff.mp ((levels entry among).imp fun _ level => level.text)
          inner inside
      filled := fun entry among => (levels entry among).imp fun _ level => level.filled
      named := by
        intro key member
        rcases Value.mem_allKeys_object.mp member with own | ⟨entry, among, found⟩
        · exact readObject.named key own
        · exact Value.forall_mem_allKeys.mpr
            ((levels entry among).imp fun _ level => level.named) key found
      arrayLike := by
        rintro entry among inner inside entries rfl
        rcases (levels entry among _ inside).arrayLike with ⟨key, own, unindexed⟩
        exact ⟨key, own, arrayIndex?_eq_none_iff.mp unindexed⟩
      shallow := by
        intro entry among leaf member
        rw [read, ofPairs, compactEntries_eq] at among
        rcases List.mem_map.mp among with ⟨source, sourceMember, rfl⟩
        rcases exists_length_path_eq_of_mem_compact member with ⟨origin, originMember, same⟩
        have admits := admits_foldl_placePair (readPairs search) nothing source sourceMember
        exact same ▸ admits.length_path_le origin originMember }

/-- The bound is reached: a value meets another one under each of the seven segments. -/
example :
    let deeper := "a&a[b]&a[b][c]&a[b][c][d]&a[b][c][d][e]&a[b][c][d][e][f]"
    let deepest := "&a[b][c][d][e][f]g=0&a[b][c][d][e][f]g=1"
    ((entryLeaves (read (deeper ++ deepest))).map fun leaf => leaf.path.length).getLast? =
      some (1 + (2 * maxKeyDepth + 3)) := by
  decide +kernel

end Query
end PageRouting
