import PageRouting.Proofs.Query.Growth

namespace PageRouting
namespace Query

open Json (Value Object)

/-!
# Which queries come back

A query whose keys hold no brackets comes back from its text exactly if it is in
the class `RoundTrips`.  For the one direction its leaves are placed as they
stand and its arrays are found again.  For the other, what has been read is
compared with the query level by level: reading builds texts and filled, named
containers only, a leaf that is too deep leaves a bracketed remainder among the
keys, and a long array stays an object.
-/

/-- The queries that are read back from their text. -/
structure RoundTrips (query : Object) : Prop where
  texts : ∀ leaf ∈ entryLeaves query, ∃ text, leaf.value = .string text
  filled : ∀ entry ∈ query, entry.2.Everywhere IsFilled
  named : ∀ key ∈ (Value.object query).allKeys, key ≠ ""
  /-- The query itself may have indices only: it is never turned into an array. -/
  arrayLike : ∀ entry ∈ query, entry.2.Everywhere IsNamed
  short : ∀ entry ∈ query, entry.2.Everywhere IsShort
  shallow : ∀ leaf ∈ entryLeaves query, leaf.path.length ≤ maxKeyDepth + 1

/-! ## Leaves and levels -/

theorem mem_entryLeaves {leaf : Leaf} {entries : Object} :
    leaf ∈ entryLeaves entries ↔
      ∃ entry ∈ entries, ∃ inner ∈ valueLeaves entry.2, leaf = inner.under entry.1 := by
  induction entries with
  | nil => simp [entryLeaves]
  | cons entry rest ih => simp [entryLeaves, ih, eq_comm]

theorem exists_of_mem_itemLeaves {leaf : Leaf} {position : Nat} {items : List Value}
    (member : leaf ∈ itemLeaves position items) :
    ∃ item ∈ items, ∃ inner ∈ valueLeaves item, ∃ place,
      leaf = inner.under (positionKey place) := by
  induction items generalizing position with
  | nil => exact absurd member List.not_mem_nil
  | cons item rest ih =>
      rcases List.mem_append.mp member with here | later
      · rcases List.mem_map.mp here with ⟨inner, innerMember, rfl⟩
        exact ⟨item, List.mem_cons_self, inner, innerMember, position, rfl⟩
      · rcases ih later with ⟨found, foundMember, rest⟩
        exact ⟨found, List.mem_cons_of_mem _ foundMember, rest⟩

theorem exists_mem_itemLeaves {inner : Leaf} {item : Value} {items : List Value}
    (itemMember : item ∈ items) (innerMember : inner ∈ valueLeaves item) (position : Nat) :
    ∃ place, inner.under (positionKey place) ∈ itemLeaves position items := by
  induction items generalizing position with
  | nil => exact absurd itemMember List.not_mem_nil
  | cons first rest ih =>
      rcases List.mem_cons.mp itemMember with here | later
      · refine ⟨position, List.mem_append_left _ ?_⟩
        exact List.mem_map_of_mem (here ▸ innerMember)
      · rcases ih later (position + 1) with ⟨place, found⟩
        exact ⟨place, List.mem_append_right _ found⟩

/-- The leaves are texts exactly if every level says so. -/
theorem everywhere_isText_iff {value : Value} :
    value.Everywhere IsText ↔ ∀ leaf ∈ valueLeaves value, ∃ text, leaf.value = .string text := by
  induction value using Value.nestedInduction with
  | leaf value leaf =>
      rw [Value.everywhere_of_isLeaf leaf]
      cases value with
      | object entries => exact leaf.elim
      | array items => exact leaf.elim
      | _ => simp [IsText, valueLeaves]
  | array items ih =>
      rw [Value.everywhere_array]
      constructor
      · rintro ⟨_, inside⟩ leaf member
        rcases exists_of_mem_itemLeaves member with
          ⟨item, itemMember, inner, innerMember, place, rfl⟩
        exact (ih item itemMember).mp (inside item itemMember) inner innerMember
      · intro texts
        refine ⟨trivial, fun item itemMember => (ih item itemMember).mpr ?_⟩
        intro inner innerMember
        rcases exists_mem_itemLeaves itemMember innerMember 0 with ⟨place, member⟩
        exact texts (inner.under (positionKey place)) member
  | object entries ih =>
      rw [Value.everywhere_object]
      constructor
      · rintro ⟨_, inside⟩ leaf member
        rcases mem_entryLeaves.mp member with ⟨entry, entryMember, inner, innerMember, rfl⟩
        exact (ih entry entryMember).mp (inside entry entryMember) inner innerMember
      · intro texts
        refine ⟨trivial, fun entry entryMember => (ih entry entryMember).mpr ?_⟩
        intro inner innerMember
        exact texts (inner.under entry.1)
          (mem_entryLeaves.mpr ⟨entry, entryMember, inner, innerMember, rfl⟩)

/-- On the way to a leaf are keys of the value and positions. -/
theorem mem_allKeys_or_position (value : Value) {leaf : Leaf} (member : leaf ∈ valueLeaves value)
    {key : String} (onPath : key ∈ leaf.path) :
    key ∈ value.allKeys ∨ ∃ position, key = positionKey position := by
  induction value using Value.nestedInduction generalizing leaf with
  | leaf value isLeaf =>
      cases value with
      | object entries => exact isLeaf.elim
      | array items => exact isLeaf.elim
      | _ =>
          rw [List.mem_singleton.mp member] at onPath
          exact absurd onPath List.not_mem_nil
  | array items ih =>
      rcases exists_of_mem_itemLeaves member with ⟨item, itemMember, inner, innerMember, place, rfl⟩
      rcases List.mem_cons.mp onPath with here | later
      · exact Or.inr ⟨place, here⟩
      · exact (ih item itemMember innerMember later).imp_left fun found =>
          Value.mem_allKeys_array.mpr ⟨item, itemMember, found⟩
  | object entries ih =>
      rcases mem_entryLeaves.mp member with ⟨entry, entryMember, inner, innerMember, rfl⟩
      rcases List.mem_cons.mp onPath with here | later
      · exact Or.inl (Value.mem_allKeys_object.mpr
          (Or.inl (Object.mem_keys.mpr ⟨entry.2, here ▸ entryMember⟩)))
      · exact (ih entry entryMember innerMember later).imp_left fun found =>
          Value.mem_allKeys_object.mpr (Or.inr ⟨entry, entryMember, found⟩)

/-! ## Reading the leaves -/

/-- A leaf whose key can be cut into its path again. -/
structure IsReadable (leaf : Leaf) : Prop where
  begins : leaf.path ≠ []
  plain : ∀ key ∈ leaf.path, IsPlainKey key
  first : leaf.path.head? ≠ some ""

theorem IsReadable.read?_eq {leaf : Leaf} (readable : IsReadable leaf) :
    leaf.read? = some ⟨pathText leaf.path, leafText leaf.value⟩ := by
  rcases leaf with ⟨path, value⟩
  cases path with
  | nil => exact absurd rfl readable.begins
  | cons key keys =>
      have nonempty : (pathText (key :: keys)).isEmpty = false := by
        apply Bool.eq_false_iff.mpr
        intro none
        have parts := List.append_eq_nil_iff.mp (List.isEmpty_iff.mp none)
        apply readable.first
        rw [List.head?_cons, ← String.ofList_toList (s := key), parts.1]
      simp only [Leaf.read?, nonempty, Bool.false_eq_true, if_false]

theorem isPlainKey_positionKey (position : Nat) : IsPlainKey (positionKey position) := by
  have digits : ∀ c ∈ (positionKey position).toList, c.isDigit = true := by
    rw [positionKey, String.toList_ofList]
    exact fun c member => Nat.isDigit_of_mem_toDigits (by decide) (by decide) member
  constructor
  · exact fun member => absurd (digits _ member) (by decide)
  · exact fun member => absurd (digits _ member) (by decide)

/-- Without brackets among the keys and without an empty key, every leaf of a
query can be read. -/
theorem isReadable_of_mem {query : Object}
    (plain : ∀ key ∈ (Value.object query).allKeys, IsPlainKey key)
    (named : ∀ key ∈ query.keys, key ≠ "") {leaf : Leaf} (member : leaf ∈ entryLeaves query) :
    IsReadable leaf where
  begins := path_ne_nil_of_mem_entryLeaves member
  plain := by
    intro key onPath
    rcases mem_allKeys_or_position (.object query) member onPath with found | ⟨place, same⟩
    · exact plain key found
    · exact same ▸ isPlainKey_positionKey place
  first := by
    rcases mem_entryLeaves.mp member with ⟨entry, entryMember, inner, _, rfl⟩
    intro empty
    exact named entry.1 (Object.mem_keys.mpr ⟨entry.2, entryMember⟩) (Option.some.inj empty)

/-- Readable leaves that are texts and not too deep are placed as they stand. -/
theorem foldl_placePair_eq {leaves : List Leaf} (readable : ∀ leaf ∈ leaves, IsReadable leaf)
    (texts : ∀ leaf ∈ leaves, ∃ text, leaf.value = .string text)
    (shallow : ∀ leaf ∈ leaves, leaf.path.length ≤ maxKeyDepth + 1) (target : Object) :
    (leaves.filterMap Leaf.read?).foldl placePair target = leaves.foldl placeLeaf target := by
  induction leaves generalizing target with
  | nil => rfl
  | cons leaf rest ih =>
      have here := readable leaf List.mem_cons_self
      rcases texts leaf List.mem_cons_self with ⟨text, isText⟩
      have path : keyPath (pathText leaf.path) = leaf.path := by
        have depth := shallow leaf List.mem_cons_self
        rw [keyPath_pathText here.plain here.begins here.first, List.take_of_length_le depth,
          List.drop_of_length_le depth, remainder, List.append_nil]
      have placed : placePair target ⟨pathText leaf.path, leafText leaf.value⟩ =
          placeLeaf target leaf := by
        simp only [placePair, path, placeLeaf, isText, leafText]
      rw [List.filterMap_cons_some here.read?_eq, List.foldl_cons, List.foldl_cons, placed]
      exact ih (fun other member => readable other (List.mem_cons_of_mem _ member))
        (fun other member => texts other (List.mem_cons_of_mem _ member))
        (fun other member => shallow other (List.mem_cons_of_mem _ member)) _

/-! ## Queries in the class come back -/

theorem RoundTrips.inside {query : Object} (roundTrips : RoundTrips query)
    (entry : String × Value) (member : entry ∈ query) :
    entry.2.Everywhere fun inner => IsFilled inner ∧ HasNamedKeys inner := by
  have named : ∀ key ∈ entry.2.allKeys, key ≠ "" := fun key found =>
    roundTrips.named key (Value.mem_allKeys_object.mpr (Or.inr ⟨entry, member, found⟩))
  intro inner inside
  exact ⟨roundTrips.filled entry member inner inside,
    Value.forall_mem_allKeys.mp named inner inside⟩

/-- The entries of a query, with arrays spelled out, are what placing its leaves
builds. -/
theorem foldl_placePair_readPairs {query : Object} (distinct : (Value.object query).WellFormed)
    (plain : ∀ key ∈ (Value.object query).allKeys, IsPlainKey key)
    (named : ∀ key ∈ query.keys, key ≠ "")
    (inside : ∀ entry ∈ query, entry.2.Everywhere fun inner => IsFilled inner ∧ HasNamedKeys inner)
    (texts : ∀ leaf ∈ entryLeaves query, ∃ text, leaf.value = .string text)
    (shallow : ∀ leaf ∈ entryLeaves query, leaf.path.length ≤ maxKeyDepth + 1) :
    ((entryLeaves query).filterMap Leaf.read?).foldl placePair [] = expandEntries query := by
  have readable : ∀ leaf ∈ entryLeaves query, IsReadable leaf := fun _ member =>
    isReadable_of_mem plain named member
  rw [foldl_placePair_eq readable texts shallow []]
  apply foldl_placeLeaf_entryLeaves_eq named distinct.here
  intro entry member inner within
  have shape := inside entry member inner within
  exact
    { filled := shape.1
      named := shape.2
      distinct := (Value.everywhere_object.mp distinct).2 entry member inner within }

theorem RoundTrips.read_write {query : Object} (roundTrips : RoundTrips query)
    (distinct : (Value.object query).WellFormed)
    (plain : ∀ key ∈ (Value.object query).allKeys, IsPlainKey key) :
    read (write query) = query ∧ read ("?" ++ write query) = query := by
  have rootNamed : ∀ key ∈ query.keys, key ≠ "" := fun key member =>
    roundTrips.named key (Value.mem_allKeys_object.mpr (Or.inl member))
  have placed := foldl_placePair_readPairs distinct plain rootNamed roundTrips.inside
    roundTrips.texts roundTrips.shallow
  have back : compactEntries (expandEntries query) = query := by
    rw [compactEntries_expandEntries]
    refine (List.map_congr_left ?_).trans (List.map_id query)
    intro entry member
    have compactable : entry.2.Everywhere IsCompactable := fun inner inside =>
      { filled := roundTrips.filled entry member inner inside
        named := roundTrips.arrayLike entry member inner inside
        short := roundTrips.short entry member inner inside }
    rw [compact_expandValue compactable]
    rfl
  rcases readPairs_write query with ⟨bare, marked⟩
  exact ⟨by rw [read, bare, ofPairs, placed, back], by rw [read, marked, ofPairs, placed, back]⟩

/-! ## What comes back is in the class -/

/-- What two values that are the same have in common at each level. -/
structure IsLevel (value : Value) : Prop where
  text : IsText value
  filled : IsFilled value
  named : HasNamedKeys value
  arrayLike : IsNamed value

theorem IsLevel.of_same {one other : Value} (oneDistinct : one.WellFormed)
    (otherDistinct : other.WellFormed) (same : one.same other = true) (level : IsLevel one) :
    IsLevel other where
  text := by
    have := level.text
    cases one <;> cases other <;> simp_all [Value.same, IsText]
  filled := by
    have filled := level.filled
    cases one with
    | object entries =>
        cases other with
        | object others =>
            have sizes := eq_of_beq (Bool.and_eq_true_iff.mp same).1
            intro none
            rw [none] at sizes
            exact filled (List.eq_nil_of_length_eq_zero sizes)
        | _ => trivial
    | array items =>
        cases other with
        | array others =>
            have sizes := (Json.sameItems_iff.mp same).length_eq
            intro none
            rw [none] at sizes
            exact filled (List.eq_nil_of_length_eq_zero sizes)
        | _ => trivial
    | _ => cases other <;> simp_all [Value.same, IsFilled]
  named := fun key member =>
    level.named key (Value.mem_ownKeys_of_same otherDistinct oneDistinct
      (Value.same_symm oneDistinct otherDistinct same) member)
  arrayLike := by
    cases other with
    | object others =>
        cases one with
        | object entries =>
            rcases level.arrayLike with ⟨key, member, unindexed⟩
            exact ⟨key, Value.mem_ownKeys_of_same oneDistinct otherDistinct same member, unindexed⟩
        | _ => exact absurd same (by simp [Value.same])
    | _ => trivial

theorem mem_allKeys_of_same {one other : Value} (oneDistinct : one.WellFormed)
    (otherDistinct : other.WellFormed) (same : one.same other = true) {key : String}
    (member : key ∈ one.allKeys) : key ∈ other.allKeys := by
  by_contra absent
  have nowhere : other.Everywhere fun inner => key ∉ inner.ownKeys := fun inner inside own =>
    absent (List.mem_flatMap.mpr ⟨inner, inside, own⟩)
  have transferred : one.Everywhere fun inner => key ∉ inner.ownKeys := Value.Everywhere.of_same
    (fun before after beforeDistinct afterDistinct equal missing own =>
      missing (Value.mem_ownKeys_of_same afterDistinct beforeDistinct
        (Value.same_symm beforeDistinct afterDistinct equal) own))
    otherDistinct oneDistinct (Value.same_symm oneDistinct otherDistinct same) nowhere
  rcases List.mem_flatMap.mp member with ⟨inner, inside, own⟩
  exact transferred inner inside own

theorem mem_allKeys_foldl_placePair {key : String} (pairs : List Pair) (target : Object)
    (present : key ∈ (Value.object target).allKeys ∨ key ≠ "" ∧ ∃ pair ∈ pairs,
      key ∈ keyPath pair.key) :
    key ∈ (Value.object (pairs.foldl placePair target)).allKeys := by
  induction pairs generalizing target with
  | nil =>
      rcases present with member | ⟨_, pair, member, _⟩
      · exact member
      · exact absurd member List.not_mem_nil
  | cons first rest ih =>
      apply ih
      rcases present with member | ⟨named, pair, member, onPath⟩
      · exact Or.inl (mem_allKeys_insert_of_mem _ _ member)
      · rcases List.mem_cons.mp member with here | later
        · exact Or.inl (mem_allKeys_insert _ (here ▸ onPath) named target)
        · exact Or.inr ⟨named, pair, later, onPath⟩

/-- What is read from pairs, with what is known of it at every level. -/
structure IsReadObject (object : Object) : Prop where
  distinct : (Value.object object).WellFormed
  named : ∀ key ∈ object.keys, key ≠ ""
  inside : ∀ entry ∈ object, entry.2.Everywhere IsRead

theorem isReadObject_ofPairs (pairs : List Pair) : IsReadObject (ofPairs pairs) := by
  have grown := isGrownObject_foldl_placePair pairs isGrownObject_nil
  have keys : (ofPairs pairs).keys = Object.keys (pairs.foldl placePair []) := by
    rw [ofPairs, compactEntries_eq, keys_map_values _ compact]
  have inside : ∀ entry ∈ ofPairs pairs, entry.2.Everywhere IsRead := by
    intro entry member
    rw [ofPairs, compactEntries_eq] at member
    rcases List.mem_map.mp member with ⟨source, sourceMember, rfl⟩
    exact everywhere_isRead_compact (grown.inside source sourceMember)
  refine { distinct := Value.everywhere_object.mpr ⟨?_, ?_⟩, named := ?_, inside := inside }
  · change (ofPairs pairs).keys.Nodup
    exact keys.symm ▸ grown.distinct
  · exact fun entry member => (inside entry member).imp fun _ read => read.distinct
  · exact keys.symm ▸ grown.named

/-- A leaf that is too deep shows among the keys of what is read. -/
theorem exists_bracketed_key {query : Object} {leaf : Leaf} (member : leaf ∈ entryLeaves query)
    (readable : IsReadable leaf) (deep : maxKeyDepth + 1 < leaf.path.length) :
    ∃ key, '[' ∈ key.toList ∧
      key ∈ (Value.object (ofPairs ((entryLeaves query).filterMap Leaf.read?))).allKeys := by
  obtain ⟨key, keys, beyond⟩ : ∃ key keys, leaf.path.drop (maxKeyDepth + 1) = key :: keys :=
    List.exists_cons_of_length_pos (by rw [List.length_drop]; omega)
  have opens : '[' ∈ (String.ofList (brackets (key :: keys))).toList := by
    rw [String.toList_ofList, brackets_cons]
    exact List.mem_cons_self
  refine ⟨String.ofList (brackets (key :: keys)), opens, ?_⟩
  have onPath : String.ofList (brackets (key :: keys)) ∈ keyPath (pathText leaf.path) := by
    rw [keyPath_pathText readable.plain readable.begins readable.first, beyond, remainder]
    exact List.mem_append_right _ (List.mem_singleton.mpr rfl)
  have named : String.ofList (brackets (key :: keys)) ≠ "" := by
    intro empty
    rw [empty] at opens
    exact absurd opens List.not_mem_nil
  have unindexed : arrayIndex? (String.ofList (brackets (key :: keys))) = none := by
    have bracket : '['.isDigit = false := by decide
    simp only [arrayIndex?, String.toList_ofList, brackets_cons, List.all_cons, bracket,
      Bool.false_and, Bool.not_false, Bool.or_true, if_true]
  have listed : ⟨pathText leaf.path, leafText leaf.value⟩ ∈
      (entryLeaves query).filterMap Leaf.read? :=
    List.mem_filterMap.mpr ⟨leaf, member, readable.read?_eq⟩
  have placed := mem_allKeys_foldl_placePair _ []
    (Or.inr ⟨named, _, listed, onPath⟩)
  have grown := isGrownObject_foldl_placePair ((entryLeaves query).filterMap Leaf.read?)
    isGrownObject_nil
  rw [ofPairs, compactEntries_eq]
  rcases Value.mem_allKeys_object.mp placed with own | ⟨entry, entryMember, found⟩
  · refine Value.mem_allKeys_object.mpr (Or.inl ?_)
    rw [keys_map_values _ compact]
    exact own
  · have filled := (grown.inside entry entryMember).imp fun _ inner => inner.filled
    exact Value.mem_allKeys_object.mpr (Or.inr ⟨_, List.mem_map_of_mem entryMember,
      mem_allKeys_compact unindexed filled found⟩)

/-- A query that comes back, in whatever order, is in the class. -/
theorem roundTrips_of_same {query : Object} (distinct : (Value.object query).WellFormed)
    (plain : ∀ key ∈ (Value.object query).allKeys, IsPlainKey key)
    (same : (read (write query)).same query = true) : RoundTrips query := by
  have pairs := (readPairs_write query).1
  rw [read, pairs] at same
  have readObject := isReadObject_ofPairs ((entryLeaves query).filterMap Leaf.read?)
  have insideDistinct := (Value.everywhere_object.mp distinct).2
  have paired := (Object.same_iff readObject.distinct.here distinct.here).mp same
  have levels : ∀ entry ∈ query, entry.2.Everywhere IsLevel := by
    intro entry member
    rcases paired.2 entry member with ⟨other, otherMember, equal⟩
    have read := readObject.inside _ otherMember
    refine Value.Everywhere.of_same (fun _ _ => IsLevel.of_same)
      (read.imp fun _ inner => inner.distinct) (insideDistinct entry member) equal
      (read.imp fun _ inner => ?_)
    exact
      { text := inner.text, filled := inner.filled, named := inner.named
        arrayLike := inner.arrayLike }
  have rootNamed : ∀ key ∈ query.keys, key ≠ "" := by
    intro key member
    rcases Object.mem_keys.mp member with ⟨value, member⟩
    rcases paired.2 _ member with ⟨other, otherMember, _⟩
    exact readObject.named key (Object.mem_keys.mpr ⟨other, otherMember⟩)
  have texts : ∀ leaf ∈ entryLeaves query, ∃ text, leaf.value = .string text := by
    intro leaf member
    rcases mem_entryLeaves.mp member with ⟨entry, entryMember, inner, innerMember, rfl⟩
    exact everywhere_isText_iff.mp ((levels entry entryMember).imp fun _ level => level.text)
      inner innerMember
  have shallow : ∀ leaf ∈ entryLeaves query, leaf.path.length ≤ maxKeyDepth + 1 := by
    intro leaf member
    by_contra deep
    rcases exists_bracketed_key member (isReadable_of_mem plain rootNamed member) (by omega) with
      ⟨key, opens, found⟩
    exact (plain key (mem_allKeys_of_same readObject.distinct distinct same found)).1 opens
  have shapes : ∀ entry ∈ query,
      entry.2.Everywhere fun inner => IsFilled inner ∧ HasNamedKeys inner :=
    fun entry member => (levels entry member).imp fun _ level => ⟨level.filled, level.named⟩
  have placed := foldl_placePair_readPairs distinct plain rootNamed shapes texts shallow
  rw [ofPairs, placed, compactEntries_expandEntries] at same
  have compacted : ∀ entry ∈ query,
      entry.2.Everywhere fun inner => IsNamed inner ∧ IsShort inner := by
    intro entry member
    exact everywhere_of_same_compact (insideDistinct entry member)
      ((levels entry member).imp fun _ level => level.filled)
      (same_of_mem_of_map_values distinct.here
        (fun value => compact (expandValue value)) same entry member)
  exact
    { texts := texts
      filled := fun entry member => (levels entry member).imp fun _ level => level.filled
      named := by
        intro key member
        rcases Value.mem_allKeys_object.mp member with own | ⟨entry, entryMember, found⟩
        · exact rootNamed key own
        · exact Value.forall_mem_allKeys.mpr
            ((levels entry entryMember).imp fun _ level => level.named) key found
      arrayLike := fun entry member => (compacted entry member).imp fun _ shape => shape.1
      short := fun entry member => (compacted entry member).imp fun _ shape => shape.2
      shallow := shallow }

/-- A query without brackets in its keys comes back from its text exactly if it
is in the class, and then it comes back as it is: with its entries in their
order, and with or without the mark in front. -/
theorem read_write_same_iff {query : Object} (distinct : (Value.object query).WellFormed)
    (plain : ∀ key ∈ (Value.object query).allKeys, IsPlainKey key) :
    ((read (write query)).same query = true ↔ RoundTrips query) ∧
      (RoundTrips query → read (write query) = query ∧ read ("?" ++ write query) = query) := by
  refine ⟨⟨roundTrips_of_same distinct plain, fun roundTrips => ?_⟩, fun roundTrips =>
    roundTrips.read_write distinct plain⟩
  rw [(roundTrips.read_write distinct plain).1]
  exact Value.same_refl_of_wellFormed distinct

/-- A query with an index for a key of its own, an array, and text to be encoded. -/
def nestedQuery : Object :=
  [("0", .object [("tags", .array [.string "a b", .string ""]), ("1", .string "&=?")]),
    ("k", .string "é")]

theorem wellFormed_nestedQuery : (Value.object nestedQuery).WellFormed := by
  simp [Value.WellFormed, Value.Everywhere, nestedQuery, Value.nested, Value.nestedEntries,
    Value.nestedItems, Value.ownKeys, Object.keys]

theorem allKeys_nestedQuery :
    (Value.object nestedQuery).allKeys = ["0", "k", "tags", "1"] := by
  simp [nestedQuery, Value.allKeys, Value.nested, Value.nestedEntries, Value.nestedItems,
    Value.ownKeys, Object.keys]

theorem plain_nestedQuery : ∀ key ∈ (Value.object nestedQuery).allKeys, IsPlainKey key := by
  rw [allKeys_nestedQuery]
  simp [IsPlainKey]

theorem roundTrips_nestedQuery : RoundTrips nestedQuery := by
  have leaves : entryLeaves nestedQuery =
      [⟨["0", "tags", "0"], .string "a b"⟩, ⟨["0", "tags", "1"], .string ""⟩,
        ⟨["0", "1"], .string "&=?"⟩, ⟨["k"], .string "é"⟩] := rfl
  exact
    { texts := by simp [leaves]
      filled := by
        simp [nestedQuery, Value.Everywhere, Value.nested, Value.nestedEntries,
          Value.nestedItems, IsFilled]
      named := by
        rw [allKeys_nestedQuery]
        decide
      arrayLike := by
        have named : arrayIndex? "tags" = none := by decide
        simp [nestedQuery, Value.Everywhere, Value.nested, Value.nestedEntries,
          Value.nestedItems, IsNamed, Object.keys]
        exact ⟨"tags", ⟨_, Or.inl ⟨rfl, rfl⟩⟩, named⟩
      short := by
        simp [nestedQuery, Value.Everywhere, Value.nested, Value.nestedEntries,
          Value.nestedItems, IsShort, maxArrayIndex]
      shallow := by simp [leaves, maxKeyDepth] }

theorem read_write_nestedQuery :
    (Value.object nestedQuery).WellFormed ∧
      (∀ key ∈ (Value.object nestedQuery).allKeys, IsPlainKey key) ∧
      (read (write nestedQuery)).same nestedQuery = true ∧
      read ("?" ++ write nestedQuery) = nestedQuery := by
  rcases read_write_same_iff wellFormed_nestedQuery plain_nestedQuery with ⟨iff, back⟩
  exact ⟨wellFormed_nestedQuery, plain_nestedQuery, iff.mpr roundTrips_nestedQuery,
    (back roundTrips_nestedQuery).2⟩

end Query
end PageRouting
