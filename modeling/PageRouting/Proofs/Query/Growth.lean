import PageRouting.Proofs.Query.Compaction

namespace PageRouting
namespace Query

open Json (Value Object)

/-!
# What reading can build

Whatever is read, the result is made of texts, no array and no object in it is
empty, and no key is empty or repeated.  One placed value keeps this, so every
sequence of pairs does.  Compaction keeps it too and leaves no object that could
be taken for an array.  Keys are never lost while placing, and compaction drops
only indices.
-/

/-- A leaf is a text. -/
def IsText : Value → Prop
  | .object _ => True
  | .array _ => True
  | .string _ => True
  | _ => False

/-- What holds at every level of a value that is being read. -/
structure IsGrown (value : Value) : Prop extends IsPlaceable value where
  text : IsText value

/-- An object that is being read. -/
structure IsGrownObject (object : Object) : Prop where
  named : ∀ key ∈ object.keys, key ≠ ""
  distinct : object.keys.Nodup
  inside : ∀ entry ∈ object, entry.2.Everywhere IsGrown

theorem isGrownObject_nil : IsGrownObject [] where
  named := fun _ member => absurd member List.not_mem_nil
  distinct := List.nodup_nil
  inside := fun _ member => absurd member List.not_mem_nil

theorem IsGrownObject.everywhere {object : Object} (grown : IsGrownObject object)
    (some : object ≠ []) : (Value.object object).Everywhere IsGrown :=
  Value.everywhere_object.mpr
    ⟨{ filled := some, named := grown.named, distinct := grown.distinct, text := trivial },
      grown.inside⟩

theorem isGrownObject_of_everywhere {object : Object}
    (every : (Value.object object).Everywhere IsGrown) : IsGrownObject object where
  named := every.here.named
  distinct := every.here.distinct
  inside := (Value.everywhere_object.mp every).2

theorem everywhere_isGrown_array {items : List Value} :
    (Value.array items).Everywhere IsGrown ↔
      items ≠ [] ∧ ∀ item ∈ items, item.Everywhere IsGrown := by
  rw [Value.everywhere_array]
  constructor
  · exact fun ⟨here, inside⟩ => ⟨here.filled, inside⟩
  · rintro ⟨some, inside⟩
    refine ⟨{ filled := some, named := ?_, distinct := ?_, text := trivial }, inside⟩
    · exact fun _ member => absurd member List.not_mem_nil
    · exact List.nodup_nil

theorem everywhere_isGrown_string (text : String) :
    (Value.string text).Everywhere IsGrown := by
  refine (Value.everywhere_of_isLeaf (Value.isLeaf_string text)).mpr
    { filled := trivial, named := ?_, distinct := List.nodup_nil, text := trivial }
  exact fun _ member => absurd member List.not_mem_nil

/-! ## Placing one value -/

theorem alter_ne_nil (object : Object) (key : String) (change : Option Value → Value) :
    object.alter key change ≠ [] := by
  cases object with
  | nil => simp [Object.alter]
  | cons entry rest =>
      rcases entry with ⟨name, value⟩
      simp only [Object.alter]
      split <;> exact List.cons_ne_nil _ _

/-- An entry of a changed object was there before or holds the changed value. -/
theorem mem_alter {object : Object} {key : String} {change : Option Value → Value}
    {entry : String × Value} (member : entry ∈ object.alter key change) :
    entry ∈ object ∨ entry = (key, change none) ∨
      ∃ value, (key, value) ∈ object ∧ entry = (key, change (some value)) := by
  induction object with
  | nil => exact Or.inr (Or.inl (List.mem_singleton.mp member))
  | cons first rest ih =>
      rcases first with ⟨name, value⟩
      simp only [Object.alter] at member
      split at member
      · next here =>
          have same : name = key := eq_of_beq here
          rcases List.mem_cons.mp member with changed | later
          · exact Or.inr (Or.inr ⟨value, same ▸ List.mem_cons_self, same ▸ changed⟩)
          · exact Or.inl (List.mem_cons_of_mem _ later)
      · rcases List.mem_cons.mp member with kept | later
        · exact Or.inl (kept ▸ List.mem_cons_self)
        · rcases ih later with before | added | ⟨old, oldMember, changed⟩
          · exact Or.inl (List.mem_cons_of_mem _ before)
          · exact Or.inr (Or.inl added)
          · exact Or.inr (Or.inr ⟨old, List.mem_cons_of_mem _ oldMember, changed⟩)

theorem nodup_keys_alter {object : Object} (distinct : object.keys.Nodup) (key : String)
    (change : Option Value → Value) : (object.alter key change).keys.Nodup := by
  rw [Object.keys_alter]
  split
  · exact distinct
  · next absent =>
      refine List.nodup_append.mpr ⟨distinct, List.pairwise_singleton _ key, ?_⟩
      intro one before other last same
      rw [List.mem_singleton.mp last] at same
      exact absent (same ▸ before)

theorem IsGrownObject.alter {object : Object} (grown : IsGrownObject object) {key : String}
    (named : key ≠ "") {change : Option Value → Value}
    (fresh : (change none).Everywhere IsGrown)
    (keeps : ∀ value, value.Everywhere IsGrown → (change (some value)).Everywhere IsGrown) :
    IsGrownObject (object.alter key change) where
  named := by
    intro other member
    rw [Object.keys_alter] at member
    split at member
    · exact grown.named other member
    · rcases List.mem_append.mp member with before | last
      · exact grown.named other before
      · exact List.mem_singleton.mp last ▸ named
  distinct := nodup_keys_alter grown.distinct key change
  inside := by
    intro entry member
    rcases mem_alter member with before | added | ⟨value, valueMember, changed⟩
    · exact grown.inside entry before
    · exact added ▸ fresh
    · exact changed ▸ keeps value (grown.inside _ valueMember)

theorem everywhere_collect (text : String) {value : Value} (grown : value.Everywhere IsGrown) :
    (collect (.string text) (some value)).Everywhere IsGrown := by
  have added := everywhere_isGrown_string text
  cases value with
  | array items =>
      rcases everywhere_isGrown_array.mp grown with ⟨_, inside⟩
      refine everywhere_isGrown_array.mpr ⟨by simp, ?_⟩
      intro item member
      rcases List.mem_append.mp member with before | last
      · exact inside item before
      · exact List.mem_singleton.mp last ▸ added
  | _ =>
      refine everywhere_isGrown_array.mpr ⟨by simp, ?_⟩
      intro item member
      rcases List.mem_cons.mp member with before | last
      · exact before ▸ grown
      · exact List.mem_singleton.mp last ▸ added

theorem descendLast_ne_nil (change : Object → Object) (items : List Value) :
    descendLast change items ≠ [] := by
  unfold descendLast
  split <;> exact List.cons_ne_nil _ _

theorem everywhere_descendLast {change : Object → Object}
    (grows : ∀ object, IsGrownObject object → (Value.object (change object)).Everywhere IsGrown)
    {items : List Value} (inside : ∀ item ∈ items, item.Everywhere IsGrown) :
    ∀ item ∈ descendLast change items, item.Everywhere IsGrown := by
  induction items with
  | nil =>
      intro item member
      exact List.mem_singleton.mp member ▸ grows [] isGrownObject_nil
  | cons first rest ih =>
      have later := ih fun item member => inside item (List.mem_cons_of_mem _ member)
      unfold descendLast
      split
      · next none => exact absurd none (List.cons_ne_nil _ _)
      · next entries only =>
          intro item member
          rcases List.cons.inj only with ⟨rfl, rfl⟩
          exact List.mem_singleton.mp member ▸
            grows entries (isGrownObject_of_everywhere (inside _ List.mem_cons_self))
      · next other others _ only =>
          intro item member
          rcases List.cons.inj only with ⟨rfl, rfl⟩
          rcases List.mem_cons.mp member with here | after
          · exact here ▸ inside _ List.mem_cons_self
          · exact later item after

theorem everywhere_descend {change : Object → Object}
    (grows : ∀ object, IsGrownObject object → (Value.object (change object)).Everywhere IsGrown)
    {value : Value} (grown : value.Everywhere IsGrown) :
    (descend change (some value)).Everywhere IsGrown := by
  cases value with
  | object entries => exact grows entries (isGrownObject_of_everywhere grown)
  | array items =>
      rcases everywhere_isGrown_array.mp grown with ⟨_, inside⟩
      exact everywhere_isGrown_array.mpr
        ⟨descendLast_ne_nil change items, everywhere_descendLast grows inside⟩
  | _ =>
      refine everywhere_isGrown_array.mpr ⟨by simp, ?_⟩
      intro item member
      rcases List.mem_cons.mp member with before | last
      · exact before ▸ grown
      · exact List.mem_singleton.mp last ▸ grows [] isGrownObject_nil

theorem segmentKey_ne_empty (segment : String) (target : Object) :
    segmentKey segment target ≠ "" := by
  unfold segmentKey
  split
  · exact positionKey_ne_empty target.length
  · next named => exact fun empty => named (by simp [empty])

/-- Placing a text keeps an object well grown. -/
theorem IsGrownObject.insert (text : String) (path : List String) {target : Object}
    (grown : IsGrownObject target) : IsGrownObject (insert (.string text) path target) := by
  induction path generalizing target with
  | nil => exact grown
  | cons segment rest ih =>
      have named := segmentKey_ne_empty segment target
      cases rest with
      | nil =>
          exact grown.alter named (everywhere_isGrown_string text)
            fun value held => everywhere_collect text held
      | cons next rest =>
          have grows : ∀ object, IsGrownObject object →
              (Value.object (Query.insert (.string text) (next :: rest) object)).Everywhere
                IsGrown := by
            intro object held
            apply (ih held).everywhere
            cases rest with
            | nil => exact alter_ne_nil _ _ _
            | cons after rest => exact alter_ne_nil _ _ _
          exact grown.alter named (grows [] isGrownObject_nil)
            fun value held => everywhere_descend grows held

theorem isGrownObject_foldl_placePair (pairs : List Pair) {target : Object}
    (grown : IsGrownObject target) : IsGrownObject (pairs.foldl placePair target) := by
  induction pairs generalizing target with
  | nil => exact grown
  | cons pair rest ih => exact ih (grown.insert pair.value (keyPath pair.key))

/-! ## Compaction -/

theorem map_snd_of_indexedEntries? {entries : Object} {indexed : List (Nat × Value)}
    (found : indexedEntries? entries = some indexed) :
    (indexed.map fun entry => entry.2) = entries.map fun entry => entry.2 := by
  cases entries with
  | nil => exact absurd found (by simp [indexedEntries?])
  | cons entry rest =>
      rw [indexedEntries?_of_ne_nil (List.cons_ne_nil _ _)] at found
      have values := congrArg (List.map Prod.snd) (map_of_mapM_withIndex? found)
      rwa [List.map_map, List.map_map] at values

/-- An object that has become an array has kept its values. -/
theorem compactObject_eq_or_perm {entries : Object} (some : entries ≠ []) :
    (compactObject entries = .object entries ∧ IsNamed (.object entries)) ∨
      ∃ values, compactObject entries = .array values ∧
        values.Perm (entries.map fun entry => entry.2) ∧ ∀ key ∈ entries.keys,
          arrayIndex? key ≠ none := by
  rcases compactObject_eq_or entries with ⟨kept, named⟩ | ⟨indexed, found, taken⟩
  · exact Or.inl ⟨kept, named some⟩
  · refine Or.inr ⟨_, taken, ?_, ?_⟩
    · rw [← map_snd_of_indexedEntries? found]
      exact (List.mergeSort_perm _ _).map _
    · intro key member unindexed
      rw [indexedEntries?_eq_none.mpr (Or.inr ⟨key, member, unindexed⟩)] at found
      exact absurd found (by simp)

/-- What a level of a value that has been read looks like. -/
structure IsRead (value : Value) : Prop extends IsGrown value where
  arrayLike : IsNamed value

theorem isRead_array {items : List Value} (filled : items ≠ []) : IsRead (.array items) where
  filled := filled
  named := fun _ member => absurd member List.not_mem_nil
  distinct := List.nodup_nil
  text := trivial
  arrayLike := trivial

/-- The array keeps what the values of the object look like, and an object that stays
one has a key that is no index. -/
theorem everywhere_isRead_compactObject {entries : Object} (filled : entries ≠ [])
    (named : ∀ key ∈ entries.keys, key ≠ "") (distinct : entries.keys.Nodup)
    (inside : ∀ entry ∈ entries, entry.2.Everywhere IsRead) :
    (compactObject entries).Everywhere IsRead := by
  rcases compactObject_eq_or_perm filled with ⟨kept, unindexed⟩ | ⟨values, taken, perm, _⟩
  · rw [kept]
    have here : IsRead (.object entries) :=
      { filled := filled
        named := named
        distinct := distinct
        text := trivial
        arrayLike := unindexed }
    exact Value.everywhere_object.mpr ⟨here, inside⟩
  · rw [taken]
    have some : values ≠ [] := by
      rintro rfl
      rw [List.nil_perm, List.map_eq_nil_iff] at perm
      exact filled perm
    refine Value.everywhere_array.mpr ⟨?_, ?_⟩
    · exact isRead_array some
    · intro item member
      rcases List.mem_map.mp (perm.mem_iff.mp member) with ⟨entry, entryMember, rfl⟩
      exact inside entry entryMember

theorem everywhere_isRead_compact {value : Value} (grown : value.Everywhere IsGrown) :
    (compact value).Everywhere IsRead := by
  induction value using Value.nestedInduction with
  | leaf value leaf =>
      have here := grown.here
      cases value with
      | object entries => exact leaf.elim
      | array items => exact leaf.elim
      | string text =>
          exact (Value.everywhere_of_isLeaf (Value.isLeaf_string text)).mpr
            { toIsGrown := here, arrayLike := trivial }
      | _ => exact here.text.elim
  | array items ih =>
      rcases Value.everywhere_array.mp grown with ⟨here, inside⟩
      rw [compact, compactItems_eq]
      refine Value.everywhere_array.mpr ⟨?_, ?_⟩
      · exact isRead_array fun none => here.filled (List.map_eq_nil_iff.mp none)
      · intro item member
        rcases List.mem_map.mp member with ⟨source, sourceMember, rfl⟩
        exact ih source sourceMember (inside source sourceMember)
  | object entries ih =>
      rcases Value.everywhere_object.mp grown with ⟨here, inside⟩
      have filled : entries ≠ [] := here.filled
      have sameKeys := keys_map_values entries compact
      rw [compact, compactEntries_eq]
      apply everywhere_isRead_compactObject
      · exact fun none => filled (List.map_eq_nil_iff.mp none)
      · rw [sameKeys]
        exact here.named
      · rw [sameKeys]
        exact here.distinct
      · intro entry member
        rcases List.mem_map.mp member with ⟨source, sourceMember, rfl⟩
        exact ih source sourceMember (inside source sourceMember)

/-! ## Keys are kept -/

theorem mem_allKeys_collect {key : String} (value : Value) {existing : Value}
    (member : key ∈ existing.allKeys) : key ∈ (collect value (some existing)).allKeys := by
  cases existing with
  | array items =>
      rcases Value.mem_allKeys_array.mp member with ⟨item, itemMember, inside⟩
      exact Value.mem_allKeys_array.mpr ⟨item, List.mem_append_left _ itemMember, inside⟩
  | object entries => exact Value.mem_allKeys_array.mpr ⟨_, List.mem_cons_self, member⟩
  | _ => exact absurd member List.not_mem_nil

theorem mem_allKeys_descendLast {key : String} {change : Object → Object}
    (keeps : ∀ object, key ∈ (Value.object object).allKeys →
      key ∈ (Value.object (change object)).allKeys)
    {items : List Value} (some : ∃ item ∈ items, key ∈ item.allKeys) :
    ∃ item ∈ descendLast change items, key ∈ item.allKeys := by
  induction items with
  | nil => exact absurd some (by simp)
  | cons first rest ih =>
      rcases some with ⟨item, member, inside⟩
      unfold descendLast
      split
      · next none => exact absurd none (List.cons_ne_nil _ _)
      · next entries only =>
          rcases List.cons.inj only with ⟨rfl, rfl⟩
          exact ⟨_, List.mem_cons_self, keeps entries (List.mem_singleton.mp member ▸ inside)⟩
      · next other others _ only =>
          rcases List.cons.inj only with ⟨rfl, rfl⟩
          rcases List.mem_cons.mp member with here | later
          · exact ⟨_, List.mem_cons_self, here ▸ inside⟩
          · rcases ih ⟨item, later, inside⟩ with ⟨found, foundMember, foundInside⟩
            exact ⟨found, List.mem_cons_of_mem _ foundMember, foundInside⟩

/-- Whatever is there when descending, the changed object is in the result. -/
theorem mem_allKeys_descend_new {key : String} {change : Object → Object}
    (adds : ∀ object, key ∈ (Value.object (change object)).allKeys) (existing : Option Value) :
    key ∈ (descend change existing).allKeys := by
  cases existing with
  | none => exact adds []
  | some value =>
      cases value with
      | object entries => exact adds entries
      | array items =>
          apply Value.mem_allKeys_array.mpr
          induction items with
          | nil => exact ⟨_, List.mem_cons_self, adds []⟩
          | cons first rest ih =>
              unfold descendLast
              split
              · next none => exact absurd none (List.cons_ne_nil _ _)
              · next entries only => exact ⟨_, List.mem_cons_self, adds entries⟩
              · next other others _ only =>
                  rcases List.cons.inj only with ⟨rfl, rfl⟩
                  rcases ih with ⟨found, foundMember, foundInside⟩
                  exact ⟨found, List.mem_cons_of_mem _ foundMember, foundInside⟩
      | _ =>
          exact Value.mem_allKeys_array.mpr
            ⟨_, List.mem_cons_of_mem _ List.mem_cons_self, adds []⟩

theorem mem_allKeys_descend {key : String} {change : Object → Object}
    (keeps : ∀ object, key ∈ (Value.object object).allKeys →
      key ∈ (Value.object (change object)).allKeys)
    {existing : Value} (member : key ∈ existing.allKeys) :
    key ∈ (descend change (some existing)).allKeys := by
  cases existing with
  | object entries => exact keeps entries member
  | array items =>
      exact Value.mem_allKeys_array.mpr
        (mem_allKeys_descendLast keeps (Value.mem_allKeys_array.mp member))
  | _ => exact absurd member List.not_mem_nil

theorem mem_allKeys_alter {key name : String} {object : Object}
    {change : Option Value → Value}
    (keeps : ∀ value, key ∈ Value.allKeys value → key ∈ (change (some value)).allKeys)
    (member : key ∈ (Value.object object).allKeys) :
    key ∈ (Value.object (object.alter name change)).allKeys := by
  rcases Value.mem_allKeys_object.mp member with own | ⟨entry, entryMember, inside⟩
  · refine Value.mem_allKeys_object.mpr (Or.inl ?_)
    rw [Object.keys_alter]
    split
    · exact own
    · exact List.mem_append_left _ own
  · refine Value.mem_allKeys_object.mpr (Or.inr ?_)
    induction object with
    | nil => exact absurd entryMember List.not_mem_nil
    | cons first rest ih =>
        rcases first with ⟨firstName, firstValue⟩
        simp only [Object.alter]
        split
        · rcases List.mem_cons.mp entryMember with here | later
          · rw [here] at inside
            exact ⟨_, List.mem_cons_self, keeps firstValue inside⟩
          · exact ⟨entry, List.mem_cons_of_mem _ later, inside⟩
        · rcases List.mem_cons.mp entryMember with here | later
          · rw [here] at inside
            exact ⟨_, List.mem_cons_self, inside⟩
          · have restMember : key ∈ (Value.object rest).allKeys :=
              Value.mem_allKeys_object.mpr (Or.inr ⟨entry, later, inside⟩)
            rcases ih restMember later with ⟨found, foundMember, foundInside⟩
            exact ⟨found, List.mem_cons_of_mem _ foundMember, foundInside⟩

theorem mem_allKeys_alter_new {key name : String} {object : Object}
    {change : Option Value → Value} (adds : ∀ existing, key ∈ (change existing).allKeys) :
    key ∈ (Value.object (object.alter name change)).allKeys := by
  refine Value.mem_allKeys_object.mpr (Or.inr ?_)
  induction object with
  | nil => exact ⟨_, List.mem_cons_self, adds none⟩
  | cons first rest ih =>
      rcases first with ⟨firstName, firstValue⟩
      simp only [Object.alter]
      split
      · exact ⟨_, List.mem_cons_self, adds (some firstValue)⟩
      · rcases ih with ⟨found, foundMember, foundInside⟩
        exact ⟨found, List.mem_cons_of_mem _ foundMember, foundInside⟩

/-- Placing a value loses no key. -/
theorem mem_allKeys_insert_of_mem {key : String} (value : Value) (path : List String)
    {target : Object} (member : key ∈ (Value.object target).allKeys) :
    key ∈ (Value.object (insert value path target)).allKeys := by
  induction path generalizing target with
  | nil => exact member
  | cons segment rest ih =>
      cases rest with
      | nil => exact mem_allKeys_alter (fun existing held => mem_allKeys_collect value held) member
      | cons next rest =>
          exact mem_allKeys_alter
            (fun existing held => mem_allKeys_descend (fun object inside => ih inside) held) member

/-- The named segments of a path become keys. -/
theorem mem_allKeys_insert {key : String} (value : Value) {path : List String}
    (member : key ∈ path) (named : key ≠ "") (target : Object) :
    key ∈ (Value.object (insert value path target)).allKeys := by
  induction path generalizing target with
  | nil => exact absurd member List.not_mem_nil
  | cons segment rest ih =>
      rcases List.mem_cons.mp member with here | later
      · have own : key ∈ Object.keys (insert value (segment :: rest) target) := by
          rw [← here]
          cases rest with
          | nil =>
              rw [insert, Object.keys_alter, segmentKey_of_ne named]
              split
              · assumption
              · exact List.mem_append_right _ (List.mem_singleton.mpr rfl)
          | cons next rest =>
              rw [insert, Object.keys_alter, segmentKey_of_ne named]
              split
              · assumption
              · exact List.mem_append_right _ (List.mem_singleton.mpr rfl)
        exact Value.mem_allKeys_object.mpr (Or.inl own)
      · cases rest with
        | nil => exact absurd later List.not_mem_nil
        | cons next rest =>
            exact mem_allKeys_alter_new fun existing =>
              mem_allKeys_descend_new (fun object => ih later object) existing

/-- Compaction drops no key but indices. -/
theorem mem_allKeys_compact {key : String} (unindexed : arrayIndex? key = none) {value : Value}
    (filled : value.Everywhere IsFilled) (member : key ∈ value.allKeys) :
    key ∈ (compact value).allKeys := by
  induction value using Value.nestedInduction with
  | leaf value leaf =>
      cases value with
      | object entries => exact leaf.elim
      | array items => exact leaf.elim
      | _ => exact absurd member List.not_mem_nil
  | array items ih =>
      rcases Value.everywhere_array.mp filled with ⟨_, inside⟩
      rcases Value.mem_allKeys_array.mp member with ⟨item, itemMember, found⟩
      rw [compact, compactItems_eq]
      exact Value.mem_allKeys_array.mpr ⟨compact item, List.mem_map_of_mem itemMember,
        ih item itemMember (inside item itemMember) found⟩
  | object entries ih =>
      rcases Value.everywhere_object.mp filled with ⟨here, inside⟩
      have nonempty : entries ≠ [] := here
      have mappedFilled : (entries.map fun entry => (entry.1, compact entry.2)) ≠ [] :=
        fun none => nonempty (List.map_eq_nil_iff.mp none)
      have sameKeys := keys_map_values entries compact
      have below : ∀ entry ∈ entries, key ∈ entry.2.allKeys →
          ∃ other ∈ entries.map fun entry => (entry.1, compact entry.2),
            key ∈ other.2.allKeys := fun entry entryMember found =>
        ⟨_, List.mem_map_of_mem entryMember,
          ih entry entryMember (inside entry entryMember) found⟩
      rw [compact, compactEntries_eq]
      rcases compactObject_eq_or_perm mappedFilled with
        ⟨kept, _⟩ | ⟨values, taken, perm, indices⟩
      · rw [kept]
        rcases Value.mem_allKeys_object.mp member with own | ⟨entry, entryMember, found⟩
        · exact Value.mem_allKeys_object.mpr (Or.inl (sameKeys ▸ own))
        · exact Value.mem_allKeys_object.mpr (Or.inr (below entry entryMember found))
      · rw [taken]
        rcases Value.mem_allKeys_object.mp member with own | ⟨entry, entryMember, found⟩
        · rw [sameKeys] at indices
          exact absurd unindexed (indices key own)
        · rcases below entry entryMember found with ⟨other, otherMember, otherFound⟩
          exact Value.mem_allKeys_array.mpr
            ⟨other.2, perm.mem_iff.mpr (List.mem_map_of_mem otherMember), otherFound⟩

end Query
end PageRouting
