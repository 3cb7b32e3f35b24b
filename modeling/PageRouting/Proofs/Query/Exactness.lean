import Mathlib.Data.List.Nodup
import PageRouting.Proofs.Query.RoundTrip

namespace PageRouting
namespace Query

open Json (Value Object)

/-!
# What comes back comes back exactly

A query that is found in its own text, up to the order of its entries, is found
there as it is.  Nothing is asked of its keys.  Below the root, a key that holds
a closing bracket is never among those that are read.  At the root, and where no
further bracket is opened, a key with an opening bracket can only come back if
some other key makes it up, which is such a key too and shorter.  Hence every
leaf is read under the path it was written with, and placing the leaves in their
order gives the entries in theirs.

The argument goes down the levels of the query, with the number of brackets
that may still be opened.
-/

/-! ## Items as entries -/

theorem itemLeaves_eq (position : Nat) (items : List Value) :
    itemLeaves position items = entryLeaves (positionEntries position items) := by
  induction items generalizing position with
  | nil => rfl
  | cons item items ih => rw [itemLeaves, positionEntries, entryLeaves, ih]

theorem mem_positionEntries {position : Nat} {values : List Value} {key : String} {value : Value} :
    (key, value) ∈ positionEntries position values ↔
      ∃ further, key = positionKey (position + further) ∧ values[further]? = some value := by
  induction values generalizing position with
  | nil => simp [positionEntries]
  | cons first rest ih =>
      rw [positionEntries, List.mem_cons, ih, Prod.mk.injEq]
      constructor
      · rintro (⟨rfl, rfl⟩ | ⟨further, rfl, found⟩)
        · exact ⟨0, rfl, rfl⟩
        · exact ⟨further + 1, congrArg positionKey (by omega), found⟩
      · rintro ⟨further, rfl, found⟩
        cases further with
        | zero => exact .inl ⟨rfl, (Option.some.inj found).symm⟩
        | succ further => exact .inr ⟨further, congrArg positionKey (by omega), found⟩

theorem exists_of_mem_keys_positionEntries {position : Nat} {values : List Value} {key : String}
    (member : key ∈ Object.keys (positionEntries position values)) :
    ∃ place, position ≤ place ∧ key = positionKey place := by
  induction values generalizing position with
  | nil => exact absurd member List.not_mem_nil
  | cons value values ih =>
      rcases List.mem_cons.mp member with here | later
      · exact ⟨position, Nat.le_refl _, here⟩
      · rcases ih later with ⟨place, after, same⟩
        exact ⟨place, Nat.le_of_succ_le after, same⟩

theorem nodup_keys_positionEntries (position : Nat) (values : List Value) :
    (Object.keys (positionEntries position values)).Nodup := by
  induction values generalizing position with
  | nil => exact List.nodup_nil
  | cons value values ih =>
      refine List.nodup_cons.mpr ⟨fun member => ?_, ih (position + 1)⟩
      rcases exists_of_mem_keys_positionEntries member with ⟨place, after, same⟩
      have := positionKey_injective same
      omega

theorem map_positionEntries (change : Value → Value) (position : Nat) (values : List Value) :
    ((positionEntries position values).map fun entry => (entry.1, change entry.2)) =
      positionEntries position (values.map change) := by
  induction values generalizing position with
  | nil => rfl
  | cons value values ih => rw [positionEntries, List.map_cons, ih, List.map_cons, positionEntries]

theorem length_positionEntries (position : Nat) (values : List Value) :
    (positionEntries position values).length = values.length := by
  induction values generalizing position with
  | nil => rfl
  | cons value values ih => rw [positionEntries, List.length_cons, ih, List.length_cons]

/-! ## Segments -/

theorem bracketSegments_nil (depth : Nat) : bracketSegments depth [] = [] := by
  cases depth <;> rfl

theorem bracketSegments_ne_nil (depth : Nat) {text : List Char} (some : text ≠ []) :
    bracketSegments depth text ≠ [] := by
  unfold bracketSegments
  split
  · split <;> exact List.cons_ne_nil _ _
  · exact absurd rfl some
  · exact List.cons_ne_nil _ _

/-- The first segment in brackets holds no closing bracket. -/
theorem exists_bracketSegments_eq (depth : Nat) (key : String) (keys : List String) :
    ∃ head rest, bracketSegments (depth + 1) (brackets (key :: keys)) = head :: rest ∧
      ']' ∉ head := by
  have closes : ']' ∈ key.toList ++ ']' :: brackets keys :=
    List.mem_append_right _ List.mem_cons_self
  rcases List.eq_append_cons_of_mem closes with ⟨head, rest, shape, absent⟩
  refine ⟨head, bracketSegments depth rest, ?_, absent⟩
  rw [brackets_cons, shape, bracketSegments, Text.cutAt_append_cons absent]

/-- If the first segment of a key holds an opening bracket, then it is the whole key. -/
theorem exists_keySegments_eq {key : List Char} (some : key ≠ []) :
    ∃ head rest, keySegments key = head :: rest ∧ head ≠ [] ∧
      ('[' ∈ head → head = key ∧ rest = []) := by
  by_cases opens : '[' ∈ key
  · rcases List.eq_append_cons_of_mem opens with ⟨head, inner, rfl, absent⟩
    by_cases whole : head.isEmpty || !inner.contains ']'
    · refine ⟨_, [], ?_, some, fun _ => ⟨rfl, rfl⟩⟩
      rw [keySegments, Text.cutAt_append_cons absent]
      exact if_pos whole
    · refine ⟨head, bracketSegments maxKeyDepth ('[' :: inner), ?_, ?_,
        fun member => absurd member absent⟩
      · rw [keySegments, Text.cutAt_append_cons absent]
        exact if_neg whole
      · rintro rfl
        exact whole rfl
  · refine ⟨key, [], ?_, some, fun _ => ⟨rfl, rfl⟩⟩
    rw [keySegments, Text.cutAt_of_not_mem opens]

/-- A name without an opening bracket is cut from what follows in brackets. -/
theorem keySegments_append_brackets {name : List Char} (some : name ≠ []) (plain : '[' ∉ name)
    (path : List String) :
    keySegments (name ++ brackets path) =
      name :: bracketSegments maxKeyDepth (brackets path) := by
  cases path with
  | nil =>
      rw [brackets, List.flatMap_nil, List.append_nil, keySegments,
        Text.cutAt_of_not_mem plain, bracketSegments_nil]
  | cons key keys =>
      have nonempty : name.isEmpty = false := List.isEmpty_eq_false_iff.mpr some
      have closes : (key.toList ++ ']' :: brackets keys).contains ']' = true := by simp
      rw [brackets_cons, keySegments, Text.cutAt_append_cons plain]
      simp only [nonempty, closes, Bool.not_true, Bool.or_self, Bool.false_eq_true, if_false]

theorem arrayIndex?_eq_none_of_brackets {key name : String} {keys : List String}
    (text : key.toList = brackets (name :: keys)) : arrayIndex? key = none := by
  have bracket : '['.isDigit = false := by decide
  simp only [arrayIndex?, text, brackets_cons, List.all_cons, bracket, Bool.false_and,
    Bool.not_false, Bool.or_true, if_true]

/-! ## Reading what has been written -/

/-- The leaf as it is read from the bracketed text of its path, if so many brackets are opened. -/
def Leaf.reread (depth : Nat) (leaf : Leaf) : Leaf where
  path := (bracketSegments depth (brackets leaf.path)).map String.ofList
  value := .string (leafText leaf.value)

/-- The leaf as it is read from its whole key. -/
def Leaf.rereadWhole (leaf : Leaf) : Leaf where
  path := keyPath (pathText leaf.path)
  value := .string (leafText leaf.value)

/-- What is built of the leaves of an object that is not the root, before compaction. -/
def rereadObject (depth : Nat) (entries : Object) : Object :=
  ((entryLeaves entries).map (Leaf.reread depth)).foldl placeLeaf []

def reread (depth : Nat) : Value → Value
  | .object entries => .object (rereadObject depth entries)
  | .array items => .object (rereadObject depth (positionEntries 0 items))
  | leaf => .string (leafText leaf)

/-- Whether anything is written of a value. -/
def hasLeaves (value : Value) : Bool :=
  !(valueLeaves value).isEmpty

/-- Entries of which something is written, with what is read of their values. -/
def rereadEntries (depth : Nat) (entries : Object) : Object :=
  (entries.filter fun entry => hasLeaves entry.2).map fun entry => (entry.1, reread depth entry.2)

theorem mem_keys_rereadEntries {depth : Nat} {entries : Object} {key : String} :
    key ∈ Object.keys (rereadEntries depth entries) ↔
      ∃ entry ∈ entries, hasLeaves entry.2 = true ∧ entry.1 = key := by
  simp only [Object.keys, rereadEntries, List.map_map, List.mem_map, List.mem_filter,
    Function.comp_apply, and_assoc]

/-- Entries whose keys all come back are all read. -/
theorem rereadEntries_eq_map {depth : Nat} {entries : Object} (distinct : entries.keys.Nodup)
    (back : ∀ key ∈ entries.keys, key ∈ Object.keys (rereadEntries depth entries)) :
    rereadEntries depth entries = entries.map fun entry => (entry.1, reread depth entry.2) := by
  have all : entries.filter (fun entry => hasLeaves entry.2) = entries := by
    apply List.filter_eq_self.mpr
    intro entry member
    rcases mem_keys_rereadEntries.mp (back _ (Object.mem_keys.mpr ⟨entry.2, member⟩)) with
      ⟨other, among, written, same⟩
    rwa [List.inj_on_of_nodup_map distinct among member same] at written
  rw [rereadEntries, all]

theorem path_reread_ne_nil (depth : Nat) {leaf : Leaf} (deeper : leaf.path ≠ []) :
    (leaf.reread depth).path ≠ [] := by
  rcases leaf with ⟨path, value⟩
  cases path with
  | nil => exact absurd rfl deeper
  | cons key keys =>
      have text : brackets (key :: keys) ≠ [] := by
        rw [brackets_cons]
        exact List.cons_ne_nil _ _
      exact fun none => bracketSegments_ne_nil depth text (List.map_eq_nil_iff.mp none)

/-- A key without a closing bracket is read back, and takes one bracket. -/
theorem reread_under {key : String} (unclosed : ']' ∉ key.toList) (depth : Nat) (leaf : Leaf) :
    (leaf.under key).reread (depth + 1) = (leaf.reread depth).under key := by
  simp only [Leaf.reread, Leaf.under, brackets_cons, bracketSegments,
    Text.cutAt_append_cons unclosed, List.map_cons, String.ofList_toList]

/-- The leaves of a value that are read under a new key give one entry, if there are any. -/
theorem foldl_placeLeaf_reread_under {target : Object} {key : String} (fresh : key ∉ target.keys)
    (named : key ≠ "") (depth : Nat) (value : Value) :
    (((valueLeaves value).map (Leaf.reread depth)).map (Leaf.under key)).foldl placeLeaf target =
      target ++ rereadEntries depth [(key, value)] := by
  have container : ∀ entries : Object, entryLeaves entries ≠ [] →
      (((entryLeaves entries).map (Leaf.reread depth)).map (Leaf.under key)).foldl placeLeaf
        target = target ++ [(key, .object (rereadObject depth entries))] := by
    intro entries some
    apply foldl_placeLeaf_under fresh named (mt List.map_eq_nil_iff.mp some)
    intro leaf member
    rcases List.mem_map.mp member with ⟨source, among, rfl⟩
    exact path_reread_ne_nil depth (path_ne_nil_of_mem_entryLeaves among)
  by_cases none : valueLeaves value = []
  · simp [rereadEntries, hasLeaves, none]
  · have some : hasLeaves value = true := by simp [hasLeaves, none]
    have kept : rereadEntries depth [(key, value)] = [(key, reread depth value)] := by
      simp [rereadEntries, some]
    rw [kept]
    cases value with
    | object entries => exact container entries none
    | array items =>
        rw [valueLeaves, itemLeaves_eq] at none ⊢
        exact container _ none
    | _ =>
        have placed := alter_append_of_not_mem fresh []
        simp only [List.append_nil] at placed
        simp only [valueLeaves, List.map_cons, List.map_nil, List.foldl_cons, List.foldl_nil,
          placeLeaf, Leaf.under, Leaf.reread, brackets, List.flatMap_nil, bracketSegments_nil,
          insert, segmentKey_of_ne named, placed]
        rfl

/-- Where all keys are read back, so are all entries, one after the other. -/
theorem foldl_placeLeaf_eq_rereadEntries {again : Leaf → Leaf} {depth : Nat} {entries : Object}
    (reads : ∀ entry ∈ entries, ∀ leaf ∈ valueLeaves entry.2,
      again (leaf.under entry.1) = (leaf.reread depth).under entry.1)
    (named : ∀ key ∈ entries.keys, key ≠ "") (distinct : entries.keys.Nodup) {target : Object}
    (fresh : ∀ key ∈ entries.keys, key ∉ target.keys) :
    ((entryLeaves entries).map again).foldl placeLeaf target =
      target ++ rereadEntries depth entries := by
  induction entries generalizing target with
  | nil => simp [entryLeaves, rereadEntries]
  | cons entry rest ih =>
      rcases entry with ⟨key, value⟩
      rcases List.nodup_cons.mp distinct with ⟨absent, others⟩
      have here : ((valueLeaves value).map (Leaf.under key)).map again =
          ((valueLeaves value).map (Leaf.reread depth)).map (Leaf.under key) := by
        rw [List.map_map, List.map_map]
        exact List.map_congr_left (reads _ List.mem_cons_self)
      have split : rereadEntries depth ((key, value) :: rest) =
          rereadEntries depth [(key, value)] ++ rereadEntries depth rest := by
        rw [rereadEntries, ← List.singleton_append, List.filter_append, List.map_append]
        rfl
      rw [entryLeaves, List.map_append, List.foldl_append, here,
        foldl_placeLeaf_reread_under (fresh key List.mem_cons_self) (named key List.mem_cons_self),
        ih (fun other member => reads other (List.mem_cons_of_mem _ member))
          (fun other member => named other (List.mem_cons_of_mem _ member)) others, split,
        List.append_assoc]
      intro other member before
      rw [keys_append] at before
      rcases List.mem_append.mp before with before | last
      · exact fresh other (List.mem_cons_of_mem _ member) before
      · rcases mem_keys_rereadEntries.mp last with ⟨source, among, _, same⟩
        rw [List.mem_singleton.mp among] at same
        exact absent ((show other = key from same.symm) ▸ member)

/-! ## Keys that are read -/

/-- A key of what is built is the first segment of some leaf. -/
theorem exists_of_mem_keys_foldl {leaves : List Leaf} {target : Object} {key : String}
    (member : key ∈ Object.keys (leaves.foldl placeLeaf target)) :
    key ∈ target.keys ∨ ∃ leaf ∈ leaves, ∃ head object, leaf.path.head? = some head ∧
      key = segmentKey head object := by
  induction leaves generalizing target with
  | nil => exact .inl member
  | cons leaf rest ih =>
      rcases ih member with before | ⟨other, among, first⟩
      · rcases leaf with ⟨path, value⟩
        have altered : ∀ head change, key ∈ (target.alter (segmentKey head target) change).keys →
            key ∈ target.keys ∨ key = segmentKey head target := by
          intro head change inside
          rw [Object.keys_alter] at inside
          split at inside
          · exact .inl inside
          · exact (List.mem_append.mp inside).imp_right List.mem_singleton.mp
        cases path with
        | nil => exact .inl before
        | cons head path =>
            have either : key ∈ target.keys ∨ key = segmentKey head target := by
              cases path with
              | nil => exact altered head _ before
              | cons next path => exact altered head _ before
            exact either.imp_right fun same =>
              ⟨_, List.mem_cons_self, head, target, rfl, same⟩
      · exact .inr ⟨other, List.mem_cons_of_mem _ among, first⟩

/-- A key of what is read below the root is the first segment of what is written of an entry. -/
theorem exists_of_mem_keys_rereadObject {depth : Nat} {entries : Object} {key : String}
    (member : key ∈ Object.keys (rereadObject depth entries)) :
    ∃ entry ∈ entries, ∃ keys head object,
      ((bracketSegments depth (brackets (entry.1 :: keys))).map String.ofList).head? =
        some head ∧ key = segmentKey head object := by
  rcases exists_of_mem_keys_foldl member with none | ⟨leaf, among, head, object, first, same⟩
  · exact absurd none List.not_mem_nil
  rcases List.mem_map.mp among with ⟨source, sourceMember, rfl⟩
  rcases mem_entryLeaves.mp sourceMember with ⟨entry, entryMember, inner, _, rfl⟩
  exact ⟨entry, entryMember, inner.path, head, object, first, same⟩

/-- As long as brackets are opened, no key that is read holds a closing bracket. -/
theorem not_mem_of_mem_keys_rereadObject {depth : Nat} {entries : Object} {key : String}
    (member : key ∈ Object.keys (rereadObject (depth + 1) entries)) : ']' ∉ key.toList := by
  rcases exists_of_mem_keys_rereadObject member with ⟨entry, _, keys, head, object, first, rfl⟩
  rcases exists_bracketSegments_eq depth entry.1 keys with ⟨segment, rest, cut, absent⟩
  rw [cut, List.map_cons, List.head?_cons, Option.some.injEq] at first
  unfold segmentKey
  split
  · exact (isPlainKey_positionKey object.length).2
  · rwa [← first, String.toList_ofList]

/-- If no more brackets are opened, each key that is read is the text of a path. -/
theorem exists_of_mem_keys_rereadObject_zero {entries : Object} {key : String}
    (member : key ∈ Object.keys (rereadObject 0 entries)) :
    ∃ entry ∈ entries, ∃ keys, key.toList = brackets (entry.1 :: keys) := by
  rcases exists_of_mem_keys_rereadObject member with
    ⟨entry, entryMember, keys, head, object, first, rfl⟩
  refine ⟨entry, entryMember, keys, ?_⟩
  simp only [brackets_cons, bracketSegments, List.map_cons, List.head?_cons,
    Option.some.injEq] at first
  have named : head ≠ "" := by
    rintro rfl
    exact absurd (String.ofList_eq_empty_iff.mp first) (List.cons_ne_nil _ _)
  rw [segmentKey_of_ne named, ← first, String.toList_ofList, brackets_cons]

/-! ## Level by level -/

theorem isGrownObject_rereadObject (depth : Nat) (entries : Object) :
    IsGrownObject (rereadObject depth entries) := by
  have placed : ∀ (leaves : List Leaf) (target : Object), IsGrownObject target →
      IsGrownObject ((leaves.map (Leaf.reread depth)).foldl placeLeaf target) := by
    intro leaves
    induction leaves with
    | nil => exact fun target grown => grown
    | cons leaf rest ih =>
        exact fun target grown => ih _ (grown.insert (leafText leaf.value) (leaf.reread depth).path)
  exact placed _ [] isGrownObject_nil

/-- If compaction gives the same object, then its keys were there before. -/
theorem keys_subset_of_same_compactEntries {object entries : Object} (grown : IsGrownObject object)
    (distinct : entries.keys.Nodup) (same : Object.same (compactEntries object) entries = true) :
    ∀ key ∈ entries.keys, key ∈ object.keys := by
  have keys : Object.keys (compactEntries object) = object.keys := by
    rw [compactEntries_eq, keys_map_values]
  intro key member
  rcases Object.mem_keys.mp member with ⟨value, member⟩
  rcases ((Object.same_iff (keys ▸ grown.distinct) distinct).mp same).2 _ member with
    ⟨other, found, _⟩
  exact keys ▸ Object.mem_keys.mpr ⟨other, found⟩

/-- If no more brackets are opened, entries cannot all come back under their keys. -/
theorem eq_nil_of_keys_subset {entries : Object}
    (back : ∀ key ∈ entries.keys, key ∈ Object.keys (rereadObject 0 entries)) : entries = [] := by
  have none : ∀ key, key ∉ entries.keys := by
    intro key
    -- on the length of the key, since the key that makes it up is shorter
    induction size : key.toList.length using Nat.strongRecOn generalizing key with
    | _ length ih =>
        intro member
        rcases exists_of_mem_keys_rereadObject_zero (back key member) with
          ⟨entry, entryMember, keys, text⟩
        refine ih entry.1.toList.length ?_ entry.1 rfl (Object.mem_keys.mpr ⟨entry.2, entryMember⟩)
        rw [← size, text, brackets_cons, List.length_cons, List.length_append]
        omega
  cases entries with
  | nil => rfl
  | cons entry rest => exact absurd List.mem_cons_self (none entry.1)

/-- Entries that all come back under their keys come back in their order. -/
theorem exists_rereadObject_eq_map {depth : Nat} {entries : Object}
    (distinct : entries.keys.Nodup)
    (back : ∀ key ∈ entries.keys, key ∈ Object.keys (rereadObject depth entries)) :
    ∃ below, rereadObject depth entries =
      entries.map fun entry => (entry.1, reread below entry.2) := by
  cases depth with
  | zero =>
      refine ⟨0, ?_⟩
      rw [eq_nil_of_keys_subset back]
      rfl
  | succ depth =>
      have named : ∀ key ∈ entries.keys, key ≠ "" := fun key member =>
        (isGrownObject_rereadObject (depth + 1) entries).named key (back key member)
      have reads : ∀ entry ∈ entries, ∀ leaf ∈ valueLeaves entry.2,
          (leaf.under entry.1).reread (depth + 1) = (leaf.reread depth).under entry.1 := by
        intro entry member leaf _
        have key := back _ (Object.mem_keys.mpr ⟨entry.2, member⟩)
        exact reread_under (not_mem_of_mem_keys_rereadObject key) depth leaf
      have built : rereadObject (depth + 1) entries = rereadEntries depth entries :=
        foldl_placeLeaf_eq_rereadEntries reads named distinct fun _ _ => List.not_mem_nil
      rw [built] at back ⊢
      exact ⟨depth, rereadEntries_eq_map distinct back⟩

/-- Positions are read back. -/
theorem rereadObject_positionEntries (depth : Nat) (items : List Value) :
    rereadObject (depth + 1) (positionEntries 0 items) =
      rereadEntries depth (positionEntries 0 items) := by
  refine foldl_placeLeaf_eq_rereadEntries (fun entry member leaf _ => ?_) (fun key member => ?_)
    (nodup_keys_positionEntries 0 items) fun _ _ => List.not_mem_nil
  · rcases exists_of_mem_keys_positionEntries (Object.mem_keys.mpr ⟨entry.2, member⟩) with
      ⟨place, _, same⟩
    exact reread_under (same ▸ (isPlainKey_positionKey place).2) depth leaf
  · rcases exists_of_mem_keys_positionEntries member with ⟨place, _, rfl⟩
    exact positionKey_ne_empty place

/-- An object that has become an array had as many entries as the array has items, and only
indices for keys. -/
theorem of_compactObject_eq_array {entries : Object} {values : List Value}
    (taken : compactObject entries = .array values) :
    entries ≠ [] ∧ values.length = entries.length ∧
      ∀ key ∈ entries.keys, arrayIndex? key ≠ none := by
  have some : entries ≠ [] := by
    rintro rfl
    exact absurd taken (by simp [compactObject, indexedEntries?])
  rcases compactObject_eq_or_perm some with ⟨kept, _⟩ | ⟨others, became, perm, indices⟩
  · exact absurd (kept.symm.trans taken) (by simp)
  · cases became.symm.trans taken
    exact ⟨some, by rw [perm.length_eq, List.length_map], indices⟩

/-- An array that is read of as many items as were written holds what is read of each. -/
theorem exists_eq_map_of_compactObject_eq_array {depth : Nat} {items values : List Value}
    (taken : compactObject (compactEntries (rereadObject depth (positionEntries 0 items))) =
      .array values)
    (count : values.length = items.length) :
    ∃ below, values = items.map fun item => compact (reread below item) := by
  rcases of_compactObject_eq_array taken with ⟨some, sizes, indices⟩
  cases depth with
  | zero =>
      rcases List.exists_mem_of_ne_nil _ some with ⟨entry, member⟩
      have index := indices entry.1 (Object.mem_keys.mpr ⟨entry.2, member⟩)
      rw [compactEntries_eq] at member
      rcases List.mem_map.mp member with ⟨source, among, rfl⟩
      rcases exists_of_mem_keys_rereadObject_zero (Object.mem_keys.mpr ⟨source.2, among⟩) with
        ⟨_, _, _, text⟩
      exact absurd (arrayIndex?_eq_none_of_brackets text) index
  | succ depth =>
      rw [rereadObject_positionEntries] at taken sizes
      rw [count, compactEntries_eq, List.length_map] at sizes
      have all : rereadEntries depth (positionEntries 0 items) =
          positionEntries 0 (items.map (reread depth)) := by
        rw [← map_positionEntries, rereadEntries]
        refine congrArg _ (List.filter_eq_self.mpr (List.length_filter_eq_length_iff.mp ?_))
        rw [rereadEntries, List.length_map] at sizes
        rw [← sizes, length_positionEntries]
      rw [all, compactEntries_positionEntries, List.map_map] at taken
      by_cases long : maxArrayIndex + 1 < items.length
      · rw [compactObject_positionEntries_of_long (by simpa using long)] at taken
        exact absurd taken (by simp)
      · have nonempty : items.map (compact ∘ reread depth) ≠ [] :=
          fun none => (of_compactObject_eq_array taken).1 (by rw [none]; rfl)
        rw [compactObject_positionEntries nonempty (by simpa using long)] at taken
        exact ⟨depth, (Value.array.inj taken).symm⟩

/-- An object is found as it is if each of its values is that is found in it. -/
theorem map_eq_self_of_same {entries : Object} {again : Value → Value}
    (distinct : entries.keys.Nodup)
    (same : Object.same (entries.map fun entry => (entry.1, again entry.2)) entries = true)
    (each : ∀ entry ∈ entries, (again entry.2).same entry.2 = true → again entry.2 = entry.2) :
    (entries.map fun entry => (entry.1, again entry.2)) = entries := by
  refine (List.map_congr_left fun entry member => ?_).trans (List.map_id entries)
  rw [each entry member (same_of_mem_of_map_values distinct again same entry member)]
  rfl

/-- A value that is found again, in whatever order, is found as it is. -/
theorem compact_reread_of_same {value : Value} (distinct : value.WellFormed) (depth : Nat)
    (same : (compact (reread depth value)).same value = true) :
    compact (reread depth value) = value := by
  induction value using Value.nestedInduction generalizing depth with
  | leaf value leaf =>
      cases value with
      | object entries => exact leaf.elim
      | array items => exact leaf.elim
      | string text => rfl
      | _ => exact absurd same (by simp [reread, compact, Value.same])
  | array items ih =>
      rw [reread, compact] at same ⊢
      rcases compactObject_eq_or _ with ⟨kept, _⟩ | ⟨indexed, _, taken⟩
      · rw [kept] at same
        exact absurd same (by simp [Value.same])
      · rw [taken] at same ⊢
        have paired := Json.sameItems_iff.mp same
        rcases exists_eq_map_of_compactObject_eq_array taken paired.length_eq with ⟨below, equal⟩
        rw [equal, List.forall₂_map_left_iff, List.forall₂_same] at paired
        rw [equal]
        refine congrArg Value.array ((List.map_congr_left fun item member => ?_).trans
          (List.map_id items))
        exact ih item member ((Value.everywhere_array.mp distinct).2 item member) below
          (paired item member)
  | object entries ih =>
      rw [reread, compact] at same ⊢
      rcases compactObject_eq_or _ with ⟨kept, _⟩ | ⟨indexed, _, taken⟩
      · rw [kept] at same ⊢
        have back := keys_subset_of_same_compactEntries (isGrownObject_rereadObject depth entries)
          distinct.here same
        rcases exists_rereadObject_eq_map distinct.here back with ⟨below, equal⟩
        rw [equal, compactEntries_eq, List.map_map] at same ⊢
        refine congrArg Value.object (@map_eq_self_of_same _ (compact ∘ reread below)
          distinct.here same fun entry member => ?_)
        exact ih entry member ((Value.everywhere_object.mp distinct).2 entry member) below
      · rw [taken] at same
        exact absurd same (by simp [Value.same])

/-! ## Whole keys -/

/-- Pairs of leaves are placed as the leaves are that are read from their whole keys. -/
theorem foldl_placePair_filterMap_read? (leaves : List Leaf) (target : Object) :
    (leaves.filterMap Leaf.read?).foldl placePair target =
      ((leaves.filter fun leaf => !(pathText leaf.path).isEmpty).map Leaf.rereadWhole).foldl
        placeLeaf target := by
  induction leaves generalizing target with
  | nil => rfl
  | cons leaf rest ih =>
      cases none : (pathText leaf.path).isEmpty with
      | true =>
          rw [List.filterMap_cons_none (by simp [Leaf.read?, none]), ih,
            List.filter_cons_of_neg (by simp [none])]
      | false =>
          rw [List.filterMap_cons_some (b := ⟨pathText leaf.path, leafText leaf.value⟩)
            (by simp [Leaf.read?, none]), List.filter_cons_of_pos (by simp [none]),
            List.map_cons, List.foldl_cons, List.foldl_cons, ih]
          rfl

/-- A key of what is read that holds an opening bracket is the whole key of a leaf. -/
theorem exists_of_mem_keys_foldl_placePair {query : Object} {key : String}
    (member : key ∈ Object.keys (((entryLeaves query).filterMap Leaf.read?).foldl placePair []))
    (opens : '[' ∈ key.toList) :
    ∃ entry ∈ query, ∃ leaf ∈ valueLeaves entry.2,
      key.toList = entry.1.toList ++ brackets leaf.path ∧ keySegments key.toList = [key.toList] := by
  rw [foldl_placePair_filterMap_read?] at member
  rcases exists_of_mem_keys_foldl member with none | ⟨leaf, among, head, object, first, rfl⟩
  · exact absurd none List.not_mem_nil
  rcases List.mem_map.mp among with ⟨source, sourceMember, rfl⟩
  rcases List.mem_filter.mp sourceMember with ⟨sourceMember, some⟩
  rcases mem_entryLeaves.mp sourceMember with ⟨entry, entryMember, inner, innerMember, rfl⟩
  have nonempty : pathText (inner.under entry.1).path ≠ [] := by simpa using some
  rcases exists_keySegments_eq nonempty with ⟨segment, rest, cut, named, whole⟩
  have text : String.ofList segment = head := by
    rwa [Leaf.rereadWhole, keyPath, cut, List.map_cons, List.head?_cons, Option.some.injEq] at first
  have headNamed : head ≠ "" :=
    fun empty => named (String.ofList_eq_empty_iff.mp (text.trans empty))
  rw [segmentKey_of_ne headNamed, ← text, String.toList_ofList] at opens ⊢
  rcases whole opens with ⟨rfl, rfl⟩
  exact ⟨entry, entryMember, inner, innerMember, rfl, cut⟩

theorem isLeaf_of_path_eq_nil {value : Value} {leaf : Leaf} (member : leaf ∈ valueLeaves value)
    (here : leaf.path = []) : value.IsLeaf := by
  cases value with
  | object entries => exact absurd here (path_ne_nil_of_mem_entryLeaves member)
  | array items => exact absurd here (path_ne_nil_of_mem_itemLeaves member)
  | _ => trivial

theorem path_eq_nil_of_isLeaf {value : Value} {leaf : Leaf} (isLeaf : value.IsLeaf)
    (member : leaf ∈ valueLeaves value) : leaf.path = [] := by
  cases value with
  | object entries => exact isLeaf.elim
  | array items => exact isLeaf.elim
  | _ => rw [List.mem_singleton.mp member]

/-- If all keys come back, one with an opening bracket is the whole key of a leaf. -/
theorem isLeaf_of_opens {query : Object} (distinct : query.keys.Nodup)
    (named : ∀ key ∈ query.keys, key ≠ "")
    (back : ∀ key ∈ query.keys,
      key ∈ Object.keys (((entryLeaves query).filterMap Leaf.read?).foldl placePair []))
    {entry : String × Value} (member : entry ∈ query) (opens : '[' ∈ entry.1.toList) :
    entry.2.IsLeaf ∧ keySegments entry.1.toList = [entry.1.toList] := by
  -- on the length of the key, since the key that makes it up is shorter
  induction size : entry.1.toList.length using Nat.strongRecOn generalizing entry with
  | _ length ih =>
      have key := Object.mem_keys.mpr ⟨entry.2, member⟩
      rcases exists_of_mem_keys_foldl_placePair (back _ key) opens with
        ⟨other, otherMember, leaf, leafMember, text, whole⟩
      cases path : leaf.path with
      | nil =>
          rw [path, brackets, List.flatMap_nil, List.append_nil] at text
          have same := List.inj_on_of_nodup_map distinct member otherMember
            (String.toList_inj.mp text)
          exact ⟨same ▸ isLeaf_of_path_eq_nil leafMember path, whole⟩
      | cons next further =>
          have longer : other.1.toList.length < entry.1.toList.length := by
            rw [text, path, brackets_cons, List.length_append, List.length_cons]
            omega
          by_cases plain : '[' ∈ other.1.toList
          · have isLeaf := (ih _ (size ▸ longer) otherMember plain rfl).1
            rw [path_eq_nil_of_isLeaf isLeaf leafMember] at path
            exact absurd path (List.cons_ne_nil _ _).symm
          · have some : other.1.toList ≠ [] := fun none =>
              named _ (Object.mem_keys.mpr ⟨other.2, otherMember⟩) (String.toList_eq_nil_iff.mp none)
            have cut := keySegments_append_brackets some plain leaf.path
            rw [← text, whole] at cut
            exact absurd (congrArg List.length (List.cons.inj cut).1) (Nat.ne_of_gt longer)

/-- If all keys come back, all entries are read, in their order. -/
theorem foldl_placePair_eq_map {query : Object} (distinct : query.keys.Nodup)
    (named : ∀ key ∈ query.keys, key ≠ "")
    (back : ∀ key ∈ query.keys,
      key ∈ Object.keys (((entryLeaves query).filterMap Leaf.read?).foldl placePair [])) :
    ((entryLeaves query).filterMap Leaf.read?).foldl placePair [] =
      query.map fun entry => (entry.1, reread maxKeyDepth entry.2) := by
  have some : ∀ entry ∈ query, entry.1.toList ≠ [] := fun entry member none =>
    named _ (Object.mem_keys.mpr ⟨entry.2, member⟩) (String.toList_eq_nil_iff.mp none)
  have reads : ∀ entry ∈ query, ∀ leaf ∈ valueLeaves entry.2,
      (leaf.under entry.1).rereadWhole = (leaf.reread maxKeyDepth).under entry.1 := by
    intro entry member leaf leafMember
    have path : keySegments (entry.1.toList ++ brackets leaf.path) =
        entry.1.toList :: bracketSegments maxKeyDepth (brackets leaf.path) := by
      by_cases opens : '[' ∈ entry.1.toList
      · rcases isLeaf_of_opens distinct named back member opens with ⟨isLeaf, whole⟩
        rw [path_eq_nil_of_isLeaf isLeaf leafMember, brackets, List.flatMap_nil, List.append_nil,
          whole, bracketSegments_nil]
      · exact keySegments_append_brackets (some entry member) opens leaf.path
    simp only [Leaf.rereadWhole, Leaf.under, keyPath, pathText, path, List.map_cons,
      String.ofList_toList, Leaf.reread]
  have written : (entryLeaves query).filter (fun leaf => !(pathText leaf.path).isEmpty) =
      entryLeaves query := by
    apply List.filter_eq_self.mpr
    intro leaf member
    rcases mem_entryLeaves.mp member with ⟨entry, entryMember, inner, _, rfl⟩
    simp [Leaf.under, pathText, some entry entryMember]
  have built := @foldl_placeLeaf_eq_rereadEntries Leaf.rereadWhole maxKeyDepth query reads named
    distinct [] fun _ _ => List.not_mem_nil
  rw [foldl_placePair_filterMap_read?, written, built, List.nil_append] at back ⊢
  exact rereadEntries_eq_map distinct back

/-- A query that comes back from its text, in whatever order, comes back as it is, with or
without the mark in front. -/
theorem read_write_eq_of_same {query : Object} (distinct : (Value.object query).WellFormed)
    (same : (read (write query)).same query = true) :
    read (write query) = query ∧ read ("?" ++ write query) = query := by
  rcases readPairs_write query with ⟨bare, marked⟩
  suffices exactly : ofPairs ((entryLeaves query).filterMap Leaf.read?) = query by
    exact ⟨by rw [read, bare, exactly], by rw [read, marked, exactly]⟩
  rw [read, bare, ofPairs] at same
  have grown := isGrownObject_foldl_placePair ((entryLeaves query).filterMap Leaf.read?)
    isGrownObject_nil
  have back := keys_subset_of_same_compactEntries grown distinct.here same
  have named : ∀ key ∈ query.keys, key ≠ "" := fun key member => grown.named key (back key member)
  rw [ofPairs]
  rw [foldl_placePair_eq_map distinct.here named back, compactEntries_eq, List.map_map] at same ⊢
  exact @map_eq_self_of_same _ (compact ∘ reread maxKeyDepth) distinct.here same
    fun entry member => compact_reread_of_same
      ((Value.everywhere_object.mp distinct).2 entry member) maxKeyDepth

end Query
end PageRouting
