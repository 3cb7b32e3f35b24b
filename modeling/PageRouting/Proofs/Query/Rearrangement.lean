import Mathlib.Data.List.Sort
import PageRouting.Proofs.Query.Depth
import PageRouting.Proofs.Query.Separation

namespace PageRouting
namespace Query

open Json (Value Object)

/-!
# The order of the parts

In general the order in which parts are read matters: it numbers entries without
a key of their own, and it decides what comes first where values meet.  Neither
happens if every path names all its segments and none leads through the end of
another.  Then each leaf has a place of its own, and what is read is described by
the set of the leaves.

The description goes level by level.  The leaves under one key make up what the
key holds, whether it is the text of a single leaf, an object, or an array.  An
array comes from keys that are all indices, and its items stand in the order of
these.  That order could still depend on the parts if one index were spelled in
two ways among the same keys, so this is excluded below the root, where there are
arrays.
-/

/-! ## What leaves make up -/

/-- The leaf as it stands under a key, if it does. -/
def Leaf.inside? (key : String) (leaf : Leaf) : Option Leaf :=
  match leaf.path with
  | [] => none
  | first :: rest => if first = key then some ⟨rest, leaf.value⟩ else none

/-- The leaves under a key. -/
def leavesUnder (key : String) (leaves : List Leaf) : List Leaf :=
  leaves.filterMap (Leaf.inside? key)

/-- Entries for the first segments of leaves, one for each. -/
structure IsKeyed (leaves : List Leaf) (entries : Object) : Prop where
  deeper : ∀ leaf ∈ leaves, leaf.path ≠ []
  distinct : entries.keys.Nodup
  keys : ∀ key, key ∈ entries.keys ↔ ∃ inner : Leaf, inner.under key ∈ leaves

/-- Keys that are indices, each smaller than the next. -/
structure AreAscending (keys : List String) : Prop where
  numerals : ∀ key ∈ keys, IsSmallNumeral key
  ascending : keys.Pairwise fun one other => decimalValue one.toList < decimalValue other.toList

/-- What leaves make up: a text if there is one leaf, which leads no further, and otherwise an
object of what they make up under each of their keys, or an array of it in the order of the keys if
these are all indices. -/
inductive MakeUp : List Leaf → Value → Prop
  | text (text : String) : MakeUp [⟨[], .string text⟩] (.string text)
  | object {leaves : List Leaf} {entries : Object} (keyed : IsKeyed leaves entries)
      (named : ∃ key ∈ entries.keys, ¬IsSmallNumeral key)
      (inside : ∀ entry ∈ entries, MakeUp (leavesUnder entry.1 leaves) entry.2) :
      MakeUp leaves (.object entries)
  | array {leaves : List Leaf} {entries : Object} (keyed : IsKeyed leaves entries)
      (ascending : AreAscending entries.keys)
      (inside : ∀ entry ∈ entries, MakeUp (leavesUnder entry.1 leaves) entry.2) :
      MakeUp leaves (.array (entries.map fun entry => entry.2))

/-- A query is made up by leaves.  It is never an array. -/
structure IsMadeUp (leaves : List Leaf) (query : Object) : Prop where
  keyed : IsKeyed leaves query
  inside : ∀ entry ∈ query, MakeUp (leavesUnder entry.1 leaves) entry.2

theorem inside?_eq_some_iff {key : String} {leaf inner : Leaf} :
    leaf.inside? key = some inner ↔ leaf = inner.under key := by
  rcases leaf with ⟨path, value⟩
  rcases inner with ⟨innerPath, innerValue⟩
  cases path with
  | nil => simp [Leaf.inside?, Leaf.under]
  | cons first rest => simp [Leaf.inside?, Leaf.under, and_assoc]

theorem mem_leavesUnder {key : String} {leaves : List Leaf} {inner : Leaf} :
    inner ∈ leavesUnder key leaves ↔ inner.under key ∈ leaves := by
  simp only [leavesUnder, List.mem_filterMap, inside?_eq_some_iff, exists_eq_right]

/-! ## Leaves in another order make up the same -/

section Reordering

variable {leaves others : List Leaf}

theorem IsKeyed.of_perm {entries : Object} (keyed : IsKeyed leaves entries)
    (perm : leaves.Perm others) : IsKeyed others entries where
  deeper := fun leaf member => keyed.deeper leaf (perm.mem_iff.mpr member)
  distinct := keyed.distinct
  keys := fun key => (keyed.keys key).trans (exists_congr fun _ => perm.mem_iff)

theorem MakeUp.of_perm {value : Value} (makeUp : MakeUp leaves value)
    (perm : leaves.Perm others) : MakeUp others value := by
  induction makeUp generalizing others with
  | text text =>
      rw [List.perm_singleton.mp perm.symm]
      exact .text text
  | object keyed named _ ih =>
      exact .object (keyed.of_perm perm) named fun entry member =>
        ih entry member (perm.filterMap _)
  | array keyed ascending _ ih =>
      exact .array (keyed.of_perm perm) ascending fun entry member =>
        ih entry member (perm.filterMap _)

theorem IsMadeUp.of_perm {query : Object} (madeUp : IsMadeUp leaves query)
    (perm : leaves.Perm others) : IsMadeUp others query where
  keyed := madeUp.keyed.of_perm perm
  inside := fun entry member => (madeUp.inside entry member).of_perm (perm.filterMap _)

end Reordering

/-! ## Leaves make up one thing only -/

section Uniqueness

variable {leaves : List Leaf} {left right : Object}

theorem IsKeyed.mem_keys_iff (first : IsKeyed leaves left) (second : IsKeyed leaves right)
    (key : String) : key ∈ left.keys ↔ key ∈ right.keys :=
  (first.keys key).trans (second.keys key).symm

theorem IsKeyed.not_text {text : String} {entries : Object}
    (keyed : IsKeyed [⟨[], .string text⟩] entries) : False :=
  keyed.deeper _ List.mem_cons_self rfl

/-- Entries for the same leaves are the same if those under the same key are. -/
theorem IsKeyed.same (first : IsKeyed leaves left) (second : IsKeyed leaves right)
    (inside : ∀ one ∈ left, ∀ other ∈ right, one.1 = other.1 → one.2.same other.2 = true) :
    left.same right = true := by
  rw [Json.Object.same_iff first.distinct second.distinct]
  constructor
  · rintro ⟨key, value⟩ member
    rcases Object.mem_keys.mp ((first.mem_keys_iff second key).mp
      (Object.mem_keys.mpr ⟨value, member⟩)) with ⟨other, found⟩
    exact ⟨other, found, inside _ member _ found rfl⟩
  · rintro ⟨key, value⟩ member
    rcases Object.mem_keys.mp ((first.mem_keys_iff second key).mpr
      (Object.mem_keys.mpr ⟨value, member⟩)) with ⟨other, found⟩
    exact ⟨other, found, inside _ found _ member rfl⟩

/-- Ascending keys with the same members are the same. -/
theorem AreAscending.eq {keys others : List String} (first : AreAscending keys)
    (second : AreAscending others) (members : ∀ key, key ∈ keys ↔ key ∈ others) :
    keys = others := by
  have irreflexive : Std.Irrefl fun one other : String =>
      decimalValue one.toList < decimalValue other.toList := ⟨fun _ => Nat.lt_irrefl _⟩
  have antisymmetric : Std.Antisymm fun one other : String =>
      decimalValue one.toList < decimalValue other.toList :=
    ⟨fun _ _ before after => absurd (before.trans after) (Nat.lt_irrefl _)⟩
  exact first.ascending.eq_of_mem_iff second.ascending members

/-- Items in the order of the same keys are the same one by one. -/
theorem sameItems_of_keys_eq (keys : left.keys = right.keys)
    (inside : ∀ one ∈ left, ∀ other ∈ right, one.1 = other.1 → one.2.same other.2 = true) :
    Json.sameItems (left.map fun entry => entry.2) (right.map fun entry => entry.2) = true := by
  induction left generalizing right with
  | nil =>
      cases right with
      | nil => rfl
      | cons entry rest => exact absurd keys (List.cons_ne_nil _ _).symm
  | cons entry rest ih =>
      cases right with
      | nil => exact absurd keys (List.cons_ne_nil _ _)
      | cons other others =>
          rcases List.cons.inj keys with ⟨first, later⟩
          rw [List.map_cons, List.map_cons, Json.sameItems, Bool.and_eq_true]
          refine ⟨inside _ List.mem_cons_self _ List.mem_cons_self first, ih later ?_⟩
          exact fun one among two within =>
            inside one (List.mem_cons_of_mem _ among) two (List.mem_cons_of_mem _ within)

theorem MakeUp.same {value other : Value} (first : MakeUp leaves value)
    (second : MakeUp leaves other) : value.same other = true := by
  induction first generalizing other with
  | text text =>
      cases second with
      | text => exact beq_self_eq_true _
      | object keyed => exact keyed.not_text.elim
      | array keyed => exact keyed.not_text.elim
  | object keyed named _ ih =>
      cases second with
      | text => exact keyed.not_text.elim
      | object otherKeyed _ inside =>
          exact keyed.same otherKeyed fun one among two within key =>
            ih one among (key ▸ inside two within)
      | array otherKeyed ascending _ =>
          rcases named with ⟨key, member, unindexed⟩
          exact absurd (ascending.numerals key ((keyed.mem_keys_iff otherKeyed key).mp member))
            unindexed
  | array keyed ascending _ ih =>
      cases second with
      | text => exact keyed.not_text.elim
      | object otherKeyed named _ =>
          rcases named with ⟨key, member, unindexed⟩
          exact absurd (ascending.numerals key ((keyed.mem_keys_iff otherKeyed key).mpr member))
            unindexed
      | array otherKeyed otherAscending inside =>
          exact sameItems_of_keys_eq (ascending.eq otherAscending (keyed.mem_keys_iff otherKeyed))
            fun one among two within key => ih one among (key ▸ inside two within)

theorem IsMadeUp.same (first : IsMadeUp leaves left) (second : IsMadeUp leaves right) :
    left.same right = true :=
  first.keyed.same second.keyed fun one among other within key =>
    (first.inside one among).same (key ▸ second.inside other within)

end Uniqueness

/-! ## Paths that keep out of each other's way -/

/-- Among the segments that follow the given ones, no index is spelled in two ways. -/
def SpelledOnce (paths : List (List String)) (common : List String) : Prop :=
  ∀ one ∈ paths, ∀ other ∈ paths, ∀ left right,
    common ++ [left] <+: one → common ++ [right] <+: other →
      IsSmallNumeral left → IsSmallNumeral right →
        decimalValue left.toList = decimalValue right.toList → left = right

/-- Paths without empty segments, none of which is a prefix of another, and which do not spell an
index of one array in two ways. -/
structure AreApart (paths : List (List String)) : Prop where
  named : ∀ path ∈ paths, ∀ segment ∈ path, segment ≠ ""
  unrelated : paths.Pairwise fun one other => ¬one <+: other ∧ ¬other <+: one
  /-- There is no array at the root. -/
  spelled : ∀ common, common ≠ [] → SpelledOnce paths common

variable {leaves : List Leaf}

theorem path_mem_of_mem_leavesUnder {key : String} {inner : Leaf}
    (member : inner ∈ leavesUnder key leaves) : key :: inner.path ∈ leaves.map Leaf.path :=
  List.mem_map.mpr ⟨inner.under key, mem_leavesUnder.mp member, rfl⟩

/-- The paths under a key keep apart, and spell no index in two ways to begin with. -/
theorem AreApart.under (apart : AreApart (leaves.map Leaf.path)) (key : String) :
    AreApart ((leavesUnder key leaves).map Leaf.path) ∧
      SpelledOnce ((leavesUnder key leaves).map Leaf.path) [] := by
  have spelled : ∀ common, SpelledOnce ((leavesUnder key leaves).map Leaf.path) common := by
    intro common one oneMember other otherMember left right follows alsoFollows
    rcases List.mem_map.mp oneMember with ⟨inner, innerMember, rfl⟩
    rcases List.mem_map.mp otherMember with ⟨another, anotherMember, rfl⟩
    exact apart.spelled (key :: common) (List.cons_ne_nil _ _) _
      (path_mem_of_mem_leavesUnder innerMember) _ (path_mem_of_mem_leavesUnder anotherMember)
      left right (List.cons_prefix_cons.mpr ⟨rfl, follows⟩)
      (List.cons_prefix_cons.mpr ⟨rfl, alsoFollows⟩)
  refine ⟨⟨?_, ?_, fun common _ => spelled common⟩, spelled []⟩
  · intro path member segment onPath
    rcases List.mem_map.mp member with ⟨inner, innerMember, rfl⟩
    exact apart.named _ (path_mem_of_mem_leavesUnder innerMember) segment
      (List.mem_cons_of_mem _ onPath)
  · rw [List.pairwise_map]
    refine (List.pairwise_map.mp apart.unrelated).filterMap _ ?_
    intro one other unrelated inner found another alsoFound
    rw [inside?_eq_some_iff.mp found, inside?_eq_some_iff.mp alsoFound] at unrelated
    simpa only [Leaf.under, List.cons_prefix_cons, true_and] using unrelated

/-- A leaf that leads no further is alone, or it would stand in the way of the others. -/
theorem AreApart.eq_singleton (apart : AreApart (leaves.map Leaf.path)) {leaf : Leaf}
    (member : leaf ∈ leaves) (ends : leaf.path = []) : leaves = [leaf] := by
  have unrelated := List.pairwise_map.mp apart.unrelated
  cases leaves with
  | nil => exact absurd member List.not_mem_nil
  | cons first rest =>
      rcases List.pairwise_cons.mp unrelated with ⟨before, _⟩
      rcases List.mem_cons.mp member with rfl | later
      · cases rest with
        | nil => rfl
        | cons next rest =>
            exact absurd (ends ▸ List.nil_prefix) (before next List.mem_cons_self).1
      · exact absurd (ends ▸ List.nil_prefix) (before leaf later).2

theorem AreApart.hasTop (apart : AreApart (leaves.map Leaf.path))
    (deeper : ∀ leaf ∈ leaves, leaf.path ≠ []) : ∀ leaf ∈ leaves, leaf.HasTop := by
  rintro ⟨path, value⟩ member
  cases path with
  | nil => exact absurd rfl (deeper _ member)
  | cons key rest =>
      have named := apart.named _ (List.mem_map_of_mem member) key List.mem_cons_self
      exact ⟨key, named, ⟨rest, value⟩, rfl⟩

/-! ## What is read is made up -/

theorem filter_top_eq {key : String} (deeper : ∀ leaf ∈ leaves, leaf.path ≠ []) :
    (leaves.filter fun leaf => leaf.top == key) =
      (leavesUnder key leaves).map (Leaf.under key) := by
  induction leaves with
  | nil => rfl
  | cons leaf rest ih =>
      have others := ih fun other member => deeper other (List.mem_cons_of_mem _ member)
      rcases leaf with ⟨path, value⟩
      cases path with
      | nil => exact absurd rfl (deeper _ List.mem_cons_self)
      | cons first path =>
          by_cases same : first = key
          · simp only [leavesUnder, List.filter_cons, Leaf.top, List.headD_cons, same,
              beq_self_eq_true, if_true, List.filterMap_cons, Leaf.inside?,
              List.map_cons] at others ⊢
            rw [others]
            rfl
          · simp only [leavesUnder, List.filter_cons, Leaf.top, List.headD_cons,
              beq_eq_false_iff_ne.mpr same, Bool.false_eq_true, same, if_false,
              List.filterMap_cons, Leaf.inside?] at others ⊢
            exact others

theorem isKeyed_ofLeaves (rooted : ∀ leaf ∈ leaves, leaf.HasTop) :
    IsKeyed leaves (ofLeaves leaves) where
  deeper := by
    intro leaf member
    rcases rooted leaf member with ⟨key, _, inner, rfl⟩
    exact List.cons_ne_nil _ _
  distinct := by
    rw [keys_ofLeaves]
    exact nodup_keys_foldl_placeLeaf rooted List.nodup_nil
  keys := by
    intro key
    rw [mem_keys_ofLeaves rooted]
    constructor
    · rintro ⟨leaf, member, rfl⟩
      rcases rooted leaf member with ⟨key, _, inner, rfl⟩
      exact ⟨inner, member⟩
    · rintro ⟨inner, member⟩
      exact ⟨_, member, rfl⟩

theorem arrayIndex?_eq_some_iff {key : String} {index : Nat} :
    arrayIndex? key = some index ↔ IsSmallNumeral key ∧ decimalValue key.toList = index := by
  cases found : arrayIndex? key with
  | none =>
      have unindexed := arrayIndex?_eq_none_iff.mp found
      exact iff_of_false (by simp) fun both => unindexed both.1
  | some number =>
      have numeral : IsSmallNumeral key :=
        not_not.mp fun unindexed => by simp [arrayIndex?_eq_none_iff.mpr unindexed] at found
      have value : decimalValue key.toList = number := by
        simp only [arrayIndex?] at found
        split at found
        · exact absurd found (by simp)
        · split at found
          · exact Option.some.inj found
          · exact absurd found (by simp)
      rw [Option.some.injEq, value]
      exact ⟨fun same => ⟨numeral, same⟩, fun both => both.2⟩

/-- Entries that become an array have indices for keys, and are numbered by them. -/
theorem eq_map_of_indexedEntries? {entries : Object} {indexed : List (Nat × Value)}
    (found : indexedEntries? entries = some indexed) :
    (∀ key ∈ entries.keys, IsSmallNumeral key) ∧
      indexed = entries.map fun entry => (decimalValue entry.1.toList, entry.2) := by
  have some : entries ≠ [] := by
    rintro rfl
    exact absurd found (by simp [indexedEntries?])
  rw [indexedEntries?_of_ne_nil some] at found
  have numbered := map_of_mapM_withIndex? found
  have index : ∀ entry ∈ entries, ∃ number, arrayIndex? entry.1 = .some number := by
    intro entry member
    have listed : (arrayIndex? entry.1, entry.2) ∈
        indexed.map fun entry => (.some entry.1, entry.2) :=
      numbered ▸ List.mem_map_of_mem member
    rcases List.mem_map.mp listed with ⟨source, _, same⟩
    exact ⟨source.1, (Prod.mk.inj same).1.symm⟩
  constructor
  · intro key member
    rcases Object.mem_keys.mp member with ⟨value, among⟩
    rcases index _ among with ⟨number, found⟩
    exact (arrayIndex?_eq_some_iff.mp found).1
  · have stripped := congrArg (List.map fun entry => (entry.1.getD 0, entry.2)) numbered
    rw [List.map_map, List.map_map] at stripped
    refine (List.map_id indexed).symm.trans (stripped.trans (List.map_congr_left ?_))
    intro entry member
    rcases index entry member with ⟨number, found⟩
    simp only [Function.comp_apply, found, Option.getD_some,
      (arrayIndex?_eq_some_iff.mp found).2]

/-- Whether the key of an entry denotes no larger number than that of another. -/
def isNotAfter (one other : String × Value) : Bool :=
  decide (decimalValue one.1.toList ≤ decimalValue other.1.toList)

theorem pairwise_mergeSort_isNotAfter (entries : Object) :
    (entries.mergeSort isNotAfter).Pairwise fun one other =>
      decimalValue one.1.toList ≤ decimalValue other.1.toList := by
  have transitive : ∀ one other another : String × Value, isNotAfter one other = true →
      isNotAfter other another = true → isNotAfter one another = true := by
    intro one other another before after
    exact decide_eq_true ((of_decide_eq_true before).trans (of_decide_eq_true after))
  have total : ∀ one other : String × Value,
      (isNotAfter one other || isNotAfter other one) = true := by
    intro one other
    rw [Bool.or_eq_true, isNotAfter, isNotAfter, decide_eq_true_eq, decide_eq_true_eq]
    exact Nat.le_total _ _
  exact (List.pairwise_mergeSort transitive total entries).imp of_decide_eq_true

/-- Keys that spell no index twice are ascending once they have been sorted. -/
theorem areAscending_mergeSort {entries : Object} (keyed : IsKeyed leaves entries)
    (spelled : SpelledOnce (leaves.map Leaf.path) [])
    (numerals : ∀ key ∈ entries.keys, IsSmallNumeral key) :
    AreAscending (Object.keys (entries.mergeSort isNotAfter)) := by
  have perm := List.mergeSort_perm entries isNotAfter
  have sameKeys := perm.map fun entry => entry.1
  have first : ∀ key ∈ entries.keys, ∃ path ∈ leaves.map Leaf.path, [] ++ [key] <+: path := by
    intro key member
    rcases (keyed.keys key).mp member with ⟨inner, among⟩
    exact ⟨_, List.mem_map_of_mem among, inner.path, rfl⟩
  refine ⟨fun key member => numerals key (sameKeys.mem_iff.mp member), ?_⟩
  rw [Object.keys, List.pairwise_map]
  have distinct := List.pairwise_map.mp (sameKeys.nodup_iff.mpr keyed.distinct)
  refine ((pairwise_mergeSort_isNotAfter entries).and distinct).imp_of_mem ?_
  rintro one other oneMember otherMember ⟨ordered, different⟩
  refine Nat.lt_of_le_of_ne ordered fun equal => different ?_
  have oneKey : one.1 ∈ entries.keys :=
    Object.mem_keys.mpr ⟨one.2, perm.mem_iff.mp oneMember⟩
  have otherKey : other.1 ∈ entries.keys :=
    Object.mem_keys.mpr ⟨other.2, perm.mem_iff.mp otherMember⟩
  rcases first _ oneKey with ⟨path, among, follows⟩
  rcases first _ otherKey with ⟨another, alsoAmong, alsoFollows⟩
  exact spelled path among another alsoAmong _ _ follows alsoFollows (numerals _ oneKey)
    (numerals _ otherKey) equal

theorem IsKeyed.of_perm_entries {entries others : Object} (keyed : IsKeyed leaves entries)
    (perm : others.Perm entries) : IsKeyed leaves others where
  deeper := keyed.deeper
  distinct := (perm.map _).nodup_iff.mpr keyed.distinct
  keys := fun key => (perm.map _).mem_iff.trans (keyed.keys key)

/-- Compaction makes of entries what their leaves make up. -/
theorem IsMadeUp.compactObject {entries : Object} (madeUp : IsMadeUp leaves entries)
    (some : leaves ≠ []) (spelled : SpelledOnce (leaves.map Leaf.path) []) :
    MakeUp leaves (compactObject entries) := by
  have filled : entries ≠ [] := by
    rcases List.exists_mem_of_ne_nil _ some with ⟨⟨path, value⟩, member⟩
    cases path with
    | nil => exact absurd rfl (madeUp.keyed.deeper _ member)
    | cons key path =>
        have present := (madeUp.keyed.keys key).mpr ⟨⟨path, value⟩, member⟩
        rintro rfl
        exact List.not_mem_nil present
  rcases compactObject_eq_or entries with ⟨kept, named⟩ | ⟨indexed, found, taken⟩
  · rcases named filled with ⟨key, member, unindexed⟩
    rw [kept]
    exact .object madeUp.keyed ⟨key, member, arrayIndex?_eq_none_iff.mp unindexed⟩ madeUp.inside
  · rcases eq_map_of_indexedEntries? found with ⟨numerals, rfl⟩
    have perm := List.mergeSort_perm entries isNotAfter
    have sorted := List.map_mergeSort (l := entries) (r := isNotAfter)
      (s := fun one other : Nat × Value => decide (one.1 ≤ other.1))
      (f := fun entry => (decimalValue entry.1.toList, entry.2)) fun _ _ _ _ => rfl
    rw [taken, ← sorted, List.map_map]
    exact .array (madeUp.keyed.of_perm_entries perm)
      (areAscending_mergeSort madeUp.keyed spelled numerals)
      fun entry member => madeUp.inside entry (perm.mem_iff.mp member)

/-- An entry is read from the leaves under its key. -/
theorem mem_ofLeaves_under (rooted : ∀ leaf ∈ leaves, leaf.HasTop) {key : String} {value : Value}
    (member : (key, value) ∈ ofLeaves leaves) :
    (key, value) ∈ ofLeaves ((leavesUnder key leaves).map (Leaf.under key)) := by
  have alone := entriesAt_ofLeaves (· == key) rooted
  rw [filter_top_eq (isKeyed_ofLeaves rooted).deeper] at alone
  rw [← alone]
  exact List.mem_filter.mpr ⟨member, beq_self_eq_true _⟩

theorem ofLeaves_text {key : String} (named : key ≠ "") (text : String) :
    ofLeaves [⟨[key], .string text⟩] = [(key, .string text)] := by
  rw [ofLeaves, List.foldl_cons, List.foldl_nil, placeLeaf, insert, segmentKey_of_ne named]
  rfl

/-- What is read of texts whose paths keep apart is made up by them. -/
theorem isMadeUp_ofLeaves {bound : Nat} (short : ∀ leaf ∈ leaves, leaf.path.length ≤ bound)
    (apart : AreApart (leaves.map Leaf.path)) (deeper : ∀ leaf ∈ leaves, leaf.path ≠ [])
    (texts : ∀ leaf ∈ leaves, ∃ text, leaf.value = .string text) :
    IsMadeUp leaves (ofLeaves leaves) := by
  -- on the bound for the lengths of the paths, which are shorter under a key
  induction bound generalizing leaves with
  | zero =>
      have none : leaves = [] := List.eq_nil_iff_forall_not_mem.mpr fun leaf member =>
        deeper leaf member (List.length_eq_zero_iff.mp (Nat.le_zero.mp (short leaf member)))
      subst none
      exact ⟨isKeyed_ofLeaves (apart.hasTop deeper), fun _ absent => absurd absent List.not_mem_nil⟩
  | succ bound ih =>
      have rooted := apart.hasTop deeper
      have keyed := isKeyed_ofLeaves rooted
      refine ⟨keyed, ?_⟩
      rintro ⟨key, value⟩ member
      have read := mem_ofLeaves_under rooted member
      rcases (keyed.keys key).mp (Object.mem_keys.mpr ⟨value, member⟩) with ⟨first, firstMember⟩
      have named : key ≠ "" :=
        apart.named _ (List.mem_map_of_mem firstMember) key List.mem_cons_self
      rcases apart.under key with ⟨apartUnder, spelled⟩
      by_cases ends : ∃ inner ∈ leavesUnder key leaves, inner.path = []
      · rcases ends with ⟨⟨path, held⟩, innerMember, rfl⟩
        have alone := apartUnder.eq_singleton innerMember rfl
        rcases texts _ (mem_leavesUnder.mp innerMember) with ⟨text, isText⟩
        have same : held = .string text := isText
        subst same
        rw [alone, List.map_singleton, Leaf.under, ofLeaves_text named, List.mem_singleton] at read
        rw [alone, (Prod.mk.inj read).2]
        exact .text text
      · have deeperUnder : ∀ inner ∈ leavesUnder key leaves, inner.path ≠ [] :=
          fun inner innerMember none => ends ⟨inner, innerMember, none⟩
        have some : leavesUnder key leaves ≠ [] :=
          List.ne_nil_of_mem (mem_leavesUnder.mpr firstMember)
        rw [ofLeaves_under named some deeperUnder, List.mem_singleton] at read
        rw [(Prod.mk.inj read).2]
        have shortUnder : ∀ inner ∈ leavesUnder key leaves, inner.path.length ≤ bound :=
          fun inner innerMember =>
            Nat.le_of_succ_le_succ (short _ (mem_leavesUnder.mp innerMember))
        have textsUnder : ∀ inner ∈ leavesUnder key leaves, ∃ text, inner.value = .string text :=
          fun inner innerMember => texts (inner.under key) (mem_leavesUnder.mp innerMember)
        exact (ih shortUnder apartUnder deeperUnder textsUnder).compactObject some spelled

/-! ## Parts in any order -/

/-- Every part of a search text without empty segments has a key. -/
theorem leavesOf_eq_map {pieces : List (List Char)}
    (named : ∀ path ∈ pieces.map partPath, ∀ segment ∈ path, segment ≠ "") :
    leavesOf pieces = pieces.map partLeaf := by
  refine congrArg _ (List.filter_eq_self.mpr fun part member => ?_)
  rw [Bool.not_eq_true', List.isEmpty_eq_false_iff]
  intro keyless
  have path : partPath part = [""] := by
    rw [partPath, keyless]
    rfl
  exact named _ (List.mem_map_of_mem member) "" (path ▸ List.mem_cons_self) rfl

/-- What is read of parts whose paths keep apart is made up by their leaves. -/
theorem isMadeUp_read {search : String} (apart : AreApart ((parts search).map partPath)) :
    IsMadeUp (leavesOf (parts search)) (read search) := by
  have leaves := leavesOf_eq_map apart.named
  have paths : (leavesOf (parts search)).map Leaf.path = (parts search).map partPath := by
    rw [leaves, List.map_map]
    rfl
  have short : ∀ leaf ∈ leavesOf (parts search), leaf.path.length ≤ maxKeyDepth + 2 := by
    intro leaf member
    rcases List.mem_map.mp member with ⟨part, _, rfl⟩
    exact length_keyPath_le _
  rw [read_eq_ofLeaves]
  refine isMadeUp_ofLeaves short (paths ▸ apart) ?_ ?_
  · intro leaf member
    rcases List.mem_map.mp member with ⟨part, _, rfl⟩
    exact keyPath_ne_nil _
  · intro leaf member
    rcases List.mem_map.mp member with ⟨part, _, rfl⟩
    exact ⟨_, rfl⟩

/-- Paths that keep apart do so in any order. -/
theorem AreApart.of_perm {paths others : List (List String)} (apart : AreApart paths)
    (perm : paths.Perm others) : AreApart others where
  named := fun path member => apart.named path (perm.mem_iff.mpr member)
  unrelated := perm.pairwise apart.unrelated fun both => ⟨both.2, both.1⟩
  spelled := fun common some one member other alsoMember =>
    apart.spelled common some one (perm.mem_iff.mpr member) other (perm.mem_iff.mpr alsoMember)

/-- Parts whose paths keep apart can be read in any order: the queries are the same up to the order
of their entries, and each is made up by the leaves of the parts, with every array in the order of
its indices.

Parts are taken behind the mark, which either text may have or not.  Where a part that begins with a
mark stands first, another one has to stand in front of it, or the part is read without its own. -/
theorem read_same_of_perm {one other : String} (perm : (parts one).Perm (parts other))
    (apart : AreApart ((parts one).map partPath)) :
    (read one).same (read other) = true ∧
      IsMadeUp (leavesOf (parts one)) (read one) ∧ IsMadeUp (leavesOf (parts one)) (read other) := by
  have first := isMadeUp_read apart
  have second := isMadeUp_read (apart.of_perm (perm.map partPath))
  have leaves : (leavesOf (parts other)).Perm (leavesOf (parts one)) :=
    ((perm.filter _).map partLeaf).symm
  have moved := second.of_perm leaves
  exact ⟨first.same moved, first, moved⟩

/-- Numerals without leading zeros spell no index in two ways. -/
theorem spelledOnce_of_canonical {paths : List (List String)}
    (canonical : ∀ path ∈ paths, ∀ segment ∈ path, IsSmallNumeral segment →
      segment = positionKey (decimalValue segment.toList))
    (common : List String) : SpelledOnce paths common := by
  intro one member other alsoMember left right follows alsoFollows numeral alsoNumeral equal
  have within : ∀ {segment : String} {path : List String}, common ++ [segment] <+: path →
      segment ∈ path := fun follows =>
    follows.subset (List.mem_append_right _ List.mem_cons_self)
  rw [canonical one member left (within follows) numeral, equal,
    ← canonical other alsoMember right (within alsoFollows) alsoNumeral]

theorem read_same_of_perm_scattered :
    (parts "a[2]=x&b[c]=y&a[0]=z&a[1][k]=w").Perm (parts "?a[1][k]=w&a[0]=z&a[2]=x&b[c]=y") ∧
      AreApart ((parts "a[2]=x&b[c]=y&a[0]=z&a[1][k]=w").map partPath) ∧
      (read "a[2]=x&b[c]=y&a[0]=z&a[1][k]=w").same (read "?a[1][k]=w&a[0]=z&a[2]=x&b[c]=y") = true ∧
      read "a[2]=x&b[c]=y&a[0]=z&a[1][k]=w" =
        [("a", .array [.string "z", .object [("k", .string "w")], .string "x"]),
          ("b", .object [("c", .string "y")])] := by
  have perm : (parts "a[2]=x&b[c]=y&a[0]=z&a[1][k]=w").Perm
      (parts "?a[1][k]=w&a[0]=z&a[2]=x&b[c]=y") := by decide
  have paths : (parts "a[2]=x&b[c]=y&a[0]=z&a[1][k]=w").map partPath =
      [["a", "2"], ["b", "c"], ["a", "0"], ["a", "1", "k"]] := by cbv
  have apart : AreApart [["a", "2"], ["b", "c"], ["a", "0"], ["a", "1", "k"]] :=
    { named := by decide
      unrelated := by decide
      spelled := by
        intro common _
        apply spelledOnce_of_canonical
        simp only [IsSmallNumeral, ← List.all_eq_true]
        decide }
  rw [← paths] at apart
  exact ⟨perm, apart, (read_same_of_perm perm apart).1, by cbv⟩

end Query
end PageRouting
