import Mathlib
import PageRouting.Proofs.Query.Exactness
import PageRouting.Proofs.Query.SearchText

namespace PageRouting
namespace Query

open Json (Value Object)

/-!
# Keys of a query do not interfere

The first segment of a key is never empty, so it names one entry of the query,
and placing a value changes that entry only.  Counting entries, meeting another
value and opening an array all happen below it, and compaction acts on one entry
after the other.  Hence the parts of a search text fall into groups, one for each
key, which can be read apart: leaving out the parts of some keys leaves out the
entries of these keys, and nothing else.

The order of entries is that in which their keys first occur.  It is kept as
well, so parts of two search texts without a common key, mixed in any way that
keeps the order of each, are read as their entries mixed in such a way.
-/

/-! ## Mixed lists -/

/-- The third list holds what the other two hold, with the order of each. -/
inductive Interleaved {Item : Type} : List Item → List Item → List Item → Prop
  | nil : Interleaved [] [] []
  | left (item : Item) {lefts rights mixed : List Item} (rest : Interleaved lefts rights mixed) :
      Interleaved (item :: lefts) rights (item :: mixed)
  | right (item : Item) {lefts rights mixed : List Item} (rest : Interleaved lefts rights mixed) :
      Interleaved lefts (item :: rights) (item :: mixed)

namespace Interleaved

variable {Item Other : Type} {lefts rights mixed : List Item}

theorem map (change : Item → Other) (interleaved : Interleaved lefts rights mixed) :
    Interleaved (lefts.map change) (rights.map change) (mixed.map change) := by
  induction interleaved with
  | nil => exact .nil
  | left item _ ih => exact .left _ ih
  | right item _ ih => exact .right _ ih

theorem filter (passes : Item → Bool) (interleaved : Interleaved lefts rights mixed) :
    Interleaved (lefts.filter passes) (rights.filter passes) (mixed.filter passes) := by
  induction interleaved with
  | nil => exact .nil
  | left item _ ih =>
      simp only [List.filter_cons]
      split
      · exact .left _ ih
      · exact ih
  | right item _ ih =>
      simp only [List.filter_cons]
      split
      · exact .right _ ih
      · exact ih

/-- A test that tells the two lists apart finds them again. -/
theorem filter_eq (interleaved : Interleaved lefts rights mixed) (passes : Item → Bool)
    (pass : ∀ item ∈ lefts, passes item = true) (fail : ∀ item ∈ rights, passes item = false) :
    mixed.filter passes = lefts ∧ (mixed.filter fun item => !passes item) = rights := by
  induction interleaved with
  | nil => exact ⟨rfl, rfl⟩
  | left item _ ih =>
      have here := pass item List.mem_cons_self
      have ⟨first, second⟩ := ih
        (fun other member => pass other (List.mem_cons_of_mem _ member)) fail
      simp only [List.filter_cons, here, if_true, Bool.not_true, Bool.false_eq_true, if_false,
        first, second, and_self]
  | right item _ ih =>
      have here := fail item List.mem_cons_self
      have ⟨first, second⟩ := ih pass fun other member => fail other (List.mem_cons_of_mem _ member)
      simp only [List.filter_cons, here, Bool.not_false, Bool.false_eq_true, if_true, if_false,
        first, second, and_self]

/-- What passes a test and what fails it make up the list. -/
theorem of_filter (passes : Item → Bool) (items : List Item) :
    Interleaved (items.filter passes) (items.filter fun item => !passes item) items := by
  induction items with
  | nil => exact .nil
  | cons item rest ih =>
      cases result : passes item with
      | true =>
          simp only [List.filter_cons, result, if_true, Bool.not_true, Bool.false_eq_true, if_false]
          exact .left item ih
      | false =>
          simp only [List.filter_cons, result, if_true, Bool.not_false, Bool.false_eq_true,
            if_false]
          exact .right item ih

end Interleaved

/-! ## Entries with certain keys -/

/-- The entries whose keys pass a test. -/
def entriesAt (passes : String → Bool) (object : Object) : Object :=
  object.filter fun entry => passes entry.1

theorem entriesAt_alter (passes : String → Bool) (object : Object) (key : String)
    (change : Option Value → Value) :
    entriesAt passes (object.alter key change) =
      if passes key then (entriesAt passes object).alter key change
      else entriesAt passes object := by
  induction object with
  | nil => cases passed : passes key <;> simp [entriesAt, Object.alter, passed]
  | cons entry rest ih =>
      rcases entry with ⟨name, value⟩
      cases same : name == key with
      | true =>
          rw [eq_of_beq same]
          cases passed : passes key <;> simp [entriesAt, Object.alter, passed]
      | false =>
          simp only [entriesAt] at ih
          cases passed : passes key <;> cases named : passes name <;>
            simp [entriesAt, Object.alter, same, passed, named, ih]

theorem entriesAt_compactEntries (passes : String → Bool) (entries : Object) :
    entriesAt passes (compactEntries entries) = compactEntries (entriesAt passes entries) := by
  rw [compactEntries_eq, compactEntries_eq, entriesAt, entriesAt, List.filter_map]
  rfl

theorem passes_of_mem_keys {passes : String → Bool} {object : Object} {key : String}
    (member : key ∈ (entriesAt passes object).keys) : passes key = true := by
  rcases Object.mem_keys.mp member with ⟨value, among⟩
  exact (List.mem_filter.mp among).2

theorem get?_entriesAt (passes : String → Bool) {key : String} (pass : passes key = true)
    (object : Object) : (entriesAt passes object).get? key = object.get? key := by
  induction object with
  | nil => rfl
  | cons entry rest ih =>
      rcases entry with ⟨name, value⟩
      rw [entriesAt] at ih ⊢
      cases named : passes name with
      | true => simp only [List.filter_cons, named, if_true, Object.get?, ih]
      | false =>
          have different : (name == key) = false := by
            apply beq_eq_false_iff_ne.mpr
            rintro rfl
            exact Bool.false_ne_true (named.symm.trans pass)
          simp only [List.filter_cons, named, Bool.false_eq_true, if_false, Object.get?, different,
            ih]

/-- A value stands under a key either where the test is passed or where it is failed. -/
theorem get?_eq_or_entriesAt (passes : String → Bool) (object : Object) (key : String) :
    object.get? key = ((entriesAt passes object).get? key).or
      ((entriesAt (fun name => !passes name) object).get? key) := by
  cases passed : passes key with
  | true =>
      have absent : key ∉ (entriesAt (fun name => !passes name) object).keys := fun member =>
        Bool.false_ne_true (by simpa only [passed, Bool.not_true] using passes_of_mem_keys member)
      rw [get?_entriesAt passes passed, Object.get?_eq_none_iff.mpr absent, Option.or_none]
  | false =>
      have absent : key ∉ (entriesAt passes object).keys := fun member =>
        Bool.false_ne_true (passed.symm.trans (passes_of_mem_keys member))
      have fails : (!passes key) = true := by rw [passed, Bool.not_false]
      rw [Object.get?_eq_none_iff.mpr absent, Option.none_or,
        get?_entriesAt (fun name => !passes name) fails]

/-! ## Placing a leaf under one key -/

/-- The first segment of the path to a leaf. -/
def Leaf.top (leaf : Leaf) : String :=
  leaf.path.headD ""

/-- A leaf that goes under a key. -/
def Leaf.HasTop (leaf : Leaf) : Prop :=
  ∃ key, key ≠ "" ∧ ∃ inner : Leaf, leaf = inner.under key

/-- What a key holds once a leaf has been placed there. -/
def Leaf.join (leaf : Leaf) : Option Value → Value :=
  match leaf.path with
  | [] => collect leaf.value
  | key :: keys => descend (insert leaf.value (key :: keys))

/-- A leaf changes what is under its first segment, and that alone. -/
theorem placeLeaf_under {key : String} (named : key ≠ "") (target : Object) (leaf : Leaf) :
    placeLeaf target (leaf.under key) = target.alter key leaf.join := by
  rcases leaf with ⟨path, value⟩
  cases path with
  | nil => simp only [placeLeaf, Leaf.under, insert, segmentKey_of_ne named, Leaf.join]
  | cons next rest => simp only [placeLeaf, Leaf.under, insert, segmentKey_of_ne named, Leaf.join]

theorem entriesAt_foldl_placeLeaf (passes : String → Bool) {leaves : List Leaf}
    (rooted : ∀ leaf ∈ leaves, leaf.HasTop) (target : Object) :
    entriesAt passes (leaves.foldl placeLeaf target) =
      (leaves.filter fun leaf => passes leaf.top).foldl placeLeaf (entriesAt passes target) := by
  induction leaves generalizing target with
  | nil => rfl
  | cons leaf rest ih =>
      rcases rooted leaf List.mem_cons_self with ⟨key, named, inner, rfl⟩
      have top : (inner.under key).top = key := rfl
      rw [List.foldl_cons, ih fun other member => rooted other (List.mem_cons_of_mem _ member),
        placeLeaf_under named, entriesAt_alter, List.filter_cons, top]
      split
      · rw [List.foldl_cons, placeLeaf_under named]
      · rfl

/-- The keys of what is built are those there were and the first segments. -/
theorem mem_keys_foldl_placeLeaf {leaves : List Leaf} (rooted : ∀ leaf ∈ leaves, leaf.HasTop)
    {target : Object} {key : String} :
    key ∈ Object.keys (leaves.foldl placeLeaf target) ↔
      key ∈ target.keys ∨ ∃ leaf ∈ leaves, leaf.top = key := by
  induction leaves generalizing target with
  | nil => simp
  | cons leaf rest ih =>
      rcases rooted leaf List.mem_cons_self with ⟨name, named, inner, rfl⟩
      have top : (inner.under name).top = name := rfl
      have altered : key ∈ (target.alter name inner.join).keys ↔
          key ∈ target.keys ∨ name = key := by
        rw [Object.keys_alter]
        split
        · next present =>
            exact ⟨.inl, fun either => either.elim id fun same => same ▸ present⟩
        · rw [List.mem_append, List.mem_singleton, eq_comm]
      rw [List.foldl_cons, ih fun other member => rooted other (List.mem_cons_of_mem _ member),
        placeLeaf_under named, altered, List.exists_mem_cons_iff, top, or_assoc]

theorem nodup_keys_foldl_placeLeaf {leaves : List Leaf} (rooted : ∀ leaf ∈ leaves, leaf.HasTop)
    {target : Object} (distinct : target.keys.Nodup) :
    (Object.keys (leaves.foldl placeLeaf target)).Nodup := by
  induction leaves generalizing target with
  | nil => exact distinct
  | cons leaf rest ih =>
      rcases rooted leaf List.mem_cons_self with ⟨key, named, inner, rfl⟩
      rw [List.foldl_cons, placeLeaf_under named]
      exact ih (fun other member => rooted other (List.mem_cons_of_mem _ member))
        (nodup_keys_alter distinct key inner.join)

/-- What is read of the leaves under certain keys. -/
theorem entriesAt_ofLeaves (passes : String → Bool) {leaves : List Leaf}
    (rooted : ∀ leaf ∈ leaves, leaf.HasTop) :
    entriesAt passes (ofLeaves leaves) = ofLeaves (leaves.filter fun leaf => passes leaf.top) := by
  rw [ofLeaves, entriesAt_compactEntries, entriesAt_foldl_placeLeaf passes rooted]
  rfl

theorem keys_ofLeaves (leaves : List Leaf) :
    (ofLeaves leaves).keys = Object.keys (leaves.foldl placeLeaf []) := by
  rw [ofLeaves, compactEntries_eq, keys_map_values]

theorem mem_keys_ofLeaves {leaves : List Leaf} (rooted : ∀ leaf ∈ leaves, leaf.HasTop)
    {key : String} : key ∈ (ofLeaves leaves).keys ↔ ∃ leaf ∈ leaves, leaf.top = key := by
  rw [keys_ofLeaves, mem_keys_foldl_placeLeaf rooted]
  exact or_iff_right List.not_mem_nil

/-! ## Parts of one key -/

/-- The key of the query to which a part belongs. -/
def partTop (part : List Char) : String :=
  (partPath part).headD ""

/-- The parts of a search text that belong to a key, in order. -/
def partsAt (key : String) (search : String) : List (List Char) :=
  (parts search).filter fun part => partTop part == key

/-- The first segment is never empty. -/
theorem hasTop_of_mem_leavesOf {pieces : List (List Char)} {leaf : Leaf}
    (member : leaf ∈ leavesOf pieces) : leaf.HasTop := by
  rcases List.mem_map.mp member with ⟨part, among, rfl⟩
  have keyed : decodedKey part ≠ [] := by
    have kept := (List.mem_filter.mp among).2
    intro none
    rw [none] at kept
    exact Bool.false_ne_true kept
  rcases exists_keySegments_eq keyed with ⟨head, rest, cut, some, _⟩
  refine ⟨String.ofList head, mt String.ofList_eq_empty_iff.mp some,
    ⟨rest.map String.ofList, (partLeaf part).value⟩, ?_⟩
  simp only [partLeaf, partPath, keyPath, cut, List.map_cons, Leaf.under]

theorem leavesOf_filter (passes : String → Bool) (pieces : List (List Char)) :
    leavesOf (pieces.filter fun part => passes (partTop part)) =
      (leavesOf pieces).filter fun leaf => passes leaf.top := by
  simp only [leavesOf, List.filter_map, List.filter_filter]
  congr 1
  apply List.filter_congr
  intro part _
  exact Bool.and_comm _ _

/-- Leaving out the parts of other keys leaves out the entries of other keys. -/
theorem read_partsAt (key search : String) :
    read ("?" ++ joined (partsAt key search)) = entriesAt (· == key) (read search) := by
  rw [read_eq_ofLeaves, read_eq_ofLeaves search, partsAt, parts_marked_filter,
    entriesAt_ofLeaves _ fun _ member => hasTop_of_mem_leavesOf member, leavesOf_filter (· == key)]

/-- What is read of parts mixed from two search texts without a common key. -/
theorem read_eq_of_interleaved {left right mixed : String}
    (interleaved : Interleaved (parts left) (parts right) (parts mixed))
    (disjoint : List.Disjoint (read left).keys (read right).keys) :
    entriesAt (fun key => decide (key ∈ (read left).keys)) (read mixed) = read left ∧
      entriesAt (fun key => !decide (key ∈ (read left).keys)) (read mixed) = read right := by
  have rooted : ∀ search, ∀ leaf ∈ leavesOf (parts search), leaf.HasTop :=
    fun search leaf member => hasTop_of_mem_leavesOf member
  have known : ∀ search, ∀ leaf ∈ leavesOf (parts search), leaf.top ∈ (read search).keys := by
    intro search leaf member
    rw [read_eq_ofLeaves]
    exact (mem_keys_ofLeaves (rooted search)).mpr ⟨leaf, member, rfl⟩
  have leaves : Interleaved (leavesOf (parts left)) (leavesOf (parts right))
      (leavesOf (parts mixed)) := (interleaved.filter _).map _
  have apart := leaves.filter_eq (fun leaf => decide (leaf.top ∈ (read left).keys))
    (fun leaf member => decide_eq_true (known left leaf member))
    fun leaf member => decide_eq_false fun common => disjoint common (known right leaf member)
  constructor
  · rw [read_eq_ofLeaves mixed, entriesAt_ofLeaves _ (rooted mixed), apart.1, ← read_eq_ofLeaves]
  · rw [read_eq_ofLeaves mixed, entriesAt_ofLeaves _ (rooted mixed), apart.2, ← read_eq_ofLeaves]

/-- The value under a key is read from the parts that belong to the key, taken by themselves, and
nothing else is read from these.  Parts of two search texts without a common key, mixed so that the
order of each is kept, are read as the entries of both, mixed in the same sense.

Parts are taken behind the mark.  Those that are taken by themselves get one in front, and a bare
text whose first part begins with a mark has that part without it. -/
theorem read_apart :
    (∀ search key : String,
      (read ("?" ++ joined (partsAt key search))).get? key = (read search).get? key ∧
      ∀ other ∈ (read ("?" ++ joined (partsAt key search))).keys, other = key) ∧
    ∀ left right mixed : String, Interleaved (parts left) (parts right) (parts mixed) →
      List.Disjoint (read left).keys (read right).keys →
        Interleaved (read left) (read right) (read mixed) ∧
        ∀ key, (read mixed).get? key = ((read left).get? key).or ((read right).get? key) := by
  constructor
  · intro search key
    rw [read_partsAt]
    exact ⟨get?_entriesAt (· == key) (beq_self_eq_true key) _,
      fun other member => eq_of_beq (@passes_of_mem_keys (· == key) _ other member)⟩
  · intro left right mixed interleaved disjoint
    rcases read_eq_of_interleaved interleaved disjoint with ⟨first, second⟩
    constructor
    · have both := Interleaved.of_filter
        (fun entry => decide (entry.1 ∈ (read left).keys)) (read mixed)
      rw [entriesAt] at first second
      rwa [first, second] at both
    · intro key
      have either := get?_eq_or_entriesAt (fun name => decide (name ∈ (read left).keys))
        (read mixed) key
      rwa [first, second] at either

/-- Counted entries of one key among values of another that stand in each other's way. -/
theorem read_apart_tangledSearch :
    Interleaved (parts "a[]=1&a[]=2&a[b]=3") (parts "?c=4&c[x]=5&c=6")
        (parts "c=4&a[]=1&c[x]=5&a[]=2&a[b]=3&c=6") ∧
      List.Disjoint (read "a[]=1&a[]=2&a[b]=3").keys (read "?c=4&c[x]=5&c=6").keys ∧
      Interleaved (read "a[]=1&a[]=2&a[b]=3") (read "?c=4&c[x]=5&c=6")
        (read "c=4&a[]=1&c[x]=5&a[]=2&a[b]=3&c=6") ∧
      read "c=4&a[]=1&c[x]=5&a[]=2&a[b]=3&c=6" =
        [("c", .array [.string "4", .object [("x", .string "5")], .string "6"]),
          ("a", .object [("0", .string "1"), ("1", .string "2"), ("b", .string "3")])] := by
  have counted : parts "a[]=1&a[]=2&a[b]=3" =
      ["a[]=1".toList, "a[]=2".toList, "a[b]=3".toList] := by decide
  have met : parts "?c=4&c[x]=5&c=6" = ["c=4".toList, "c[x]=5".toList, "c=6".toList] := by decide
  have mixed : parts "c=4&a[]=1&c[x]=5&a[]=2&a[b]=3&c=6" =
      ["c=4".toList, "a[]=1".toList, "c[x]=5".toList, "a[]=2".toList, "a[b]=3".toList,
        "c=6".toList] := by decide
  have interleaved : Interleaved (parts "a[]=1&a[]=2&a[b]=3") (parts "?c=4&c[x]=5&c=6")
      (parts "c=4&a[]=1&c[x]=5&a[]=2&a[b]=3&c=6") := by
    rw [counted, met, mixed]
    exact .right _ (.left _ (.right _ (.left _ (.left _ (.right _ .nil)))))
  have first : (read "a[]=1&a[]=2&a[b]=3").keys = ["a"] := by cbv
  have second : (read "?c=4&c[x]=5&c=6").keys = ["c"] := by cbv
  have disjoint : List.Disjoint (read "a[]=1&a[]=2&a[b]=3").keys (read "?c=4&c[x]=5&c=6").keys := by
    rw [first, second, List.singleton_disjoint]
    decide
  exact ⟨interleaved, disjoint, (read_apart.2 _ _ _ interleaved disjoint).1, by cbv⟩

end Query
end PageRouting
