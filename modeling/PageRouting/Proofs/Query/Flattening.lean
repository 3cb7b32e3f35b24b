import PageRouting.Proofs.Query.Conservation
import PageRouting.Proofs.Query.Exactness

namespace PageRouting
namespace Query

open Json (Value Object)

/-!
# A written query is the list of its leaves

Reading can put the leaves of a query together in another way than they came, so
a query need not come back from its text.  The text itself leaves nothing open:
its pairs are the leaves, each one once and in depth-first order, and what stands
before and after the first `=` of a pair decodes to the path and the text of the
leaf.  No key and no text is excepted, since the separators are never written in
place of a character.
-/

/-- A value leads to a leaf by the keys and positions on the way. -/
inductive Reaches : Value → List String → Value → Prop
  | here {value : Value} (isLeaf : value.IsLeaf) : Reaches value [] value
  | entry {entries : Object} {key : String} {value leaf : Value} {path : List String}
      (member : (key, value) ∈ entries) (further : Reaches value path leaf) :
      Reaches (.object entries) (key :: path) leaf
  | item {items : List Value} {position : Nat} {value leaf : Value} {path : List String}
      (found : items[position]? = some value) (further : Reaches value path leaf) :
      Reaches (.array items) (positionKey position :: path) leaf

/-! ## The leaves that are listed -/

theorem valueLeaves_of_isLeaf {value : Value} (isLeaf : value.IsLeaf) :
    valueLeaves value = [⟨[], value⟩] := by
  cases value with
  | object entries => exact isLeaf.elim
  | array items => exact isLeaf.elim
  | _ => rfl

/-- The leaves that are listed are those to which the value leads. -/
theorem mem_valueLeaves_iff {value : Value} {leaf : Leaf} :
    leaf ∈ valueLeaves value ↔ Reaches value leaf.path leaf.value := by
  induction value using Value.nestedInduction generalizing leaf with
  | leaf value isLeaf =>
      rw [valueLeaves_of_isLeaf isLeaf, List.mem_singleton]
      constructor
      · rintro rfl
        exact .here isLeaf
      · rcases leaf with ⟨path, reached⟩
        intro reaches
        cases reaches with
        | here => rfl
        | entry => exact isLeaf.elim
        | item => exact isLeaf.elim
  | array items ih =>
      rw [valueLeaves, itemLeaves_eq, mem_entryLeaves]
      constructor
      · rintro ⟨entry, member, inner, inside, rfl⟩
        rcases mem_positionEntries.mp member with ⟨position, name, found⟩
        have reaches := (ih _ (List.mem_of_getElem? found)).mp inside
        rw [Nat.zero_add] at name
        rw [Leaf.under, name]
        exact .item found reaches
      · rcases leaf with ⟨path, reached⟩
        intro reaches
        cases reaches with
        | here isLeaf => exact isLeaf.elim
        | @item _ position _ _ _ found further =>
            have name := congrArg positionKey (Nat.zero_add position).symm
            have member := mem_positionEntries.mpr ⟨_, name, found⟩
            exact ⟨_, member, ⟨_, _⟩, (ih _ (List.mem_of_getElem? found)).mpr further, rfl⟩
  | object entries ih =>
      rw [valueLeaves, mem_entryLeaves]
      constructor
      · rintro ⟨entry, member, inner, inside, rfl⟩
        exact .entry member ((ih entry member).mp inside)
      · rcases leaf with ⟨path, reached⟩
        intro reaches
        cases reaches with
        | here isLeaf => exact isLeaf.elim
        | entry member further => exact ⟨_, member, ⟨_, _⟩, (ih _ member).mpr further, rfl⟩

/-- Leaves of different entries have different paths. -/
theorem nodup_paths_entryLeaves {entries : Object} (distinct : entries.keys.Nodup)
    (inside : ∀ entry ∈ entries, ((valueLeaves entry.2).map Leaf.path).Nodup) :
    ((entryLeaves entries).map Leaf.path).Nodup := by
  induction entries with
  | nil => exact List.nodup_nil
  | cons entry rest ih =>
      rcases entry with ⟨key, value⟩
      rcases List.nodup_cons.mp distinct with ⟨absent, others⟩
      have under : ((valueLeaves value).map (Leaf.under key)).map Leaf.path =
          ((valueLeaves value).map Leaf.path).map (key :: ·) := by
        rw [List.map_map, List.map_map]
        rfl
      rw [entryLeaves, List.map_append, under, List.nodup_append]
      refine ⟨(inside _ List.mem_cons_self).map (List.cons_injective),
        ih others fun other member => inside other (List.mem_cons_of_mem _ member), ?_⟩
      rintro path here other there rfl
      rcases List.mem_map.mp here with ⟨inner, _, rfl⟩
      rcases List.mem_map.mp there with ⟨leaf, member, same⟩
      rcases mem_entryLeaves.mp member with ⟨source, among, _, _, rfl⟩
      have key : source.1 = key := (List.cons.inj same).1
      exact absent (key ▸ Object.mem_keys.mpr ⟨source.2, among⟩)

/-- No leaf is listed twice. -/
theorem nodup_paths_valueLeaves {value : Value} (distinct : value.WellFormed) :
    ((valueLeaves value).map Leaf.path).Nodup := by
  induction value using Value.nestedInduction with
  | leaf value isLeaf =>
      rw [valueLeaves_of_isLeaf isLeaf]
      exact List.nodup_singleton _
  | array items ih =>
      rw [valueLeaves, itemLeaves_eq]
      refine nodup_paths_entryLeaves (nodup_keys_positionEntries 0 items) fun entry member => ?_
      rcases mem_positionEntries.mp member with ⟨position, _, found⟩
      have among := List.mem_of_getElem? found
      exact ih _ among ((Value.everywhere_array.mp distinct).2 _ among)
  | object entries ih =>
      exact nodup_paths_entryLeaves distinct.here fun entry member =>
        ih entry member ((Value.everywhere_object.mp distinct).2 entry member)

/-! ## The text -/

/-- What the two sides of a pair decode to. -/
def decodedPair (piece : List Char) : List Char × String :=
  (Text.Percent.decode (partKey piece), String.ofList (Text.Percent.decode (partValue piece)))

theorem decodedPair_pair (leaf : Leaf) :
    decodedPair leaf.pair = (pathText leaf.path, leafText leaf.value) := by
  rcases RawPair.mk.inj ((read_part leaf.pair).symm.trans (read_pair leaf)) with ⟨key, text⟩
  rw [decodedPair, key, text, encodeText, Text.Percent.decode_flatMap_encodeChar,
    Text.Percent.decode_flatMap_encodeChar, String.ofList_toList]

theorem write_eq_empty_iff {query : Object} : write query = "" ↔ entryLeaves query = [] := by
  rw [write, String.ofList_eq_empty_iff, pairs_eq]
  cases entryLeaves query with
  | nil => exact iff_of_true rfl rfl
  | cons leaf rest =>
      refine iff_of_false ?_ (List.cons_ne_nil _ _)
      cases rest with
      | nil => exact pair_ne_nil leaf
      | cons next rest => exact List.append_ne_nil_of_right_ne_nil _ (List.cons_ne_nil _ _)

/-- Letters and digits, the marks that stand for themselves, and those that separate. -/
def queryMarks : List Char :=
  ['-', '.', '_', '~', '%', '=', '&']

theorem isAlphanum_or_mem_queryMarks {query : Object} {c : Char}
    (member : c ∈ (write query).toList) : c.isAlphanum = true ∨ c ∈ queryMarks := by
  rcases isWritten_of_mem_write member with rfl | rfl | written
  · exact .inr (by decide)
  · exact .inr (by decide)
  · simp only [Text.Percent.isWritten, Text.Percent.isUnreserved, Bool.or_eq_true,
      beq_iff_eq] at written
    simp only [queryMarks, List.mem_cons]
    tauto

/-- The text of a query is the list of its leaves: it is empty only if there are none, and otherwise
its pieces decode, in order, to the paths and the texts of the leaves.  The leaves that are listed
are those to which the query leads, each once. -/
theorem write_flattens (query : Object) :
    (∀ c ∈ (write query).toList, c.isAlphanum = true ∨ c ∈ queryMarks) ∧
    (write query = "" ↔ ¬∃ path leaf, Reaches (.object query) path leaf) ∧
    (write query ≠ "" →
      (Text.splitOn '&' (write query).toList).map decodedPair =
        (entryLeaves query).map fun leaf => (pathText leaf.path, leafText leaf.value)) ∧
    (∀ leaf, leaf ∈ entryLeaves query ↔ Reaches (.object query) leaf.path leaf.value) ∧
    ((Value.object query).WellFormed → ((entryLeaves query).map Leaf.path).Nodup) := by
  have listed : ∀ leaf, leaf ∈ entryLeaves query ↔ Reaches (.object query) leaf.path leaf.value :=
    fun leaf => @mem_valueLeaves_iff (.object query) leaf
  refine ⟨fun c member => isAlphanum_or_mem_queryMarks member, ?_, ?_, listed,
    @nodup_paths_valueLeaves (.object query)⟩
  · rw [write_eq_empty_iff, List.eq_nil_iff_forall_not_mem, not_exists]
    constructor
    · rintro none path ⟨leaf, reaches⟩
      exact none ⟨path, leaf⟩ ((listed ⟨path, leaf⟩).mpr reaches)
    · exact fun none leaf member => none leaf.path ⟨leaf.value, (listed leaf).mp member⟩
  · intro some
    have leaves := mt write_eq_empty_iff.mpr some
    rw [write, String.toList_ofList, pairs_eq,
      Text.splitOn_joinWith (mt List.map_eq_nil_iff.mp leaves), List.map_map]
    · exact List.map_congr_left fun leaf _ => decodedPair_pair leaf
    · intro piece member
      rcases List.mem_map.mp member with ⟨leaf, _, rfl⟩
      exact amp_not_mem_pair leaf

/-- A query with separators, brackets and signs in its keys, an empty key and an empty array. -/
def unrulyQuery : Object :=
  [("a[b]", .array [.null, .object [("é&", .number (.integer (-3)))], .array []]),
    ("", .object [("=", .bool true), ("+", .string "%&=?")])]

theorem write_flattens_unrulyQuery :
    (Value.object unrulyQuery).WellFormed ∧ write unrulyQuery ≠ "" ∧
      (Text.splitOn '&' (write unrulyQuery).toList).map decodedPair =
        [("a[b][0]".toList, ""), ("a[b][1][é&]".toList, "-3"), ("[=]".toList, "true"),
          ("[+]".toList, "%&=?")] ∧
      ((entryLeaves unrulyQuery).map Leaf.path).Nodup := by
  have distinct : (Value.object unrulyQuery).WellFormed := by
    simp [Value.WellFormed, Value.Everywhere, unrulyQuery, Value.nested, Value.nestedEntries,
      Value.nestedItems, Value.ownKeys, Object.keys]
  have some : write unrulyQuery ≠ "" := mt write_eq_empty_iff.mp (List.cons_ne_nil _ _)
  rcases write_flattens unrulyQuery with ⟨_, _, pieces, _, once⟩
  refine ⟨distinct, some, ?_, once distinct⟩
  rw [pieces some]
  cbv

end Query
end PageRouting
