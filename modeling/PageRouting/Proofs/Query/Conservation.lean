import PageRouting.Proofs.Query.Growth

namespace PageRouting
namespace Query

open Json (Value Object)

/-!
# Reading keeps every text

Whatever the keys of a search text are, and however they clash, the leaves of
what is read are the texts that its parts carry, each as often as it is carried.
Placing a value adds its leaves to those that are there: it is put beside what
stands in its way, and never in the place of it.  Compaction only moves leaves.
-/

/-- Leaves of a value, depth first, without the way to them. -/
def leafValues (value : Value) : List Value :=
  (valueLeaves value).map Leaf.value

/-- Leaves of the values of an object. -/
def entryValues (entries : Object) : List Value :=
  entries.flatMap fun entry => leafValues entry.2

theorem map_value_under (key : String) (leaves : List Leaf) :
    (leaves.map (Leaf.under key)).map Leaf.value = leaves.map Leaf.value := by
  rw [List.map_map]
  rfl

theorem leafValues_array (items : List Value) :
    leafValues (.array items) = items.flatMap leafValues := by
  have listed : ∀ position, (itemLeaves position items).map Leaf.value =
      items.flatMap leafValues := by
    induction items with
    | nil => exact fun _ => rfl
    | cons item items ih =>
        intro position
        rw [itemLeaves, List.map_append, map_value_under, ih, List.flatMap_cons, leafValues]
  exact listed 0

theorem leafValues_object (entries : Object) : leafValues (.object entries) = entryValues entries := by
  change (entryLeaves entries).map Leaf.value = entryValues entries
  induction entries with
  | nil => rfl
  | cons entry rest ih =>
      rcases entry with ⟨key, value⟩
      rw [entryLeaves, List.map_append, map_value_under, ih]
      rfl

/-- Leaves of what stands under a key, if anything does. -/
def heldValues (held : Option Value) : List Value :=
  held.elim [] leafValues

/-! ## Placing a value -/

section Placing

variable {added : List Value}

/-- A change adds leaves to an object if it adds them to what stands under the key. -/
theorem entryValues_alter_perm {change : Option Value → Value}
    (adds : ∀ held, (leafValues (change held)).Perm (heldValues held ++ added))
    (object : Object) (key : String) :
    (entryValues (object.alter key change)).Perm (entryValues object ++ added) := by
  induction object with
  | nil =>
      have alone := adds none
      simpa only [Object.alter, entryValues, List.flatMap_cons, List.flatMap_nil,
        List.append_nil, heldValues, Option.elim] using alone
  | cons entry rest ih =>
      rcases entry with ⟨name, value⟩
      simp only [Object.alter]
      split
      · calc
          (leafValues (change (some value)) ++ entryValues rest).Perm
              ((leafValues value ++ added) ++ entryValues rest) :=
            (adds (some value)).append_right _
          List.Perm _ (leafValues value ++ (entryValues rest ++ added)) := by
            rw [List.append_assoc]
            exact List.perm_append_comm.append_left _
          _ = (leafValues value ++ entryValues rest) ++ added := (List.append_assoc _ _ _).symm
      · have later := ih.append_left (leafValues value)
        rwa [← List.append_assoc] at later

/-- A value that meets another one is put behind it. -/
theorem leafValues_collect (value : Value) (held : Option Value) :
    leafValues (collect value held) = heldValues held ++ leafValues value := by
  cases held with
  | none => rfl
  | some existing =>
      cases existing with
      | array items =>
          simp only [collect, heldValues, Option.elim, leafValues_array, List.flatMap_append,
            List.flatMap_cons, List.flatMap_nil, List.append_nil]
      | _ =>
          simp only [collect, heldValues, Option.elim, leafValues_array, List.flatMap_cons,
            List.flatMap_nil, List.append_nil]

variable {change : Object → Object}

theorem leafValues_descendLast_perm
    (adds : ∀ target, (entryValues (change target)).Perm (entryValues target ++ added))
    (items : List Value) :
    ((descendLast change items).flatMap leafValues).Perm (items.flatMap leafValues ++ added) := by
  have opened : (leafValues (.object (change []))).Perm added := by
    rw [leafValues_object]
    exact adds []
  induction items with
  | nil => simpa only [descendLast, List.flatMap_cons, List.flatMap_nil, List.append_nil,
      List.nil_append] using opened
  | cons first rest ih =>
      unfold descendLast
      split
      · next none => exact absurd none (List.cons_ne_nil _ _)
      · next entries only =>
          rcases List.cons.inj only with ⟨rfl, rfl⟩
          simpa only [List.flatMap_cons, List.flatMap_nil, List.append_nil, leafValues_object]
            using adds entries
      · next other others _ only =>
          rcases List.cons.inj only with ⟨rfl, rfl⟩
          have later := ih.append_left (leafValues first)
          rwa [← List.append_assoc] at later

/-- What stands in the way of an object is kept before it. -/
theorem leafValues_descend_perm
    (adds : ∀ target, (entryValues (change target)).Perm (entryValues target ++ added))
    (held : Option Value) :
    (leafValues (descend change held)).Perm (heldValues held ++ added) := by
  have opened : (leafValues (.object (change []))).Perm added := by
    rw [leafValues_object]
    exact adds []
  cases held with
  | none => exact opened
  | some existing =>
      cases existing with
      | object entries =>
          simpa only [descend, heldValues, Option.elim, leafValues_object] using adds entries
      | array items =>
          simpa only [descend, heldValues, Option.elim, leafValues_array] using
            leafValues_descendLast_perm adds items
      | _ =>
          simp only [descend, heldValues, Option.elim, leafValues_array, List.flatMap_cons,
            List.flatMap_nil, List.append_nil]
          exact opened.append_left _

end Placing

/-- Placing a value adds its leaves, wherever the path leads. -/
theorem entryValues_insert_perm (value : Value) {path : List String} (leads : path ≠ [])
    (target : Object) :
    (entryValues (insert value path target)).Perm (entryValues target ++ leafValues value) := by
  induction path generalizing target with
  | nil => exact absurd rfl leads
  | cons segment rest ih =>
      cases rest with
      | nil =>
          exact entryValues_alter_perm (fun held => .of_eq (leafValues_collect value held)) target _
      | cons next rest =>
          have adds := ih (List.cons_ne_nil next rest)
          exact entryValues_alter_perm (leafValues_descend_perm adds) target _

theorem keyPath_ne_nil (key : List Char) : keyPath key ≠ [] := by
  have segments : keySegments key ≠ [] := by
    unfold keySegments
    split
    · split <;> exact List.cons_ne_nil _ _
    · exact List.cons_ne_nil _ _
  exact mt List.map_eq_nil_iff.mp segments

theorem entryValues_foldl_placePair_perm (pairs : List Pair) (target : Object) :
    (entryValues (pairs.foldl placePair target)).Perm
      (entryValues target ++ pairs.map fun pair => .string pair.value) := by
  induction pairs generalizing target with
  | nil => rw [List.foldl_nil, List.map_nil, List.append_nil]
  | cons pair rest ih =>
      have here := entryValues_insert_perm (.string pair.value) (keyPath_ne_nil pair.key) target
      have both := (ih (placePair target pair)).trans (here.append_right _)
      rwa [List.append_assoc] at both

/-! ## Compaction -/

theorem leafValues_compactObject_perm (entries : Object) :
    (leafValues (compactObject entries)).Perm (entryValues entries) := by
  by_cases none : entries = []
  · rw [none]
    exact .refl _
  · rcases compactObject_eq_or_perm none with ⟨kept, _⟩ | ⟨values, taken, moved, _⟩
    · rw [kept, leafValues_object]
    · have values := moved.flatMap_right leafValues
      rw [List.flatMap_map] at values
      rwa [taken, leafValues_array]

theorem leafValues_compact_perm (value : Value) :
    (leafValues (compact value)).Perm (leafValues value) := by
  induction value using Value.nestedInduction with
  | leaf value leaf =>
      cases value with
      | object entries => exact leaf.elim
      | array items => exact leaf.elim
      | _ => exact .refl _
  | array items ih =>
      rw [compact, compactItems_eq, leafValues_array, leafValues_array, List.flatMap_map]
      exact List.Perm.flatMap_left items ih
  | object entries ih =>
      rw [compact, leafValues_object]
      refine (leafValues_compactObject_perm _).trans ?_
      rw [compactEntries_eq, entryValues, List.flatMap_map]
      exact List.Perm.flatMap_left entries ih

theorem entryValues_ofPairs_perm (pairs : List Pair) :
    (entryValues (ofPairs pairs)).Perm (pairs.map fun pair => .string pair.value) := by
  refine .trans ?_ (entryValues_foldl_placePair_perm pairs [])
  rw [ofPairs, compactEntries_eq, entryValues, List.flatMap_map]
  exact List.Perm.flatMap_left _ fun entry _ => leafValues_compact_perm entry.2

/-! ## The texts of a search text -/

/-- What stands before the first `=` of a part. -/
def partKey (part : List Char) : List Char :=
  part.takeWhile (· != '=')

/-- What stands after the first `=` of a part, if there is one. -/
def partValue (part : List Char) : List Char :=
  (part.dropWhile (· != '=')).drop 1

/-- The decoded texts of the parts between `&`, without those that are empty and those whose key
decodes to nothing. -/
def carriedTexts (search : String) : List String :=
  ((Text.splitOn '&' (withoutMark search.toList)).filter fun part =>
      !part.isEmpty && !(Text.Percent.decode (partKey part)).isEmpty).map fun part =>
    String.ofList (Text.Percent.decode (partValue part))

theorem read_part (part : List Char) : RawPair.read part = ⟨partKey part, partValue part⟩ := by
  rcases Text.cutAt_eq_takeWhile '=' part with ⟨before, behind⟩
  exact congrArg₂ RawPair.mk before behind

theorem map_value_readPairs (search : String) :
    (readPairs search).map Pair.value = carriedTexts search := by
  rw [readPairs, carriedTexts, List.map_filterMap, ← List.filterMap_eq_map, List.filterMap_filter]
  congr 1
  funext part
  simp only [read_part, RawPair.decode?, Function.comp_apply]
  cases part.isEmpty with
  | true => rfl
  | false => cases (Text.Percent.decode (partKey part)).isEmpty <;> rfl

/-- No text is lost, replaced or doubled: the leaves of what is read are the texts that the search
text carries, in some order. -/
theorem leafValues_read_perm (search : String) :
    (leafValues (.object (read search))).Perm ((carriedTexts search).map .string) := by
  rw [leafValues_object, ← map_value_readPairs, List.map_map]
  exact entryValues_ofPairs_perm (readPairs search)

end Query
end PageRouting
