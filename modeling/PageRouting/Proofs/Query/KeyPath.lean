import PageRouting.Proofs.Query.Leaves

namespace PageRouting
namespace Query

/-!
# Paths written as keys

A path of keys without brackets is read back from the text of its key, as far as
brackets are read as nesting.  What lies deeper comes back as one more segment,
which is the bracketed text itself and therefore no key of the path.
-/

/-- A key in which no bracket occurs. -/
def IsPlainKey (key : String) : Prop :=
  '[' ∉ key.toList ∧ ']' ∉ key.toList

/-- The literal segment for keys beyond the depth that is read as nesting. -/
def remainder : List String → List String
  | [] => []
  | key :: keys => [String.ofList (brackets (key :: keys))]

theorem brackets_cons (key : String) (keys : List String) :
    brackets (key :: keys) = '[' :: (key.toList ++ ']' :: brackets keys) := by
  simp only [brackets, List.flatMap_cons, List.cons_append, List.append_assoc, List.nil_append]

theorem bracketSegments_brackets (depth : Nat) {keys : List String}
    (plain : ∀ key ∈ keys, IsPlainKey key) :
    (bracketSegments depth (brackets keys)).map String.ofList =
      keys.take depth ++ remainder (keys.drop depth) := by
  induction keys generalizing depth with
  | nil => cases depth <;> rfl
  | cons key keys ih =>
      have later : ∀ other ∈ keys, IsPlainKey other :=
        fun other member => plain other (List.mem_cons_of_mem _ member)
      cases depth with
      | zero =>
          rw [brackets_cons]
          simp only [bracketSegments, List.map_cons, List.map_nil, List.take_zero,
            List.drop_zero, List.nil_append, remainder, brackets_cons]
      | succ depth =>
          have cut := Text.cutAt_append_cons (plain key List.mem_cons_self).2 (brackets keys)
          rw [brackets_cons, bracketSegments]
          simp only [cut, List.map_cons, String.ofList_toList, ih depth later,
            List.take_succ_cons, List.drop_succ_cons, List.cons_append]

/-- A path is read back from its key up to the depth that is read as nesting. -/
theorem keyPath_pathText {path : List String} (named : ∀ key ∈ path, IsPlainKey key)
    (begins : path ≠ []) (first : path.head? ≠ some "") :
    keyPath (pathText path) =
      path.take (maxKeyDepth + 1) ++ remainder (path.drop (maxKeyDepth + 1)) := by
  cases path with
  | nil => exact absurd rfl begins
  | cons key keys =>
      have plain := named key List.mem_cons_self
      have later : ∀ other ∈ keys, IsPlainKey other :=
        fun other member => named other (List.mem_cons_of_mem _ member)
      rw [List.take_succ_cons, List.drop_succ_cons, List.cons_append,
        ← bracketSegments_brackets maxKeyDepth later, keyPath, keySegments, pathText]
      cases keys with
      | nil =>
          have cut : Text.cutAt '[' (key.toList ++ brackets []) = (key.toList, none) := by
            rw [brackets, List.flatMap_nil, List.append_nil]
            exact Text.cutAt_of_not_mem plain.1
          simp only [cut]
          simp [brackets, bracketSegments]
      | cons next rest =>
          have cut := Text.cutAt_append_cons plain.1
            (next.toList ++ ']' :: brackets rest)
          have nonempty : key.toList.isEmpty = false := by
            apply Bool.eq_false_iff.mpr
            intro empty
            apply first
            rw [List.head?_cons, ← String.ofList_toList (s := key), List.isEmpty_iff.mp empty]
          have closes : (next.toList ++ ']' :: brackets rest).contains ']' = true := by
            simp
          rw [← brackets_cons] at cut
          simp only [cut, nonempty, closes, Bool.not_true, Bool.or_self, Bool.false_eq_true,
            if_false, List.map_cons, String.ofList_toList, ← brackets_cons]

end Query
end PageRouting
