import PageRouting.Proofs.Row.Alignment

namespace PageRouting

/-!
# The groups of a row

The groups of a row are counted off by its placeholders.  A placeholder has one
group, and a placeholder pattern without groups has none in it.  But a group that
the pattern opens and leaves out again still takes an index each time, so that
such a row has more groups than placeholders as soon as it has two of them.
Otherwise each placeholder has its own text, and the data of the row have the names
of the placeholders for their keys.
-/

namespace Pattern

open Template (pieceNames)

/-- If the placeholder pattern has opened groups and left them out, their indices stand between
those of the placeholders. -/
theorem groupIndices_contentNodes {body : Node} (plain : body.groupIndices = [])
    (opened groups : Nat) (pieces : List Piece) :
    (contentNodes opened body groups pieces).flatMap Node.groupIndices =
      (List.range (pieceNames pieces).length).map fun place =>
        groups + place * (1 + opened) + 1 := by
  induction pieces generalizing groups with
  | nil => rfl
  | cons piece pieces ih =>
      cases piece with
      | literal text =>
          have none : (text.map fun c => Node.literal [c]).flatMap Node.groupIndices = [] :=
            List.flatMap_eq_nil_iff.mpr fun node member => by
              rcases List.mem_map.mp member with ⟨c, _, rfl⟩
              rfl
          rw [contentNodes, List.flatMap_append, none, ih]
          rfl
      | placeholder name =>
          have count : (pieceNames (.placeholder name :: pieces)).length =
              (pieceNames pieces).length + 1 := rfl
          have own : (Node.group (groups + 1) (body.renumber (groups + 1))).groupIndices =
              [groups + 1] := by
            rw [Node.groupIndices, Node.groupIndices_renumber, plain]
            rfl
          rw [contentNodes, List.flatMap_cons, own, ih, count, List.range_succ_eq_map,
            List.map_cons, List.map_map, Nat.zero_mul]
          refine congrArg (List.cons (groups + 1)) (List.map_congr_left fun place _ => ?_)
          simp only [Function.comp_apply, Nat.succ_mul]
          omega

/-- The last group is that of the last placeholder. -/
theorem groupCount_of_root {pattern : Pattern} {body : Node} (plain : body.groupIndices = [])
    {opened : Nat} {template : String} (root : pattern.root = contentNode opened body template) :
    pattern.groupCount = (Template.names template).length +
      ((Template.names template).length - 1) * opened := by
  have indices := groupIndices_contentNodes plain opened 0 (Template.pieces template.toList)
  rw [← groupIndices_contentNode, ← root, ← Template.length_names] at indices
  rw [groupCount]
  generalize (Template.names template).length = count at indices ⊢
  cases count with
  | zero =>
      have none : pattern.root.lastGroup ≤ 0 := Node.lastGroup_le fun index member => by
        rw [indices] at member
        exact absurd member List.not_mem_nil
      rw [Nat.zero_sub, Nat.zero_mul]
      exact Nat.le_zero.mp none
  | succ count =>
      have last : 0 + count * (1 + opened) + 1 = count + 1 + (count + 1 - 1) * opened := by
        rw [Nat.add_sub_cancel, Nat.mul_add, Nat.mul_one]
        omega
      rw [← last]
      apply Nat.le_antisymm
      · refine Node.lastGroup_le fun index member => ?_
        rw [indices] at member
        rcases List.mem_map.mp member with ⟨place, among, rfl⟩
        have before : place ≤ count := Nat.le_of_lt_succ (List.mem_range.mp among)
        exact Nat.succ_le_succ (Nat.add_le_add_left (Nat.mul_le_mul_right _ before) 0)
      · apply Node.le_lastGroup_of_mem
        rw [indices]
        exact List.mem_map.mpr ⟨count, List.mem_range.mpr (Nat.lt_succ_self count), rfl⟩

end Pattern

namespace Row

variable {row : Row} {placeholderPattern pathname : String} {data : Json.Object}

/-- Besides the groups of its placeholders a row has those that its placeholder pattern has opened
and left out, but for those after the last placeholder. -/
theorem groupCount_eq (compiled : row.IsCompiled placeholderPattern) {alone : Pattern}
    (read : Pattern.ofString? placeholderPattern = some alone) (plain : alone.groupCount = 0)
    (ends : Template.SeesEnds placeholderPattern row.path) :
    row.pattern.groupCount = row.placeholders.length +
      (row.placeholders.length - 1) * Pattern.openedGroups placeholderPattern := by
  have names : row.placeholders = Template.names row.path := rfl
  rw [names]
  rcases ends with none | unclosed
  · rcases Pattern.exists_isContent_segment with ⟨finished, content, _, _⟩
    rw [IsCompiled, Template.source_eq_of_names_eq_nil none _ "[^/]+"] at compiled
    rw [Pattern.groupCount_of_root rfl (Pattern.root_eq_contentNode content compiled), none,
      List.length_nil, Nat.zero_sub, Nat.zero_mul, Nat.zero_mul]
  · rw [Pattern.ofString?, String.toList_append] at unclosed
    rcases Pattern.Reader.exists_isContent read unclosed with ⟨finished, body, content, rfl⟩
    rw [Pattern.groupCount_of_root (content.groupIndices_eq_nil plain)
        (Pattern.root_eq_contentNode content compiled), content.openedGroups_eq]

/-- What a row captures from a path: a text for each placeholder, in their order, with which the
template is filled, and data that have the values of these texts. -/
structure Captured (row : Row) (pathname : String) (data : Json.Object)
    (values : List (List Char)) : Prop where
  count : values.length = row.placeholders.length
  fills : pathname.toList = Template.fill (Template.pieces row.path.toList) values ∨
    pathname.toList = Template.fill (Template.pieces row.path.toList) values ++ ['/']
  texts : row.pattern.captures? pathname =
    some (values.map fun value => some (String.ofList value))
  distinct : data.keys.Nodup
  keys : ∀ name, name ∈ data.keys ↔ name ∈ row.placeholders
  value : ∀ name, data.get? name = ((row.placeholders.zip values).reverse.lookup name).map
    fun value => row.placeholderValue name (String.ofList value)

/-- If a row has as many groups as placeholders, it captures a text for each placeholder. -/
theorem exists_captured (compiled : row.IsCompiled placeholderPattern)
    (valid : (Pattern.ofString? placeholderPattern).isSome = true)
    (ends : Template.SeesEnds placeholderPattern row.path)
    (groups : row.pattern.groupCount = row.placeholders.length)
    (captured : row.capture? pathname = some data) :
    ∃ values, row.Captured pathname data values := by
  have aligned : row.IsAligned placeholderPattern := ends.imp id fun unclosed => ⟨unclosed, groups⟩
  rcases exists_values_of_capture? compiled valid aligned captured with
    ⟨values, more, count, fills, texts, rfl⟩
  have nothing : more = [] := by
    have found := texts
    rw [Pattern.captures?_eq] at found
    rcases Option.map_eq_some_iff.mp found with ⟨final, _, same⟩
    have lengths := congrArg List.length same
    rw [List.length_map, List.length_range, List.length_append, List.length_map, groups, count]
      at lengths
    exact List.length_eq_zero_iff.mp (by omega)
  rw [nothing, List.append_nil] at texts
  refine ⟨values, count, fills, texts, row.nodup_keys_dataOf _, fun name => ?_,
    row.get?_dataOfValues values⟩
  rw [dataOfValues, mem_keys_dataOf,
    List.map_fst_zip (Nat.le_of_eq (by rw [List.length_map, count]))]

end Row
end PageRouting
