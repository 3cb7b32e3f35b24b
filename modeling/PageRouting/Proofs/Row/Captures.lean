import PageRouting.Proofs.Template.Segments
import PageRouting.Row

namespace PageRouting

/-!
# What a row captures

A row finds the texts of its placeholders as groups of its pattern.  Group by
group they are the values that the match has recorded, and the data made of them
has, for each name, the value of its last occurrence.

With the default placeholder pattern this settles what a row accepts and what it
captures: it accepts the texts that fill its template, and captures the values
that are longest, compared from the first on.
-/

namespace Pattern

/-- The text of a group in a match. -/
def groupText (text : List Char) (final : Thread) (index : Nat) : Option String :=
  (final.bounds? index).map fun (first, last) =>
    String.ofList ((text.drop first).take (last - first))

theorem captures?_eq (pattern : Pattern) (pathname : String) :
    pattern.captures? pathname = (search pattern.program pathname.toList).map fun final =>
      (List.range pattern.groupCount).map fun offset =>
        groupText pathname.toList final (offset + 1) := rfl

/-- Recorded values are the texts of their groups. -/
theorem groupText_of_records {text : List Char} {groups : Nat} {values : List (List Char)}
    {final : Thread} (records : Records text groups values final) :
    (List.range values.length).map (fun offset => groupText text final (groups + offset + 1)) =
      values.map fun value => some (String.ofList value) := by
  induction values generalizing groups with
  | nil => rfl
  | cons value values ih =>
      rcases records with ⟨⟨first, bounds, taken⟩, others⟩
      have here : groupText text final (groups + 0 + 1) = some (String.ofList value) := by
        simp only [groupText, Nat.add_zero, bounds, Option.map_some, Nat.add_sub_cancel_left,
          taken]
      rw [List.length_cons, List.range_succ_eq_map, List.map_cons, List.map_map, List.map_cons,
        here, ← ih others]
      congr 1
      apply List.map_congr_left
      intro offset _
      simp only [Function.comp_apply]
      congr 1
      omega

/-- If the pattern has a group for each value, the texts of its groups begin with
the values. -/
theorem exists_captures?_eq {pattern : Pattern} {pathname : String} {final : Thread}
    {values : List (List Char)} (found : search pattern.program pathname.toList = some final)
    (records : Records pathname.toList 0 values final)
    (enough : values.length ≤ pattern.groupCount) :
    ∃ more, pattern.captures? pathname =
      some (values.map (fun value => some (String.ofList value)) ++ more) := by
  rcases Nat.exists_eq_add_of_le enough with ⟨rest, total⟩
  have named := groupText_of_records records
  simp only [Nat.zero_add] at named
  rw [captures?_eq, found, Option.map_some, total, List.range_add, List.map_append, named]
  exact ⟨_, rfl⟩

/-- Where groups do not hold further groups, those of a layout are numbered one
after the other. -/
theorem Layout.length_le {Body : Nat → Node → Nat → Prop}
    (alone : ∀ index body last, Body index body last → last = index) {groups : Nat}
    {pieces : List Piece} {nodes : List Node} (layout : Layout Body groups pieces nodes)
    {bound : Nat} (begins : groups ≤ bound)
    (below : ∀ index ∈ nodes.flatMap Node.groupIndices, index ≤ bound) :
    groups + (Template.pieceNames pieces).length ≤ bound := by
  induction layout with
  | nil groups => exact begins
  | @literal groups text pieces nodes rest ih =>
      apply ih begins
      intro index member
      apply below
      rw [List.flatMap_append]
      exact List.mem_append_right _ member
  | @placeholder groups last name body pieces nodes inside rest ih =>
      have same := alone _ _ _ inside
      have here : groups + 1 ≤ bound := below _ (List.mem_append_left _ List.mem_cons_self)
      have later := ih (same ▸ here) fun index member =>
        below index (List.mem_append_right _ member)
      have count : (Template.pieceNames (.placeholder name :: pieces)).length =
          (Template.pieceNames pieces).length + 1 := rfl
      omega

end Pattern

namespace Row

/-- The pattern of the row is that of its template. -/
def IsCompiled (placeholderPattern : String) (row : Row) : Prop :=
  Pattern.ofChars? (Template.source placeholderPattern row.path) = some row.pattern

theorem isCompiled_of_compile? {page path placeholderPattern : String} {mappers : MapperTable}
    {row : Row} (compiled : compile? page path mappers placeholderPattern = some row) :
    row.IsCompiled placeholderPattern ∧ row.page = page ∧ row.path = path ∧
      row.mappers = mappers := by
  rcases Option.map_eq_some_iff.mp compiled with ⟨pattern, read, rfl⟩
  exact ⟨read, rfl, rfl, rfl⟩

theorem length_placeholders (row : Row) :
    row.placeholders.length = (Template.pieceNames (Template.pieces row.path.toList)).length :=
  Template.length_names row.path

/-- The texts of a rendered path are those of the placeholders, in their order. -/
theorem renderedValues_pieces (row : Row) (value : String → String) :
    Template.renderedValues value (Template.pieces row.path.toList) =
      row.placeholders.map fun name => (value name).toList := by
  simp only [Template.renderedValues, placeholders, Template.names, Template.pieceNames,
    List.map_map, Function.comp_def]

/-! ## Data of texts -/

/-- Texts beyond the placeholders have no names. -/
theorem zip_placeholders_append (row : Row) {texts : List (Option String)}
    (enough : row.placeholders.length = texts.length) (more : List (Option String)) :
    row.placeholders.zip (texts ++ more) = row.placeholders.zip texts := by
  have whole : (row.placeholders ++ []).zip (texts ++ more) =
      row.placeholders.zip texts ++ [].zip more := List.zip_append enough
  rwa [List.append_nil, List.zip_nil_left, List.append_nil] at whole

theorem dataOf_append (row : Row) {texts : List (Option String)}
    (enough : row.placeholders.length = texts.length) (more : List (Option String)) :
    row.dataOf (texts ++ more) = row.dataOf texts := by
  rw [dataOf, dataOf, zip_placeholders_append row enough]

section Insertion

variable (value : String → Option String → Json.Value)

/-- Of a name that is inserted more than once the last value is kept. -/
theorem get?_foldl_insert (entries : List (String × Option String)) (name : String) :
    (entries.foldl (fun data entry => Json.Object.insert data entry.1 (value entry.1 entry.2))
      []).get? name = (entries.reverse.lookup name).map (value name) := by
  induction entries using List.reverseRecOn with
  | nil => rfl
  | append_singleton entries entry ih =>
      rcases entry with ⟨other, text⟩
      rw [List.foldl_append, List.reverse_append]
      simp only [List.foldl_cons, List.foldl_nil, List.reverse_cons, List.reverse_nil,
        List.nil_append, List.singleton_append, List.lookup_cons]
      by_cases same : name = other
      · rw [same, Json.Object.insert, Json.Object.get?_alter_self, beq_self_eq_true,
          Option.map_some]
      · rw [Json.Object.insert, Json.Object.get?_alter_of_ne _ same, ih,
          beq_eq_false_iff_ne.mpr same]

theorem nodup_keys_foldl_insert (entries : List (String × Option String)) :
    (entries.foldl (fun data entry => Json.Object.insert data entry.1 (value entry.1 entry.2))
      []).keys.Nodup := by
  induction entries using List.reverseRecOn with
  | nil => exact List.nodup_nil
  | append_singleton entries entry ih =>
      rw [List.foldl_append, List.foldl_cons, List.foldl_nil, Json.Object.insert,
        Json.Object.keys_alter]
      split
      · exact ih
      · next absent =>
          refine List.nodup_append.mpr ⟨ih, List.pairwise_singleton _ entry.1, ?_⟩
          intro one before other last same
          rw [List.mem_singleton.mp last] at same
          exact absent (same ▸ before)

theorem mem_keys_foldl_insert (entries : List (String × Option String)) (name : String) :
    name ∈ (entries.foldl (fun data entry =>
      Json.Object.insert data entry.1 (value entry.1 entry.2)) []).keys ↔
        name ∈ entries.map Prod.fst := by
  induction entries using List.reverseRecOn with
  | nil => exact Iff.rfl
  | append_singleton entries entry ih =>
      rw [List.foldl_append, List.foldl_cons, List.foldl_nil, Json.Object.insert,
        Json.Object.keys_alter, List.map_append, List.mem_append, List.map_singleton,
        List.mem_singleton]
      split
      · next present =>
          exact ⟨fun member => .inl (ih.mp member),
            fun either => either.elim ih.mpr fun same => same ▸ present⟩
      · rw [List.mem_append, ih, List.mem_singleton]

end Insertion

/-- The data of some texts has for each name the value of its last text. -/
theorem get?_dataOf (row : Row) (texts : List (Option String)) (name : String) :
    (row.dataOf texts).get? name =
      ((row.placeholders.zip texts).reverse.lookup name).map fun text =>
        row.placeholderValue name (text.getD "") :=
  get?_foldl_insert (fun name text => row.placeholderValue name (text.getD "")) _ name

theorem nodup_keys_dataOf (row : Row) (texts : List (Option String)) :
    (row.dataOf texts).keys.Nodup :=
  nodup_keys_foldl_insert (fun name text => row.placeholderValue name (text.getD "")) _

theorem mem_keys_dataOf (row : Row) (texts : List (Option String)) (name : String) :
    name ∈ (row.dataOf texts).keys ↔ name ∈ (row.placeholders.zip texts).map Prod.fst :=
  mem_keys_foldl_insert (fun name text => row.placeholderValue name (text.getD "")) _ name

/-! ## Rows with the default placeholder pattern -/

/-- The data of values, without anything missing. -/
def dataOfValues (row : Row) (values : List (List Char)) : Json.Object :=
  row.dataOf (values.map fun value => some (String.ofList value))

theorem get?_dataOfValues (row : Row) (values : List (List Char)) (name : String) :
    (row.dataOfValues values).get? name =
      ((row.placeholders.zip values).reverse.lookup name).map fun value =>
        row.placeholderValue name (String.ofList value) := by
  have zipped : row.placeholders.zip (values.map fun value => some (String.ofList value)) =
      (row.placeholders.zip values).map fun entry => (entry.1, some (String.ofList entry.2)) := by
    rw [List.zip_map_right]
    rfl
  rw [dataOfValues, get?_dataOf, zipped, ← List.map_reverse]
  generalize (row.placeholders.zip values).reverse = entries
  induction entries with
  | nil => rfl
  | cons entry entries ih =>
      rcases entry with ⟨other, value⟩
      rw [List.map_cons, List.lookup_cons, List.lookup_cons]
      cases name == other with
      | true => rfl
      | false => exact ih

/-- The groups of a row begin with the longest values, if there are any. -/
theorem captures?_eq_or {row : Row} (compiled : row.IsCompiled "[^/]+") (pathname : String) :
    (Template.longestValues? (Template.pieces row.path.toList) pathname.toList = none ∧
        row.pattern.captures? pathname = none) ∨
      ∃ values more, values.length = row.placeholders.length ∧
        Template.longestValues? (Template.pieces row.path.toList) pathname.toList = some values ∧
        row.pattern.captures? pathname =
          some (values.map (fun value => some (String.ofList value)) ++ more) := by
  rcases Pattern.exists_layout_of_segments compiled with
    ⟨nodes, layout, program_eq, groups⟩
  rcases Pattern.search_layout layout program_eq pathname.toList with
    ⟨none, missed⟩ | ⟨values, final, some, found, records⟩
  · refine .inl ⟨none, ?_⟩
    rw [Pattern.captures?_eq, missed, Option.map_none]
  · have count := (Template.isFilling_of_longestValues? some).count
    have enough := layout.length_le (fun _ _ _ segment => segment.2) (Nat.zero_le _) groups
    rw [Nat.zero_add, ← count] at enough
    rcases Pattern.exists_captures?_eq found records enough with ⟨more, captured⟩
    exact .inr ⟨values, more, by rw [length_placeholders, count], some, captured⟩

/-- A row captures the longest values, if there are any. -/
theorem capture?_eq {row : Row} (compiled : row.IsCompiled "[^/]+") (pathname : String) :
    row.capture? pathname =
      (Template.longestValues? (Template.pieces row.path.toList) pathname.toList).map
        row.dataOfValues := by
  rcases captures?_eq_or compiled pathname with
    ⟨none, missed⟩ | ⟨values, more, count, longest, captured⟩
  · rw [capture?, missed, none]
    rfl
  · rw [capture?, captured, longest, Option.map_some, Option.map_some,
      dataOf_append row (by rw [List.length_map, count]), dataOfValues]

/-- A row of the default placeholder pattern accepts exactly the texts that fill
its template, whatever stands in the template, and captures the values that come
first in length. -/
theorem matchesPath_iff_and_capture? {page path : String} {row : Row}
    (compiled : compile? page path [] "[^/]+" = some row) (pathname : String) :
    (row.matchesPath pathname = true ↔
      ∃ values, Template.IsFilling (Template.pieces path.toList) values pathname.toList) ∧
    (row.matchesPath pathname = true → ∃ values data,
      Template.IsFilling (Template.pieces path.toList) values pathname.toList ∧
      (∀ others, Template.IsFilling (Template.pieces path.toList) others pathname.toList →
        others = values ∨ List.Lex (· < ·) (others.map List.length) (values.map List.length)) ∧
      row.capture? pathname = some data ∧ data.keys.Nodup ∧
      ∀ name, data.get? name =
        (((Template.names path).zip values).reverse.lookup name).map fun value =>
          .string (String.ofList value)) := by
  rcases isCompiled_of_compile? compiled with ⟨isCompiled, _, rfl, mappers⟩
  have captured := capture?_eq isCompiled pathname
  have accepted := row.capture?_isSome pathname
  rw [captured, Option.isSome_map] at accepted
  have fillable : row.matchesPath pathname = true ↔ ∃ values,
      Template.IsFilling (Template.pieces row.path.toList) values pathname.toList := by
    rw [← accepted]
    constructor
    · intro found
      rcases Option.isSome_iff_exists.mp found with ⟨values, longest⟩
      exact ⟨values, Template.isFilling_of_longestValues? longest⟩
    · rintro ⟨values, filling⟩
      rcases Template.exists_longestValues? filling with ⟨longest, found, _⟩
      exact Option.isSome_iff_exists.mpr ⟨longest, found⟩
  refine ⟨fillable, fun accepts => ?_⟩
  rcases Option.isSome_iff_exists.mp (accepted.trans accepts) with ⟨values, longest⟩
  refine ⟨values, row.dataOfValues values, Template.isFilling_of_longestValues? longest, ?_, ?_,
    row.nodup_keys_dataOf _, ?_⟩
  · intro others filling
    rcases Template.exists_longestValues? filling with ⟨greatest, found, compared⟩
    exact Option.some.inj (longest.symm.trans found) ▸ compared
  · rw [captured, longest, Option.map_some]
  · intro name
    rw [get?_dataOfValues]
    simp only [placeholderValue, mappers, MapperTable.get?]
    rfl

/-- Of two ways to cut a path, the one with the longer first value is taken. -/
theorem captures_longest_first :
    ∃ row, compile? "page" "/:a-:b" [] "[^/]+" = some row ∧
      row.matchesPath "/x-y-z/" = true ∧ ∃ data, row.capture? "/x-y-z/" = some data ∧
        data.get? "a" = some (.string "x-y") := by
  have compiles : (compile? "page" "/:a-:b" [] "[^/]+").isSome = true := by decide +kernel
  rcases Option.isSome_iff_exists.mp compiles with ⟨row, compiled⟩
  have pieces : Template.pieces "/:a-:b".toList = [.literal ['/'], .placeholder ['a'],
      .literal ['-'], .placeholder ['b']] := by decide
  have longest : Template.longestValues? [.literal ['/'], .placeholder ['a'], .literal ['-'],
      .placeholder ['b']] "/x-y-z/".toList = some [['x', '-', 'y'], ['z']] := by decide
  have filling := Template.isFilling_of_longestValues? longest
  rw [← pieces] at longest filling
  rcases isCompiled_of_compile? compiled with ⟨isCompiled, _, path, mappers⟩
  have captured := capture?_eq isCompiled "/x-y-z/"
  rw [path, longest, Option.map_some] at captured
  have accepts := (matchesPath_iff_and_capture? compiled "/x-y-z/").1.mpr ⟨_, filling⟩
  refine ⟨row, compiled, accepts, _, captured, ?_⟩
  have names : row.placeholders = ["a", "b"] := by
    rw [placeholders, path]
    decide
  rw [get?_dataOfValues, names]
  simp only [placeholderValue, mappers, MapperTable.get?]
  rfl

end Row
end PageRouting
