import PageRouting.Proofs.Row.Captures
import PageRouting.Proofs.Template.Walk

namespace PageRouting

/-!
# Rendering what has been captured

The texts that a row captures make up the path it has accepted, whatever the
placeholder pattern matches.  Two things must be right for this: the pattern must
not take in the parenthesis behind it, and the row must have as many groups as
placeholders.  A group that a pattern repeats zero times is gone from the pattern,
but it has been counted, so that later placeholders stand under other indices.
-/

namespace Row

variable {row : Row} {placeholderPattern pathname : String} {data : Json.Object}

/-- The groups of the row are its placeholders, and the parenthesis after each
placeholder is seen. -/
def IsAligned (placeholderPattern : String) (row : Row) : Prop :=
  row.placeholders = [] ∨
    Pattern.ofString? (placeholderPattern ++ ")") = none ∧
      row.pattern.groupCount = row.placeholders.length

instance (placeholderPattern : String) (row : Row) :
    Decidable (row.IsAligned placeholderPattern) :=
  inferInstanceAs (Decidable (_ ∨ _ ∧ _))

theorem exists_layout (compiled : row.IsCompiled placeholderPattern)
    (valid : (Pattern.ofString? placeholderPattern).isSome = true)
    (aligned : row.IsAligned placeholderPattern) :
    ∃ nodes, Pattern.Layout Pattern.IsPlain 0 (Template.pieces row.path.toList) nodes ∧
      row.pattern.program.toList = Pattern.wholeProgram nodes ∧
      ∀ index ∈ nodes.flatMap Pattern.Node.groupIndices, index ≤ row.pattern.groupCount := by
  rcases aligned with none | ⟨unclosed, count⟩
  · rw [IsCompiled, Template.source_eq_of_names_eq_nil none _ "[^/]+"] at compiled
    rcases Pattern.exists_layout_of_segments compiled with
      ⟨nodes, layout, program_eq, groups⟩
    exact ⟨nodes, layout.mono fun _ _ _ segment => segment.isPlain, program_eq, groups⟩
  · rcases Option.isSome_iff_exists.mp valid with ⟨alone, read⟩
    rw [Pattern.ofString?, String.toList_append] at unclosed
    rcases Pattern.Reader.exists_isContent read unclosed with ⟨finished, body, content, _⟩
    rcases Pattern.exists_layout_of_source content compiled with
      ⟨nodes, layout, program_eq, groups⟩
    have held := layout.mono fun _ _ _ holds => content.holds holds
    refine ⟨nodes, held.isPlain ?_, program_eq, groups⟩
    rwa [Nat.zero_add, ← length_placeholders, ← count]

/-- An aligned row captures a text for each placeholder, and the path is its
template filled with them. -/
theorem exists_values_of_capture? (compiled : row.IsCompiled placeholderPattern)
    (valid : (Pattern.ofString? placeholderPattern).isSome = true)
    (aligned : row.IsAligned placeholderPattern) (captured : row.capture? pathname = some data) :
    ∃ values more, values.length = row.placeholders.length ∧
      (pathname.toList = Template.fill (Template.pieces row.path.toList) values ∨
        pathname.toList = Template.fill (Template.pieces row.path.toList) values ++ ['/']) ∧
      row.pattern.captures? pathname =
        some (values.map (fun value => some (String.ofList value)) ++ more) ∧
      data = row.dataOfValues values := by
  rcases exists_layout compiled valid aligned with ⟨nodes, layout, program_eq, groups⟩
  rcases Option.map_eq_some_iff.mp captured with ⟨texts, isTexts, rfl⟩
  rw [Pattern.captures?_eq] at isTexts
  rcases Option.map_eq_some_iff.mp isTexts with ⟨final, found, _⟩
  rcases Pattern.exists_fill_of_search layout program_eq found with ⟨values, count, filled, records⟩
  have enough := layout.length_le (fun _ _ _ plain => plain.2) (Nat.zero_le _) groups
  rw [Nat.zero_add, ← count] at enough
  rcases Pattern.exists_captures?_eq found records enough with ⟨more, all⟩
  rw [← length_placeholders] at count
  refine ⟨values, more, count, filled, all, ?_⟩
  rw [Pattern.captures?_eq, isTexts] at all
  rw [Option.some.inj all, dataOf_append row (by rw [List.length_map, count]), dataOfValues]

/-- Each mapper spells a captured text as it was, once it has been decoded. -/
def Restores (row : Row) (pathname : String) : Prop :=
  ∀ texts ∈ row.pattern.captures? pathname, ∀ entry ∈ row.placeholders.zip texts,
    ∀ mapper ∈ row.mappers.get? entry.1,
      mapper.encode (mapper.decode (entry.2.getD "")) = entry.2.getD ""

instance (row : Row) (pathname : String) : Decidable (row.Restores pathname) :=
  inferInstanceAs (Decidable (∀ texts ∈ row.pattern.captures? pathname, ∀ _ ∈ _, ∀ _ ∈ _, _))

/-- Of entries with distinct names, each one is found. -/
theorem lookup_eq_some_of_mem {Entry : Type} {entries : List (String × Entry)} {name : String}
    {value : Entry} (distinct : (entries.map Prod.fst).Nodup) (member : (name, value) ∈ entries) :
    entries.lookup name = some value := by
  induction entries with
  | nil => exact absurd member List.not_mem_nil
  | cons entry entries ih =>
      rcases entry with ⟨other, found⟩
      rcases List.nodup_cons.mp distinct with ⟨absent, later⟩
      rw [List.lookup_cons]
      rcases List.mem_cons.mp member with same | among
      · rcases Prod.mk.inj same with ⟨rfl, rfl⟩
        rw [beq_self_eq_true]
      · have different : name ≠ other := by
          rintro rfl
          exact absent (List.mem_map.mpr ⟨_, among, rfl⟩)
        rw [beq_eq_false_iff_ne.mpr different]
        exact ih later among

/-- Distinct placeholders are rendered with the texts they were captured from. -/
theorem renderedValues_dataOfValues {values : List (List Char)}
    (count : values.length = row.placeholders.length) (distinct : row.placeholders.Nodup)
    (restores : ∀ entry ∈ row.placeholders.zip values, ∀ mapper,
      row.mappers.get? entry.1 = some mapper →
        mapper.encode (mapper.decode (String.ofList entry.2)) = String.ofList entry.2) :
    Template.renderedValues (row.placeholderText (row.dataOfValues values))
      (Template.pieces row.path.toList) = values := by
  have names : (row.placeholders.zip values).map Prod.fst = row.placeholders :=
    List.map_fst_zip (Nat.le_of_eq count.symm)
  have texts : (row.placeholders.zip values).map Prod.snd = values :=
    List.map_snd_zip (Nat.le_of_eq count)
  have rendered : ∀ entry ∈ row.placeholders.zip values,
      (row.placeholderText (row.dataOfValues values) entry.1).toList = entry.2 := by
    rintro ⟨name, value⟩ member
    have found : (row.dataOfValues values).get? name =
        some (row.placeholderValue name (String.ofList value)) := by
      rw [get?_dataOfValues, lookup_eq_some_of_mem ?_ (List.mem_reverse.mpr member),
        Option.map_some]
      rw [List.map_reverse, names]
      exact List.nodup_reverse.mpr distinct
    unfold placeholderText
    rw [found]
    unfold placeholderValue
    cases mapper : row.mappers.get? name with
    | none => exact String.toList_ofList
    | some mapped =>
        have restored := restores (name, value) member mapped mapper
        change (mapped.encode (mapped.decode (String.ofList value))).toList = value
        rw [restored]
        exact String.toList_ofList
  calc Template.renderedValues (row.placeholderText (row.dataOfValues values))
        (Template.pieces row.path.toList)
      = (row.placeholders.zip values).map
          (fun entry => (row.placeholderText (row.dataOfValues values) entry.1).toList) := by
        rw [renderedValues_pieces]
        conv_lhs => rw [← names]
        rw [List.map_map]
        rfl
    _ = (row.placeholders.zip values).map Prod.snd := List.map_congr_left rendered
    _ = values := texts

/-- Captured texts that are restored fill the template when they are rendered. -/
theorem toList_renderPath_dataOfValues {values : List (List Char)} {more : List (Option String)}
    (count : values.length = row.placeholders.length) (distinct : row.placeholders.Nodup)
    (restores : row.Restores pathname)
    (texts : row.pattern.captures? pathname =
      some (values.map (fun value => some (String.ofList value)) ++ more)) :
    (row.renderPath (row.dataOfValues values)).toList =
      Template.fill (Template.pieces row.path.toList) values := by
  have restored : ∀ entry ∈ row.placeholders.zip values, ∀ mapper,
      row.mappers.get? entry.1 = some mapper →
        mapper.encode (mapper.decode (String.ofList entry.2)) = String.ofList entry.2 := by
    intro entry member mapper isMapper
    have among : (entry.1, some (String.ofList entry.2)) ∈ row.placeholders.zip
        (values.map (fun value => some (String.ofList value)) ++ more) := by
      rw [zip_placeholders_append row (by rw [List.length_map, count]), List.zip_map_right]
      exact List.mem_map.mpr ⟨entry, member, rfl⟩
    exact restores _ texts _ among mapper isMapper
  rw [renderPath, Template.toList_render, renderedValues_dataOfValues count distinct restored]

/-- What an aligned row captures from a path is rendered to the path again, or to
the path without its last slash. -/
theorem renderPath_of_capture? (compiled : row.IsCompiled placeholderPattern)
    (valid : (Pattern.ofString? placeholderPattern).isSome = true)
    (aligned : row.IsAligned placeholderPattern) (distinct : row.placeholders.Nodup)
    (restores : row.Restores pathname) (captured : row.capture? pathname = some data) :
    row.renderPath data = pathname ∨ row.renderPath data ++ "/" = pathname := by
  rcases exists_values_of_capture? compiled valid aligned captured with
    ⟨values, more, count, filled, texts, rfl⟩
  rw [← toList_renderPath_dataOfValues count distinct restores texts] at filled
  refine filled.imp (fun bare => String.toList_inj.mp bare.symm) fun slashed => ?_
  rw [← String.toList_inj, String.toList_append, slashed]
  rfl

end Row
end PageRouting
