import PageRouting.Pattern.Reading

namespace PageRouting
namespace Pattern

/-!
# Text after the end of a pattern

What is read from the beginning of a text does not depend on what comes after
it.  There is one exception.  In verbose mode blanks and comments are dropped
after some parts, and a comment that the text leaves open takes in whatever
comes next, a closing parenthesis included.  So either reading goes on in front
of the parenthesis, or the parenthesis is not seen at all.
-/

/-- The reader reads the same whatever comes after the text, and leaves it. -/
structure Stops {Read : Type} (read : List Char → Option (Read × List Char))
    (text : List Char) (value : Read) (rest : List Char) : Prop where
  suffix : rest <:+ text
  same : ∀ more, read (text ++ more) = some (value, rest ++ more)

/-- With more text behind it, the reader reads the same and leaves the new text.
If it has come to the end of its own text, a closing parenthesis may instead be
lost to it. -/
structure GoesOn {Read : Type} (read : List Char → Option (Read × List Char))
    (text : List Char) (value : Read) (rest : List Char) : Prop where
  suffix : rest <:+ text
  inside : rest ≠ [] → ∀ more, read (text ++ more) = some (value, rest ++ more)
  atEnd : rest = [] → (∀ more, read (text ++ ')' :: more) = some (value, ')' :: more)) ∨
    read (text ++ [')']) = some (value, [])

section GoesOn

variable {Read : Type} {read : List Char → Option (Read × List Char)} {text rest : List Char}
  {value : Read}

theorem Stops.goesOn (stops : Stops read text value rest) : GoesOn read text value rest where
  suffix := stops.suffix
  inside := fun _ => stops.same
  atEnd := fun ends => Or.inl fun more => by rw [stops.same, ends, List.nil_append]

/-- Before a closing parenthesis reading goes on, or the parenthesis is lost. -/
theorem GoesOn.cases (goesOn : GoesOn read text value rest) :
    (∀ more, read (text ++ ')' :: more) = some (value, rest ++ ')' :: more)) ∨
      rest = [] ∧ read (text ++ [')']) = some (value, []) := by
  by_cases ends : rest = []
  · subst ends
    exact (goesOn.atEnd rfl).imp id fun lost => ⟨rfl, lost⟩
  · exact Or.inl fun more => goesOn.inside ends _

/-- It is enough to know what another reader makes of the text and the value. -/
theorem GoesOn.transfer {Other : Type} {other : List Char → Option (Other × List Char)}
    {whole : List Char} {result : Other} (goesOn : GoesOn read text value rest)
    (within : text <:+ whole)
    (makes : ∀ more next, read (text ++ more) = some (value, next) →
      other (whole ++ more) = some (result, next)) :
    GoesOn other whole result rest where
  suffix := goesOn.suffix.trans within
  inside := fun some more => makes more _ (goesOn.inside some more)
  atEnd := fun ends =>
    (goesOn.atEnd ends).imp (fun same more => makes _ _ (same more)) fun lost => makes _ _ lost

end GoesOn

theorem dropWhile_append {holds : Char → Bool} {text : List Char}
    (some : text.dropWhile holds ≠ []) (more : List Char) :
    (text ++ more).dropWhile holds = text.dropWhile holds ++ more := by
  rw [List.dropWhile_append, if_neg (by simpa using some)]

/-! ## Blanks and comments -/

theorem dropBlanks_append {inComment : Bool} {text : List Char}
    (some : dropBlanks inComment text ≠ []) (more : List Char) :
    dropBlanks inComment (text ++ more) = dropBlanks inComment text ++ more := by
  induction text generalizing inComment with
  | nil => exact absurd rfl some
  | cons c rest ih =>
      simp only [List.cons_append, dropBlanks] at some ⊢
      split
      · next comment => exact ih (by simpa [comment] using some)
      · next code =>
          split
          · next blank => exact ih (by simpa [code, blank] using some)
          · next visible =>
              split
              · next mark => exact ih (by simpa [code, visible, mark] using some)
              · rfl

/-- After a text of blanks and comments a closing parenthesis is the next thing,
unless it stands in a comment. -/
theorem dropBlanks_eq_nil {inComment : Bool} {text : List Char}
    (none : dropBlanks inComment text = []) :
    (∀ more, dropBlanks inComment (text ++ ')' :: more) = ')' :: more) ∨
      dropBlanks inComment (text ++ [')']) = [] := by
  induction text generalizing inComment with
  | nil =>
      cases inComment with
      | true => exact Or.inr rfl
      | false => exact Or.inl fun _ => rfl
  | cons c rest ih =>
      simp only [List.cons_append, dropBlanks] at none ⊢
      split
      · next comment => exact ih (by simpa [comment] using none)
      · next code =>
          split
          · next blank => exact ih (by simpa [code, blank] using none)
          · next visible =>
              split
              · next mark => exact ih (by simpa [code, visible, mark] using none)
              · next plain => exact absurd none (by simp [code, visible, plain])

variable {flags : Flags} {text rest : List Char}

theorem skipBlanks_append (some : flags.skipBlanks text ≠ []) (more : List Char) :
    flags.skipBlanks (text ++ more) = flags.skipBlanks text ++ more := by
  unfold Flags.skipBlanks at *
  split
  · next verbose => exact dropBlanks_append (by simpa [verbose] using some) more
  · rfl

theorem skipBlanks_eq_nil (none : flags.skipBlanks text = []) :
    (∀ more, flags.skipBlanks (text ++ ')' :: more) = ')' :: more) ∨
      flags.skipBlanks (text ++ [')']) = [] := by
  unfold Flags.skipBlanks at *
  split
  · next verbose => exact dropBlanks_eq_nil (by simpa [verbose] using none)
  · next terse =>
      have empty : text = [] := by simpa [terse] using none
      exact Or.inl fun more => by rw [empty, List.nil_append]

theorem dropBlanks_suffix (inComment : Bool) (text : List Char) :
    dropBlanks inComment text <:+ text := by
  induction text generalizing inComment with
  | nil => exact List.suffix_refl _
  | cons c rest ih =>
      have later : ∀ inside, dropBlanks inside rest <:+ c :: rest := fun inside =>
        (ih inside).trans (List.suffix_cons c rest)
      rw [dropBlanks]
      split
      · exact later _
      · split
        · exact later _
        · split
          · exact later _
          · exact List.suffix_refl _

theorem skipBlanks_suffix (flags : Flags) (text : List Char) : flags.skipBlanks text <:+ text := by
  unfold Flags.skipBlanks
  split
  · exact dropBlanks_suffix false text
  · exact List.suffix_refl _

theorem skipBlanks_nil (flags : Flags) : flags.skipBlanks [] = [] := by
  unfold Flags.skipBlanks
  split <;> rfl

/-- Dropping blanks before reading is of no concern either. -/
theorem GoesOn.afterBlanks {Read : Type} {read : List Char → Option (Read × List Char)}
    {value : Read} (goesOn : GoesOn read (flags.skipBlanks text) value rest)
    (found : read (flags.skipBlanks text) = some (value, rest))
    (short : flags.skipBlanks text = [] → rest = []) :
    GoesOn (fun text => read (flags.skipBlanks text)) text value rest := by
  by_cases empty : flags.skipBlanks text = []
  · have ends := short empty
    refine ⟨ends ▸ List.nil_suffix, fun some => absurd ends some, fun _ => ?_⟩
    simp only [empty, ends] at goesOn found
    rcases skipBlanks_eq_nil empty with visible | lost
    · rcases goesOn.atEnd rfl with same | missed
      · exact Or.inl fun more => by rw [visible]; exact same more
      · exact Or.inr (by rw [visible]; exact missed)
    · exact Or.inr (by rw [lost]; exact found)
  · refine ⟨goesOn.suffix.trans (skipBlanks_suffix flags text), fun some more => ?_,
      fun ends => ?_⟩
    · rw [skipBlanks_append empty]
      exact goesOn.inside some more
    · rw [skipBlanks_append empty]
      refine (goesOn.atEnd ends).imp (fun same more => ?_) id
      rw [skipBlanks_append empty]
      exact same more

/-! ## Escapes -/

theorem stops_bracedContent {verbose inComment : Bool} {content : List Char}
    (read : bracedContent verbose inComment text = some (content, rest)) :
    Stops (bracedContent verbose inComment) text content rest := by
  induction text generalizing inComment content with
  | nil => exact absurd read.symm (Option.some_ne_none _)
  | cons c tail ih =>
      have longer : ∀ {inside : Bool}, bracedContent verbose inside tail = some (content, rest) →
          (∀ others, bracedContent verbose inComment (c :: others) =
            bracedContent verbose inside others) →
          Stops (bracedContent verbose inComment) (c :: tail) content rest := by
        intro inside found skips
        have stops := ih found
        exact ⟨stops.suffix.trans (List.suffix_cons c tail), fun more => by
          rw [List.cons_append, skips, stops.same]⟩
      simp only [bracedContent] at read
      split at read
      · next comment =>
          exact longer read fun others => by simp only [bracedContent, comment, if_true]
      · next code =>
          split at read
          · next blank => exact longer read fun others => by simp [bracedContent, code, blank]
          · next visible =>
              split at read
              · next mark =>
                  exact longer read fun others => by simp [bracedContent, code, visible, mark]
              · next plain =>
                  split at read
                  · next closes =>
                      rcases Prod.mk.inj (Option.some.inj read) with ⟨rfl, rfl⟩
                      constructor
                      · exact List.suffix_cons c _
                      · intro more
                        simp [bracedContent, code, visible, plain, closes]
                  · next opened =>
                      rcases Option.map_eq_some_iff.mp read with ⟨⟨inner, after⟩, found, same⟩
                      rcases Prod.mk.inj same with ⟨rfl, rfl⟩
                      have stops := ih found
                      constructor
                      · exact stops.suffix.trans (List.suffix_cons c tail)
                      · intro more
                        simp [bracedContent, code, visible, plain, opened, stops.same]

theorem fixedDigits_nil {count : Nat} {digits : List Char}
    (read : fixedDigits flags count [] = some (digits, rest)) : rest = [] := by
  cases count with
  | zero => exact (Prod.mk.inj (Option.some.inj read)).2.symm
  | succ count => exact absurd read.symm (Option.some_ne_none _)

theorem goesOn_fixedDigits {count : Nat} {digits : List Char}
    (read : fixedDigits flags count text = some (digits, rest)) :
    GoesOn (fixedDigits flags count) text digits rest := by
  induction count generalizing text digits with
  | zero =>
      rcases Prod.mk.inj (Option.some.inj read) with ⟨rfl, rfl⟩
      exact (Stops.mk (List.suffix_refl _) fun _ => rfl).goesOn
  | succ count ih =>
      cases text with
      | nil => exact absurd read.symm (Option.some_ne_none _)
      | cons c tail =>
          simp only [fixedDigits] at read
          split at read
          · next digit =>
              rcases Option.map_eq_some_iff.mp read with ⟨⟨inner, after⟩, found, same⟩
              rcases Prod.mk.inj same with ⟨rfl, rfl⟩
              have later := (ih found).afterBlanks found fun empty =>
                fixedDigits_nil (empty ▸ found)
              refine later.transfer (List.suffix_cons c tail) fun more next inside => ?_
              simp only [List.cons_append, fixedDigits, digit, if_true, inside, Option.map_some]
          · exact absurd read.symm (Option.some_ne_none _)

theorem readCode_of_ne_brace {count : Nat} {c : Char} {tail : List Char}
    (shape : flags.skipBlanks text = c :: tail) (plain : c ≠ '\x7b') :
    readCode flags count text = (fixedDigits flags count (c :: tail)).bind fun (digits, rest) =>
      (charOfDigits? digits).map fun character => (.literal character (count == 2), rest) := by
  unfold readCode
  rw [shape]
  split
  · next none => exact absurd none (List.cons_ne_nil _ _)
  · next opens => exact absurd (List.cons.inj opens).1 plain
  · cases fixedDigits flags count (c :: tail) with
    | none => rfl
    | some pair => cases made : charOfDigits? pair.1 <;> simp [made]

theorem goesOn_readCode {count : Nat} {atom : Atom}
    (read : readCode flags count text = some (atom, rest)) :
    GoesOn (readCode flags count) text atom rest := by
  cases shape : flags.skipBlanks text with
  | nil =>
      rw [readCode, shape] at read
      exact absurd read.symm (Option.some_ne_none _)
  | cons c tail =>
      have within : c :: tail <:+ text := shape ▸ skipBlanks_suffix flags text
      have longer : ∀ more, flags.skipBlanks (text ++ more) = c :: (tail ++ more) := fun more => by
        rw [skipBlanks_append (shape ▸ List.cons_ne_nil _ _), shape, List.cons_append]
      by_cases brace : c = '\x7b'
      · subst brace
        simp only [readCode, shape, Option.bind_eq_bind, Option.bind_eq_some_iff] at read
        rcases read with ⟨⟨digits, after⟩, braced, character, made, same⟩
        rcases Prod.mk.inj (Option.some.inj same) with ⟨rfl, rfl⟩
        have stops := stops_bracedContent braced
        refine (Stops.mk ((stops.suffix.trans (List.suffix_cons _ tail)).trans within)
          fun more => ?_).goesOn
        simp only [readCode, longer, stops.same, made, Option.bind_eq_bind, Option.bind_some,
          Option.pure_def]
      · rw [readCode_of_ne_brace shape brace] at read
        rcases Option.bind_eq_some_iff.mp read with ⟨⟨digits, after⟩, found, made⟩
        rcases Option.map_eq_some_iff.mp made with ⟨character, valid, same⟩
        rcases Prod.mk.inj same with ⟨rfl, rfl⟩
        refine (goesOn_fixedDigits found).transfer within fun more next inside => ?_
        rw [List.cons_append] at inside
        rw [readCode_of_ne_brace (longer more) brace, inside, Option.bind_some]
        simp only [valid, Option.map_some]

/-- What is made of a property once it has been read. -/
def propertyAtom? (flags : Flags) (negated : Bool) (property : Property.Braced) : Option Atom :=
  if flags.wide then
    let folded := flags.foldCase property.members
    some (.set (if negated != property.negated then folded.complement else folded))
  else
    none

/-- A property in braces, or named by one character. -/
theorem readProperty_eq {negated : Bool} {c : Char} {tail : List Char}
    (shape : flags.skipBlanks text = c :: tail) :
    readProperty flags negated text =
      if c = '\x7b' then
        (bracedContent flags.verbose false tail).bind fun (content, rest) =>
          (Property.braced? content).bind fun property =>
            (propertyAtom? flags negated property).map fun atom => (atom, rest)
      else if c = '\\' then none
      else
        (Property.named? [c]).bind fun members =>
          (propertyAtom? flags negated ⟨members, false⟩).map fun atom => (atom, tail) := by
  have finish : ∀ (property : Property.Braced) (rest : List Char),
      (if flags.wide then
        pure (Atom.set (if (negated != property.negated) = true
          then (flags.foldCase property.members).complement
          else flags.foldCase property.members), rest)
      else none) = (propertyAtom? flags negated property).map fun atom => (atom, rest) := by
    intro property rest
    unfold propertyAtom?
    split <;> rfl
  simp only [readProperty, shape]
  split
  · next nothing => exact absurd nothing (List.cons_ne_nil _ _)
  · next opens =>
      rcases List.cons.inj opens with ⟨rfl, rfl⟩
      rw [if_pos rfl]
      simp only [Option.bind_eq_bind, Option.pure_def, Option.bind_some]
      simp only [← finish, Option.pure_def]
  · next opens =>
      rcases List.cons.inj opens with ⟨rfl, rfl⟩
      rfl
  · next notBrace notSlash opens =>
      rcases List.cons.inj opens with ⟨rfl, rfl⟩
      rw [if_neg notBrace, if_neg notSlash]
      simp only [Option.bind_eq_bind, Option.pure_def, Option.bind_some]
      simp only [← finish, Option.pure_def]

theorem stops_readProperty {negated : Bool} {atom : Atom}
    (read : readProperty flags negated text = some (atom, rest)) :
    Stops (readProperty flags negated) text atom rest := by
  cases shape : flags.skipBlanks text with
  | nil =>
      simp only [readProperty, shape] at read
      exact absurd read.symm (Option.some_ne_none _)
  | cons c tail =>
      have within : tail <:+ text :=
        (List.suffix_cons c tail).trans (shape ▸ skipBlanks_suffix flags text)
      have longer : ∀ more, flags.skipBlanks (text ++ more) = c :: (tail ++ more) := fun more => by
        rw [skipBlanks_append (shape ▸ List.cons_ne_nil _ _), shape, List.cons_append]
      rw [readProperty_eq shape] at read
      by_cases brace : c = '\x7b'
      · rw [if_pos brace] at read
        rcases Option.bind_eq_some_iff.mp read with ⟨⟨content, after⟩, braced, made⟩
        rcases Option.bind_eq_some_iff.mp made with ⟨property, named, made⟩
        rcases Option.map_eq_some_iff.mp made with ⟨found, atomMade, same⟩
        rcases Prod.mk.inj same with ⟨rfl, rfl⟩
        have stops := stops_bracedContent braced
        constructor
        · exact stops.suffix.trans within
        · intro more
          rw [readProperty_eq (longer more), if_pos brace]
          simp only [stops.same, Option.bind_some, named, atomMade, Option.map_some]
      · rw [if_neg brace] at read
        by_cases slash : c = '\\'
        · rw [if_pos slash] at read
          exact absurd read.symm (Option.some_ne_none _)
        · rw [if_neg slash] at read
          rcases Option.bind_eq_some_iff.mp read with ⟨members, named, made⟩
          rcases Option.map_eq_some_iff.mp made with ⟨found, atomMade, same⟩
          rcases Prod.mk.inj same with ⟨rfl, rfl⟩
          constructor
          · exact within
          · intro more
            rw [readProperty_eq (longer more), if_neg brace, if_neg slash]
            simp only [named, Option.bind_some, atomMade, Option.map_some]

theorem stops_letterClass {negated : Bool} {members : Bool → Text.CharSet} {atom : Atom}
    (read : letterClass flags negated members text = some (atom, rest)) :
    Stops (letterClass flags negated members) text atom rest := by
  unfold letterClass at read
  split at read
  · next negates =>
      split at read
      · next wide =>
          rcases Prod.mk.inj (Option.some.inj read) with ⟨rfl, rfl⟩
          constructor
          · exact List.suffix_refl _
          · intro more
            rw [letterClass, if_pos negates, if_pos wide]
      · exact absurd read.symm (Option.some_ne_none _)
  · next plain =>
      rcases Prod.mk.inj (Option.some.inj read) with ⟨rfl, rfl⟩
      constructor
      · exact List.suffix_refl _
      · intro more
        rw [letterClass, if_neg plain]

theorem goesOn_readBoundary {atom : Atom} (read : readBoundary flags text = some (atom, rest)) :
    GoesOn (readBoundary flags) text atom rest := by
  cases text with
  | nil =>
      rcases Prod.mk.inj (Option.some.inj read) with ⟨rfl, rfl⟩
      exact ⟨List.suffix_refl _, fun some => absurd rfl some, fun _ => Or.inl fun more => rfl⟩
  | cons c inner =>
      apply Stops.goesOn
      by_cases brace : c = '\x7b'
      · subst brace
        cases shape : flags.skipBlanks inner with
        | nil =>
            simp only [readBoundary, shape] at read
            exact absurd read.symm (Option.some_ne_none _)
        | cons d tail =>
            have longer : ∀ more, flags.skipBlanks (inner ++ more) = d :: (tail ++ more) := by
              intro more
              rw [skipBlanks_append (shape ▸ List.cons_ne_nil _ _), shape, List.cons_append]
            simp only [readBoundary, shape] at read
            split at read
            · next named =>
                simp only [Option.bind_eq_bind, Option.bind_eq_some_iff] at read
                rcases read with ⟨⟨name, after⟩, braced, condition, isNamed, same⟩
                rcases Prod.mk.inj (Option.some.inj same) with ⟨rfl, rfl⟩
                have stops := stops_bracedContent braced
                constructor
                · exact stops.suffix.trans (List.suffix_cons _ inner)
                · intro more
                  simp only [List.cons_append, readBoundary, longer, named, if_true, stops.same,
                    isNamed, Option.bind_eq_bind, Option.bind_some, Option.pure_def]
            · next plain =>
                rcases Prod.mk.inj (Option.some.inj read) with ⟨rfl, rfl⟩
                constructor
                · exact List.suffix_refl _
                · intro more
                  simp only [List.cons_append, readBoundary, longer, plain, Bool.false_eq_true,
                    if_false]
      · have direct : ∀ others, readBoundary flags (c :: others) =
            some (.assertion (.wordBoundary flags.wide), c :: others) := by
          intro others
          unfold readBoundary
          split
          · next opens => exact absurd (List.cons.inj opens).1 brace
          · rfl
        rw [direct] at read
        rcases Prod.mk.inj (Option.some.inj read) with ⟨rfl, rfl⟩
        exact ⟨List.suffix_refl _, fun more => direct _⟩

/-- An escape goes on as the reader of its letter does. -/
theorem goesOn_readEscape {atom : Atom} (read : readEscape flags text = some (atom, rest)) :
    GoesOn (readEscape flags) text atom rest := by
  cases text with
  | nil => exact absurd read.symm (Option.some_ne_none _)
  | cons c tail =>
      have within : tail <:+ c :: tail := List.suffix_cons c tail
      have here : ∀ {made : Atom}, some (made, tail) = some (atom, rest) →
          (∀ others, readEscape flags (c :: others) = some (made, others)) →
          GoesOn (readEscape flags) (c :: tail) atom rest := by
        intro made found direct
        rcases Prod.mk.inj (Option.some.inj found) with ⟨rfl, rfl⟩
        exact (Stops.mk within fun more => by rw [List.cons_append, direct]).goesOn
      simp only [readEscape] at read
      split at read
      · exact (goesOn_readCode read).transfer within fun _ _ inside => inside
      · exact (goesOn_readCode read).transfer within fun _ _ inside => inside
      · exact (goesOn_readCode read).transfer within fun _ _ inside => inside
      · exact (stops_readProperty read).goesOn.transfer within fun _ _ inside => inside
      · exact (stops_readProperty read).goesOn.transfer within fun _ _ inside => inside
      · exact (stops_letterClass read).goesOn.transfer within fun _ _ inside => inside
      · exact (stops_letterClass read).goesOn.transfer within fun _ _ inside => inside
      · exact (stops_letterClass read).goesOn.transfer within fun _ _ inside => inside
      · exact (stops_letterClass read).goesOn.transfer within fun _ _ inside => inside
      · exact (stops_letterClass read).goesOn.transfer within fun _ _ inside => inside
      · exact (stops_letterClass read).goesOn.transfer within fun _ _ inside => inside
      · exact here read fun _ => rfl
      · exact here read fun _ => rfl
      · exact here read fun _ => rfl
      · exact here read fun _ => rfl
      · exact here read fun _ => rfl
      · exact here read fun _ => rfl
      · exact here read fun _ => rfl
      · exact here read fun _ => rfl
      · exact (goesOn_readBoundary read).transfer within fun _ _ inside => inside
      · exact here read fun _ => rfl
      · exact here read fun _ => rfl
      · exact here read fun _ => rfl
      · split at read
        · next punctuation =>
            refine here read fun others => ?_
            simp only [readEscape]
            split <;> simp_all
        · exact absurd read.symm (Option.some_ne_none _)

end Pattern
end PageRouting
