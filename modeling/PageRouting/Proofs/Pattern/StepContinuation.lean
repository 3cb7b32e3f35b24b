import PageRouting.Pattern.Reading
import PageRouting.Proofs.Pattern.ClassContinuation

namespace PageRouting
namespace Pattern

/-!
# Text after the end of a part

A part of a pattern is read the same before a closing parenthesis, unless it ends
in an open comment that takes the parenthesis in.  A part that comes to the end
of the text can be one after which blanks are dropped, or one that might still be
followed by a sign; a parenthesis is no such sign.
-/

variable {flags : Flags} {text rest : List Char}

/-! ## Directives -/

/-- No flag is written as a mark of its own. -/
theorem ne_of_ofChar?_eq_some {c : Char} {flag : Flag} (isFlag : Flag.ofChar? c = some flag) :
    c ≠ ':' ∧ c ≠ ')' ∧ c ≠ '-' ∧ c ≠ '=' ∧ c ≠ '!' ∧ c ≠ '<' ∧ c ≠ 'P' := by
  refine ⟨?_, ?_, ?_, ?_, ?_, ?_, ?_⟩ <;>
  · rintro rfl
    exact absurd isFlag.symm (Option.some_ne_none _)

theorem Directive.read_flag {settings : List Flags.Setting} {value dangling : Bool} {c : Char}
    {flag : Flag} (isFlag : Flag.ofChar? c = some flag) (tail : List Char) :
    Directive.read settings value dangling (c :: tail) =
      if settings.any fun setting => setting.1 == flag then none
      else Directive.read (settings ++ [(flag, value)]) value false tail := by
  rcases ne_of_ofChar?_eq_some isFlag with ⟨colon, closing, hyphen, _⟩
  rw [Directive.read]
  · simp only [isFlag]
  · exact colon
  · exact closing
  · exact hyphen

/-- What a directive can begin with. -/
theorem Directive.cases_read {settings : List Flags.Setting} {value dangling : Bool} {c : Char}
    {tail : List Char} {directive : Directive}
    (read : Directive.read settings value dangling (c :: tail) = some (directive, rest)) :
    c = ':' ∨ c = ')' ∨ c = '-' ∨ ∃ flag, Flag.ofChar? c = some flag := by
  unfold Directive.read at read
  split at read
  · next nothing => exact absurd nothing (List.cons_ne_nil _ _)
  · next shape => exact Or.inl (List.cons.inj shape).1
  · next shape => exact Or.inr (Or.inl (List.cons.inj shape).1)
  · next shape => exact Or.inr (Or.inr (Or.inl (List.cons.inj shape).1))
  · next shape =>
      rcases List.cons.inj shape with ⟨rfl, rfl⟩
      split at read
      · next flag isFlag => exact Or.inr (Or.inr (Or.inr ⟨flag, isFlag⟩))
      · exact absurd read.symm (Option.some_ne_none _)

theorem Directive.stops_read {settings : List Flags.Setting} {value dangling : Bool}
    {directive : Directive}
    (read : Directive.read settings value dangling text = some (directive, rest)) :
    Stops (Directive.read settings value dangling) text directive rest := by
  induction text generalizing settings value dangling with
  | nil => exact absurd read.symm (Option.some_ne_none _)
  | cons c tail ih =>
      have within : tail <:+ c :: tail := List.suffix_cons c tail
      rcases Directive.cases_read read with rfl | rfl | rfl | ⟨flag, isFlag⟩
      · simp only [Directive.read] at read
        split at read
        · exact absurd read.symm (Option.some_ne_none _)
        · next ended =>
            rcases Prod.mk.inj (Option.some.inj read) with ⟨rfl, rfl⟩
            exact ⟨within, fun more => by simp only [List.cons_append, Directive.read, ended]; rfl⟩
      · simp only [Directive.read] at read
        split at read
        · exact absurd read.symm (Option.some_ne_none _)
        · next ended =>
            rcases Prod.mk.inj (Option.some.inj read) with ⟨rfl, rfl⟩
            exact ⟨within, fun more => by simp only [List.cons_append, Directive.read, ended]; rfl⟩
      · simp only [Directive.read] at read
        split at read
        · next on =>
            have stops := ih read
            constructor
            · exact stops.suffix.trans within
            · intro more
              simp only [List.cons_append, Directive.read, on, if_true, stops.same]
        · exact absurd read.symm (Option.some_ne_none _)
      · rw [Directive.read_flag isFlag] at read
        split at read
        · exact absurd read.symm (Option.some_ne_none _)
        · next fresh =>
            have stops := ih read
            constructor
            · exact stops.suffix.trans within
            · intro more
              rw [List.cons_append, Directive.read_flag isFlag, if_neg fresh, stops.same]

namespace Reader

variable {reader next : Reader}

/-! ## Groups -/

theorem readName_of_ne {first : Bool} {c : Char} (inside : c ≠ '>') (tail : List Char) :
    readName first (c :: tail) =
      if isNameChar first c then (readName false tail).map fun (name, rest) => (c :: name, rest)
      else none := by
  rw [readName]
  exact inside

theorem stops_readName {first : Bool} {name : List Char}
    (read : readName first text = some (name, rest)) : Stops (readName first) text name rest := by
  induction text generalizing first name with
  | nil => exact absurd read.symm (Option.some_ne_none _)
  | cons c tail ih =>
      by_cases ends : c = '>'
      · subst ends
        simp only [readName] at read
        split at read
        · exact absurd read.symm (Option.some_ne_none _)
        · next named =>
            rcases Prod.mk.inj (Option.some.inj read) with ⟨rfl, rfl⟩
            constructor
            · exact List.suffix_cons _ _
            · intro more
              simp only [List.cons_append, readName, named]
              rfl
      · rw [readName_of_ne ends] at read
        split at read
        · next allowed =>
            rcases Option.map_eq_some_iff.mp read with ⟨⟨others, left⟩, found, same⟩
            rcases Prod.mk.inj same with ⟨rfl, rfl⟩
            have stops := ih found
            constructor
            · exact stops.suffix.trans (List.suffix_cons c tail)
            · intro more
              rw [List.cons_append, readName_of_ne ends, if_pos allowed, stops.same]
              rfl
        · exact absurd read.symm (Option.some_ne_none _)

theorem stops_openNamed (read : reader.openNamed text = some (next, rest)) :
    Stops reader.openNamed text next rest := by
  simp only [openNamed, Option.bind_eq_bind, Option.bind_eq_some_iff] at read
  rcases read with ⟨⟨name, after⟩, named, opened⟩
  have stops := stops_readName named
  split at opened
  · exact absurd opened.symm (Option.some_ne_none _)
  · next fresh =>
      rcases Prod.mk.inj (Option.some.inj opened) with ⟨rfl, rfl⟩
      constructor
      · exact stops.suffix
      · intro more
        simp only [openNamed, stops.same, Option.bind_eq_bind, Option.bind_some, fresh]
        rfl

/-- A group with flags, or a directive. -/
def openFlags (reader : Reader) (text : List Char) : Option (Reader × List Char) :=
  (Directive.read [] true false text).bind fun (directive, rest) =>
    let flags := reader.flags.setAll directive.settings
    if directive.opensGroup then
      some (reader.openGroup none flags, rest)
    else if directive.settings.isEmpty then none
    else some ({ reader with flags := flags, level := reader.level.add .directive }, rest)

theorem stops_openFlags (read : reader.openFlags text = some (next, rest)) :
    Stops reader.openFlags text next rest := by
  rcases Option.bind_eq_some_iff.mp read with ⟨⟨directive, after⟩, found, made⟩
  have stops := Directive.stops_read found
  simp only at made
  split at made
  · next opens =>
      rcases Prod.mk.inj (Option.some.inj made) with ⟨rfl, rfl⟩
      constructor
      · exact stops.suffix
      · intro more
        simp only [openFlags, stops.same, Option.bind_some, opens, if_true]
  · next stays =>
      split at made
      · exact absurd made.symm (Option.some_ne_none _)
      · next sets =>
          rcases Prod.mk.inj (Option.some.inj made) with ⟨rfl, rfl⟩
          constructor
          · exact stops.suffix
          · intro more
            simp only [openFlags, stops.same, Option.bind_some, stays, sets, Bool.false_eq_true,
              if_false]

/-- Text after a parenthesis, the reader of what opens the group, and the text it
is given. -/
inductive Opening : List Char → (Reader → List Char → Option (Reader × List Char)) →
    List Char → Prop where
  | plain {text : List Char} (unmarked : text.head? ≠ some '?') :
      Opening text (fun reader text => some (reader.openCapture, text)) text
  | longName (rest : List Char) : Opening ('?' :: 'P' :: '<' :: rest) openNamed rest
  | name {c : Char} (rest : List Char) (first : c ∉ ['=', '!']) :
      Opening ('?' :: '<' :: c :: rest) openNamed (c :: rest)
  | flags {c : Char} (rest : List Char) (first : c ∉ ['=', '!', '<', 'P']) :
      Opening ('?' :: c :: rest) openFlags (c :: rest)

variable {opener : Reader → List Char → Option (Reader × List Char)} {after : List Char}

theorem readGroup_eq (opening : Opening (reader.flags.skipBlanks text) opener after) :
    reader.readGroup text = opener reader after := by
  generalize skipped : reader.flags.skipBlanks text = shown at opening
  simp only [readGroup, skipped]
  cases opening with
  | plain unmarked =>
      split
      · exact absurd rfl unmarked
      · exact absurd rfl unmarked
      · exact absurd rfl unmarked
      · exact absurd rfl unmarked
      · exact absurd rfl unmarked
      · exact absurd rfl unmarked
      · exact absurd rfl unmarked
      · rfl
  | longName rest => rfl
  | name rest first =>
      simp only [List.mem_cons, List.not_mem_nil, or_false, not_or] at first
      split
      · next shape => cases shape
      · next shape => cases shape
      · next shape => cases shape; exact absurd rfl first.1
      · next shape => cases shape; exact absurd rfl first.2
      · next shape => cases shape
      · next shape => cases shape; rfl
      · next absent shape => cases shape; exact absurd rfl (absent _)
      · next absent => exact absurd rfl (absent _)
  | flags rest first =>
      simp only [List.mem_cons, List.not_mem_nil, or_false, not_or] at first
      split
      · next shape => cases shape; exact absurd rfl first.1
      · next shape => cases shape; exact absurd rfl first.2.1
      · next shape => cases shape; exact absurd rfl first.2.2.1
      · next shape => cases shape; exact absurd rfl first.2.2.1
      · next shape => cases shape; exact absurd rfl first.2.2.2
      · next shape => cases shape; exact absurd rfl first.2.2.1
      · next shape => cases shape; rfl
      · next absent => exact absurd rfl (absent _)

/-- A group that can be read opens in one of these ways. -/
theorem exists_opening (read : reader.readGroup text = some (next, rest)) :
    ∃ opener after, Opening (reader.flags.skipBlanks text) opener after := by
  generalize skipped : reader.flags.skipBlanks text = shown
  simp only [readGroup, skipped] at read
  split at read
  · exact absurd read.symm (Option.some_ne_none _)
  · exact absurd read.symm (Option.some_ne_none _)
  · exact absurd read.symm (Option.some_ne_none _)
  · exact absurd read.symm (Option.some_ne_none _)
  · exact ⟨_, _, .longName _⟩
  · next inner notEqual notMark =>
      cases inner with
      | nil => exact absurd read.symm (Option.some_ne_none _)
      | cons c tail =>
          refine ⟨_, _, .name tail ?_⟩
          simp only [List.mem_cons, List.not_mem_nil, or_false, not_or]
          exact ⟨fun same => notEqual tail (by rw [same]), fun same => notMark tail (by rw [same])⟩
  · next inner notEqual notMark _ _ _ notName =>
      cases inner with
      | nil => exact absurd read.symm (Option.some_ne_none _)
      | cons c tail =>
          refine ⟨_, _, .flags tail ?_⟩
          simp only [List.mem_cons, List.not_mem_nil, or_false, not_or]
          refine ⟨fun same => notEqual tail (by rw [same]), fun same => notMark tail (by rw [same]),
            fun same => notName tail (by rw [same]), ?_⟩
          rintro rfl
          exact absurd read.symm (Option.some_ne_none _)
  · next unmarked =>
      refine ⟨_, _, .plain fun marked => ?_⟩
      rcases List.head?_eq_some_iff.mp marked with ⟨tail, shape⟩
      exact unmarked tail shape

theorem Opening.append {shown : List Char} (opening : Opening shown opener after)
    (begun : shown ≠ []) (more : List Char) : Opening (shown ++ more) opener (after ++ more) := by
  cases opening with
  | plain unmarked =>
      rcases List.exists_cons_of_ne_nil begun with ⟨c, tail, rfl⟩
      exact .plain unmarked
  | longName rest => exact .longName _
  | name rest first => exact .name _ first
  | flags rest first => exact .flags _ first

theorem Opening.suffix {shown : List Char} (opening : Opening shown opener after) :
    after <:+ shown := by
  cases opening with
  | plain unmarked => exact List.suffix_refl _
  | longName rest =>
      exact (List.suffix_cons _ _).trans
        ((List.suffix_cons _ _).trans (List.suffix_cons _ _))
  | name rest first => exact (List.suffix_cons _ _).trans (List.suffix_cons _ _)
  | flags rest first => exact List.suffix_cons _ _

theorem Opening.stops {shown : List Char} (opening : Opening shown opener after)
    (read : opener reader after = some (next, rest)) : Stops (opener reader) after next rest := by
  cases opening with
  | plain unmarked =>
      rcases Prod.mk.inj (Option.some.inj read) with ⟨rfl, rfl⟩
      exact ⟨List.suffix_refl _, fun more => rfl⟩
  | longName rest => exact stops_openNamed read
  | name rest first => exact stops_openNamed read
  | flags rest first => exact stops_openFlags read

theorem goesOn_readGroup (read : reader.readGroup text = some (next, rest)) :
    GoesOn reader.readGroup text next rest := by
  rcases exists_opening read with ⟨opener, after, opening⟩
  rw [readGroup_eq opening] at read
  by_cases empty : reader.flags.skipBlanks text = []
  · rw [empty] at opening
    cases opening with
    | plain unmarked =>
        rcases Prod.mk.inj (Option.some.inj read) with ⟨rfl, rfl⟩
        refine ⟨List.nil_suffix, fun some => absurd rfl some, fun _ => ?_⟩
        rcases skipBlanks_eq_nil empty with visible | lost
        · refine Or.inl fun more => ?_
          have opens : Opening (')' :: more) _ (')' :: more) := .plain (by simp)
          rw [← visible] at opens
          rw [readGroup_eq opens, visible]
        · rw [← lost] at unmarked
          exact Or.inr (by rw [readGroup_eq (.plain unmarked), lost])
  · have stops := opening.stops read
    refine (Stops.mk ((stops.suffix.trans opening.suffix).trans (skipBlanks_suffix _ text))
      fun more => ?_).goesOn
    have longer := opening.append empty more
    rw [← skipBlanks_append empty] at longer
    rw [readGroup_eq longer, stops.same]

/-! ## Repetitions -/

theorem readLazy_of_ne {c : Char} (greedy : c ≠ '?') (tail : List Char) :
    readLazy (c :: tail) = (false, c :: tail) := by
  unfold readLazy
  split
  · next shape => exact absurd (List.cons.inj shape).1 greedy
  · rfl

theorem readLazy_append (begun : text ≠ []) (more : List Char) :
    readLazy (text ++ more) = ((readLazy text).1, (readLazy text).2 ++ more) := by
  rcases List.exists_cons_of_ne_nil begun with ⟨c, tail, rfl⟩
  by_cases lazy : c = '?'
  · subst lazy
    rfl
  · rw [List.cons_append, readLazy_of_ne lazy, readLazy_of_ne lazy, List.cons_append]

theorem readLazy_suffix (text : List Char) : (readLazy text).2 <:+ text := by
  unfold readLazy
  split
  · exact List.suffix_cons _ _
  · exact List.suffix_refl _

variable {least : Nat} {most : Option Nat}

theorem readSign_eq (text : List Char) :
    reader.readSign least most text =
      (reader.repeatLast? least most (readLazy text).1).map fun next =>
        (next, (readLazy text).2) := rfl

theorem goesOn_readSign (read : reader.readSign least most text = some (next, rest)) :
    GoesOn (reader.readSign least most) text next rest := by
  rw [readSign_eq] at read
  rcases Option.map_eq_some_iff.mp read with ⟨repeated, made, same⟩
  rcases Prod.mk.inj same with ⟨rfl, rfl⟩
  by_cases empty : text = []
  · subst empty
    refine ⟨List.suffix_refl _, fun some => absurd rfl some, fun _ => Or.inl fun more => ?_⟩
    rw [List.nil_append, readSign_eq, readLazy_of_ne (by decide)]
    exact congrArg (Option.map _) made
  · refine (Stops.mk (readLazy_suffix text) fun more => ?_).goesOn
    rw [readSign_eq, readLazy_append empty, made]
    rfl

theorem countDigits_append {verbose inComment : Bool} {digits : List Char}
    (read : countDigits verbose inComment text = (digits, rest)) (some : rest ≠ []) :
    rest <:+ text ∧
      ∀ more, countDigits verbose inComment (text ++ more) = (digits, rest ++ more) := by
  induction text generalizing inComment digits with
  | nil => exact absurd (Prod.mk.inj read).2.symm some
  | cons c tail ih =>
      have longer : ∀ {inside : Bool}, countDigits verbose inside tail = (digits, rest) →
          (∀ others, countDigits verbose inComment (c :: others) =
            countDigits verbose inside others) →
          rest <:+ c :: tail ∧ ∀ more,
            countDigits verbose inComment (c :: tail ++ more) = (digits, rest ++ more) := by
        intro inside found skips
        rcases ih found with ⟨suffix, same⟩
        exact ⟨suffix.trans (List.suffix_cons c tail), fun more => by
          rw [List.cons_append, skips, same]⟩
      simp only [countDigits] at read
      split at read
      · next comment => exact longer read fun others => by simp only [countDigits, comment, if_true]
      · next code =>
          split at read
          · next digit =>
              rcases Prod.mk.inj read with ⟨rfl, rfl⟩
              rcases ih rfl with ⟨suffix, same⟩
              constructor
              · exact suffix.trans (List.suffix_cons c tail)
              · intro more
                simp [countDigits, code, digit, same]
          · next other =>
              split at read
              · next blank =>
                  exact longer read fun others => by simp [countDigits, code, other, blank]
              · next visible =>
                  split at read
                  · next mark =>
                      exact longer read fun others => by
                        simp [countDigits, code, other, visible, mark]
                  · next plain =>
                      rcases Prod.mk.inj read with ⟨rfl, rfl⟩
                      constructor
                      · exact List.suffix_refl _
                      · intro more
                        simp [countDigits, code, other, visible, plain]

/-- The number of repetitions that digits write. -/
def numberOf? : List Char → Option Nat
  | [] => none
  | digits =>
      let count := digits.foldl (fun count c => 10 * count + (c.toNat - '0'.toNat)) 0
      if count ≤ maxCount then some count else none

theorem readCount_eq {digits after : List Char}
    (shape : countDigits flags.verbose false (text.dropWhile Text.isBlank) = (digits, after)) :
    readCount flags text =
      (numberOf? digits).map fun count => (count, after.dropWhile Text.isBlank) := by
  simp only [readCount, shape]
  cases digits with
  | nil => rfl
  | cons digit digits =>
      simp only [numberOf?]
      split <;> rfl

theorem stops_readCount {count : Nat} (read : readCount flags text = some (count, rest))
    (some : rest ≠ []) : Stops (readCount flags) text count rest := by
  obtain ⟨digits, after, shape⟩ : ∃ digits after,
      countDigits flags.verbose false (text.dropWhile Text.isBlank) = (digits, after) :=
    ⟨_, _, rfl⟩
  rw [readCount_eq shape] at read
  rcases Option.map_eq_some_iff.mp read with ⟨number, made, same⟩
  rcases Prod.mk.inj same with ⟨rfl, rfl⟩
  have begun : after ≠ [] := by
    rintro rfl
    exact some rfl
  rcases countDigits_append shape begun with ⟨suffix, longer⟩
  have visible : text.dropWhile Text.isBlank ≠ [] := by
    intro nothing
    rw [nothing] at suffix
    exact begun (List.suffix_nil.mp suffix)
  refine ⟨((List.dropWhile_suffix _).trans suffix).trans (List.dropWhile_suffix _),
    fun more => ?_⟩
  have direct := longer more
  rw [← dropWhile_append visible] at direct
  rw [readCount_eq direct, made, dropWhile_append some]
  rfl

/-- The closing brace after the bounds of a repetition. -/
def closeBounds (least : Nat) (most : Option Nat) (rest : List Char) :
    Option ((Nat × Option Nat) × List Char) :=
  match rest with
  | '\x7d' :: rest =>
      if most.all fun most => least ≤ most then some ((least, most), rest) else none
  | _ => none

theorem eq_of_closeBounds {bounds : Nat × Option Nat}
    (read : closeBounds least most text = some (bounds, rest)) :
    text = '\x7d' :: rest ∧
      ∀ others, closeBounds least most ('\x7d' :: others) = some (bounds, others) := by
  unfold closeBounds at read
  split at read
  · split at read
    · next allowed =>
        rcases Prod.mk.inj (Option.some.inj read) with ⟨rfl, rfl⟩
        exact ⟨rfl, fun others => by simp only [closeBounds, allowed, if_true]⟩
    · exact absurd read.symm (Option.some_ne_none _)
  · exact absurd read.symm (Option.some_ne_none _)

/-- What follows the least number of repetitions. -/
def readMost (flags : Flags) (least : Nat) (text : List Char) :
    Option (Option Nat × List Char) :=
  match text with
  | ',' :: rest =>
      match flags.skipBlanks rest with
      | '\x7d' :: rest => some (none, '\x7d' :: rest)
      | rest => (readCount flags rest).map fun (most, rest) => (some most, rest)
  | rest => some (some least, rest)

theorem readMost_of_ne {c : Char} (single : c ≠ ',') (tail : List Char) :
    readMost flags least (c :: tail) = some (some least, c :: tail) := by
  unfold readMost
  split
  · next shape => exact absurd (List.cons.inj shape).1 single
  · rfl

theorem readMost_comma (tail : List Char) :
    readMost flags least (',' :: tail) =
      if (flags.skipBlanks tail).head? = some '\x7d' then some (none, flags.skipBlanks tail)
      else (readCount flags (flags.skipBlanks tail)).map fun (most, rest) => (some most, rest) := by
  simp only [readMost]
  split
  · next shape => rw [shape]; rfl
  · next continues =>
      rw [if_neg]
      intro closes
      rcases List.head?_eq_some_iff.mp closes with ⟨others, shape⟩
      exact continues others shape

theorem readBounds_eq (text : List Char) :
    readBounds flags text =
      (readCount flags (flags.skipBlanks text)).bind fun (least, after) =>
        (readMost flags least after).bind fun (most, rest) => closeBounds least most rest := by
  simp only [readBounds, Option.bind_eq_bind]
  congr 1
  funext ⟨least, after⟩
  cases after with
  | nil => rfl
  | cons c tail =>
      by_cases comma : c = ','
      · subst comma
        simp only [readMost_comma]
        split
        · next shape =>
            rw [if_pos (by rw [shape]; rfl), shape]
            rfl
        · next continues =>
            rw [if_neg]
            · cases readCount flags (flags.skipBlanks tail) <;> rfl
            · intro closes
              rcases List.head?_eq_some_iff.mp closes with ⟨others, shape⟩
              exact continues others shape
      · simp only [readMost_of_ne comma]
        split
        · next shape => exact absurd (List.cons.inj shape).1 comma
        · rfl

theorem stops_readMost (read : readMost flags least text = some (most, rest)) (some : rest ≠ []) :
    Stops (readMost flags least) text most rest := by
  cases text with
  | nil =>
      rcases Prod.mk.inj (Option.some.inj read) with ⟨rfl, rfl⟩
      exact absurd rfl some
  | cons c tail =>
      by_cases comma : c = ','
      · subst comma
        have within : flags.skipBlanks tail <:+ ',' :: tail :=
          (skipBlanks_suffix flags tail).trans (List.suffix_cons _ _)
        rw [readMost_comma] at read
        by_cases closes : (flags.skipBlanks tail).head? = Option.some '\x7d'
        · rw [if_pos closes] at read
          rcases Prod.mk.inj (Option.some.inj read) with ⟨rfl, rfl⟩
          constructor
          · exact within
          · intro more
            rcases List.head?_eq_some_iff.mp closes with ⟨others, shape⟩
            rw [List.cons_append, readMost_comma, skipBlanks_append some, shape]
            rfl
        · rw [if_neg closes] at read
          rcases Option.map_eq_some_iff.mp read with ⟨⟨count, left⟩, counted, same⟩
          rcases Prod.mk.inj same with ⟨rfl, rfl⟩
          have stops := stops_readCount counted some
          have begun : flags.skipBlanks tail ≠ [] := by
            intro nothing
            have suffix := stops.suffix
            rw [nothing] at suffix
            exact some (List.suffix_nil.mp suffix)
          constructor
          · exact stops.suffix.trans within
          · intro more
            rw [List.cons_append, readMost_comma, skipBlanks_append begun, stops.same, if_neg]
            · rfl
            · rcases List.exists_cons_of_ne_nil begun with ⟨d, others, shape⟩
              rw [shape] at closes ⊢
              exact closes
      · rw [readMost_of_ne comma] at read
        rcases Prod.mk.inj (Option.some.inj read) with ⟨rfl, rfl⟩
        exact ⟨List.suffix_refl _, fun more => readMost_of_ne comma _⟩

theorem stops_readBounds {bounds : Nat × Option Nat}
    (read : readBounds flags text = some (bounds, rest)) :
    Stops (readBounds flags) text bounds rest := by
  rw [readBounds_eq] at read
  rcases Option.bind_eq_some_iff.mp read with ⟨⟨least, after⟩, counted, others⟩
  rcases Option.bind_eq_some_iff.mp others with ⟨⟨most, left⟩, bounded, closed⟩
  rcases eq_of_closeBounds closed with ⟨shape, closing⟩
  have upper := stops_readMost bounded (shape ▸ List.cons_ne_nil _ _)
  have ne_nil : ∀ {shorter longer : List Char},
      shorter <:+ longer → shorter ≠ [] → longer ≠ [] := by
    rintro shorter longer suffix some rfl
    exact some (List.suffix_nil.mp suffix)
  have afterSome := ne_nil upper.suffix (shape ▸ List.cons_ne_nil _ _)
  have lower := stops_readCount counted afterSome
  refine ⟨?_, fun more => ?_⟩
  · have tail : rest <:+ left := shape ▸ List.suffix_cons _ rest
    exact ((tail.trans upper.suffix).trans lower.suffix).trans (skipBlanks_suffix flags text)
  · rw [readBounds_eq, skipBlanks_append (ne_nil lower.suffix afterSome), lower.same]
    simp only [Option.bind_some, upper.same]
    rw [shape]
    exact closing _

theorem goesOn_readCounted (read : reader.readCounted text = some (next, rest)) :
    GoesOn reader.readCounted text next rest := by
  simp only [readCounted, Option.bind_eq_bind] at read
  rcases Option.bind_eq_some_iff.mp read with ⟨⟨⟨least, most⟩, after⟩, bounded, signed⟩
  have bounds := stops_readBounds bounded
  have later := (goesOn_readSign signed).afterBlanks signed fun empty => by
    have suffix := (goesOn_readSign signed).suffix
    rw [empty] at suffix
    exact List.suffix_nil.mp suffix
  refine later.transfer bounds.suffix fun more left inside => ?_
  simp only [readCounted, bounds.same, Option.bind_eq_bind, Option.bind_some]
  exact inside

/-! ## Parts -/

/-- Characters that do not just add a node of their own. -/
def isLeading (c : Char) : Bool :=
  ['(', ')', '|', '[', '?', '*', '+', '\x7b', '\\'].contains c

/-- The node of a character that stands by itself. -/
def plainNode? (flags : Flags) : Char → Option Node
  | '.' => dot? flags
  | '^' => some (lineStart flags)
  | '$' => some (lineEnd flags)
  | c => literal? flags c false

theorem step_plain {c : Char} (plain : isLeading c = false) (text : List Char) :
    reader.step c text =
      (plainNode? reader.flags c).map fun node => (reader.addFlat node, text) := by
  unfold step plainNode?
  split
  · exact absurd plain (by decide)
  · exact absurd plain (by decide)
  · exact absurd plain (by decide)
  · exact absurd plain (by decide)
  · exact absurd plain (by decide)
  · exact absurd plain (by decide)
  · exact absurd plain (by decide)
  · exact absurd plain (by decide)
  · exact absurd plain (by decide)
  · rfl
  · rfl
  · rfl
  · next notDot notStart notEnd =>
      split
      · exact absurd rfl notDot
      · exact absurd rfl notStart
      · exact absurd rfl notEnd
      · rfl

theorem step_class (text : List Char) :
    reader.step '[' text =
      (readClass reader.flags text).bind fun (read, rest) =>
        (reader.add? (.ofSet read.members reader.flags.wide) read.height).map fun next =>
          (next, rest) := by
  simp only [step, Option.bind_eq_bind]
  congr 1
  funext ⟨read, rest⟩
  cases reader.add? (.ofSet read.members reader.flags.wide) read.height <;> rfl

theorem step_escape (text : List Char) :
    reader.step '\\' text =
      (readEscape reader.flags text).bind fun (atom, rest) =>
        (atomNode? reader.flags atom).map fun node => (reader.addFlat node, rest) := by
  simp only [step, Option.bind_eq_bind]
  congr 1
  funext ⟨atom, rest⟩
  cases atomNode? reader.flags atom <;> rfl

/-- A character that begins a longer part, or closes or divides a group. -/
theorem eq_of_isLeading {c : Char} (leading : isLeading c = true) :
    c = '(' ∨ c = ')' ∨ c = '|' ∨ c = '[' ∨ c = '?' ∨ c = '*' ∨ c = '+' ∨ c = '\x7b' ∨
      c = '\\' := by
  have among := List.mem_of_elem_eq_true leading
  simpa only [List.mem_cons, List.not_mem_nil, or_false] using among

/-- A part of a pattern goes on as the reader of its first character does. -/
theorem goesOn_step {c : Char} (read : reader.step c text = some (next, rest)) :
    GoesOn (reader.step c) text next rest := by
  have sameText := List.suffix_refl text
  have here : ∀ {Made : Type} (made : Option Made) (result : Made → Reader),
      reader.step c text = made.map (fun value => (result value, text)) →
      (∀ others, reader.step c others = made.map fun value => (result value, others)) →
      GoesOn (reader.step c) text next rest := by
    intro Made made result found direct
    rw [found] at read
    rcases Option.map_eq_some_iff.mp read with ⟨value, isMade, same⟩
    rcases Prod.mk.inj same with ⟨rfl, rfl⟩
    refine (Stops.mk sameText fun more => ?_).goesOn
    rw [direct, isMade, Option.map_some]
  cases leading : isLeading c with
  | false => exact here _ _ (step_plain leading text) (step_plain leading)
  | true =>
      rcases eq_of_isLeading leading with
        rfl | rfl | rfl | rfl | rfl | rfl | rfl | rfl | rfl
      · exact (goesOn_readGroup read).transfer sameText fun _ _ inside => inside
      · exact here reader.closeGroup? id rfl fun _ => rfl
      · exact here (some ()) (fun _ => { reader with level := reader.level.nextBranch }) rfl
          fun _ => rfl
      · rw [step_class] at read
        rcases Option.bind_eq_some_iff.mp read with ⟨⟨set, after⟩, found, made⟩
        rcases Option.map_eq_some_iff.mp made with ⟨added, isMade, same⟩
        rcases Prod.mk.inj same with ⟨rfl, rfl⟩
        refine (stops_readClass found).goesOn.transfer sameText fun more left inside => ?_
        simp only [step_class, inside, Option.bind_some, isMade, Option.map_some]
      · exact (goesOn_readSign read).transfer sameText fun _ _ inside => inside
      · exact (goesOn_readSign read).transfer sameText fun _ _ inside => inside
      · exact (goesOn_readSign read).transfer sameText fun _ _ inside => inside
      · exact (goesOn_readCounted read).transfer sameText fun _ _ inside => inside
      · rw [step_escape] at read
        rcases Option.bind_eq_some_iff.mp read with ⟨⟨atom, after⟩, found, made⟩
        rcases Option.map_eq_some_iff.mp made with ⟨node, isMade, same⟩
        rcases Prod.mk.inj same with ⟨rfl, rfl⟩
        refine (goesOn_readEscape found).transfer sameText fun more left inside => ?_
        simp only [step_escape, inside, Option.bind_some, isMade, Option.map_some]

end Reader
end Pattern
end PageRouting
