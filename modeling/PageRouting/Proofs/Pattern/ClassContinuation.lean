import Mathlib.Data.List.TakeWhile
import PageRouting.Pattern.CharClass
import PageRouting.Proofs.Pattern.Continuation
import PageRouting.Proofs.Text.Split

namespace PageRouting
namespace Pattern

/-!
# Text after the end of a class

A class ends with its closing bracket, so that reading it never comes to the end
of the text and what follows is left alone.  The one thing to look at is the
start of a nested class, where what follows might turn it into a named class;
but the bracket that closes it stands before that, and no name has one.
-/

open Text (CharSet)

variable {flags : Flags} {text rest : List Char}

/-! ## Items and ranges -/

theorem readClassItem_of_ne {c : Char} (plain : c ≠ '\\') (others : List Char) :
    readClassItem flags (c :: others) = some (.literal c false, others) := by
  unfold readClassItem
  split
  · next nothing => exact absurd nothing (List.cons_ne_nil _ _)
  · next escapes => exact absurd (List.cons.inj escapes).1 plain
  · next shape =>
      rcases List.cons.inj shape with ⟨rfl, rfl⟩
      rfl

theorem goesOn_readClassItem {atom : Atom} (read : readClassItem flags text = some (atom, rest)) :
    GoesOn (readClassItem flags) text atom rest := by
  cases text with
  | nil => exact absurd read.symm (Option.some_ne_none _)
  | cons c tail =>
      by_cases escape : c = '\\'
      · subst escape
        exact (goesOn_readEscape read).transfer (List.suffix_cons _ tail) fun _ _ inside => inside
      · rw [readClassItem_of_ne escape] at read
        rcases Prod.mk.inj (Option.some.inj read) with ⟨rfl, rfl⟩
        exact (Stops.mk (List.suffix_cons c _) fun more => readClassItem_of_ne escape _).goesOn

/-- What is looked at after a hyphen in verbose mode. -/
def afterMark (rest : List Char) : List Char :=
  match rest.dropWhile Text.isBlank with
  | '#' :: comment => comment.dropWhile Text.isBlank
  | text => text

theorem afterHyphen_verbose (verbose : flags.verbose = true) (rest : List Char) :
    afterHyphen flags rest = ((afterMark rest).head? <|> rest.head?) := by
  simp only [afterHyphen, verbose, if_true]
  rfl

theorem afterHyphen_terse (terse : flags.verbose = false) (rest : List Char) :
    afterHyphen flags rest = rest.head? := by
  simp only [afterHyphen, terse, Bool.false_eq_true, if_false]

theorem afterMark_append (some : afterMark rest ≠ []) (more : List Char) :
    afterMark (rest ++ more) = afterMark rest ++ more := by
  have begun : rest.dropWhile Text.isBlank ≠ [] := by
    intro nothing
    exact some (by rw [afterMark, nothing])
  unfold afterMark at some ⊢
  rw [dropWhile_append begun]
  cases shape : rest.dropWhile Text.isBlank with
  | nil => exact absurd shape begun
  | cons c comment =>
      rw [shape] at some
      by_cases mark : c = '#'
      · subst mark
        exact dropWhile_append some more
      · rw [List.cons_append]
        split
        · next opens => exact absurd (List.cons.inj opens).1 mark
        · split
          · next opens => exact absurd (List.cons.inj opens).1 mark
          · rfl

theorem dropBlanks_of_all_blank {inComment : Bool} (blank : rest.dropWhile Text.isBlank = []) :
    dropBlanks inComment rest = [] := by
  induction rest generalizing inComment with
  | nil => rfl
  | cons c tail ih =>
      have here : Text.isBlank c = true := List.dropWhile_eq_nil_iff.mp blank c List.mem_cons_self
      have later : tail.dropWhile Text.isBlank = [] :=
        List.dropWhile_eq_nil_iff.mpr fun d member =>
          List.dropWhile_eq_nil_iff.mp blank d (List.mem_cons_of_mem c member)
      rw [dropBlanks]
      split
      · exact ih later
      · exact ih later

theorem dropBlanks_dropWhile (rest : List Char) :
    dropBlanks false (rest.dropWhile Text.isBlank) = dropBlanks false rest := by
  induction rest with
  | nil => rfl
  | cons c tail ih =>
      by_cases blank : Text.isBlank c = true
      · simp only [List.dropWhile_cons, blank, if_true, ih, dropBlanks, Bool.false_eq_true,
          if_false]
      · simp only [List.dropWhile_cons, blank, Bool.false_eq_true, if_false]

/-- With nothing to look at there are only blanks, and at most a comment of blanks. -/
theorem of_afterMark_eq_nil (nothing : afterMark rest = []) :
    dropBlanks false rest = [] ∧ ∀ c ∈ rest.head?, c = '#' ∨ Text.isBlank c = true := by
  rw [← dropBlanks_dropWhile]
  unfold afterMark at nothing
  constructor
  · split at nothing
    · next comment shape =>
        have begins : dropBlanks false ('#' :: comment) = dropBlanks true comment := rfl
        rw [shape, begins]
        exact dropBlanks_of_all_blank nothing
    · rw [nothing]
      rfl
  · cases rest with
    | nil => exact fun c member => absurd member (by simp)
    | cons d tail =>
        intro c member
        obtain rfl : d = c := by simpa using member
        by_cases blank : Text.isBlank d = true
        · exact Or.inr blank
        · left
          simp only [List.dropWhile_cons, blank, Bool.false_eq_true, if_false] at nothing
          split at nothing
          · next opens => exact (List.cons.inj opens).1
          · exact absurd nothing (List.cons_ne_nil _ _)

/-- What follows a hyphen is seen in the text at hand, if it is no blank or if
something is left to read. -/
theorem afterHyphen_append
    (visible : flags.skipBlanks rest ≠ [] ∨ afterHyphen flags rest = some ']' ∨
      afterHyphen flags rest = some '-') (more : List Char) :
    afterHyphen flags (rest ++ more) = afterHyphen flags rest := by
  have head : ∀ {text : List Char}, text ≠ [] → (text ++ more).head? = text.head? := by
    intro text some
    rcases List.exists_cons_of_ne_nil some with ⟨c, tail, rfl⟩
    rfl
  by_cases verbose : flags.verbose = true
  · rw [afterHyphen_verbose verbose] at visible ⊢
    rw [afterHyphen_verbose verbose]
    have seen : afterMark rest ≠ [] := by
      intro nothing
      rcases of_afterMark_eq_nil nothing with ⟨blank, first⟩
      rw [nothing] at visible
      rcases visible with some | closes | hyphen
      · exact some (by rw [Flags.skipBlanks, if_pos verbose, blank])
      · have := first ']' closes
        revert this
        decide
      · have := first '-' hyphen
        revert this
        decide
    rw [afterMark_append seen, head seen]
    cases shape : afterMark rest with
    | nil => exact absurd shape seen
    | cons c tail => rfl
  · have terse := Bool.eq_false_iff.mpr verbose
    rw [afterHyphen_terse terse] at visible ⊢
    rw [afterHyphen_terse terse]
    apply head
    rintro rfl
    rcases visible with some | closes | hyphen
    · exact some (skipBlanks_nil flags)
    · exact absurd closes (by decide)
    · exact absurd hyphen (by decide)

/-- The characters from one item to another. -/
def rangeOf? (flags : Flags) (first last : Atom) : Option CharSet :=
  match first, last with
  | .literal low _, .literal high _ => do
      let low ← classLiteral? flags low
      let high ← classLiteral? flags high
      if low ≤ high then some (CharSet.ofRange low.toNat high.toNat) else none
  | _, _ => none

/-- An item, and what is made of it. -/
theorem readClassRange_eq {first : Atom} {c : Char} {after tail : List Char}
    (item : readClassItem flags text = some (first, after))
    (shape : flags.skipBlanks after = c :: tail) :
    readClassRange flags text =
      if c = '-' then
        if afterHyphen flags tail = some ']' ∨ afterHyphen flags tail = some '-' then
          (itemSet? flags first).map fun members => (members, '-' :: tail)
        else
          (readClassItem flags (flags.skipBlanks tail)).bind fun (last, rest) =>
            (rangeOf? flags first last).map fun members => (members, rest)
      else (itemSet? flags first).map fun members => (members, c :: tail) := by
  simp only [readClassRange, item, Option.bind_eq_bind, Option.bind_some, shape]
  split
  · next nothing => exact absurd nothing (List.cons_ne_nil _ _)
  · next opens =>
      rcases List.cons.inj opens with ⟨rfl, rfl⟩
      rw [if_pos rfl]
      simp only [Bool.or_eq_true, beq_iff_eq]
      split
      · cases itemSet? flags first <;> rfl
      · congr 1
        funext ⟨last, rest⟩
        cases first with
        | literal low _ =>
            cases last with
            | literal high _ =>
                simp only [rangeOf?, Option.bind_eq_bind]
                cases classLiteral? flags low with
                | none => rfl
                | some low =>
                    cases classLiteral? flags high with
                    | none => rfl
                    | some high =>
                        simp only [Option.bind_some]
                        split <;> rfl
            | _ => rfl
        | _ => rfl
  · next plain =>
      rw [if_neg fun hyphen => plain tail (by rw [hyphen])]
      cases itemSet? flags first <;> rfl

/-- An item or a range with something left after it. -/
theorem stops_readClassRange {members : CharSet}
    (read : readClassRange flags text = some (members, rest)) (some : rest ≠ []) :
    Stops (readClassRange flags) text members rest := by
  cases item : readClassItem flags text with
  | none => simp [readClassRange, item] at read
  | some pair =>
      rcases pair with ⟨first, after⟩
      have goesOn := goesOn_readClassItem item
      cases shape : flags.skipBlanks after with
      | nil => simp [readClassRange, item, shape] at read
      | cons c tail =>
          have begun : after ≠ [] := by
            rintro rfl
            rw [skipBlanks_nil] at shape
            exact absurd shape.symm (List.cons_ne_nil _ _)
          have within : c :: tail <:+ text :=
            (shape ▸ skipBlanks_suffix flags after).trans goesOn.suffix
          have longer : ∀ more, flags.skipBlanks (after ++ more) = c :: (tail ++ more) :=
            fun more => by
              rw [skipBlanks_append (shape ▸ List.cons_ne_nil _ _), shape, List.cons_append]
          rw [readClassRange_eq item shape] at read
          have direct := fun more => readClassRange_eq (goesOn.inside begun more) (longer more)
          by_cases hyphen : c = '-'
          · rw [if_pos hyphen] at read
            by_cases ends : afterHyphen flags tail = Option.some ']' ∨
                afterHyphen flags tail = Option.some '-'
            · rw [if_pos ends] at read
              rcases Option.map_eq_some_iff.mp read with ⟨found, made, same⟩
              rcases Prod.mk.inj same with ⟨rfl, rfl⟩
              constructor
              · exact hyphen ▸ within
              · intro more
                rw [direct, if_pos hyphen, afterHyphen_append (Or.inr ends), if_pos ends, made]
                rfl
            · rw [if_neg ends] at read
              rcases Option.bind_eq_some_iff.mp read with ⟨⟨last, left⟩, second, made⟩
              rcases Option.map_eq_some_iff.mp made with ⟨found, ranged, same⟩
              rcases Prod.mk.inj same with ⟨rfl, rfl⟩
              have visible : flags.skipBlanks tail ≠ [] := by
                intro nothing
                rw [nothing] at second
                exact absurd second.symm (Option.some_ne_none _)
              have goesOn := goesOn_readClassItem second
              refine ⟨(goesOn.suffix.trans (skipBlanks_suffix flags tail)).trans
                ((List.suffix_cons c tail).trans within), fun more => ?_⟩
              rw [direct, if_pos hyphen, afterHyphen_append (Or.inl visible), if_neg ends,
                skipBlanks_append visible, goesOn.inside some]
              simp only [Option.bind_some, ranged, Option.map_some]
          · rw [if_neg hyphen] at read
            rcases Option.map_eq_some_iff.mp read with ⟨found, made, same⟩
            rcases Prod.mk.inj same with ⟨rfl, rfl⟩
            constructor
            · exact within
            · intro more
              rw [direct, if_neg hyphen, made]
              rfl

/-! ## Named classes -/

theorem not_mem_of_named?_eq_some {name : List Char} {members : CharSet}
    (named : NamedClass.named? (String.ofList name) = some members) : ']' ∉ name ∧ ':' ∉ name := by
  rcases Option.map_eq_some_iff.mp named with ⟨entry, found, _⟩
  have same : entry.1 = String.ofList name := by simpa using List.find?_some found
  have plain : ∀ entry ∈ NamedClass.bracketed, ']' ∉ entry.1.toList ∧ ':' ∉ entry.1.toList := by
    decide
  have := plain entry (List.mem_of_find?_eq_some found)
  rwa [same, String.toList_ofList] at this

/-- A name up to its colon and bracket, and its class. -/
def namedIn? (flags : Flags) (negated : Bool) (text : List Char) :
    Option (CharSet × List Char) :=
  match Text.cutAt ':' text with
  | (name, some (']' :: rest)) =>
      (NamedClass.named? (String.ofList name)).map fun members =>
        let folded := flags.foldCase members
        (if negated then folded.complement else folded, rest)
  | _ => none

/-- Whether a caret comes first, and the text after it. -/
def signed (body : List Char) : Bool × List Char :=
  match body with
  | '^' :: rest => (true, rest)
  | text => (false, text)

theorem signed_of_head?_ne {body : List Char} (plain : body.head? ≠ some '^') :
    signed body = (false, body) := by
  unfold signed
  split
  · exact absurd rfl plain
  · rfl

theorem readNamedClass?_colon (body : List Char) :
    readNamedClass? flags (':' :: body) = namedIn? flags (signed body).1 (signed body).2 := rfl

theorem readNamedClass?_negated (body : List Char) :
    readNamedClass? flags (':' :: '^' :: body) = namedIn? flags true body := rfl

theorem readNamedClass?_plain {body : List Char} (plain : body.head? ≠ some '^') :
    readNamedClass? flags (':' :: body) = namedIn? flags false body := by
  rw [readNamedClass?_colon, signed_of_head?_ne plain]

theorem readNamedClass?_of_ne {c : Char} (other : c ≠ ':') (body : List Char) :
    readNamedClass? flags (c :: body) = none := by
  unfold readNamedClass?
  split
  · next opens => exact absurd (List.cons.inj opens).1 other
  · rfl

theorem exists_of_namedIn? {negated : Bool} {members : CharSet}
    (read : namedIn? flags negated text = some (members, rest)) :
    ∃ name, ']' ∉ name ∧ text = name ++ ':' :: ']' :: rest ∧
      ∀ others, namedIn? flags negated (name ++ ':' :: ']' :: others) =
        some (members, others) := by
  unfold namedIn? at read
  split at read
  · next name after cut =>
      rcases Option.map_eq_some_iff.mp read with ⟨found, named, same⟩
      rcases Prod.mk.inj same with ⟨rfl, rfl⟩
      rcases not_mem_of_named?_eq_some named with ⟨noBracket, noColon⟩
      refine ⟨name, noBracket, ?_, fun others => ?_⟩
      · by_cases among : ':' ∈ text
        · rcases List.eq_append_cons_of_mem among with ⟨before, left, shape, absent⟩
          rw [shape, Text.cutAt_append_cons absent] at cut
          rcases Prod.mk.inj cut with ⟨rfl, left_eq⟩
          rw [shape, Option.some.inj left_eq]
        · rw [Text.cutAt_of_not_mem among] at cut
          exact absurd (Prod.mk.inj cut).2 (by simp)
      · simp only [namedIn?, Text.cutAt_append_cons noColon, named, Option.map_some]
  · exact absurd read.symm (Option.some_ne_none _)

/-- A named class is read up to the first closing bracket. -/
theorem exists_of_readNamedClass? {members : CharSet}
    (read : readNamedClass? flags text = some (members, rest)) :
    ∃ head, ']' ∉ head ∧ text = head ++ ']' :: rest ∧
      ∀ others, readNamedClass? flags (head ++ ']' :: others) = some (members, others) := by
  cases text with
  | nil => exact absurd read.symm (Option.some_ne_none _)
  | cons c body =>
      by_cases colon : c = ':'
      · subst colon
        by_cases negates : body.head? = some '^'
        · rcases List.head?_eq_some_iff.mp negates with ⟨tail, rfl⟩
          rw [readNamedClass?_negated] at read
          rcases exists_of_namedIn? read with ⟨name, noBracket, shape, same⟩
          refine ⟨':' :: '^' :: (name ++ [':']), ?_, ?_, fun others => ?_⟩
          · simpa using noBracket
          · simp [shape]
          · simpa [readNamedClass?_negated] using same others
        · rw [readNamedClass?_plain negates] at read
          rcases exists_of_namedIn? read with ⟨name, noBracket, shape, same⟩
          refine ⟨':' :: (name ++ [':']), ?_, ?_, fun others => ?_⟩
          · simpa using noBracket
          · simp [shape]
          · have plain : (name ++ ':' :: ']' :: others).head? ≠ some '^' := by
              rw [shape] at negates
              cases name with
              | nil => exact negates
              | cons d name => exact negates
            simpa [readNamedClass?_plain plain] using same others
      · rw [readNamedClass?_of_ne colon] at read
        exact absurd read.symm (Option.some_ne_none _)

theorem stops_readNamedClass? {members : CharSet}
    (read : readNamedClass? flags text = some (members, rest)) :
    Stops (readNamedClass? flags) text members rest := by
  rcases exists_of_readNamedClass? read with ⟨head, _, shape, same⟩
  subst shape
  constructor
  · exact (List.suffix_cons ']' rest).trans (List.suffix_append _ _)
  · intro more
    simpa using same (rest ++ more)

/-- With a closing bracket in the text, nothing behind the text makes a name of it. -/
theorem readNamedClass?_append_eq_none (nothing : readNamedClass? flags text = none)
    (closes : ']' ∈ text) (more : List Char) : readNamedClass? flags (text ++ more) = none := by
  cases read : readNamedClass? flags (text ++ more) with
  | none => rfl
  | some pair =>
      rcases pair with ⟨members, rest⟩
      rcases exists_of_readNamedClass? read with ⟨head, noBracket, shape, same⟩
      rcases List.eq_append_cons_of_mem closes with ⟨before, after, parts, absent⟩
      have aligned : before = head := by
        rw [parts, List.append_assoc, List.cons_append] at shape
        have cut := congrArg (Text.cutAt ']') shape
        rw [Text.cutAt_append_cons absent, Text.cutAt_append_cons noBracket] at cut
        exact (Prod.mk.inj cut).1
      rw [parts, aligned, same] at nothing
      exact absurd nothing (Option.some_ne_none _)

/-! ## Whole classes -/

theorem openClass_append (some : flags.skipBlanks text ≠ []) (more : List Char) :
    openClass flags (text ++ more) =
      ((openClass flags text).1, (openClass flags text).2 ++ more) := by
  unfold openClass
  rw [skipBlanks_append some]
  cases shape : flags.skipBlanks text with
  | nil => exact absurd shape some
  | cons c tail =>
      by_cases negates : c = '^'
      · subst negates
        rfl
      · rw [List.cons_append]
        split
        · next opens => exact absurd (List.cons.inj opens).1 negates
        · split
          · next opens => exact absurd (List.cons.inj opens).1 negates
          · rfl

theorem openClass_suffix (flags : Flags) (text : List Char) :
    (openClass flags text).2 <:+ text := by
  have skipped := skipBlanks_suffix flags text
  unfold openClass
  split
  · next rest shape => exact (List.suffix_cons _ rest).trans (shape ▸ skipped)
  · exact skipped

variable {current next : OpenClass} {outer around : List OpenClass}

/-- What is no bracket, no operator and no hyphen of its own begins an item. -/
theorem stepClass_eq_range {c : Char} {tail : List Char}
    (begun : (c == '-' && current.stage != .body) = false)
    (later : (c == ']' && current.stage == .fresh) = false) (opens : c ≠ '[') (closes : c ≠ ']')
    (single : ∀ sign ∈ ['&', '-', '~'], c = sign → tail.head? ≠ some sign) :
    stepClass flags current outer (c :: tail) =
      (readClassRange flags (c :: tail)).map fun (members, rest) =>
        .more (current.addFlat members) outer rest := by
  simp only [stepClass, begun, later, Bool.false_eq_true, if_false]
  split
  · exact absurd rfl opens
  · exact absurd rfl closes
  · exact absurd rfl (single '&' (by decide) rfl)
  · exact absurd rfl (single '-' (by decide) rfl)
  · exact absurd rfl (single '~' (by decide) rfl)
  · cases readClassRange flags (c :: tail) <;> rfl

/-- A bracket begins a named class or a class of its own. -/
theorem stepClass_bracket (tail : List Char) :
    stepClass flags current outer ('[' :: tail) =
      match readNamedClass? flags tail with
      | some (members, after) =>
          if flags.wide || tail.take 2 != [':', '^'] then
            some (.more (current.addFlat members) outer after)
          else none
      | none =>
          some (.more (openClass flags tail).1 ({ current with stage := .body } :: outer)
            (openClass flags tail).2) := rfl

theorem stepClass_bracket_more
    (step : stepClass flags current outer ('[' :: text) = some (.more next around rest))
    (closed : ']' ∈ rest) :
    rest <:+ text ∧ ∀ more, stepClass flags current outer ('[' :: (text ++ more)) =
      some (.more next around (rest ++ more)) := by
  rw [stepClass_bracket] at step
  simp only [stepClass_bracket]
  cases named : readNamedClass? flags text with
  | none =>
      simp only [named] at step
      rcases ClassStep.more.inj (Option.some.inj step) with ⟨rfl, rfl, rfl⟩
      have within := openClass_suffix flags text
      have some : flags.skipBlanks text ≠ [] := by
        intro nothing
        rw [openClass, nothing] at closed
        exact absurd closed List.not_mem_nil
      constructor
      · exact within
      · intro more
        simp only [readNamedClass?_append_eq_none named (within.subset closed),
          openClass_append some]
  | some pair =>
      rcases pair with ⟨members, after⟩
      simp only [named] at step
      have stops := stops_readNamedClass? named
      rcases exists_of_readNamedClass? named with ⟨head, _, shape, _⟩
      have long : 2 ≤ text.length := by
        cases head with
        | nil =>
            rw [shape, List.nil_append, readNamedClass?_of_ne (by decide)] at named
            exact absurd named.symm (Option.some_ne_none _)
        | cons c head => simp [shape]; omega
      split at step
      · next allowed =>
          rcases ClassStep.more.inj (Option.some.inj step) with ⟨rfl, rfl, rfl⟩
          constructor
          · exact stops.suffix
          · intro more
            simp only [stops.same, List.take_append_of_le_length long, allowed, if_true]
      · exact absurd step.symm (Option.some_ne_none _)

/-- Two equal signs are an operator, hyphens only after the first item. -/
theorem stepClass_operator (flags : Flags) (current : OpenClass) (outer : List OpenClass)
    {sign : Char} (among : sign ∈ ['&', '-', '~'])
    (inBody : sign = '-' → current.stage = .body) :
    ∃ operator, ∀ tail, stepClass flags current outer (sign :: sign :: tail) =
      some (.more (current.operate flags operator) outer tail) := by
  simp only [List.mem_cons, List.not_mem_nil, or_false] at among
  rcases among with rfl | rfl | rfl
  · exact ⟨.intersection, fun tail => rfl⟩
  · refine ⟨.difference, fun tail => ?_⟩
    simp [stepClass, inBody rfl]
  · exact ⟨.symmetricDifference, fun tail => rfl⟩

/-- A bracket that is no item closes the innermost class. -/
theorem stepClass_closing (later : (']' == ']' && current.stage == .fresh) = false)
    (tail : List Char) :
    stepClass flags current outer (']' :: tail) =
      (current.close? flags).bind fun closed =>
        match outer with
        | [] => some (.finished closed tail)
        | enclosing :: outer => some (.more (enclosing.add closed) outer tail) := by
  have begun : (']' == '-' && current.stage != .body) = false := rfl
  simp only [stepClass, begun, later, Bool.false_eq_true, if_false]
  rfl

/-- An operator or an item. -/
theorem stepClass_item_more {c : Char} {tail : List Char}
    (begun : (c == '-' && current.stage != .body) = false)
    (later : (c == ']' && current.stage == .fresh) = false) (opens : c ≠ '[') (closes : c ≠ ']')
    (step : stepClass flags current outer (c :: tail) = some (.more next around rest))
    (closed : ']' ∈ rest) :
    rest <:+ c :: tail ∧ ∀ more, stepClass flags current outer (c :: (tail ++ more)) =
      some (.more next around (rest ++ more)) := by
  by_cases single : ∀ sign ∈ ['&', '-', '~'], c = sign → tail.head? ≠ some sign
  · rw [stepClass_eq_range begun later opens closes single] at step
    rcases Option.map_eq_some_iff.mp step with ⟨⟨members, left⟩, read, made⟩
    rcases ClassStep.more.inj made with ⟨rfl, rfl, rfl⟩
    have stops := stops_readClassRange read (List.ne_nil_of_mem closed)
    have continued : tail ≠ [] := by
      rintro rfl
      rcases List.suffix_cons_iff.mp stops.suffix with whole | nothing
      · rw [whole] at closed
        exact closes (List.mem_singleton.mp closed).symm
      · rw [List.suffix_nil.mp nothing] at closed
        exact absurd closed List.not_mem_nil
    constructor
    · exact stops.suffix
    · intro more
      have same := stops.same more
      rw [List.cons_append] at same
      rw [stepClass_eq_range begun later opens closes, same]
      · rfl
      · intro sign among equal
        rcases List.exists_cons_of_ne_nil continued with ⟨d, others, rfl⟩
        exact single sign among equal
  · simp only [not_forall, not_not] at single
    rcases single with ⟨sign, among, rfl, twice⟩
    rcases List.head?_eq_some_iff.mp twice with ⟨others, rfl⟩
    have inBody : c = '-' → current.stage = .body := by
      rintro rfl
      simpa using begun
    rcases stepClass_operator flags current outer among inBody with ⟨operator, direct⟩
    rw [direct] at step
    rcases ClassStep.more.inj (Option.some.inj step) with ⟨rfl, rfl, rfl⟩
    exact ⟨(List.suffix_cons c _).trans (List.suffix_cons c _), fun more => direct _⟩

/-- A part of a class that is closed later on is read the same before any text. -/
theorem stepClass_more (step : stepClass flags current outer text = some (.more next around rest))
    (closed : ']' ∈ rest) :
    rest <:+ text ∧ ∀ more,
      stepClass flags current outer (text ++ more) = some (.more next around (rest ++ more)) := by
  cases text with
  | nil => exact absurd step.symm (Option.some_ne_none _)
  | cons c tail =>
      have within : tail <:+ c :: tail := List.suffix_cons c tail
      by_cases begun : (c == '-' && current.stage != .body) = true
      · simp only [stepClass, begun, if_true] at step
        rcases ClassStep.more.inj (Option.some.inj step) with ⟨rfl, rfl, rfl⟩
        exact ⟨within, fun more => by simp only [List.cons_append, stepClass, begun, if_true]⟩
      · have begun := Bool.eq_false_iff.mpr begun
        by_cases later : (c == ']' && current.stage == .fresh) = true
        · simp only [stepClass, begun, later, Bool.false_eq_true, if_false, if_true] at step
          rcases ClassStep.more.inj (Option.some.inj step) with ⟨rfl, rfl, rfl⟩
          constructor
          · exact within
          · intro more
            simp only [List.cons_append, stepClass, begun, later, Bool.false_eq_true, if_false,
              if_true]
        · have later := Bool.eq_false_iff.mpr later
          by_cases opens : c = '['
          · subst opens
            rcases stepClass_bracket_more step closed with ⟨shorter, same⟩
            exact ⟨shorter.trans within, same⟩
          · by_cases closes : c = ']'
            · subst closes
              rw [stepClass_closing later] at step
              rcases Option.bind_eq_some_iff.mp step with ⟨read, done, found⟩
              cases outer with
              | nil => exact absurd found (by simp)
              | cons enclosing outer =>
                  rcases ClassStep.more.inj (Option.some.inj found) with ⟨rfl, rfl, rfl⟩
                  constructor
                  · exact within
                  · intro more
                    rw [List.cons_append, stepClass_closing later, done]
                    rfl
            · exact stepClass_item_more begun later opens closes step closed

/-- Only a closing bracket can finish a class. -/
theorem exists_stepClass_more {c : Char} {tail : List Char} {result : ClassStep}
    (begun : (c == '-' && current.stage != .body) = false)
    (later : (c == ']' && current.stage == .fresh) = false) (closes : c ≠ ']')
    (step : stepClass flags current outer (c :: tail) = some result) :
    ∃ next around left, result = .more next around left := by
  by_cases opens : c = '['
  · subst opens
    rw [stepClass_bracket] at step
    split at step
    · split at step
      · exact ⟨_, _, _, (Option.some.inj step).symm⟩
      · exact absurd step.symm (Option.some_ne_none _)
    · exact ⟨_, _, _, (Option.some.inj step).symm⟩
  · by_cases single : ∀ sign ∈ ['&', '-', '~'], c = sign → tail.head? ≠ some sign
    · rw [stepClass_eq_range begun later opens closes single] at step
      rcases Option.map_eq_some_iff.mp step with ⟨pair, _, made⟩
      exact ⟨_, _, _, made.symm⟩
    · simp only [not_forall, not_not] at single
      rcases single with ⟨sign, among, rfl, twice⟩
      rcases List.head?_eq_some_iff.mp twice with ⟨others, rfl⟩
      have inBody : c = '-' → current.stage = .body := by
        rintro rfl
        simpa using begun
      rcases stepClass_operator flags current outer among inBody with ⟨operator, direct⟩
      exact ⟨_, _, _, (Option.some.inj ((direct others).symm.trans step)).symm⟩

/-- A class is finished by a closing bracket. -/
theorem stepClass_finished {read : ReadSet}
    (step : stepClass flags current outer text = some (.finished read rest)) :
    text = ']' :: rest ∧ ∀ others,
      stepClass flags current outer (']' :: others) = some (.finished read others) := by
  cases text with
  | nil => exact absurd step.symm (Option.some_ne_none _)
  | cons c tail =>
      by_cases begun : (c == '-' && current.stage != .body) = true
      · simp only [stepClass, begun, if_true] at step
        exact absurd step (by simp)
      · have begun := Bool.eq_false_iff.mpr begun
        by_cases later : (c == ']' && current.stage == .fresh) = true
        · simp only [stepClass, begun, later, Bool.false_eq_true, if_false, if_true] at step
          exact absurd step (by simp)
        · have later := Bool.eq_false_iff.mpr later
          by_cases closes : c = ']'
          · subst closes
            rw [stepClass_closing later] at step
            rcases Option.bind_eq_some_iff.mp step with ⟨closed, done, found⟩
            cases outer with
            | nil =>
                rcases ClassStep.finished.inj (Option.some.inj found) with ⟨rfl, rfl⟩
                exact ⟨rfl, fun others => by rw [stepClass_closing later, done]; rfl⟩
            | cons enclosing outer => exact absurd found (by simp)
          · rcases exists_stepClass_more begun later closes step with ⟨next, around, left, made⟩
            exact absurd made (by simp)

/-- With more text and at least as many steps a class is read the same, and it
has a closing bracket. -/
theorem readClassParts_append {bound : Nat} {read : ReadSet}
    (found : readClassParts flags bound current outer text = some (read, rest)) :
    rest <:+ text ∧ ']' ∈ text ∧ ∀ larger ≥ bound, ∀ more,
      readClassParts flags larger current outer (text ++ more) = some (read, rest ++ more) := by
  induction bound generalizing current outer text with
  | zero => exact absurd found.symm (Option.some_ne_none _)
  | succ bound ih =>
      have skipped := skipBlanks_suffix flags text
      rw [readClassParts] at found
      cases step : stepClass flags current outer (flags.skipBlanks text) with
      | none => rw [step] at found; exact absurd found.symm (Option.some_ne_none _)
      | some result =>
          have begun : flags.skipBlanks text ≠ [] := by
            intro nothing
            rw [nothing] at step
            exact absurd step.symm (Option.some_ne_none _)
          rw [step] at found
          cases result with
          | finished set left =>
              rcases Prod.mk.inj (Option.some.inj found) with ⟨rfl, rfl⟩
              rcases stepClass_finished step with ⟨shape, same⟩
              rw [shape] at skipped
              refine ⟨(List.suffix_cons ']' left).trans skipped,
                skipped.subset List.mem_cons_self, fun larger enough more => ?_⟩
              obtain ⟨larger, rfl⟩ : ∃ fewer, larger = fewer + 1 := ⟨larger - 1, by omega⟩
              rw [readClassParts, skipBlanks_append begun, shape, List.cons_append, same]
          | more next around left =>
              rcases ih found with ⟨shorter, closed, later⟩
              rcases stepClass_more step closed with ⟨within, same⟩
              refine ⟨(shorter.trans within).trans skipped,
                skipped.subset (within.subset closed), fun larger enough more => ?_⟩
              obtain ⟨larger, rfl⟩ : ∃ fewer, larger = fewer + 1 := ⟨larger - 1, by omega⟩
              rw [readClassParts, skipBlanks_append begun, same]
              exact later larger (by omega) more

/-- What comes after a class has no part in it. -/
theorem stops_readClass {read : ReadSet} (found : readClass flags text = some (read, rest)) :
    Stops (readClass flags) text read rest := by
  have parts : readClassParts flags ((openClass flags text).2.length + 1) (openClass flags text).1
      [] (openClass flags text).2 = some (read, rest) := found
  rcases readClassParts_append parts with ⟨shorter, closed, later⟩
  have some : flags.skipBlanks text ≠ [] := by
    intro nothing
    rw [openClass, nothing] at closed
    exact absurd closed List.not_mem_nil
  constructor
  · exact shorter.trans (openClass_suffix flags text)
  · intro more
    simp only [readClass, openClass_append some]
    exact later _ (by rw [List.length_append]; omega) more

end Pattern
end PageRouting
