import PageRouting.Text.Blank
import PageRouting.Text.CaseFolding

namespace PageRouting
namespace Pattern

/-!
Flags change how the rest of a group is read.  A directive such as `i-s` turns
flags on and, after the hyphen, off; it may name each flag once and must not end
in the hyphen.  In verbose mode blanks and comments between the parts of a
pattern are skipped.
-/

inductive Flag where
  | ignoreCase
  | multiLine
  | dotAll
  | swapGreed
  | wide
  | carriageReturns
  | verbose
deriving DecidableEq, Repr

def Flag.ofChar? : Char → Option Flag
  | 'i' => some .ignoreCase
  | 'm' => some .multiLine
  | 's' => some .dotAll
  | 'U' => some .swapGreed
  | 'u' => some .wide
  | 'R' => some .carriageReturns
  | 'x' => some .verbose
  | _ => none

structure Flags where
  ignoreCase : Bool := false
  multiLine : Bool := false
  dotAll : Bool := false
  swapGreed : Bool := false
  /-- Classes range over all characters and not over ASCII only. -/
  wide : Bool := true
  carriageReturns : Bool := false
  verbose : Bool := false
deriving DecidableEq, Repr

namespace Flags

def set (flags : Flags) (flag : Flag) (value : Bool) : Flags :=
  match flag with
  | .ignoreCase => { flags with ignoreCase := value }
  | .multiLine => { flags with multiLine := value }
  | .dotAll => { flags with dotAll := value }
  | .swapGreed => { flags with swapGreed := value }
  | .wide => { flags with wide := value }
  | .carriageReturns => { flags with carriageReturns := value }
  | .verbose => { flags with verbose := value }

/-- One setting of a directive. -/
abbrev Setting := Flag × Bool

def setAll (flags : Flags) (settings : List Setting) : Flags :=
  settings.foldl (fun flags setting => flags.set setting.1 setting.2) flags

/-- The set with all characters of the other case, if case is ignored. -/
def foldCase (flags : Flags) (members : Text.CharSet) : Text.CharSet :=
  if flags.ignoreCase then Text.CaseFolding.close flags.wide members else members

end Flags

/-- A directive: its settings, and whether it opens a group of its own. -/
structure Directive where
  settings : List Flags.Setting
  opensGroup : Bool

/-- Read a directive up to the `:` or `)` that ends it.  `settings` are those read
so far, `value` what the next flag is set to, and `dangling` whether the last
character was the hyphen. -/
def Directive.read (settings : List Flags.Setting) (value dangling : Bool) :
    List Char → Option (Directive × List Char)
  | [] => none
  | ':' :: rest => if dangling then none else some (⟨settings, true⟩, rest)
  | ')' :: rest => if dangling then none else some (⟨settings, false⟩, rest)
  | '-' :: rest => if value then Directive.read settings false true rest else none
  | c :: rest =>
      match Flag.ofChar? c with
      | some flag =>
          if settings.any fun setting => setting.1 == flag then
            none
          else
            Directive.read (settings ++ [(flag, value)]) value false rest
      | none => none

/-- Drop blanks and comments; `inComment` says that a comment is being dropped. -/
def dropBlanks (inComment : Bool) : List Char → List Char
  | [] => []
  | c :: rest =>
      if inComment then dropBlanks (c != '\n') rest
      else if Text.isBlank c then dropBlanks false rest
      else if c == '#' then dropBlanks true rest
      else c :: rest

/-- The pattern text without blanks and comments at its start, in verbose mode. -/
def Flags.skipBlanks (flags : Flags) (text : List Char) : List Char :=
  if flags.verbose then dropBlanks false text else text

theorem length_dropBlanks_le (inComment : Bool) (text : List Char) :
    (dropBlanks inComment text).length ≤ text.length := by
  induction text generalizing inComment with
  | nil => simp [dropBlanks]
  | cons c rest ih =>
      simp only [dropBlanks]
      split
      · exact Nat.le_succ_of_le (ih _)
      · split
        · exact Nat.le_succ_of_le (ih _)
        · split
          · exact Nat.le_succ_of_le (ih _)
          · exact Nat.le_refl _

theorem length_skipBlanks_le (flags : Flags) (text : List Char) :
    (flags.skipBlanks text).length ≤ text.length := by
  unfold Flags.skipBlanks
  split
  · exact length_dropBlanks_le false text
  · exact Nat.le_refl _

end Pattern
end PageRouting
