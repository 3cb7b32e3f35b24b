import PageRouting.Text.Blank
import PageRouting.Text.Split
import PageRouting.Text.Word

namespace PageRouting
namespace Declaration

/-!
One declared line: `segment (path) -> index`, behind blanks that give its depth.
Path and index are optional, each is preceded by exactly one space, and one more
space may end the line.  A line without an ASCII letter, digit or `_` declares
nothing.  A line that has one of these but not the form of a declaration still
counts: it declares an empty segment, so that its depth shapes the tree.
-/

structure Line where
  depth : Nat
  segment : String
  path : Option String
  index : Option String
deriving DecidableEq, Repr

/-- What may follow the segment of a line. -/
structure Tail where
  path : Option (List Char)
  index : Option (List Char)
deriving DecidableEq, Repr

/-- Whether nothing but an optional space is left of a line. -/
def isLineEnd : List Char → Bool
  | [] => true
  | [' '] => true
  | _ => false

def notBlank (c : Char) : Bool :=
  !Text.isBlank c

/-- The index at the end of a line, if the text has that form. -/
def readIndex? : List Char → Option (Option (List Char))
  | ' ' :: '-' :: '>' :: ' ' :: rest =>
      if isLineEnd (rest.dropWhile notBlank) then some (some (rest.takeWhile notBlank)) else none
  | text => if isLineEnd text then some none else none

/-- Path and index at the end of a line, if the text has that form. -/
def readTail? : List Char → Option Tail
  | ' ' :: '(' :: rest =>
      match Text.cutAt ')' rest with
      | (path, some after) => (readIndex? after).map fun index => ⟨some path, index⟩
      | (_, none) => none
  | text => (readIndex? text).map fun index => ⟨none, index⟩

/-- The line with the given depth and parts. -/
def Line.of (depth : Nat) (segment : List Char) (tail : Tail) : Line where
  depth := depth
  segment := String.ofList segment
  path := tail.path.map String.ofList
  index := tail.index.map String.ofList

/-- A line that declares no segment, path or index. -/
def Line.blank (depth : Nat) : Line where
  depth := depth
  segment := ""
  path := none
  index := none

/-- Read a line.  The last of the leading blanks is taken for the space before a
path or an index if the line cannot be read otherwise. -/
def readLine? (line : List Char) : Option Line :=
  if line.any Text.isAsciiWord then
    let blanks := line.takeWhile Text.isBlank
    let rest := line.dropWhile Text.isBlank
    let segment := rest.takeWhile notBlank
    some <|
      match readTail? (rest.dropWhile notBlank) with
      | some tail => Line.of blanks.length segment tail
      | none =>
          if blanks.getLast? = some ' ' then
            match readTail? (' ' :: rest) with
            | some tail => Line.of blanks.length [] tail
            | none => Line.blank blanks.length
          else
            Line.blank blanks.length
  else
    none

theorem readLine?_eq_none_iff (line : List Char) :
    readLine? line = none ↔ ∀ c ∈ line, Text.isAsciiWord c = false := by
  unfold readLine?
  split
  · next declares =>
      simp only [reduceCtorEq, false_iff]
      intro nothing
      obtain ⟨c, member, word⟩ := List.any_eq_true.mp declares
      exact absurd word (by simp [nothing c member])
  · next silent => simpa using silent

end Declaration
end PageRouting
