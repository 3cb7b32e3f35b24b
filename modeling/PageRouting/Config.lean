import PageRouting.Mapper
import PageRouting.Pattern.Reading

namespace PageRouting

/-!
Configuration of a router: mappers for all pages, the pattern for the text of a
placeholder, and where to go when a page or a path is not found.  A placeholder
pattern may group but not capture, since the captures of a row are counted by
its placeholders.
-/

structure Config where
  params : MapperTable := []
  placeholderPattern : String := "[^/]+"
  notFoundPath : String := "/notfound"
  notFoundPage : String := "404"
  debug : Bool := false

/-- Why a configuration is refused. -/
inductive ConfigError where
  | emptyPlaceholderPattern
  | invalidPlaceholderPattern (pattern : String)
  | capturingPlaceholderPattern (pattern : String) (groups : Nat)
  | emptyNotFoundPath
  | emptyNotFoundPage
deriving DecidableEq, Repr

namespace ConfigError

/-- The message of an error.  For an unreadable pattern it ends before the reason, which would
follow after a colon in the words of the pattern reader: reading says only that there is no such
pattern. -/
def message : ConfigError → String
  | .emptyPlaceholderPattern => "placeholder pattern cannot be empty"
  | .invalidPlaceholderPattern pattern =>
      "placeholder pattern '" ++ pattern ++ "' is not a valid regex"
  | .capturingPlaceholderPattern pattern groups =>
      "placeholder pattern '" ++ pattern ++ "' declares " ++
        String.ofList (Nat.toDigits 10 groups) ++ " capture group(s); use (?:...) instead"
  | .emptyNotFoundPath => "not-found path cannot be empty"
  | .emptyNotFoundPage => "not-found page cannot be empty"

end ConfigError

namespace Config

/-- Set the mapper of a name for all pages. -/
def withParam (config : Config) (name : String) (mapper : Mapper) : Config :=
  { config with params := config.params.insert name mapper }

/-- What is wrong with a placeholder pattern, if anything. -/
def patternError? (pattern : String) : Option ConfigError :=
  if Text.isBlankText pattern then
    some .emptyPlaceholderPattern
  else
    match Pattern.ofString? pattern with
    | none => some (.invalidPlaceholderPattern pattern)
    | some compiled =>
        if compiled.groupCount = 0 then none
        else some (.capturingPlaceholderPattern pattern compiled.groupCount)

/-- The first thing that is wrong with the configuration, if anything is: the
pattern is looked at before the path, and the path before the page. -/
def error? (config : Config) : Option ConfigError :=
  match patternError? config.placeholderPattern with
  | some error => some error
  | none =>
      if Text.isBlankText config.notFoundPath then some .emptyNotFoundPath
      else if Text.isBlankText config.notFoundPage then some .emptyNotFoundPage
      else none

/-- The configuration, if nothing is wrong with it. -/
def validate (config : Config) : Except ConfigError Config :=
  match config.error? with
  | some error => .error error
  | none => .ok config

end Config

end PageRouting
