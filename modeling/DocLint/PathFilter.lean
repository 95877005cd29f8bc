import DocLint.Pattern.Reading
import DocLint.Configuration
import DocLint.FileTree.Name
import DocLint.Vcs

/-!
# Filters of paths

A path passes a filter if the one pattern is found in it and the other is not; a pattern that is
missing does not constrain.  This module also holds what can be wrong with a configuration, of
which a pattern that cannot be read is one case.
-/
namespace DocLint

inductive SetupError where
  | missingBase (path : String)
  | noChecks
  | unknownRule (name : String)
  | invalidPattern (field pattern : String) (reason : Pattern.ReadError)
  | scope (error : VcsError)
deriving DecidableEq, Repr

/-- What is wrong with a pattern, apart from the reason. -/
def invalidPatternText (field pattern : String) : String :=
  "Invalid " ++ field ++ " pattern '" ++ pattern ++ "': "

def SetupError.message : SetupError → String
  | .missingBase path => "Base directory " ++ Path.shown path ++ " does not exist"
  | .noChecks => "No checks specified"
  | .unknownRule name => "Unsupported check: " ++ name ++ " requested"
  | .invalidPattern field pattern reason => invalidPatternText field pattern ++ reason.message
  | .scope error => "Failed to determine changed files: " ++ error.message

/-- The pattern that has to be found in a path, and the one that must not be. -/
structure PathFilter where
  required : Option Pattern := none
  forbidden : Option Pattern := none

namespace PathFilter

def readPattern (field : String) : Option String → Except SetupError (Option Pattern)
  | none => .ok none
  | some text =>
    match Pattern.read text with
    | .ok pattern => .ok (some pattern)
    | .error reason => .error (.invalidPattern field text reason)

def ofPatterns (required forbidden : Option String) : Except SetupError PathFilter := do
  let required ← readPattern "include" required
  let forbidden ← readPattern "exclude" forbidden
  return ⟨required, forbidden⟩

def admitsText (f : PathFilter) (text : String) : Bool :=
  f.required.all (·.occursIn text.toList) && !f.forbidden.any (·.occursIn text.toList)

/-- Whether a path passes; the patterns are looked for in what is shown of it. -/
def admits (f : PathFilter) (path : String) : Bool :=
  f.admitsText (Path.shown path)

end PathFilter

/-- The pattern for files unless another one is given. -/
def defaultFilePattern : String := "\\.md$"

def ModeOptions.fileFilter (o : ModeOptions) : Except SetupError PathFilter :=
  PathFilter.ofPatterns (some (o.includePattern.getD defaultFilePattern)) o.excludePattern

def CheckConfig.filter (c : CheckConfig) : Except SetupError PathFilter :=
  PathFilter.ofPatterns c.includePattern c.excludePattern

end DocLint
