import DocLint.Json.Decoding

/-!
# Configurations

What a run is told: where to look for files, how to choose among them, and which checks to make.
Missing fields have defaults; each pattern may be given under a short name.  Writing a
configuration leaves out what is missing.
-/
namespace DocLint

/-- How the files of a run are chosen: all that match, or those that changed. -/
inductive Mode where
  | matching
  | changed
deriving DecidableEq, Repr

namespace Mode

def name : Mode → String
  | matching => "Matching"
  | changed => "Changed"

def choices : List (String × Mode) := [(name matching, matching), (name changed, changed)]

def decode : Decoder Mode := Json.decodeChoice choices

def encode (m : Mode) : Json := .string m.name

end Mode

/-- Names of a pattern that has to be found in a path, the short one included. -/
def includeName : String := "includePattern"

/-- Names of a pattern that may not be found in a path, the short one included. -/
def excludeName : String := "excludePattern"

/-- A field of an object, unless its value is missing. -/
def optionalField {α : Type} (name : String) (encode : α → Json) : Option α → Fields
  | some value => [(name, encode value)]
  | none => []

structure ModeOptions where
  includePattern : Option String := none
  excludePattern : Option String := none
  branch : Option String := none
  remote : Option String := none
deriving DecidableEq, Repr

namespace ModeOptions

structure Draft where
  includePattern : Option (Option String) := none
  excludePattern : Option (Option String) := none
  branch : Option (Option String) := none
  remote : Option (Option String) := none

def fields : List (FieldDecoder Draft) :=
  let text := Json.decodeOption Json.decodeString
  [ .ofSlot includeName ["includes"] false (·.includePattern)
      (fun x d => { d with includePattern := some x }) text,
    .ofSlot excludeName ["excludes"] false (·.excludePattern)
      (fun x d => { d with excludePattern := some x }) text,
    .ofSlot "branch" [] false (·.branch) (fun x d => { d with branch := some x }) text,
    .ofSlot "remote" [] false (·.remote) (fun x d => { d with remote := some x }) text ]

/-- Read the options of a mode; all of them may be missing. -/
def decode : Decoder ModeOptions :=
  Json.decodeRecord "struct ModeConfig" fields {} fun d =>
    .ok ⟨d.includePattern.getD none, d.excludePattern.getD none, d.branch.getD none,
      d.remote.getD none⟩

def encode (o : ModeOptions) : Json :=
  .object (optionalField includeName Json.string o.includePattern ++
    optionalField excludeName Json.string o.excludePattern ++
    optionalField "branch" Json.string o.branch ++ optionalField "remote" Json.string o.remote)

/-- The branch that changes are computed against. -/
def branchName (o : ModeOptions) : String := o.branch.getD "main"

def remoteName (o : ModeOptions) : String := o.remote.getD "origin"

end ModeOptions

/-- A check to make: the name of its rule, patterns for the paths of documents, and settings for
the rule. -/
structure CheckConfig where
  name : String
  includePattern : Option String := none
  excludePattern : Option String := none
  settings : Option Json := none

namespace CheckConfig

structure Draft where
  name : Option String := none
  includePattern : Option (Option String) := none
  excludePattern : Option (Option String) := none
  settings : Option (Option Json) := none

/-- Settings are any value, whose objects are sorted. -/
def decodeSettings : Decoder (Option Json) :=
  Json.decodeOption fun value => .ok value.sorted

def fields : List (FieldDecoder Draft) :=
  let text := Json.decodeOption Json.decodeString
  [ .ofSlot "name" [] true (·.name) (fun x d => { d with name := some x }) Json.decodeString,
    .ofSlot includeName ["includes"] false (·.includePattern)
      (fun x d => { d with includePattern := some x }) text,
    .ofSlot excludeName ["excludes"] false (·.excludePattern)
      (fun x d => { d with excludePattern := some x }) text,
    .ofSlot "settings" [] false (·.settings) (fun x d => { d with settings := some x })
      decodeSettings ]

/-- A check of the fields that were read; it has to have a name. -/
def finish (d : Draft) : Except DecodeError CheckConfig := do
  let name ← requireField "name" d.name
  return ⟨name, d.includePattern.getD none, d.excludePattern.getD none, d.settings.getD none⟩

def decode : Decoder CheckConfig :=
  Json.decodeRecord "struct RuleConfig" fields {} finish

/-- Write a check, without the fields that are missing. -/
def encode (c : CheckConfig) : Json :=
  .object ([("name", Json.string c.name)] ++
    optionalField includeName Json.string c.includePattern ++
    optionalField excludeName Json.string c.excludePattern ++
    optionalField "settings" id c.settings)

end CheckConfig

structure Configuration where
  mode : Mode := .matching
  modeOptions : ModeOptions := {}
  baseDirectory : String := "."
  checks : List CheckConfig := []

namespace Configuration

structure Draft where
  mode : Option Mode := none
  modeOptions : Option ModeOptions := none
  baseDirectory : Option String := none
  checks : Option (List CheckConfig) := none

def fields : List (FieldDecoder Draft) :=
  [ .ofSlot "mode" [] false (·.mode) (fun x d => { d with mode := some x }) Mode.decode,
    .ofSlot "modeConfig" [] false (·.modeOptions) (fun x d => { d with modeOptions := some x })
      ModeOptions.decode,
    .ofSlot "baseDirectory" [] false (·.baseDirectory)
      (fun x d => { d with baseDirectory := some x }) Json.decodePath,
    .ofSlot "checks" [] false (·.checks) (fun x d => { d with checks := some x })
      (Json.decodeList CheckConfig.decode) ]

def finish (d : Draft) : Except DecodeError Configuration :=
  let default : Configuration := {}
  .ok ⟨d.mode.getD default.mode, d.modeOptions.getD default.modeOptions,
    d.baseDirectory.getD default.baseDirectory, d.checks.getD default.checks⟩

def decode : Decoder Configuration :=
  Json.decodeRecord "struct ValidationConfig" fields {} finish

/-- Write a configuration, all of its fields included. -/
def encode (c : Configuration) : Json :=
  .object [("mode", c.mode.encode), ("modeConfig", c.modeOptions.encode),
    ("baseDirectory", .string c.baseDirectory),
    ("checks", .array (c.checks.map CheckConfig.encode))]

end Configuration
end DocLint
