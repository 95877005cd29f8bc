import DocLint.Prose.Suggestion
import DocLint.Rule

/-!
# The rule WriteGood

Collects the style suggestions for every line of a document.  The result is an annotation unless
there are many suggestions.
-/
namespace DocLint.Checks.WriteGood

open Prose

def name : String := "WriteGood"

/-- The number of suggestions from which on the result is a warning, unless settings say
otherwise. -/
def defaultWarnLimit : Nat := 5

structure Settings where
  warnLimit : Option Nat := none
  options : Switches := []

structure Draft where
  warnLimit : Option (Option Nat) := none
  options : Option Switches := none

def fields : List (FieldDecoder Draft) :=
  [ .ofSlot "warnLimit" [] false (·.warnLimit) (fun x d => { d with warnLimit := some x })
      (Json.decodeOption Json.decodeCount),
    .ofSlot "options" [] false (·.options) (fun x d => { d with options := some x })
      (Json.decodeMap Json.decodeBool) ]

def decode : Decoder Settings :=
  Json.decodeRecord "struct WriteGoodSettings" fields {} fun d =>
    .ok ⟨d.warnLimit.getD none, d.options.getD []⟩

/-- The limit that applies: a limit of zero counts as none. -/
def Settings.limit (s : Settings) : Nat :=
  match s.warnLimit with
  | some (n + 1) => n + 1
  | _ => defaultWarnLimit

/-- How a suggestion for the line of a given index is reported. -/
def describe (index : Nat) (s : Suggestion) : String :=
  "Line " ++ toString index ++ ": Position: " ++ toString s.offset ++ ":" ++ toString s.length ++
    " " ++ s.reason

/-- The reported suggestions for lines, the first of which has the given index. -/
def suggestions (switches : Switches) : Nat → List String → List String
  | _, [] => []
  | index, line :: rest =>
    (suggest switches line.toList).map (describe index) ++ suggestions switches (index + 1) rest

def check (document : Document) (settings : Json) : Except RuleError CheckResult := do
  let settings ← parseSettings decode settings
  let found := suggestions settings.options 0 document.lines
  return {
    status := if settings.limit ≤ found.length then .warn else .info
    check := name
    file := document.file
    message := "Found " ++ toString found.length ++ " suggestions"
    detail := some (.array (found.map Json.string)) }

def rule : Rule := ⟨name, fun _ document settings => .ofExcept (check document settings)⟩

end DocLint.Checks.WriteGood
