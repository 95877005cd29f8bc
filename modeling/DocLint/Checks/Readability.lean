import DocLint.Prose.Statistics
import DocLint.Rule

/-!
# The rule Readability

Scores the plain text of a document and compares the score with two limits, the stricter verdict
first.
-/
namespace DocLint.Checks.Readability

open Prose

def name : String := "Readability"

/-- The limits of the readability score. -/
structure Settings where
  warnLimit : Option Float := none
  errorLimit : Option Float := none
  includeDetail : Bool := false

structure Draft where
  warnLimit : Option (Option Float) := none
  errorLimit : Option (Option Float) := none
  includeDetail : Option Bool := none

def fields : List (FieldDecoder Draft) :=
  [ .ofSlot "warnLimit" [] false (·.warnLimit) (fun x d => { d with warnLimit := some x })
      (Json.decodeOption Json.decodeFloat),
    .ofSlot "errorLimit" [] false (·.errorLimit) (fun x d => { d with errorLimit := some x })
      (Json.decodeOption Json.decodeFloat),
    .ofSlot "includeDetail" [] false (·.includeDetail) (fun x d => { d with includeDetail := some x })
      Json.decodeBool ]

def decode : Decoder Settings :=
  Json.decodeRecord "struct ReadabilitySettings" fields {} fun d =>
    .ok ⟨d.warnLimit.getD none, d.errorLimit.getD none, d.includeDetail.getD false⟩

def reached? (score : Float) (limit : Option Float) : Option Float :=
  match limit with
  | some l => if l ≤ score then some l else none
  | none => none

/-- The verdict on a score: the error limit counts before the warning limit. -/
def verdict (settings : Settings) (score : Float) : Severity × Option Float :=
  match reached? score settings.errorLimit with
  | some limit => (.error, some limit)
  | none =>
    match reached? score settings.warnLimit with
    | some limit => (.warn, some limit)
    | none => (.success, none)

def check (document : Document) (settings : Json) : Except RuleError CheckResult := do
  let settings ← parseSettings decode settings
  let statistics := Statistics.of document.text.toList
  let score := statistics.indices.consensus
  let (status, limit) := verdict settings score
  let plain := Decimal.Layout.plain.write
  return {
    status
    check := name
    file := document.file
    message :=
      "Readability score: " ++ plain score ++
        match limit with
        | some limit => " is higher than " ++ plain limit
        | none => ""
    detail := if settings.includeDetail then some statistics.encode else none }

def rule : Rule := ⟨name, fun _ document settings => .ofExcept (check document settings)⟩

end DocLint.Checks.Readability
