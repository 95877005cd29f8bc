import DocLint.Document
import DocLint.Severity

/-!
# Rules

A rule has a name and checks one document under given settings.  A check yields a result, fails
with an error, or crashes; crashing is a value here, so that whatever runs rules can isolate it.
-/
namespace DocLint

structure CheckResult where
  status : Severity
  check : String
  file : String
  message : String
  detail : Option Json

namespace CheckResult

/-- The fields of a result, in the order in which they are written; no detail, no field. -/
def encode (r : CheckResult) : Json :=
  .object ([("status", r.status.encode), ("check", .string r.check), ("file", .string r.file),
    ("message", .string r.message)] ++
    match r.detail with
    | some detail => [("detail", detail)]
    | none => [])

structure Draft where
  status : Option Severity := none
  check : Option String := none
  file : Option String := none
  message : Option String := none
  detail : Option (Option Json) := none

def fields : List (FieldDecoder Draft) :=
  [ .ofSlot "status" [] true (·.status) (fun x d => { d with status := some x })
      Severity.decode,
    .ofSlot "check" [] true (·.check) (fun x d => { d with check := some x })
      Json.decodeString,
    .ofSlot "file" [] true (·.file) (fun x d => { d with file := some x })
      Json.decodePath,
    .ofSlot "message" [] true (·.message) (fun x d => { d with message := some x })
      Json.decodeString,
    .ofSlot "detail" [] false (·.detail) (fun x d => { d with detail := some x })
      (Json.decodeOption .ok) ]

/-- Complete a result, whose detail may be missing. -/
def finish (d : Draft) : Except DecodeError CheckResult := do
  return {
    status := ← requireField "status" d.status
    check := ← requireField "check" d.check
    file := ← requireField "file" d.file
    message := ← requireField "message" d.message
    detail := d.detail.getD none }

def decode : Decoder CheckResult :=
  Json.decodeRecord "struct RuleResult" fields {} finish

end CheckResult

/-- Why a rule could not complete a check. -/
inductive RuleError where
  | settings (reason : String)
  | io (reason : String)
  | other (reason : String)
deriving DecidableEq, Repr

namespace RuleError

def message : RuleError → String
  | settings reason => "invalid settings: " ++ reason
  | io reason => reason
  | other reason => reason

def kind : RuleError → String
  | settings _ => "Settings"
  | io _ => "Io"
  | other _ => "Other"

def detail (e : RuleError) : Json :=
  .object [("kind", .string e.kind), ("message", .string e.message)]

end RuleError

/-- How a check ends: with a result, with an error, or with a crash whose payload may be text. -/
inductive Outcome where
  | completed (result : CheckResult)
  | failed (error : RuleError)
  | crashed (payload : Option String)

/-- An error counts as a failure of the rule. -/
def Outcome.ofExcept : Except RuleError CheckResult → Outcome
  | .ok result => completed result
  | .error error => failed error

/-- A named check: a function of the files, a document and the settings. -/
structure Rule where
  name : String
  check : FileTree → Document → Json → Outcome

def parseSettings {α : Type} (decode : Decoder α) (settings : Json) : Except RuleError α :=
  (decode settings).mapError fun e => .settings e.message

end DocLint
