import DocLint.PathFilter
import DocLint.Registry

/-!
# Dispatch of checks

Before any document is read, every configured check is looked up and its patterns are read.  Then
the checks run on one document after the other, in configured order.  An error or a crash of a rule
becomes a result of that check and touches no other.
-/
namespace DocLint

/-- A check whose rule is known and whose patterns are read. -/
structure PreparedCheck where
  name : String
  rule : Rule
  filter : PathFilter
  settings : Json

namespace PreparedCheck

def ofConfig (registry : Registry) (config : CheckConfig) : Except SetupError PreparedCheck :=
  match registry.lookup config.name with
  | none => .error (.unknownRule config.name)
  | some rule => do
    let filter ← config.filter
    return ⟨config.name, rule, filter, config.settings.getD (.object [])⟩

/-- What a rule failed with; a crash without text counts as an error, too. -/
def failure : Outcome → Except RuleError CheckResult
  | .completed result => .ok result
  | .failed error => .error error
  | .crashed payload => .error (.other (payload.getD "rule panicked"))

/-- Fill in the names that a rule left out. -/
def complete (check : PreparedCheck) (document : Document) (result : CheckResult) : CheckResult :=
  { result with
    check := if result.check == "" then check.name else result.check
    file := if result.file == "" then document.file else result.file }

def failureResult (check : PreparedCheck) (document : Document) (error : RuleError) :
    CheckResult where
  status := .failure
  check := check.name
  file := document.file
  message := "Failed to execute check [" ++ check.name ++ "], message: " ++ error.message
  detail := some error.detail

def run (files : FileTree) (check : PreparedCheck) (document : Document) : CheckResult :=
  match failure (check.rule.check files document check.settings) with
  | .ok result => check.complete document result
  | .error error => check.failureResult document error

end PreparedCheck

/-- Look all configured checks up; there has to be one. -/
def prepare (registry : Registry) (configs : List CheckConfig) :
    Except SetupError (List PreparedCheck) :=
  if configs.isEmpty then .error .noChecks
  else configs.mapM (PreparedCheck.ofConfig registry)

/-- The results of all checks whose filter admits the document, in order. -/
def runAll (files : FileTree) (checks : List PreparedCheck) (document : Document) :
    List CheckResult :=
  (checks.filter fun check => check.filter.admits document.file).map fun check =>
    check.run files document

end DocLint
