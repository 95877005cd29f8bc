import DocLint.Rule

/-!
# Reports

The results of a run, file by file.  A file and a report carry a status, which is the fold of the
statuses below it, and a report counts the results that are failures, errors or warnings.  All this
is kept up to date as results are added.
-/
namespace DocLint

structure FileResult where
  status : Severity
  file : String
  checks : List CheckResult

namespace FileResult

def new (file : String) : FileResult := ⟨.success, file, []⟩

def push (r : FileResult) (check : CheckResult) : FileResult :=
  { r with status := r.status.absorb check.status, checks := r.checks ++ [check] }

def extend (r : FileResult) (checks : List CheckResult) : FileResult :=
  checks.foldl push r

/-- The name under which a file that cannot be loaded is reported. -/
def readFileCheck : String := "ReadFile"

/-- The only result for a file that cannot be loaded for some cause. -/
def readFailure (file cause : String) : FileResult :=
  (new file).push {
    status := .warn
    check := readFileCheck
    file
    message := "Failed to read file: " ++ Path.shown file ++ ", Cause: " ++ cause
    detail := none }

/-- The fields of a file's results, in the order in which they are written. -/
def encode (r : FileResult) : Json :=
  .object [("status", r.status.encode), ("file", .string r.file),
    ("checks", .array (r.checks.map CheckResult.encode))]

end FileResult

/-- The number of files in scope, and of results by severity. -/
structure Summary where
  fileCount : Nat
  failures : Nat := 0
  errors : Nat := 0
  warnings : Nat := 0
deriving DecidableEq, Repr

namespace Summary

def count (s : Summary) : Severity → Summary
  | .failure => { s with failures := s.failures + 1 }
  | .error => { s with errors := s.errors + 1 }
  | .warn => { s with warnings := s.warnings + 1 }
  | .info => s
  | .success => s

def encode (s : Summary) : Json :=
  .object [("fileCount", .nat s.fileCount), ("failures", .nat s.failures),
    ("errors", .nat s.errors), ("warnings", .nat s.warnings)]

end Summary

structure Report where
  status : Severity
  results : List FileResult
  summary : Summary

namespace Report

def new (fileCount : Nat) : Report := ⟨.success, [], { fileCount }⟩

/-- Add the results for a file. -/
def push (r : Report) (file : FileResult) : Report where
  status := r.status.absorb file.status
  results := r.results ++ [file]
  summary := (file.checks.map (·.status)).foldl Summary.count r.summary

def isOk (r : Report) : Bool := !r.status.isBlocking

def checks (r : Report) : List CheckResult :=
  r.results.flatMap (·.checks)

def paths (r : Report) : List String :=
  r.results.flatMap fun file => file.file :: file.checks.map (·.file)

def encode (r : Report) : Json :=
  .object [("status", r.status.encode), ("results", .array (r.results.map FileResult.encode)),
    ("summary", r.summary.encode)]

end Report
end DocLint
