import DocLint.Report

/-!
# Reports for people

A plain layout of a report: the counts, the results file by file, and the verdict.
-/
namespace DocLint.Report

def ruler (c : Char) : String :=
  String.ofList (List.replicate 80 c)

def marker : Severity → String
  | .success => "\u2713"
  | .info => "i"
  | .warn => "!"
  | .error => "\u2717"
  | .failure => "\u2717"

def countLines (s : Summary) : List String :=
  ["  Files checked:  " ++ toString s.fileCount, "  Failures:       " ++ toString s.failures,
    "  Errors:         " ++ toString s.errors, "  Warnings:       " ++ toString s.warnings]

def checkLine (r : CheckResult) : String :=
  "    " ++ marker r.status ++ " " ++ r.check ++ ": " ++ r.message

def fileLines (f : FileResult) : List String :=
  (marker f.status ++ " " ++ Path.shown f.file ++ " [" ++ f.status.name ++ "]") ::
    f.checks.map checkLine

/-- The lines of all files, under a heading, if there are any files. -/
def resultLines (results : List FileResult) : List String :=
  if results.isEmpty then []
  else [ruler '-', "  RESULTS", ruler '-'] ++ results.flatMap fileLines ++ [""]

def verdictLine (r : Report) : String :=
  if r.isOk then
    "\u2713 " ++ toString r.summary.fileCount ++ " file(s) passed validation (" ++ r.status.name ++
      ")"
  else
    "\u2717 Validation " ++ r.status.name ++ ": " ++ toString r.summary.failures ++
      " failure(s), " ++ toString r.summary.errors ++ " error(s)"

def humanLines (r : Report) : List String :=
  ["", ruler '=', "  DOCUMENT VALIDATION", ruler '=', ""] ++ countLines r.summary ++ [""] ++
    resultLines r.results ++ [ruler '=', verdictLine r, ruler '=']

def humanText (r : Report) : String :=
  String.join (r.humanLines.map (· ++ "\n"))

end DocLint.Report
