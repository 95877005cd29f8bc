import DocLint.Report.Csv
import DocLint.Report.Summary
import DocLint.Yaml.Writer

/-!
# Formats of reports

A report or a document as a text. In JSON and in YAML the paths stand as texts, so that what holds
another path is not written; in the other formats paths are shown.
-/
namespace DocLint

inductive ReportFormat where
  | json
  | yaml
  | csv
  | text
deriving DecidableEq, Repr

def endLine (s : String) : String :=
  if s.toList.getLast? == some '\n' then s else s ++ "\n"

/-- Why something is not written. -/
inductive WriteError where
  | pathNotText
deriving DecidableEq, Repr

def WriteError.message : WriteError → String
  | .pathNotText => "path contains invalid UTF-8 characters"

/-- A text in which paths stand, if all of them are texts. -/
def quoting (paths : List String) (text : String) : Except WriteError String :=
  if paths.all Path.isText then .ok text else .error .pathNotText

def ReportFormat.write (format : ReportFormat) (report : Report) : Except WriteError String :=
  match format with
  | .json => quoting report.paths (report.encode.pretty 0 ++ "\n")
  | .yaml => quoting report.paths (endLine (Yaml.write report.encode))
  | .csv => .ok (Csv.write report)
  | .text => .ok report.humanText

inductive DocumentFormat where
  | json
  | yaml
deriving DecidableEq, Repr

def DocumentFormat.write (format : DocumentFormat) (document : Document) :
    Except WriteError String :=
  quoting [document.file] <|
    match format with
    | .json => document.encode.pretty 0 ++ "\n"
    | .yaml => Yaml.write document.encode

end DocLint
