import DocLint.Dispatch
import DocLint.Git
import DocLint.Report
import DocLint.Scope

/-!
# Validation

A run: check the setup, find the files in scope, load them one after the other and make all checks
on each.  Problems of the setup stop a run before any file is read; a file that cannot be loaded
and a rule that fails are entries of the report.
-/
namespace DocLint

/-- What surrounds a run: the files, and how the header of a document is read. -/
structure Surroundings where
  files : FileTree
  readHeader : String → Except String Json

def Surroundings.checkFile (s : Surroundings) (checks : List PreparedCheck) (file : String) :
    FileResult :=
  match Document.load s.readHeader s.files file with
  | .error e => FileResult.readFailure file e.message
  | .ok document => (FileResult.new document.file).extend (runAll s.files checks document)

def Surroundings.report (s : Surroundings) (checks : List PreparedCheck) (scope : List String) :
    Report :=
  scope.foldl (fun report file => report.push (s.checkFile checks file)) (Report.new scope.length)

/-- A run, with the calls that were made to version control. -/
def validate (s : Surroundings) (vcs : Vcs) (registry : Registry) (config : Configuration) :
    List VcsCall × Except SetupError Report :=
  if !s.files.exists? config.baseDirectory then ([], .error (.missingBase config.baseDirectory))
  else
    match prepare registry config.checks with
    | .error e => ([], .error e)
    | .ok checks =>
      let (calls, scope) :=
        Scope.resolve s.files vcs config.baseDirectory config.mode config.modeOptions
      (calls, scope.map (s.report checks))

/-- The directory in which version control works for a base. -/
def vcsDirectory (tree : FileTree) (base : String) : String :=
  if tree.isFile base then
    match Path.parent? base with
    | some parent => if parent == "" then "." else parent
    | none => "."
  else base

/-- A run with the given program for version control. -/
def validateWithGit (s : Surroundings) (runner : ProgramRunner) (registry : Registry)
    (config : Configuration) : List VcsCall × Except SetupError Report :=
  let git : Git := ⟨Git.defaultProgram, vcsDirectory s.files config.baseDirectory⟩
  validate s (git.vcs runner) registry config

end DocLint
