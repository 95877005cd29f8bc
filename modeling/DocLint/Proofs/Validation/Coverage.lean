import DocLint.Proofs.Report.Accounting
import DocLint.Proofs.Validation.Stages
import Mathlib.Data.List.Forall2

/-!
# A report covers the scope

The entries of a report stand for the files in scope, one for one and in their order, whether a
file could be loaded or not.
-/
namespace DocLint

theorem Document.file_of_parse {read : String → Except String Json} {file content : String}
    {document : Document} (parsed : parse read file content = .ok document) :
    document.file = file := by
  rw [parse] at parsed
  cases split : FrontMatter.split read content.toList with
  | error reason => rw [split] at parsed; cases parsed
  | ok parts => rw [split] at parsed; cases parsed; rfl

theorem Document.file_of_load {read : String → Except String Json} {tree : FileTree}
    {file : String} {document : Document} (loaded : load read tree file = .ok document) :
    document.file = file := by
  simp only [load, bind, Except.bind] at loaded
  cases bytes : (tree.readBytes file).mapError LoadError.io with
  | error e => rw [bytes] at loaded; cases loaded
  | ok found =>
    simp only [bytes] at loaded
    cases text : Text.decodeUtf8 found with
    | error e => rw [text] at loaded; cases loaded
    | ok content => rw [text] at loaded; exact file_of_parse loaded

namespace Surroundings

variable (s : Surroundings) (checks : List PreparedCheck)

/-- What an entry of a report says about a file: the results of all checks on it, or a single
warning that gives the cause why it could not be loaded. -/
def Covers (file : String) (entry : FileResult) : Prop :=
  entry.file = file ∧
    match Document.load s.readHeader s.files file with
    | .error e =>
      entry.checks = [{
        status := .warn
        check := "ReadFile"
        file := file
        message := "Failed to read file: " ++ Path.shown file ++ ", Cause: " ++ e.message
        detail := none }]
    | .ok document => document.file = file ∧ entry.checks = runAll s.files checks document

theorem covers_checkFile (file : String) : s.Covers checks file (s.checkFile checks file) := by
  rw [Covers, checkFile]
  cases loaded : Document.load s.readHeader s.files file with
  | error e => exact ⟨rfl, rfl⟩
  | ok document =>
    have same := Document.file_of_load loaded
    refine ⟨?_, same, ?_⟩
    · rw [FileResult.file_extend]
      exact same
    · exact FileResult.checks_extend _ _

theorem folded_checkFile (file : String) : (s.checkFile checks file).Folded := by
  rw [checkFile]
  cases Document.load s.readHeader s.files file with
  | error e => exact FileResult.folded_readFailure file e.message
  | ok document => exact FileResult.folded_extend (FileResult.folded_new document.file) _

theorem results_foldl_push (r : Report) (files : List String) :
    (files.foldl (fun report file => report.push (s.checkFile checks file)) r).results =
      r.results ++ files.map (s.checkFile checks) := by
  induction files generalizing r with
  | nil => exact (List.append_nil _).symm
  | cons file rest ih =>
    rw [List.foldl_cons, ih, List.map_cons, Report.push, List.append_assoc]
    rfl

theorem results_report (files : List String) :
    (s.report checks files).results = files.map (s.checkFile checks) :=
  results_foldl_push s checks (Report.new files.length) files

theorem accounted_foldl_push {fileCount : Nat} {r : Report} (accounted : r.Accounted fileCount)
    (files : List String) :
    (files.foldl (fun report file => report.push (s.checkFile checks file)) r).Accounted
      fileCount := by
  induction files generalizing r with
  | nil => exact accounted
  | cons file rest ih => exact ih (Report.accounted_push accounted (folded_checkFile s checks file))

theorem accounted_report (files : List String) :
    (s.report checks files).Accounted files.length :=
  accounted_foldl_push s checks (Report.accounted_new files.length) files

theorem covers_report (files : List String) :
    List.Forall₂ (s.Covers checks) files (s.report checks files).results := by
  rw [results_report, List.forall₂_map_right_iff, List.forall₂_same]
  exact fun file _ => covers_checkFile s checks file

theorem files_report (files : List String) :
    (s.report checks files).results.map (·.file) = files := by
  rw [results_report, List.map_map]
  exact (List.map_congr_left fun file _ => (covers_checkFile s checks file).1).trans
    (List.map_id files)

end Surroundings

/-- A report has one entry for each file in scope, in the order of the scope, and each entry covers
its file. -/
theorem validate_covers_scope {s : Surroundings} {vcs : Vcs} {registry : Registry}
    {config : Configuration} {calls : List VcsCall} {report : Report}
    (done : validate s vcs registry config = (calls, .ok report)) :
    ∃ checks files,
      prepare registry config.checks = .ok checks ∧
      Scope.resolve s.files vcs config.baseDirectory config.mode config.modeOptions =
        (calls, .ok files) ∧
      report.summary.fileCount = files.length ∧
      report.results.length = files.length ∧
      report.results.map (·.file) = files ∧
      List.Forall₂ (s.Covers checks) files report.results := by
  obtain ⟨_, checks, files, prepared, resolved, rfl⟩ := validate_eq_ok_iff.mp done
  have covers := s.covers_report checks files
  refine ⟨checks, files, prepared, resolved, ?count, covers.length_eq.symm, ?paths, covers⟩
  case count => rw [(s.accounted_report checks files).summary_tallied]; rfl
  case paths =>
    rw [s.results_report checks, List.map_map]
    exact (List.map_congr_left fun file _ => (s.covers_checkFile checks file).1).trans
      (List.map_id files)

private def mixedCorpus : Surroundings where
  files.root := .directory
    [("a.md", .file [0x48, 0x69]), ("b.md", .file [0xff]),
      ("c.md", .file [0x78, 0x0a, 0x2d, 0x0a]), ("d.txt", .file [])]
  files.workDir := []
  readHeader _ := .error "no header"

private def mixedScope : List String := ["./a.md", "./b.md", "./c.md"]

private def crashing : Registry :=
  Registry.empty.insert ⟨"Crash", fun _ _ _ => .crashed none⟩

private def crashTwice : Configuration where
  checks := [{ name := "Crash", excludePattern := some "a" }, { name := "Crash" }]

theorem validate_covers_mixed_corpus :
    ∃ report checks,
      validate mixedCorpus Vcs.quiet crashing crashTwice = ([], .ok report) ∧
      report.results.map (·.file) = mixedScope ∧
      List.Forall₂ (mixedCorpus.Covers checks) mixedScope report.results := by
  have present : mixedCorpus.files.exists? crashTwice.baseDirectory = true := rfl
  have resolved : Scope.resolve mixedCorpus.files Vcs.quiet crashTwice.baseDirectory
      crashTwice.mode crashTwice.modeOptions = ([], .ok mixedScope) := rfl
  have prepares : (prepare crashing crashTwice.checks).toBool = true := rfl
  cases prepared : prepare crashing crashTwice.checks with
  | error e => rw [prepared] at prepares; cases prepares
  | ok checks =>
    have done := validate_eq_ok_iff.mpr ⟨present, checks, _, prepared, resolved, rfl⟩
    obtain ⟨found, files, _, again, _, _, paths, covers⟩ := validate_covers_scope done
    have same : files = mixedScope := by
      rw [resolved] at again
      cases again
      rfl
    rw [same] at paths covers
    exact ⟨_, found, done, paths, covers⟩

end DocLint
