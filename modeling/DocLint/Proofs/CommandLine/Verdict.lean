import DocLint.CommandLine.Run
import DocLint.Proofs.Dispatch.Preparation
import DocLint.Proofs.FileTree.Names
import DocLint.Proofs.Report.Layout
import DocLint.Proofs.Validation.Coverage

/-!
# The verdict of a command

The status with which the validating command ends, the line it writes about its report and the
closing words of the layout for people each come by their own way from the results. Here they are
all read off the results alone, for every machine and every command line that asks for a
validation. A report that passes is no success by itself: it has to be written, and the formats that
hold paths as texts refuse a path that is none.
-/
namespace DocLint

theorem Surroundings.length_results_report (s : Surroundings) (checks : List PreparedCheck)
    (files : List String) : (s.report checks files).results.length = files.length := by
  rw [s.results_report checks, List.length_map]

/-- The accounts of a report are those of the results that it holds. -/
theorem accounted_of_validate {s : Surroundings} {vcs : Vcs} {registry : Registry}
    {config : Configuration} {calls : List VcsCall} {report : Report}
    (done : validate s vcs registry config = (calls, .ok report)) :
    report.Accounted report.results.length := by
  obtain ⟨_, checks, files, _, _, rfl⟩ := validate_eq_ok_iff.mp done
  rw [s.length_results_report checks files]
  exact s.accounted_report checks files

/-- How many results have a status. -/
def Report.tallyOf (r : Report) (status : Severity) : Nat :=
  (r.checks.map (·.status)).count status

/-- Nothing among the results is an error or a failure. -/
def Report.Passes (r : Report) : Prop :=
  ∀ result ∈ r.checks, result.status ≠ .error ∧ result.status ≠ .failure

def Report.HasTextPaths (r : Report) : Prop :=
  ∀ file ∈ r.results, Path.isText file.file = true ∧
    ∀ result ∈ file.checks, Path.isText result.file = true

/-- What a format asks of a report that is written in it. -/
def ReportFormat.Accepts (format : ReportFormat) (r : Report) : Prop :=
  match format with
  | .json => r.HasTextPaths
  | .yaml => r.HasTextPaths
  | .csv => True
  | .text => True

theorem quoting_eq_ok_iff {paths : List String} {text written : String} :
    quoting paths text = .ok written ↔
      (∀ path ∈ paths, Path.isText path = true) ∧ text = written := by
  rw [quoting]
  split
  case isTrue texts =>
    rw [List.all_eq_true] at texts
    simpa using fun _ => texts
  case isFalse other =>
    rw [List.all_eq_true] at other
    simp [other]

namespace Report

theorem forall_mem_paths_iff {r : Report} :
    (∀ path ∈ r.paths, Path.isText path = true) ↔ r.HasTextPaths := by
  simp only [paths, HasTextPaths, List.mem_flatMap, List.mem_cons, List.mem_map]
  constructor
  · intro texts file member
    exact ⟨texts _ ⟨file, member, .inl rfl⟩,
      fun result inside => texts _ ⟨file, member, .inr ⟨result, inside, rfl⟩⟩⟩
  · rintro texts path ⟨file, member, rfl | ⟨result, inside, rfl⟩⟩
    · exact (texts file member).1
    · exact (texts file member).2 result inside

/-- A report is written exactly in the formats that accept it. -/
theorem exists_write_iff {r : Report} {format : ReportFormat} :
    (∃ text, format.write r = .ok text) ↔ format.Accepts r := by
  cases format with
  | json => simp [ReportFormat.write, ReportFormat.Accepts, quoting_eq_ok_iff, forall_mem_paths_iff]
  | yaml => simp [ReportFormat.write, ReportFormat.Accepts, quoting_eq_ok_iff, forall_mem_paths_iff]
  | csv => simp [ReportFormat.write, ReportFormat.Accepts]
  | text => simp [ReportFormat.write, ReportFormat.Accepts]

instance (r : Report) : Decidable r.Passes :=
  inferInstanceAs
    (Decidable (∀ result ∈ r.checks, result.status ≠ .error ∧ result.status ≠ .failure))

def talliedLines (r : Report) : List String :=
  ["  Files checked:  " ++ toString r.results.length,
    "  Failures:       " ++ toString (r.tallyOf .failure),
    "  Errors:         " ++ toString (r.tallyOf .error),
    "  Warnings:       " ++ toString (r.tallyOf .warn)]

def closingLine (r : Report) : String :=
  if r.Passes then
    "\u2713 " ++ toString r.results.length ++ " file(s) passed validation (" ++ r.status.name ++ ")"
  else
    "\u2717 Validation " ++ r.status.name ++ ": " ++ toString (r.tallyOf .failure) ++
      " failure(s), " ++ toString (r.tallyOf .error) ++ " error(s)"

variable {fileCount : Nat} {r : Report}

theorem Accounted.isOk_iff_passes (accounted : r.Accounted fileCount) :
    r.isOk = true ↔ r.Passes := by
  rw [accounted.isOk_iff, accounted.summary_tallied]
  simp only [Summary.tally, List.count_eq_zero, List.mem_map, not_exists, not_and, Passes]
  constructor
  · rintro ⟨noFailure, noError⟩ result member
    exact ⟨noError result member, noFailure result member⟩
  · intro passes
    exact ⟨fun result member => (passes result member).2,
      fun result member => (passes result member).1⟩

theorem Accounted.countLines_eq (accounted : r.Accounted r.results.length) :
    countLines r.summary = r.talliedLines := by
  rw [accounted.summary_tallied]
  rfl

theorem Accounted.verdictLine_eq (accounted : r.Accounted r.results.length) :
    verdictLine r = r.closingLine := by
  simp only [verdictLine, closingLine, accounted.isOk_iff_passes]
  rw [accounted.summary_tallied]
  rfl

/-- What the layout for people tells of the results. -/
theorem Accounted.told_humanText (accounted : r.Accounted r.results.length) :
    ((printedLines r.humanText).drop 5).take 4 = r.talliedLines ∧
    (printedLines r.humanText).reverse[2]? = some r.closingLine ∧
    (Says r.closingLine "passed validation" ↔ r.Passes) := by
  refine ⟨?counts, ?closing, ?phrase⟩
  case counts => exact (counts_printed r).trans accounted.countLines_eq
  case closing =>
    rw [← accounted.verdictLine_eq]
    exact verdict_printed r
  case phrase =>
    rw [← accounted.verdictLine_eq, says_passed_verdictLine_iff, accounted.isOk_iff_passes]

end Report

namespace CommandLine

def talliedStatus (coloured : Bool) (r : Report) : String :=
  String.join ["docval", ": ", statusText coloured r.status, " (", toString r.results.length,
    " files, ", toString (r.tallyOf .failure), " failures, ", toString (r.tallyOf .error),
    " errors, ", toString (r.tallyOf .warn), " warnings)"]

theorem statusLine_eq {coloured : Bool} {r : Report} (accounted : r.Accounted r.results.length) :
    statusLine coloured r = talliedStatus coloured r := by
  rw [statusLine, accounted.summary_tallied]
  rfl

/-- The configuration in a file loads, and the run under it, with a given path in place of its
base, ends with a report. -/
def Machine.Yields (m : Machine) (config : String) (path : Option String) (report : Report) :
    Prop :=
  ∃ configuration calls, loadConfiguration m.files config = .ok configuration ∧
    validateWithGit ⟨m.files, readHeader⟩ m.runner (Registry.builtin m.now)
      { configuration with baseDirectory := path.getD configuration.baseDirectory } =
        (calls, .ok report)

variable {m : Machine} {config : String} {path : Option String} {report : Report}

theorem Machine.Yields.accounted (yields : m.Yields config path report) :
    report.Accounted report.results.length := by
  obtain ⟨configuration, calls, _, done⟩ := yields
  exact accounted_of_validate done

theorem validateFiles_eq_ok_iff :
    validateFiles m config path = .ok report ↔ m.Yields config path report := by
  rw [validateFiles, Machine.Yields]
  cases loadConfiguration m.files config with
  | error e => simp [bind, Except.bind]
  | ok configuration =>
    simp only [bind, Except.bind, Except.ok.injEq, exists_and_left, exists_eq_left']
    generalize validateWithGit _ m.runner _ _ = run
    obtain ⟨calls, _ | found⟩ := run
    · simp [Except.mapError]
    · simp [Except.mapError]

theorem Machine.Yields.unique {other : Report} (yields : m.Yields config path report)
    (again : m.Yields config path other) : report = other := by
  rw [← validateFiles_eq_ok_iff] at yields again
  exact Except.ok.inj (yields.symm.trans again)

section
variable (coloured : Bool) (format : ReportFormat)

theorem run_validate_of_yields (yields : m.Yields config path report) :
    Command.run m coloured (.validate config path format) =
      .ofWritten (format.write report) (if report.Passes then 0 else 1)
        (talliedStatus coloured report ++ "\n") := by
  have done := validateFiles_eq_ok_iff.mpr yields
  simp only [Command.run, done, yields.accounted.isOk_iff_passes, statusLine_eq yields.accounted]

theorem run_validate_of_fails (fails : ¬ ∃ report, m.Yields config path report) :
    ∃ e, Command.run m coloured (.validate config path format) = .ofError e := by
  cases done : validateFiles m config path with
  | error e =>
    refine ⟨e, ?_⟩
    rw [Command.run, done]
  | ok report => exact absurd ⟨report, validateFiles_eq_ok_iff.mp done⟩ fails

/-- A command that yields no report which the format accepts ends like a failed one. -/
theorem run_validate_of_unwritten
    (unwritten : ¬ ∃ report, m.Yields config path report ∧ format.Accepts report) :
    ∃ e, Command.run m coloured (.validate config path format) = .ofError e := by
  by_cases ended : ∃ report, m.Yields config path report
  · obtain ⟨report, yields⟩ := ended
    rw [run_validate_of_yields coloured format yields]
    cases written : format.write report with
    | error e => exact ⟨_, rfl⟩
    | ok text =>
      have accepted := Report.exists_write_iff.mp ⟨text, written⟩
      exact absurd ⟨report, yields, accepted⟩ unwritten
  · exact run_validate_of_fails coloured format ended

end

/-- A command line that asks for a validation ends with status 0 exactly if the run yields a report
without errors and failures among its results that the format accepts, and with 1 otherwise. Nothing
is written to the output unless there is such a report; then the line about it and, in the layout
for people, the counts and the closing line tell what its results are. -/
theorem run_gives_verdict (coloured : Bool) {words : List String} {verbose : Bool}
    {format : ReportFormat}
    (asked : Invocation.ofWords words = .ok ⟨verbose, .validate config path format⟩) :
    let finish := run m coloured words
    (finish.exit = 0 ↔
      ∃ report, m.Yields config path report ∧ report.Passes ∧ format.Accepts report) ∧
    (finish.exit ≠ 0 → finish.exit = 1) ∧
    ((¬ ∃ report, m.Yields config path report ∧ format.Accepts report) → finish.stdout = "") ∧
    ∀ report, m.Yields config path report → format.Accepts report →
      format.write report = .ok finish.stdout ∧
      finish.stderr = talliedStatus coloured report ++ "\n" ∧
      (format = .text →
        ((Report.printedLines finish.stdout).drop 5).take 4 = report.talliedLines ∧
        (Report.printedLines finish.stdout).reverse[2]? = some report.closingLine ∧
        (Report.Says report.closingLine "passed validation" ↔ finish.exit = 0)) := by
  have same : run m coloured words = Command.run m coloured (.validate config path format) := by
    rw [run, asked]
  dsimp only
  rw [same]
  by_cases ended : ∃ report, m.Yields config path report ∧ format.Accepts report
  · obtain ⟨report, yields, accepts⟩ := ended
    obtain ⟨text, written⟩ := Report.exists_write_iff.mpr accepts
    rw [run_validate_of_yields coloured format yields, written, Finish.ofWritten]
    have passed : (if report.Passes then 0 else 1) = 0 ↔ report.Passes := by
      split <;> simp_all
    refine ⟨?verdict, ?fails, ?silent, ?told⟩
    case verdict =>
      rw [passed]
      constructor
      · exact fun passes => ⟨report, yields, passes, accepts⟩
      · rintro ⟨other, again, passes, -⟩
        rwa [again.unique yields] at passes
    case fails =>
      intro blocked
      rw [ne_eq, passed] at blocked
      exact if_neg blocked
    case silent => exact fun none => absurd ⟨report, yields, accepts⟩ none
    case told =>
      intro other again _
      obtain rfl := again.unique yields
      refine ⟨written, rfl, ?_⟩
      rintro rfl
      obtain rfl : other.humanText = text := Except.ok.inj written
      dsimp only
      rw [passed]
      exact yields.accounted.told_humanText
  · obtain ⟨e, failed⟩ := run_validate_of_unwritten coloured format ended
    rw [failed]
    refine ⟨?verdict, ?fails, ?silent, ?told⟩
    case verdict =>
      refine iff_of_false Nat.one_ne_zero ?_
      rintro ⟨report, yields, -, accepts⟩
      exact ended ⟨report, yields, accepts⟩
    case fails => exact fun _ => rfl
    case silent => exact fun _ => rfl
    case told => exact fun report yields accepts => absurd ⟨report, yields, accepts⟩ ended

/-! ### Runs on a single document -/

/-- A configuration at `c`, and one empty document below `docs`. -/
private def corpus (config name : String) : Machine where
  files.root := .directory
    [("c", .file (Text.encodeUtf8 config)), ("docs", .directory [(name, .file [])])]
  files.workDir := []
  runner _ _ _ := .error .permissionDenied
  now := ⟨0, 0⟩

private def requiring (settings : Option Json) : Configuration where
  checks := [{ name := "RequiredProperties", settings }]

private def requiredChecks (settings : Option Json) : List PreparedCheck :=
  [⟨"RequiredProperties", Checks.RequiredProperties.rule, {}, settings.getD (.object [])⟩]

private theorem prepare_requiring (settings : Option Json) :
    prepare (Registry.builtin ⟨0, 0⟩) (requiring settings).checks =
      .ok (requiredChecks settings) := by
  have known : (Registry.builtin ⟨0, 0⟩).lookup "RequiredProperties" =
      some Checks.RequiredProperties.rule := by rfl
  refine prepare_eq_ok_iff.mpr ⟨List.cons_ne_nil _ _, .cons ?_ .nil⟩
  exact PreparedCheck.ofConfig_eq_ok_iff.mpr ⟨_, {}, known, rfl, rfl⟩

section
variable {config name : String} {settings : Option Json}

private theorem loadConfiguration_corpus
    (readable : Configuration.ofJson config = .ok (requiring settings)) :
    loadConfiguration (corpus config name).files "c" = .ok (requiring settings) := by
  have found : (corpus config name).files.resolve "c" = .ok (.file (Text.encodeUtf8 config)) := by
    rfl
  have plain : isYamlName "c" = false := by rfl
  simp only [loadConfiguration, FileTree.readText, FileTree.readBytes, found,
    Text.decodeUtf8_encodeUtf8, plain, readable, bind, Except.bind, Except.mapError]
  rfl

private theorem load_corpus
    (found : (corpus config name).files.resolve (Path.join "docs" name) = .ok (.file [])) :
    Document.load readHeader (corpus config name).files (Path.join "docs" name) =
      .ok (Document.ofParts (Path.join "docs" name) [] "") := by
  have decoded : Text.decodeUtf8 [] = .ok "" := by rfl
  have bare : FrontMatter.split readHeader "".toList = .ok ([], []) := by rfl
  simp only [Document.load, FileTree.readBytes, found, decoded, Document.parse, bare, bind,
    Except.bind, Except.mapError]

private def reportOn (config name : String) (settings : Option Json) : Report :=
  Surroundings.report ⟨(corpus config name).files, readHeader⟩ (requiredChecks settings)
    [Path.join "docs" name]

private theorem yields_corpus
    (readable : Configuration.ofJson config = .ok (requiring settings))
    (scope : ∀ vcs, Scope.resolve (corpus config name).files vcs "docs" .matching {} =
      ([], .ok [Path.join "docs" name])) :
    (corpus config name).Yields "c" (some "docs") (reportOn config name settings) := by
  have present : (corpus config name).files.exists? "docs" = true := by rfl
  refine ⟨requiring settings, [], loadConfiguration_corpus readable, ?_⟩
  rw [validateWithGit]
  exact validate_eq_ok_iff.mpr ⟨present, _, _, prepare_requiring settings, scope _, rfl⟩

private theorem results_reportOn
    (found : (corpus config name).files.resolve (Path.join "docs" name) = .ok (.file [])) :
    (reportOn config name settings).results =
      [(FileResult.new (Path.join "docs" name)).extend
        (runAll (corpus config name).files (requiredChecks settings)
          (Document.ofParts (Path.join "docs" name) [] ""))] := by
  rw [reportOn, Surroundings.results_report, List.map_singleton, Surroundings.checkFile,
    load_corpus found]
  rfl

end

private def bareText : String := "\x7b\"checks\":[\x7b\"name\":\"RequiredProperties\"\x7d]\x7d"

private def bareWords : List String := ["-v", "validate", "--config=c", "-p", "docs", "-ftext"]

private theorem ofJson_bareText : Configuration.ofJson bareText = .ok (requiring none) := by
  have parsed : Json.read bareText =
      .ok (.object [("checks", .array [.object [("name", .string "RequiredProperties")]])]) := by
    cbv
  rw [Configuration.ofJson, parsed]
  rfl

private theorem statuses_bare :
    (reportOn bareText "a.md" none).checks.map (·.status) = [.failure] := by
  rw [Report.checks, results_reportOn (by rfl)]
  rfl

theorem run_gives_verdict_on_bare_check :
    ∃ report, (corpus bareText "a.md").Yields "c" (some "docs") report ∧
      report.tallyOf .failure = 1 ∧
      (run (corpus bareText "a.md") false bareWords).exit = 1 ∧
      (Report.printedLines (run (corpus bareText "a.md") false bareWords).stdout).reverse[2]? =
        some report.closingLine ∧
      ¬ Report.Says report.closingLine "passed validation" := by
  have asked : Invocation.ofWords bareWords = .ok ⟨true, .validate "c" (some "docs") .text⟩ := by
    rfl
  have yields : (corpus bareText "a.md").Yields "c" (some "docs")
      (reportOn bareText "a.md" none) := yields_corpus ofJson_bareText fun _ => rfl
  obtain ⟨passes_iff, fails, _, told⟩ := run_gives_verdict false asked
  obtain ⟨_, _, printed⟩ := told _ yields trivial
  obtain ⟨_, closing, says_iff⟩ := printed rfl
  have blocked : (run (corpus bareText "a.md") false bareWords).exit ≠ 0 := by
    intro passed
    obtain ⟨other, again, passes, -⟩ := passes_iff.mp passed
    rw [again.unique yields] at passes
    have failure : Severity.failure ∈
        (reportOn bareText "a.md" none).checks.map (·.status) := by simp [statuses_bare]
    obtain ⟨result, member, failed⟩ := List.mem_map.mp failure
    exact (passes result member).2 failed
  refine ⟨_, yields, ?_, fails blocked, closing, fun said => blocked (says_iff.mp said)⟩
  rw [Report.tallyOf, statuses_bare]
  rfl

private def idleText : String :=
  "\x7b\"checks\":[\x7b\"name\":\"RequiredProperties\",\"settings\":" ++
    "\x7b\"properties\":[]\x7d\x7d]\x7d"

private def idleSettings : Json := .object [("properties", .array [])]

/-- The name of a byte that is no text, with the extension of a document. -/
private def rawName : String := Path.spell [0xff, 0x2e, 0x6d, 0x64]

private theorem ofJson_idleText :
    Configuration.ofJson idleText = .ok (requiring (some idleSettings)) := by
  have parsed : Json.read idleText = .ok (.object [("checks", .array
      [.object [("name", .string "RequiredProperties"), ("settings", idleSettings)]])]) := by
    cbv
  rw [Configuration.ofJson, parsed]
  rfl

private theorem statuses_raw :
    (reportOn idleText rawName (some idleSettings)).checks.map (·.status) = [.success] := by
  rw [Report.checks, results_reportOn (by rfl)]
  rfl

private theorem decodeUtf8_rawName (s : String) :
    Text.decodeUtf8 (Path.bytes rawName) ≠ .ok s := by
  intro decoded
  have noNul : (0 : UInt8) ∉ [0xff, 0x2e, 0x6d, 0x64] := by decide
  rw [rawName, Path.bytes_spell noNul] at decoded
  have isText : Path.isText rawName = true := (Path.isText_spell_iff noNul).mpr ⟨s, decoded⟩
  exact absurd isText (by decide)

/-- A run without errors and failures fails if it is to be written in JSON and the name of a
document is no text. An empty path is refused before anything is run. -/
theorem run_refuses_raw_name :
    (∀ s, Text.decodeUtf8 (Path.bytes rawName) ≠ .ok s) ∧
    (∃ report, (corpus idleText rawName).Yields "c" (some "docs") report ∧ report.Passes ∧
      (run (corpus idleText rawName) false ["validate", "-c", "c", "-p", "docs"]).exit = 1) ∧
    (run (corpus idleText rawName) false ["validate", "-c", "c", "-p", ""]).exit = 2 := by
  have yields : (corpus idleText rawName).Yields "c" (some "docs")
      (reportOn idleText rawName (some idleSettings)) := yields_corpus ofJson_idleText fun _ => rfl
  refine ⟨decodeUtf8_rawName, ⟨_, yields, ?passes, ?refused⟩, by rfl⟩
  case passes =>
    intro result member
    have status : result.status ∈
        (reportOn idleText rawName (some idleSettings)).checks.map (·.status) :=
      List.mem_map_of_mem member
    rw [statuses_raw, List.mem_singleton] at status
    simp [status]
  case refused =>
    have asked : Invocation.ofWords ["validate", "-c", "c", "-p", "docs"] =
        .ok ⟨false, .validate "c" (some "docs") .json⟩ := by rfl
    have unwritten : ¬ ∃ report, (corpus idleText rawName).Yields "c" (some "docs") report ∧
        ReportFormat.json.Accepts report := by
      rintro ⟨report, again, accepts⟩
      rw [again.unique yields] at accepts
      have texts : (reportOn idleText rawName (some idleSettings)).HasTextPaths := accepts
      rw [Report.HasTextPaths, results_reportOn (by rfl)] at texts
      obtain ⟨isText, -⟩ := texts _ (List.mem_singleton.mpr rfl)
      rw [FileResult.file_extend] at isText
      exact absurd isText (by decide)
    obtain ⟨e, failed⟩ := run_validate_of_unwritten false .json unwritten
    rw [run, asked]
    dsimp only
    rw [failed]
    rfl

end CommandLine
end DocLint
