import DocLint.Proofs.Dispatch.Isolation
import DocLint.Proofs.Validation.Coverage
import Mathlib.Data.List.Perm.Basic

/-!
# The order of checks

The order in which checks are configured decides the order of the results for each file, and nothing
else: every count and every status is that of the results in whatever order.
-/
namespace DocLint

theorem Summary.tally_perm {statuses others : List Severity} (perm : statuses.Perm others)
    (fileCount : Nat) : tally fileCount statuses = tally fileCount others := by
  simp only [tally, perm.count_eq]

namespace Report

variable {fileCount : Nat} {r other : Report}

theorem Accounted.summary_of_perm (accounted : r.Accounted fileCount)
    (alike : other.Accounted fileCount) (perm : r.checks.Perm other.checks) :
    other.summary = r.summary := by
  rw [accounted.summary_tallied, alike.summary_tallied]
  exact Summary.tally_perm (perm.symm.map _) fileCount

theorem Accounted.status_of_perm (accounted : r.Accounted fileCount)
    (alike : other.Accounted fileCount) (perm : r.checks.Perm other.checks) :
    other.status = r.status := by
  rw [accounted.status_folded, alike.status_folded]
  exact Severity.fold_perm (perm.symm.map _)

end Report

/-- Whether checks can be prepared does not depend on their order. -/
theorem prepare_of_perm {registry : Registry} {configs others : List CheckConfig}
    (perm : configs.Perm others) {checks : List PreparedCheck}
    (accepted : prepare registry configs = .ok checks) :
    ∃ reordered, prepare registry others = .ok reordered := by
  have faultless := (reports_prepare registry configs).exists_ok_iff.mp ⟨checks, accepted⟩
  rw [checkFaults, List.append_eq_nil_iff] at faultless
  obtain ⟨some, sound⟩ := faultless
  refine (reports_prepare registry others).exists_ok_iff.mpr ?_
  rw [checkFaults, List.append_eq_nil_iff, ← perm.isEmpty_eq]
  exact ⟨some, List.perm_nil.mp (sound ▸ (perm.flatMap_right _).symm)⟩

namespace Surroundings

variable (s : Surroundings) (registry : Registry)

/-- Two entries for one file, when the checks of the one run are those of the other in a different
order: they agree in everything but the order of the results, where each check that applies to the
file stands in its own place. -/
structure Reorders (configs others : List CheckConfig) (entry other : FileResult) : Prop where
  file_eq : other.file = entry.file
  status_eq : other.status = entry.status
  perm : entry.checks.Perm other.checks
  unread : ∀ e, Document.load s.readHeader s.files entry.file = .error e → other = entry
  placed : ∀ document, Document.load s.readHeader s.files entry.file = .ok document →
    entry.checks = configs.flatMap (contribution s.files registry document) ∧
    other.checks = others.flatMap (contribution s.files registry document) ∧
    ∀ c ∈ configs, ∃ rule filter, registry.lookup c.name = some rule ∧ c.filter = .ok filter ∧
      contribution s.files registry document c =
        if filter.admits entry.file then
          [c.answer document (rule.check s.files document (c.settings.getD (.object [])))]
        else []

variable {registry} {configs others : List CheckConfig} {checks reordered : List PreparedCheck}

theorem checks_checkFile {registry : Registry} {configs : List CheckConfig}
    {checks : List PreparedCheck} (accepted : prepare registry configs = .ok checks) {file : String}
    {document : Document} (loaded : Document.load s.readHeader s.files file = .ok document) :
    (s.checkFile checks file).checks =
      configs.flatMap (contribution s.files registry document) := by
  have covers := (covers_checkFile s checks file).2
  rw [loaded] at covers
  rw [covers.2, runAll_eq_flatMap s.files document accepted]

theorem checkFile_of_unread {file : String} {e : LoadError}
    (unread : Document.load s.readHeader s.files file = .error e) :
    s.checkFile reordered file = s.checkFile checks file := by
  rw [checkFile, checkFile, unread]

theorem reorders_checkFile (perm : configs.Perm others)
    (accepted : prepare registry configs = .ok checks)
    (accepts : prepare registry others = .ok reordered) (file : String) :
    s.Reorders registry configs others (s.checkFile checks file) (s.checkFile reordered file) := by
  have file_eq := (covers_checkFile s checks file).1
  have shuffled : (s.checkFile checks file).checks.Perm (s.checkFile reordered file).checks := by
    cases loaded : Document.load s.readHeader s.files file with
    | error e => rw [s.checkFile_of_unread loaded]
    | ok document =>
      rw [s.checks_checkFile accepted loaded, s.checks_checkFile accepts loaded]
      exact perm.flatMap_right _
  refine ⟨?_, ?_, shuffled, fun e unread => ?_, fun document loaded => ?_⟩
  · rw [file_eq, (covers_checkFile s reordered file).1]
  · rw [folded_checkFile s checks file, folded_checkFile s reordered file]
    exact Severity.fold_perm (shuffled.symm.map _)
  · rw [file_eq] at unread
    exact s.checkFile_of_unread unread
  · rw [file_eq] at loaded
    refine ⟨s.checks_checkFile accepted loaded, s.checks_checkFile accepts loaded, ?_⟩
    intro c member
    obtain ⟨rule, filter, found, read⟩ := known_of_prepare accepted member
    have added := contribution_eq s.files document found read
    rw [Document.file_of_load loaded] at added
    exact ⟨rule, filter, found, read, file_eq.symm ▸ added⟩

theorem reorders_report (perm : configs.Perm others)
    (accepted : prepare registry configs = .ok checks)
    (accepts : prepare registry others = .ok reordered) (files : List String) :
    List.Forall₂ (s.Reorders registry configs others) (s.report checks files).results
      (s.report reordered files).results := by
  rw [results_report, results_report, List.forall₂_map_left_iff, List.forall₂_map_right_iff,
    List.forall₂_same]
  exact fun file _ => s.reorders_checkFile perm accepted accepts file

theorem checks_report_perm (perm : configs.Perm others)
    (accepted : prepare registry configs = .ok checks)
    (accepts : prepare registry others = .ok reordered) (files : List String) :
    (s.report checks files).checks.Perm (s.report reordered files).checks := by
  rw [Report.checks, Report.checks, results_report, results_report, List.flatMap_map,
    List.flatMap_map]
  exact List.Perm.flatMap_left files fun file _ =>
    (s.reorders_checkFile perm accepted accepts file).perm

end Surroundings

/-- A run whose checks are put into another order succeeds or is refused as before. If it succeeds,
the same files are reported with the same counts and the same statuses, and the results for each
file follow the order of the checks. -/
theorem validate_reorders {config : Configuration} {others : List CheckConfig}
    (perm : config.checks.Perm others) (s : Surroundings) (vcs : Vcs) (registry : Registry) :
    (∀ calls report, validate s vcs registry config = (calls, .ok report) →
      ∃ reordered,
        validate s vcs registry { config with checks := others } = (calls, .ok reordered) ∧
        reordered.results.map (·.file) = report.results.map (·.file) ∧
        reordered.summary = report.summary ∧ reordered.status = report.status ∧
        List.Forall₂ (s.Reorders registry config.checks others) report.results
          reordered.results) ∧
    (s.files.exists? config.baseDirectory = true →
      ∀ e, prepare registry config.checks = .error e →
        validate s vcs registry config = ([], .error e) ∧
        ∃ e', prepare registry others = .error e' ∧
          validate s vcs registry { config with checks := others } = ([], .error e')) := by
  constructor
  case left =>
    intro calls report done
    obtain ⟨present, checks, files, accepted, resolved, rfl⟩ := validate_eq_ok_iff.mp done
    obtain ⟨reordered, accepts⟩ := prepare_of_perm perm accepted
    have shuffled := s.checks_report_perm perm accepted accepts files
    have accounted := s.accounted_report checks files
    have alike := s.accounted_report reordered files
    have entries := s.reorders_report perm accepted accepts files
    refine ⟨s.report reordered files, validate_eq_ok_iff.mpr
      ⟨present, reordered, files, accepts, resolved, rfl⟩, ?_,
      accounted.summary_of_perm alike shuffled, accounted.status_of_perm alike shuffled, entries⟩
    rw [s.files_report, s.files_report]
  case right =>
    intro present e refused
    refine ⟨validate_of_refused present refused, ?_⟩
    cases prepared : prepare registry others with
    | error e' => exact ⟨e', rfl, validate_of_refused present prepared⟩
    | ok reordered =>
      obtain ⟨checks, accepted⟩ := prepare_of_perm perm.symm prepared
      rw [refused] at accepted
      cases accepted

private def halfReadable : Surroundings where
  files.root := .directory [("a.md", .file [0x48, 0x69]), ("b.md", .file [0xff])]
  files.workDir := []
  readHeader _ := .error "no header"

private def grumblers : Registry :=
  (Registry.empty.insert ⟨"Crash", fun _ _ _ => .crashed none⟩).insert
    ⟨"Mutter", fun _ _ _ => .completed ⟨.error, "", "", "hm", none⟩⟩

private def crash : CheckConfig := { name := "Crash" }

private def mutter : CheckConfig := { name := "Mutter" }

private def mutterElsewhere : CheckConfig := { name := "Mutter", excludePattern := some "a" }

private def crashFirst : Configuration := { checks := [crash, mutterElsewhere, mutter] }

private def crashLast : Configuration := { checks := [mutterElsewhere, mutter, crash] }

/-- A check that crashes may come first or last. -/
theorem validate_reorders_crash :
    crashFirst.checks.Perm crashLast.checks ∧
    ∃ report reordered,
      validate halfReadable Vcs.quiet grumblers crashFirst = ([], .ok report) ∧
      validate halfReadable Vcs.quiet grumblers crashLast = ([], .ok reordered) ∧
      reordered.results.map (·.file) = report.results.map (·.file) ∧
      reordered.summary = report.summary ∧ reordered.status = report.status ∧
      List.Forall₂ (halfReadable.Reorders grumblers crashFirst.checks crashLast.checks)
        report.results reordered.results := by
  have perm : crashFirst.checks.Perm crashLast.checks :=
    (List.Perm.swap mutterElsewhere crash _).trans ((List.Perm.swap mutter crash []).cons _)
  have present : halfReadable.files.exists? crashFirst.baseDirectory = true := rfl
  have resolved : Scope.resolve halfReadable.files Vcs.quiet crashFirst.baseDirectory
      crashFirst.mode crashFirst.modeOptions = ([], .ok ["./a.md", "./b.md"]) := rfl
  have prepares : (prepare grumblers crashFirst.checks).toBool = true := rfl
  cases prepared : prepare grumblers crashFirst.checks with
  | error e => rw [prepared] at prepares; cases prepares
  | ok checks =>
    have done := validate_eq_ok_iff.mpr ⟨present, checks, _, prepared, resolved, rfl⟩
    obtain ⟨succeeds, -⟩ := validate_reorders perm halfReadable Vcs.quiet grumblers
    obtain ⟨reordered, again, files, summary, status, entries⟩ := succeeds _ _ done
    exact ⟨perm, _, reordered, done, again, files, summary, status, entries⟩

end DocLint
