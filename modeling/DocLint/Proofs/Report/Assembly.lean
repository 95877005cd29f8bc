import DocLint.Proofs.Report.Accounting

/-!
# Putting a report together

Runs of building steps. Any number of files may be open at a time; a step addresses one of them by
its place and does nothing if there is none. A file that was handed in stays open, so that it may
collect more results and be handed in once more.
-/
namespace DocLint

inductive BuildStep where
  | openFile (file : String)
  | readFailure (file cause : String)
  | push (place : Nat) (check : CheckResult)
  | extend (place : Nat) (checks : List CheckResult)
  | handIn (place : Nat)

/-- The files that collect results, and the report on those that were handed in. -/
structure Assembly where
  openFiles : List FileResult
  report : Report

namespace Assembly

def start (fileCount : Nat) : Assembly := ⟨[], Report.new fileCount⟩

/-- The files that a step hands in: one, or none if its place is empty. -/
def handedBy (a : Assembly) : BuildStep → List FileResult
  | .handIn place => a.openFiles[place]?.toList
  | _ => []

def step (a : Assembly) : BuildStep → Assembly
  | .openFile file => { a with openFiles := a.openFiles ++ [.new file] }
  | .readFailure file cause => { a with openFiles := a.openFiles ++ [.readFailure file cause] }
  | .push place check => { a with openFiles := a.openFiles.modify place (·.push check) }
  | .extend place checks => { a with openFiles := a.openFiles.modify place (·.extend checks) }
  | .handIn place =>
    match a.openFiles[place]? with
    | some file => { a with report := a.report.push file }
    | none => a

theorem step_handIn_of_some {a : Assembly} {place : Nat} {file : FileResult}
    (there : a.openFiles[place]? = some file) :
    a.step (.handIn place) = { a with report := a.report.push file } := by
  simp only [step, there]

theorem step_handIn_of_none {a : Assembly} {place : Nat} (empty : a.openFiles[place]? = none) :
    a.step (.handIn place) = a := by
  simp only [step, empty]

def run (fileCount : Nat) (steps : List BuildStep) : Assembly :=
  steps.foldl step (start fileCount)

structure Sound (fileCount : Nat) (a : Assembly) : Prop where
  open_folded : ∀ f ∈ a.openFiles, f.Folded
  report_accounted : a.report.Accounted fileCount

theorem sound_start (fileCount : Nat) : (start fileCount).Sound fileCount where
  open_folded := fun _ member => absurd member List.not_mem_nil
  report_accounted := Report.accounted_new fileCount

theorem folded_append {files : List FileResult} (folded : ∀ f ∈ files, f.Folded)
    {file : FileResult} (new : file.Folded) : ∀ f ∈ files ++ [file], f.Folded := by
  intro f member
  rcases List.mem_append.mp member with old | last
  · exact folded f old
  · rw [List.mem_singleton.mp last]
    exact new

theorem folded_modify {files : List FileResult} (folded : ∀ f ∈ files, f.Folded) (place : Nat)
    {change : FileResult → FileResult} (keeps : ∀ f, f.Folded → (change f).Folded) :
    ∀ f ∈ files.modify place change, f.Folded := by
  intro f member
  obtain ⟨i, found⟩ := List.mem_iff_getElem?.mp member
  rw [List.getElem?_modify] at found
  obtain ⟨old, there, same⟩ := Option.map_eq_some_iff.mp found
  have before := folded old (List.mem_of_getElem? there)
  rw [← same]
  by_cases here : place = i
  · rw [if_pos here]
    exact keeps old before
  · rw [if_neg here]
    exact before

theorem sound_step {fileCount : Nat} {a : Assembly} (sound : a.Sound fileCount)
    (s : BuildStep) : (a.step s).Sound fileCount := by
  obtain ⟨folded, accounted⟩ := sound
  cases s with
  | openFile file => exact ⟨folded_append folded (FileResult.folded_new file), accounted⟩
  | readFailure file cause =>
    exact ⟨folded_append folded (FileResult.folded_readFailure file cause), accounted⟩
  | push place check =>
    exact ⟨folded_modify folded place fun _ h => FileResult.folded_push h check, accounted⟩
  | extend place checks =>
    exact ⟨folded_modify folded place fun _ h => FileResult.folded_extend h checks, accounted⟩
  | handIn place =>
    cases there : a.openFiles[place]? with
    | none =>
      rw [step_handIn_of_none there]
      exact ⟨folded, accounted⟩
    | some file =>
      rw [step_handIn_of_some there]
      exact ⟨folded, Report.accounted_push accounted (folded file (List.mem_of_getElem? there))⟩

theorem sound_foldl_step {fileCount : Nat} {a : Assembly} (sound : a.Sound fileCount)
    (steps : List BuildStep) : (steps.foldl step a).Sound fileCount := by
  induction steps generalizing a with
  | nil => exact sound
  | cons s rest ih => exact ih (sound_step sound s)

theorem sound_run (fileCount : Nat) (steps : List BuildStep) :
    (run fileCount steps).Sound fileCount :=
  sound_foldl_step (sound_start fileCount) steps

theorem results_step (a : Assembly) (s : BuildStep) :
    (a.step s).report.results = a.report.results ++ a.handedBy s := by
  cases s with
  | handIn place =>
    cases there : a.openFiles[place]? with
    | none => simp [step_handIn_of_none there, handedBy, there]
    | some file => simp [step_handIn_of_some there, handedBy, there, Report.push]
  | openFile | readFailure | push | extend => exact (List.append_nil _).symm

theorem rank_report_le_step (a : Assembly) (s : BuildStep) :
    a.report.status.rank ≤ (a.step s).report.status.rank := by
  cases s with
  | handIn place =>
    cases there : a.openFiles[place]? with
    | none => rw [step_handIn_of_none there]
    | some file =>
      rw [step_handIn_of_some there]
      exact Severity.rank_le_rank_absorb a.report.status file.status
  | openFile | readFailure | push | extend => exact le_rfl

theorem rank_modify {files : List FileResult} {i : Nat} {f : FileResult}
    (there : files[i]? = some f) (place : Nat) {change : FileResult → FileResult}
    (raises : ∀ f, f.status.rank ≤ (change f).status.rank) :
    ∃ g, (files.modify place change)[i]? = some g ∧ f.status.rank ≤ g.status.rank := by
  rw [List.getElem?_modify, there]
  by_cases here : place = i
  · exact ⟨change f, by simp [here], raises f⟩
  · exact ⟨f, by simp [here], le_rfl⟩

/-- A file that is open stays open at its place, and no step lowers its status. -/
theorem rank_open_le_step (a : Assembly) (s : BuildStep) {i : Nat} {f : FileResult}
    (there : a.openFiles[i]? = some f) :
    ∃ g, (a.step s).openFiles[i]? = some g ∧ f.status.rank ≤ g.status.rank := by
  have kept : ∀ new : FileResult, (a.openFiles ++ [new])[i]? = some f := fun new =>
    (List.getElem?_append_left (List.getElem?_eq_some_iff.mp there).1).trans there
  cases s with
  | openFile | readFailure => exact ⟨f, kept _, le_rfl⟩
  | push place check =>
    exact rank_modify there place fun f => FileResult.rank_status_le_push f check
  | extend place checks =>
    exact rank_modify there place fun f => FileResult.rank_status_le_extend f checks
  | handIn place =>
    cases found : a.openFiles[place]? with
    | none => exact ⟨f, by rw [step_handIn_of_none found, there], le_rfl⟩
    | some file => exact ⟨f, by rw [step_handIn_of_some found]; exact there, le_rfl⟩

/-- After every run of building steps the counts, the status of each file and the status of the
report agree with the results that were handed in, and no further step lowers a status. -/
theorem run_keeps_accounts (fileCount : Nat) (steps : List BuildStep) :
    let a := run fileCount steps
    let counts := a.report.summary
    let statuses := a.report.checks.map (·.status)
    (counts.fileCount = fileCount ∧ counts.failures = statuses.count .failure ∧
      counts.errors = statuses.count .error ∧ counts.warnings = statuses.count .warn) ∧
    ((∀ f ∈ a.openFiles ++ a.report.results,
        f.status = Severity.fold (f.checks.map (·.status))) ∧
      a.report.status = Severity.fold statuses ∧
      (a.report.status = .failure ↔ 0 < counts.failures) ∧
      (a.report.status = .error ↔ counts.failures = 0 ∧ 0 < counts.errors) ∧
      (a.report.status = .warn ↔
        counts.failures = 0 ∧ counts.errors = 0 ∧ 0 < counts.warnings) ∧
      (a.report.status = .success ↔
        counts.failures = 0 ∧ counts.errors = 0 ∧ counts.warnings = 0) ∧
      a.report.status ≠ .info) ∧
    (∀ s : BuildStep,
      (a.step s).report.results = a.report.results ++ a.handedBy s ∧
      a.report.status.rank ≤ (a.step s).report.status.rank ∧
      ∀ (i : Nat) (f : FileResult), a.openFiles[i]? = some f →
        ∃ g, (a.step s).openFiles[i]? = some g ∧ f.status.rank ≤ g.status.rank) ∧
    (a.report.isOk = true ↔ counts.failures = 0 ∧ counts.errors = 0) := by
  intro a counts statuses
  obtain ⟨folded, accounted⟩ := sound_run fileCount steps
  have tallied : counts = Summary.tally fileCount statuses := accounted.summary_tallied
  refine ⟨?counts, ?statuses, ?steps, accounted.isOk_iff⟩
  case counts =>
    rw [tallied]
    exact ⟨rfl, rfl, rfl, rfl⟩
  case statuses =>
    refine ⟨?_, accounted.status_folded, accounted.status_eq_failure_iff,
      accounted.status_eq_error_iff, accounted.status_eq_warn_iff,
      accounted.status_eq_success_iff, accounted.status_ne_info⟩
    intro f member
    rcases List.mem_append.mp member with pending | handed
    · exact folded f pending
    · exact accounted.files_folded f handed
  case steps =>
    intro s
    exact ⟨results_step a s, rank_report_le_step a s, fun _ _ there => rank_open_le_step a s there⟩

end Assembly
end DocLint
