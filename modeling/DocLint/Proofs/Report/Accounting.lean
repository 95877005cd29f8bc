import DocLint.Report
import DocLint.Proofs.Severity.Fold

/-!
# The accounts of a report

A report is put together in steps: files are opened, collect results and are handed in, in any
interleaving and as often as one likes. Status and counts are updated on the way, each by its own
rule. Here they are tied to what the report holds, after every step of every such run.
-/
namespace DocLint

namespace FileResult

/-- The status of a file is the fold of its own results. -/
def Folded (f : FileResult) : Prop :=
  f.status = Severity.fold (f.checks.map (·.status))

theorem folded_new (file : String) : (new file).Folded := rfl

theorem folded_push {f : FileResult} (folded : f.Folded) (check : CheckResult) :
    (f.push check).Folded := by
  rw [Folded] at folded
  simp only [Folded, push, List.map_append, List.map_singleton, Severity.fold_concat, folded]

theorem folded_readFailure (file cause : String) : (readFailure file cause).Folded :=
  folded_push (folded_new file) _

theorem folded_extend {f : FileResult} (folded : f.Folded) (checks : List CheckResult) :
    (f.extend checks).Folded := by
  induction checks generalizing f with
  | nil => exact folded
  | cons check rest ih => exact ih (folded_push folded check)

@[simp] theorem checks_extend (f : FileResult) (checks : List CheckResult) :
    (f.extend checks).checks = f.checks ++ checks := by
  induction checks generalizing f with
  | nil => exact (List.append_nil _).symm
  | cons check rest ih =>
    have tail := ih (f.push check)
    rw [push, List.append_assoc] at tail
    exact tail

@[simp] theorem file_extend (f : FileResult) (checks : List CheckResult) :
    (f.extend checks).file = f.file := by
  induction checks generalizing f with
  | nil => rfl
  | cons check rest ih => exact ih (f.push check)

theorem rank_status_le_push (f : FileResult) (check : CheckResult) :
    f.status.rank ≤ (f.push check).status.rank :=
  Severity.rank_le_rank_absorb f.status check.status

theorem rank_status_le_extend (f : FileResult) (checks : List CheckResult) :
    f.status.rank ≤ (f.extend checks).status.rank := by
  induction checks generalizing f with
  | nil => exact le_rfl
  | cons check rest ih => exact le_trans (rank_status_le_push f check) (ih (f.push check))

end FileResult

namespace Summary

def tally (fileCount : Nat) (statuses : List Severity) : Summary where
  fileCount := fileCount
  failures := statuses.count .failure
  errors := statuses.count .error
  warnings := statuses.count .warn

theorem count_tally (fileCount : Nat) (statuses : List Severity) (status : Severity) :
    (tally fileCount statuses).count status = tally fileCount (statuses ++ [status]) := by
  cases status <;> simp [tally, count]

theorem foldl_count_tally (fileCount : Nat) (statuses more : List Severity) :
    more.foldl count (tally fileCount statuses) = tally fileCount (statuses ++ more) := by
  induction more generalizing statuses with
  | nil => rw [List.append_nil]; rfl
  | cons status rest ih =>
    rw [List.foldl_cons, count_tally, ih, List.append_assoc]
    rfl

end Summary

namespace Report

/-- What ties the status and the counts of a report to the results that it holds. -/
structure Accounted (fileCount : Nat) (r : Report) : Prop where
  files_folded : ∀ f ∈ r.results, f.Folded
  status_folded : r.status = Severity.fold (r.checks.map (·.status))
  summary_tallied : r.summary = Summary.tally fileCount (r.checks.map (·.status))

theorem accounted_new (fileCount : Nat) : (new fileCount).Accounted fileCount where
  files_folded := fun _ member => absurd member List.not_mem_nil
  status_folded := rfl
  summary_tallied := rfl

@[simp] theorem checks_push (r : Report) (file : FileResult) :
    (r.push file).checks = r.checks ++ file.checks := by
  simp [checks, push]

/-- The nested fold is the flat one: a file's fold may be absorbed in place of its results. -/
theorem accounted_push {fileCount : Nat} {r : Report} (accounted : r.Accounted fileCount)
    {file : FileResult} (folded : file.Folded) : (r.push file).Accounted fileCount where
  files_folded := by
    intro f member
    rcases List.mem_append.mp member with old | new
    · exact accounted.files_folded f old
    · rw [List.mem_singleton.mp new]
      exact folded
  status_folded := by
    rw [checks_push, List.map_append, Severity.fold_append, ← accounted.status_folded, ← folded]
    rfl
  summary_tallied := by
    rw [checks_push, List.map_append, ← Summary.foldl_count_tally, ← accounted.summary_tallied]
    rfl

variable {fileCount : Nat} {r : Report}

theorem Accounted.status_eq_failure_iff (accounted : r.Accounted fileCount) :
    r.status = .failure ↔ 0 < r.summary.failures := by
  rw [accounted.status_folded, accounted.summary_tallied, Severity.fold_eq_failure_iff]
  exact List.count_pos_iff.symm

theorem Accounted.status_eq_error_iff (accounted : r.Accounted fileCount) :
    r.status = .error ↔ r.summary.failures = 0 ∧ 0 < r.summary.errors := by
  rw [accounted.status_folded, accounted.summary_tallied, Severity.fold_eq_error_iff]
  exact and_congr List.count_eq_zero.symm List.count_pos_iff.symm

theorem Accounted.status_eq_warn_iff (accounted : r.Accounted fileCount) :
    r.status = .warn ↔
      r.summary.failures = 0 ∧ r.summary.errors = 0 ∧ 0 < r.summary.warnings := by
  rw [accounted.status_folded, accounted.summary_tallied, Severity.fold_eq_warn_iff]
  exact and_congr List.count_eq_zero.symm
    (and_congr List.count_eq_zero.symm List.count_pos_iff.symm)

theorem Accounted.status_eq_success_iff (accounted : r.Accounted fileCount) :
    r.status = .success ↔
      r.summary.failures = 0 ∧ r.summary.errors = 0 ∧ r.summary.warnings = 0 := by
  rw [accounted.status_folded, accounted.summary_tallied, Severity.fold_eq_success_iff]
  exact and_congr List.count_eq_zero.symm
    (and_congr List.count_eq_zero.symm List.count_eq_zero.symm)

theorem Accounted.status_ne_info (accounted : r.Accounted fileCount) : r.status ≠ .info := by
  rw [accounted.status_folded]
  exact Severity.fold_ne_info _

theorem Accounted.isOk_iff (accounted : r.Accounted fileCount) :
    r.isOk = true ↔ r.summary.failures = 0 ∧ r.summary.errors = 0 := by
  have blocked := Severity.isBlocking_fold_iff (r.checks.map (·.status))
  rw [← accounted.status_folded] at blocked
  rw [isOk, Bool.not_eq_true', ← Bool.not_eq_true, blocked, not_or, accounted.summary_tallied]
  exact and_congr List.count_eq_zero.symm List.count_eq_zero.symm

end Report
end DocLint
