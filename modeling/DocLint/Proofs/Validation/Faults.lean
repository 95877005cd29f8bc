import DocLint.Proofs.Dispatch.Preparation
import DocLint.Proofs.Validation.Stages

/-!
# What stops a run

All that can stop a run, in order of precedence. The list depends on whether the base exists, on
the registered names, on version control and on the configuration; what is in the files and what
the rules do has no part in it.
-/
namespace DocLint

/-- The default pattern for files can be read. -/
theorem read_defaultFilePattern : ∃ pattern, Pattern.read defaultFilePattern = .ok pattern := by
  have readable : (Pattern.read defaultFilePattern).toBool = true := rfl
  cases read : Pattern.read defaultFilePattern with
  | error reason => rw [read] at readable; cases readable
  | ok pattern => exact ⟨pattern, rfl⟩

namespace ModeOptions

def faults (o : ModeOptions) : List SetupError :=
  PathFilter.faults (some (o.includePattern.getD defaultFilePattern)) o.excludePattern

theorem reports_fileFilter (o : ModeOptions) : Reports o.fileFilter o.faults :=
  PathFilter.reports_ofPatterns _ _

theorem faults_ne_nil_iff (o : ModeOptions) :
    o.faults ≠ [] ↔ Unreadable o.includePattern ∨ Unreadable o.excludePattern := by
  rw [faults, PathFilter.faults_ne_nil_iff]
  refine or_congr_left ?_
  cases given : o.includePattern with
  | some text => rfl
  | none =>
    refine iff_of_false ?_ fun ⟨_, _, absent, _⟩ => by cases absent
    rintro ⟨text, reason, same, unreadable⟩
    obtain ⟨pattern, read⟩ := read_defaultFilePattern
    rw [← Option.some.inj same, Option.getD_none, read] at unreadable
    cases unreadable

end ModeOptions

namespace Vcs

def faults (vcs : Vcs) (remote branch : String) : List SetupError :=
  (match vcs.fetch remote branch with | .error e => [.scope e] | .ok _ => []) ++
    (match vcs.changed branch with | .error e => [.scope e] | .ok _ => [])

def calls (vcs : Vcs) (remote branch : String) : List VcsCall :=
  match vcs.fetch remote branch with
  | .error _ => [.fetch remote branch]
  | .ok _ => [.fetch remote branch, .diff branch]

theorem fetchAndDiff_calls (vcs : Vcs) (remote branch : String) :
    (vcs.fetchAndDiff remote branch).1 = vcs.calls remote branch := by
  rw [fetchAndDiff, calls]
  cases vcs.fetch remote branch <;> rfl

theorem reports_fetchAndDiff (vcs : Vcs) (remote branch : String) :
    Reports ((vcs.fetchAndDiff remote branch).2.mapError SetupError.scope)
      (vcs.faults remote branch) := by
  rw [fetchAndDiff, faults]
  cases vcs.fetch remote branch with
  | error e => exact reports_error _ _
  | ok =>
    cases vcs.changed branch with
    | error e => exact reports_error _ _
    | ok reported => exact reports_ok reported

theorem faults_ne_nil_iff (vcs : Vcs) (remote branch : String) :
    vcs.faults remote branch ≠ [] ↔
      (∃ e, vcs.fetch remote branch = .error e) ∨ ∃ e, vcs.changed branch = .error e := by
  rw [faults]
  cases vcs.fetch remote branch <;> cases vcs.changed branch <;> simp

end Vcs

def localFaults (baseExists : Bool) (known : String → Bool) (config : Configuration) :
    List SetupError :=
  (if baseExists then [] else [.missingBase config.baseDirectory]) ++
    (checkFaults known config.checks ++ config.modeOptions.faults)

def vcsFaults (vcs : Vcs) (config : Configuration) : List SetupError :=
  match config.mode with
  | .matching => []
  | .changed => vcs.faults config.modeOptions.remoteName config.modeOptions.branchName

def vcsCalls (vcs : Vcs) (config : Configuration) : List VcsCall :=
  match config.mode with
  | .matching => []
  | .changed => vcs.calls config.modeOptions.remoteName config.modeOptions.branchName

def setupFaults (baseExists : Bool) (known : String → Bool) (vcs : Vcs)
    (config : Configuration) : List SetupError :=
  localFaults baseExists known config ++ vcsFaults vcs config

/-- The first of all faults comes out, and calls are made only if there is none before them. -/
structure Staged {α : Type} (answer : List VcsCall × Except SetupError α)
    (before after : List SetupError) (calls : List VcsCall) : Prop where
  reports : Reports answer.2 (before ++ after)
  calls_eq : answer.1 = if before = [] then calls else []

namespace Staged

variable {α : Type} {before after : List SetupError} {calls : List VcsCall}

theorem refused (e : SetupError) (later : List SetupError) :
    Staged (([], .error e) : List VcsCall × Except SetupError α) (e :: later) after calls where
  reports := reports_error e _
  calls_eq := (if_neg (List.cons_ne_nil e later)).symm

theorem asked {outcome : Except SetupError α} (reports : Reports outcome after) :
    Staged (calls, outcome) [] after calls where
  reports := reports
  calls_eq := (if_pos rfl).symm

end Staged

theorem Scope.staged_resolve {tree : FileTree} {config : Configuration}
    (present : tree.exists? config.baseDirectory = true) (vcs : Vcs) :
    Staged (resolve tree vcs config.baseDirectory config.mode config.modeOptions)
      config.modeOptions.faults (vcsFaults vcs config) (vcsCalls vcs config) := by
  have patterns := ModeOptions.reports_fileFilter config.modeOptions
  cases read : config.modeOptions.fileFilter with
  | error e =>
    rw [read] at patterns
    obtain ⟨later, same⟩ := patterns.eq_cons
    rw [resolve_of_refused present read, same]
    exact Staged.refused e later
  | ok filter =>
    rw [read] at patterns
    rw [patterns.eq_nil, vcsFaults, vcsCalls]
    cases config.mode with
    | matching =>
      rw [resolve_matching present read]
      exact Staged.asked (reports_ok _)
    | changed =>
      rw [resolve_changed present read, ← Vcs.fetchAndDiff_calls]
      exact Staged.asked ((Vcs.reports_fetchAndDiff vcs _ _).map _)

theorem staged_validate (s : Surroundings) (vcs : Vcs) (registry : Registry)
    (config : Configuration) :
    Staged (validate s vcs registry config)
      (localFaults (s.files.exists? config.baseDirectory) registry.contains config)
      (vcsFaults vcs config) (vcsCalls vcs config) := by
  rw [localFaults]
  cases present : s.files.exists? config.baseDirectory with
  | false =>
    rw [validate_of_missing present]
    exact Staged.refused _ _
  | true =>
    have checked := reports_prepare registry config.checks
    cases prepared : prepare registry config.checks with
    | error e =>
      rw [prepared] at checked
      obtain ⟨later, same⟩ := checked.eq_cons
      rw [validate_of_refused present prepared, same]
      exact Staged.refused e _
    | ok checks =>
      rw [prepared] at checked
      rw [validate_of_prepared present prepared, checked.eq_nil]
      obtain ⟨reports, calls_eq⟩ := Scope.staged_resolve present vcs
      exact ⟨reports.map _, calls_eq⟩

/-- A setup that is wrong by itself: the base is missing, there is no check, a check is not known
or has a pattern that cannot be read, or so has the choice of files. -/
def Misconfigured (baseExists : Bool) (known : String → Bool) (config : Configuration) : Prop :=
  baseExists = false ∨
  (config.checks = [] ∨ ∃ c ∈ config.checks,
    known c.name = false ∨ Unreadable c.includePattern ∨ Unreadable c.excludePattern) ∨
  (Unreadable config.modeOptions.includePattern ∨ Unreadable config.modeOptions.excludePattern)

/-- Version control is asked, and it fails to fetch or to compare. -/
def VcsFails (vcs : Vcs) (config : Configuration) : Prop :=
  config.mode = .changed ∧
    ((∃ e, vcs.fetch config.modeOptions.remoteName config.modeOptions.branchName = .error e) ∨
      ∃ e, vcs.changed config.modeOptions.branchName = .error e)

theorem localFaults_ne_nil_iff (baseExists : Bool) (known : String → Bool)
    (config : Configuration) :
    localFaults baseExists known config ≠ [] ↔ Misconfigured baseExists known config := by
  have missing : (if baseExists then [] else [SetupError.missingBase config.baseDirectory]) ≠ [] ↔
      baseExists = false := by
    cases baseExists <;> simp
  rw [localFaults, ne_eq, List.append_eq_nil_iff, List.append_eq_nil_iff, not_and_or, not_and_or]
  exact or_congr missing (or_congr (checkFaults_ne_nil_iff known config.checks)
    (ModeOptions.faults_ne_nil_iff config.modeOptions))

theorem vcsFaults_ne_nil_iff (vcs : Vcs) (config : Configuration) :
    vcsFaults vcs config ≠ [] ↔ VcsFails vcs config := by
  rw [vcsFaults, VcsFails]
  cases config.mode with
  | matching => exact iff_of_false (fun different => different rfl) fun both => by cases both.1
  | changed =>
    rw [Vcs.faults_ne_nil_iff]
    exact (and_iff_right rfl).symm

/-- A run stops exactly if its setup is wrong or version control fails, with the first of all
faults. Version control is not called before the setup is found to be right. -/
theorem validate_stops_at_first_fault (s : Surroundings) (vcs : Vcs) (registry : Registry)
    (config : Configuration) :
    (∀ e, (validate s vcs registry config).2 = .error e ↔
      (setupFaults (s.files.exists? config.baseDirectory) registry.contains vcs config).head? =
        some e) ∧
    ((∃ e, (validate s vcs registry config).2 = .error e) ↔
      Misconfigured (s.files.exists? config.baseDirectory) registry.contains config ∨
        VcsFails vcs config) ∧
    (localFaults (s.files.exists? config.baseDirectory) registry.contains config ≠ [] ↔
      Misconfigured (s.files.exists? config.baseDirectory) registry.contains config) ∧
    (validate s vcs registry config).1 =
      if localFaults (s.files.exists? config.baseDirectory) registry.contains config = [] then
        vcsCalls vcs config
      else [] := by
  have staged := staged_validate s vcs registry config
  have wrong := localFaults_ne_nil_iff (s.files.exists? config.baseDirectory) registry.contains
    config
  refine ⟨staged.reports, ?_, wrong, staged.calls_eq⟩
  rw [staged.reports.exists_error_iff, ne_eq, List.append_eq_nil_iff, not_and_or]
  exact or_congr wrong (vcsFaults_ne_nil_iff vcs config)

end DocLint
