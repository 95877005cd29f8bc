import DocLint.Validation

/-!
# The stages of a run

How a run goes on after each of its stages: the base, the checks, the patterns for files, version
control, and at last the files in scope one after the other.
-/
namespace DocLint

/-- Version control that finds nothing changed. -/
def Vcs.quiet : Vcs := ⟨fun _ _ => .ok (), fun _ => .ok []⟩

namespace Scope

variable {tree : FileTree} {vcs : Vcs} {base : String} {mode : Mode} {options : ModeOptions}

theorem resolve_of_refused {e : SetupError} (present : tree.exists? base = true)
    (refused : options.fileFilter = .error e) :
    resolve tree vcs base mode options = ([], .error e) := by
  simp only [resolve, present, refused, Bool.not_true, Bool.false_eq_true, if_false]

theorem resolve_matching {filter : PathFilter} (present : tree.exists? base = true)
    (read : options.fileFilter = .ok filter) :
    resolve tree vcs base .matching options = ([], .ok (matchingFiles tree base filter)) := by
  simp only [resolve, present, read, Bool.not_true, Bool.false_eq_true, if_false]

theorem resolve_changed {filter : PathFilter} (present : tree.exists? base = true)
    (read : options.fileFilter = .ok filter) :
    resolve tree vcs base .changed options =
      let answer := vcs.fetchAndDiff options.remoteName options.branchName
      (answer.1, (answer.2.mapError SetupError.scope).map (changedFiles tree base filter)) := by
  simp only [resolve, present, read, Bool.not_true, Bool.false_eq_true, if_false]
  rcases vcs.fetchAndDiff options.remoteName options.branchName with ⟨calls, _ | reported⟩ <;> rfl

/-- With version control there is a scope exactly if the base exists, the patterns can be read and
both calls succeed; it is made of the answer to the second one. -/
theorem resolve_changed_eq_ok_iff {calls : List VcsCall} {files : List String} :
    resolve tree vcs base .changed options = (calls, .ok files) ↔
      tree.exists? base = true ∧
      ∃ filter reported, options.fileFilter = .ok filter ∧
        vcs.fetch options.remoteName options.branchName = .ok () ∧
        vcs.changed options.branchName = .ok reported ∧
        calls = [.fetch options.remoteName options.branchName, .diff options.branchName] ∧
        files = changedFiles tree base filter reported := by
  constructor
  · intro ran
    cases present : tree.exists? base with
    | false =>
      rw [resolve, present, Bool.not_false, if_pos rfl] at ran
      cases ran
    | true =>
      cases read : options.fileFilter with
      | error e =>
        rw [resolve_of_refused present read] at ran
        cases ran
      | ok filter =>
        rw [resolve_changed present read] at ran
        dsimp only at ran
        cases fetched : vcs.fetch options.remoteName options.branchName with
        | error e =>
          rw [Vcs.fetchAndDiff, fetched] at ran
          cases ran
        | ok done =>
          rw [Vcs.fetchAndDiff, fetched] at ran
          cases changed : vcs.changed options.branchName with
          | error e =>
            rw [changed] at ran
            cases ran
          | ok reported =>
            rw [changed] at ran
            cases ran
            exact ⟨rfl, filter, reported, rfl, rfl, rfl, rfl, rfl⟩
  · rintro ⟨present, filter, reported, read, fetched, changed, rfl, rfl⟩
    rw [resolve_changed present read, Vcs.fetchAndDiff, fetched, changed]
    rfl

end Scope

section
variable {s : Surroundings} {vcs : Vcs} {registry : Registry} {config : Configuration}

theorem validate_of_missing (missing : s.files.exists? config.baseDirectory = false) :
    validate s vcs registry config = ([], .error (.missingBase config.baseDirectory)) := by
  simp only [validate, missing, Bool.not_false, if_true]

theorem validate_of_refused {e : SetupError}
    (present : s.files.exists? config.baseDirectory = true)
    (refused : prepare registry config.checks = .error e) :
    validate s vcs registry config = ([], .error e) := by
  simp only [validate, present, refused, Bool.not_true, Bool.false_eq_true, if_false]

theorem validate_of_prepared {checks : List PreparedCheck}
    (present : s.files.exists? config.baseDirectory = true)
    (prepared : prepare registry config.checks = .ok checks) :
    validate s vcs registry config =
      let scope := Scope.resolve s.files vcs config.baseDirectory config.mode config.modeOptions
      (scope.1, scope.2.map (s.report checks)) := by
  simp only [validate, present, prepared, Bool.not_true, Bool.false_eq_true, if_false]

/-- A run yields a report exactly if every stage succeeds; the report is that on the scope. -/
theorem validate_eq_ok_iff {calls : List VcsCall} {report : Report} :
    validate s vcs registry config = (calls, .ok report) ↔
      s.files.exists? config.baseDirectory = true ∧
      ∃ checks files, prepare registry config.checks = .ok checks ∧
        Scope.resolve s.files vcs config.baseDirectory config.mode config.modeOptions =
          (calls, .ok files) ∧
        report = s.report checks files := by
  constructor
  · intro done
    cases present : s.files.exists? config.baseDirectory with
    | false => rw [validate_of_missing present] at done; cases done
    | true =>
      cases prepared : prepare registry config.checks with
      | error e => rw [validate_of_refused present prepared] at done; cases done
      | ok checks =>
        rw [validate_of_prepared present prepared] at done
        rcases scope : Scope.resolve s.files vcs config.baseDirectory config.mode
            config.modeOptions with ⟨made, _ | files⟩
        · rw [scope] at done; cases done
        · rw [scope] at done
          cases done
          exact ⟨rfl, checks, files, rfl, rfl, rfl⟩
  · rintro ⟨present, checks, files, prepared, resolved, rfl⟩
    rw [validate_of_prepared present prepared, resolved]
    rfl

end
end DocLint
