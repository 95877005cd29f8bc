import Mathlib.Data.List.Forall2

/-!
# Outcomes that report their first fault

Setting a run up is a sequence of stages, each of which may fail. Which fault comes out is said by
a list of all faults in order of precedence, and such lists are appended when stages are sequenced.
-/
namespace DocLint

variable {ε α β : Type}

/-- An outcome fails with the first of the given faults, and only if there is one. -/
def Reports (outcome : Except ε α) (faults : List ε) : Prop :=
  ∀ e, outcome = .error e ↔ faults.head? = some e

theorem reports_ok (value : α) : Reports (.ok value : Except ε α) [] := by
  intro e
  simp

theorem reports_error (e : ε) (later : List ε) :
    Reports (.error e : Except ε α) (e :: later) := by
  intro other
  simp

namespace Reports

variable {outcome : Except ε α} {faults : List ε}

theorem eq_cons {e : ε} (reports : Reports (.error e : Except ε α) faults) :
    ∃ later, faults = e :: later := by
  have first := (reports e).mp rfl
  cases faults with
  | nil => cases first
  | cons fault later => exact ⟨later, by rw [Option.some.inj first]⟩

theorem eq_nil {value : α} (reports : Reports (.ok value : Except ε α) faults) : faults = [] := by
  cases faults with
  | nil => rfl
  | cons fault later => cases (reports fault).mpr rfl

theorem exists_ok_iff (reports : Reports outcome faults) :
    (∃ value, outcome = .ok value) ↔ faults = [] := by
  cases outcome with
  | error e =>
    obtain ⟨later, rfl⟩ := reports.eq_cons
    exact iff_of_false (fun ⟨_, same⟩ => by cases same) (List.cons_ne_nil e later)
  | ok value => exact iff_of_true ⟨value, rfl⟩ reports.eq_nil

theorem exists_error_iff (reports : Reports outcome faults) :
    (∃ e, outcome = .error e) ↔ faults ≠ [] := by
  rw [ne_eq, ← reports.exists_ok_iff]
  cases outcome <;> simp

/-- A later stage matters only if the earlier one had no fault. -/
theorem bind {next : α → Except ε β} {more : List ε} (reports : Reports outcome faults)
    (later : ∀ value, outcome = .ok value → Reports (next value) more) :
    Reports (outcome >>= next) (faults ++ more) := by
  cases outcome with
  | error e =>
    obtain ⟨rest, rfl⟩ := reports.eq_cons
    exact reports_error e (rest ++ more)
  | ok value =>
    rw [reports.eq_nil, List.nil_append]
    exact later value rfl

theorem map (reports : Reports outcome faults) (f : α → β) :
    Reports (outcome.map f) faults := by
  cases outcome with
  | error e =>
    obtain ⟨rest, rfl⟩ := reports.eq_cons
    exact reports_error e rest
  | ok value =>
    rw [reports.eq_nil]
    exact reports_ok (f value)

theorem bind_pure (reports : Reports outcome faults) (f : α → β) :
    Reports (outcome >>= fun value => pure (f value)) faults := by
  have mapped : (outcome >>= fun value => pure (f value)) = outcome.map f := by
    cases outcome <;> rfl
  rw [mapped]
  exact reports.map f

end Reports

/-- A traversal stops at the first element with a fault. -/
theorem reports_mapM {f : α → Except ε β} {faults : α → List ε}
    (each : ∀ x, Reports (f x) (faults x)) (xs : List α) :
    Reports (xs.mapM f) (xs.flatMap faults) := by
  induction xs with
  | nil => exact reports_ok []
  | cons x rest ih =>
    rw [List.mapM_cons, List.flatMap_cons]
    exact (each x).bind fun y _ => ih.bind_pure (y :: ·)

/-- A traversal succeeds exactly if every element does, and keeps their order. -/
theorem mapM_eq_ok_iff {f : α → Except ε β} {xs : List α} {ys : List β} :
    xs.mapM f = .ok ys ↔ List.Forall₂ (fun x y => f x = .ok y) xs ys := by
  induction xs generalizing ys with
  | nil =>
    rw [List.mapM_nil, List.forall₂_nil_left_iff]
    exact ⟨fun same => (Except.ok.inj same).symm, fun same => congrArg _ same.symm⟩
  | cons x rest ih =>
    rw [List.mapM_cons]
    constructor
    · intro accepted
      cases head : f x with
      | error e => rw [head] at accepted; cases accepted
      | ok y =>
        cases tail : rest.mapM f with
        | error e => rw [head, tail] at accepted; cases accepted
        | ok more =>
          rw [head, tail] at accepted
          cases accepted
          exact .cons head (ih.mp tail)
    · rintro (_ | ⟨head, tail⟩)
      rw [head, ih.mpr tail]
      rfl

end DocLint
