import DocLint.Rule

/-!
# Reading results back

A result that was written is read back with all of its fields, but for one detail: `null` is
written as a field and read as if there were none.
-/
namespace DocLint.CheckResult

/-- A detail as it is after reading, where `null` stands for nothing. -/
def settledDetail : Option Json → Option Json
  | some .null => none
  | detail => detail

theorem settledDetail_eq_self_iff {detail : Option Json} :
    settledDetail detail = detail ↔ detail ≠ some .null := by
  rw [settledDetail.eq_def]
  split <;> simp_all

theorem decode_encode_settled (r : CheckResult) :
    decode r.encode = .ok { r with detail := settledDetail r.detail } := by
  obtain ⟨status, check, file, message, detail⟩ := r
  cases status <;> cases detail with
  | none => rfl
  | some v => cases v <;> rfl

/-- Reading what was written gives the result back exactly if its detail is not `null`; a result
with that detail comes back without one. -/
theorem decode_encode_eq_ok_iff (r : CheckResult) :
    (decode r.encode = .ok r ↔ r.detail ≠ some .null) ∧
    (r.detail = some .null → decode r.encode = .ok { r with detail := none }) := by
  rw [decode_encode_settled]
  constructor
  · rw [← settledDetail_eq_self_iff]
    constructor
    · intro same
      exact congrArg CheckResult.detail (Except.ok.inj same)
    · intro same
      rw [same]
  · intro lost
    rw [lost]
    rfl

/-- A present detail may be taken for an absent one. -/
theorem decode_encode_loses_null :
    ¬ ∀ r : CheckResult, decode r.encode = .ok r := by
  intro kept
  have lost := (decode_encode_settled _).symm.trans (kept ⟨.info, "Probe", "a.md", "m", some .null⟩)
  cases lost

end DocLint.CheckResult
