import DocLint.Severity
import Mathlib.Order.MinMax
import Mathlib.Data.List.Basic

/-!
# Folding severities

Absorbing a part is taking a maximum once parts that raise no alarm count as nothing. What a fold
reaches is therefore a statement about which parts occur in it, whatever their order and grouping:
the higher one of its start and the highest alarm among its parts.
-/
namespace DocLint.Severity

/-- The rank to which a part raises an aggregate, zero if it raises no alarm. -/
def alarm (part : Severity) : Nat :=
  if part.isAlarming then part.rank else 0

theorem rank_absorb (aggregate part : Severity) :
    (aggregate.absorb part).rank = max aggregate.rank part.alarm := by
  cases aggregate <;> cases part <;> rfl

/-- A fold reaches a rank exactly if it starts there or one of the parts raises it there. -/
theorem le_rank_foldl_absorb_iff (n : Nat) (start : Severity) (parts : List Severity) :
    n ≤ (parts.foldl absorb start).rank ↔ n ≤ start.rank ∨ ∃ part ∈ parts, n ≤ part.alarm := by
  induction parts generalizing start with
  | nil => simp
  | cons part parts ih =>
    rw [List.foldl_cons, ih, rank_absorb, le_max_iff, or_assoc]
    simp only [List.mem_cons, exists_eq_or_imp]

theorem le_rank_fold_iff {n : Nat} (positive : 0 < n) (parts : List Severity) :
    n ≤ (fold parts).rank ↔ ∃ part ∈ parts, n ≤ part.alarm := by
  rw [fold, le_rank_foldl_absorb_iff]
  have unreached : ¬ n ≤ success.rank := Nat.not_le_of_gt positive
  exact or_iff_right unreached

theorem rank_le_rank_foldl_absorb (start : Severity) (parts : List Severity) :
    start.rank ≤ (parts.foldl absorb start).rank :=
  (le_rank_foldl_absorb_iff start.rank start parts).mpr (Or.inl le_rfl)

theorem rank_foldl_absorb (start : Severity) (parts : List Severity) :
    (parts.foldl absorb start).rank = max start.rank (fold parts).rank := by
  apply le_antisymm
  · rcases (le_rank_foldl_absorb_iff _ start parts).mp le_rfl with reached | ⟨part, member, raised⟩
    · exact le_max_of_le_left reached
    · exact le_max_of_le_right ((le_rank_foldl_absorb_iff _ _ parts).mpr
        (Or.inr ⟨part, member, raised⟩))
  · apply max_le (rank_le_rank_foldl_absorb start parts)
    rcases (le_rank_foldl_absorb_iff _ success parts).mp le_rfl with reached | raised
    · exact le_trans reached (Nat.zero_le _)
    · exact (le_rank_foldl_absorb_iff _ start parts).mpr (Or.inr raised)

/-- A fold ranks no higher than one over parts that include all of its parts which raise an alarm.
-/
theorem rank_fold_le {parts others : List Severity}
    (included : ∀ part ∈ parts, 0 < part.alarm → part ∈ others) :
    (fold parts).rank ≤ (fold others).rank := by
  rcases Nat.eq_zero_or_pos (fold parts).rank with zero | positive
  · exact zero ▸ Nat.zero_le _
  · obtain ⟨part, member, raised⟩ := (le_rank_fold_iff positive parts).mp le_rfl
    have alarming := Nat.lt_of_lt_of_le positive raised
    exact (le_rank_fold_iff positive others).mpr ⟨part, included part member alarming, raised⟩

/-- Information never becomes the status of an aggregate that starts as a success. -/
theorem fold_ne_info (parts : List Severity) : fold parts ≠ info := by
  intro same
  have reached : 1 ≤ (fold parts).rank := by rw [same]; decide
  obtain ⟨part, member, raised⟩ := (le_rank_fold_iff (by decide) parts).mp reached
  have higher : 2 ≤ part.alarm := by
    cases part with
    | success | info => exact absurd raised (by decide)
    | warn | error | failure => decide
  have exceeded := (le_rank_fold_iff (by decide) parts).mpr ⟨part, member, higher⟩
  rw [same] at exceeded
  exact absurd exceeded (by decide)

theorem alarm_fold (parts : List Severity) : (fold parts).alarm = (fold parts).rank := by
  have ordinary := fold_ne_info parts
  cases same : fold parts with
  | info => exact absurd same ordinary
  | success | warn | error | failure => rfl

/-- Parts may be folded by themselves first and absorbed as one. -/
theorem foldl_absorb_eq (start : Severity) (parts : List Severity) :
    parts.foldl absorb start = start.absorb (fold parts) := by
  apply rank_injective
  rw [rank_foldl_absorb, rank_absorb, alarm_fold]

theorem fold_append (parts more : List Severity) :
    fold (parts ++ more) = (fold parts).absorb (fold more) := by
  rw [fold, List.foldl_append, foldl_absorb_eq]
  rfl

theorem fold_concat (parts : List Severity) (part : Severity) :
    fold (parts ++ [part]) = (fold parts).absorb part := by
  rw [fold, List.foldl_append]
  rfl

theorem fold_perm {parts others : List Severity} (perm : parts.Perm others) :
    fold parts = fold others :=
  perm.foldl_eq' (fun s _ t _ aggregate => absorb_right_comm aggregate s t) success

theorem fold_eq_failure_iff (parts : List Severity) : fold parts = failure ↔ failure ∈ parts := by
  have reached : fold parts = failure ↔ 4 ≤ (fold parts).rank := by
    cases fold parts <;> decide
  have raises : ∀ part : Severity, 4 ≤ part.alarm ↔ part = failure := by
    intro part; cases part <;> decide
  rw [reached, le_rank_fold_iff (by decide)]
  simp only [raises, exists_eq_right]

theorem fold_eq_error_iff (parts : List Severity) :
    fold parts = error ↔ failure ∉ parts ∧ error ∈ parts := by
  have reached : fold parts = error ↔ fold parts ≠ failure ∧ 3 ≤ (fold parts).rank := by
    cases fold parts <;> decide
  have raises : ∀ part : Severity, 3 ≤ part.alarm ↔ part = failure ∨ part = error := by
    intro part; cases part <;> decide
  rw [reached, le_rank_fold_iff (by decide), ne_eq, fold_eq_failure_iff]
  simp only [raises]
  constructor
  · rintro ⟨absent, part, member, rfl | rfl⟩
    · exact absurd member absent
    · exact ⟨absent, member⟩
  · rintro ⟨absent, member⟩
    exact ⟨absent, error, member, Or.inr rfl⟩

theorem fold_eq_warn_iff (parts : List Severity) :
    fold parts = warn ↔ failure ∉ parts ∧ error ∉ parts ∧ warn ∈ parts := by
  have reached : fold parts = warn ↔
      fold parts ≠ failure ∧ fold parts ≠ error ∧ 2 ≤ (fold parts).rank := by
    cases fold parts <;> decide
  have raises : ∀ part : Severity,
      2 ≤ part.alarm ↔ part = failure ∨ part = error ∨ part = warn := by
    intro part; cases part <;> decide
  rw [reached, le_rank_fold_iff (by decide), ne_eq, fold_eq_failure_iff, ne_eq,
    fold_eq_error_iff]
  simp only [raises]
  constructor
  · rintro ⟨noFailure, noError, part, member, rfl | rfl | rfl⟩
    · exact absurd member noFailure
    · exact absurd ⟨noFailure, member⟩ noError
    · exact ⟨noFailure, fun present => noError ⟨noFailure, present⟩, member⟩
  · rintro ⟨noFailure, noError, member⟩
    exact ⟨noFailure, fun both => noError both.2, warn, member, Or.inr (Or.inr rfl)⟩

theorem fold_eq_success_iff (parts : List Severity) :
    fold parts = success ↔ failure ∉ parts ∧ error ∉ parts ∧ warn ∉ parts := by
  have others : fold parts = success ↔
      fold parts ≠ failure ∧ fold parts ≠ error ∧ fold parts ≠ warn := by
    have ordinary := fold_ne_info parts
    revert ordinary
    cases fold parts <;> decide
  rw [others, ne_eq, fold_eq_failure_iff, ne_eq, fold_eq_error_iff, ne_eq, fold_eq_warn_iff]
  tauto

/-- A run is blocked exactly by a failure or an error among its parts. -/
theorem isBlocking_fold_iff (parts : List Severity) :
    (fold parts).isBlocking = true ↔ failure ∈ parts ∨ error ∈ parts := by
  have blocking : (fold parts).isBlocking = true ↔ fold parts = failure ∨ fold parts = error := by
    cases fold parts <;> decide
  rw [blocking, fold_eq_failure_iff, fold_eq_error_iff]
  tauto

/-! ### Order, grouping and parts that do not count -/

/-- The severities that can become the status of an aggregate on account of a part. -/
def alarms : List Severity := [warn, error, failure]

theorem alarm_pos_iff (part : Severity) : 0 < part.alarm ↔ part ∈ alarms := by
  cases part <;> decide

theorem alarm_eq_rank {part : Severity} (alarming : part ∈ alarms) : part.alarm = part.rank := by
  revert alarming
  cases part <;> decide

theorem absorb_calm (aggregate : Severity) {part : Severity} (calm : part ∉ alarms) :
    aggregate.absorb part = aggregate := by
  cases part with
  | success | info => rfl
  | warn | error | failure => exact absurd (by decide) calm

theorem absorb_alarm (aggregate : Severity) {part : Severity} (alarming : part ∈ alarms) :
    aggregate.absorb part = if aggregate.rank < part.rank then part else aggregate := by
  have isAlarming : part.isAlarming = true := by
    revert alarming
    cases part <;> decide
  simp [absorb, isAlarming]

/-- Parts that raise no alarm may be left out. -/
theorem foldl_absorb_filter (start : Severity) (parts : List Severity) :
    (parts.filter (· ∈ alarms)).foldl absorb start = parts.foldl absorb start := by
  induction parts generalizing start with
  | nil => rfl
  | cons part parts ih =>
    by_cases alarming : part ∈ alarms
    · simpa [alarming] using ih (start.absorb part)
    · simpa [alarming, absorb_calm start alarming] using ih start

/-- If a part raises an alarm, then the fold is the highest of those that do. -/
theorem exists_highest_alarm {parts : List Severity} (raised : ∃ part ∈ parts, part ∈ alarms) :
    ∃ top ∈ parts, top ∈ alarms ∧ (∀ part ∈ parts, part ∈ alarms → part.rank ≤ top.rank) ∧
      fold parts = top := by
  obtain ⟨first, member, alarming⟩ := raised
  have reached : ∀ part ∈ parts, part ∈ alarms → part.rank ≤ (fold parts).rank := by
    intro part inside alarming
    have positive : 0 < part.rank := by
      have := (alarm_pos_iff part).mpr alarming
      rwa [alarm_eq_rank alarming] at this
    apply (le_rank_fold_iff positive parts).mpr
    exact ⟨part, inside, (alarm_eq_rank alarming).ge⟩
  have positive : 0 < (fold parts).rank := by
    have low := (alarm_pos_iff first).mpr alarming
    have high := reached first member alarming
    rw [alarm_eq_rank alarming] at low
    omega
  obtain ⟨top, inside, raises⟩ := (le_rank_fold_iff positive parts).mp le_rfl
  have alarming : top ∈ alarms := (alarm_pos_iff top).mp (by omega)
  rw [alarm_eq_rank alarming] at raises
  have same : fold parts = top := by
    apply rank_injective
    have := reached top inside alarming
    omega
  exact ⟨top, inside, alarming, same ▸ reached, same⟩

/-- Absorbing parts one after the other, from any start. The order of the parts does not matter; the
last ones may be folded by themselves and absorbed as one; parts that are no alarms may stand
anywhere; and what comes out is the higher one of the start and the highest alarm. -/
theorem foldl_absorb_order_free (start : Severity) (parts : List Severity) :
    (∀ others, parts.Perm others → others.foldl absorb start = parts.foldl absorb start) ∧
      (∀ more, (parts ++ more).foldl absorb start =
        (parts.foldl absorb start).absorb (fold more)) ∧
      (∀ others : List Severity,
        others.filter (· ∉ [info, success]) = parts.filter (· ∉ [info, success]) →
          others.foldl absorb start = parts.foldl absorb start) ∧
      ((∀ part ∈ parts, part ∉ [warn, error, failure]) →
        parts.foldl absorb start = start) ∧
      ((∃ part ∈ parts, part ∈ [warn, error, failure]) →
        ∃ top ∈ parts, top ∈ [warn, error, failure] ∧
          (∀ part ∈ parts, part ∈ [warn, error, failure] → part.rank ≤ top.rank) ∧
          parts.foldl absorb start = if start.rank < top.rank then top else start) := by
  refine ⟨?permuted, ?grouped, ?padded, ?calm, ?highest⟩
  case permuted =>
    intro others perm
    rw [foldl_absorb_eq, foldl_absorb_eq, fold_perm perm]
  case grouped =>
    intro more
    rw [List.foldl_append, foldl_absorb_eq (parts.foldl absorb start)]
  case padded =>
    intro others same
    have counted : (fun part : Severity => decide (part ∉ [info, success])) =
        fun part => decide (part ∈ alarms) := by
      funext part
      cases part <;> decide
    rw [counted] at same
    rw [← foldl_absorb_filter start others, same, foldl_absorb_filter]
  case calm =>
    intro calm
    have none : parts.filter (· ∈ alarms) = [] := by
      apply List.filter_eq_nil_iff.mpr
      intro part member
      simpa [alarms] using calm part member
    rw [← foldl_absorb_filter, none]
    rfl
  case highest =>
    intro raised
    obtain ⟨top, member, alarming, highest, same⟩ := exists_highest_alarm raised
    refine ⟨top, member, alarming, highest, ?_⟩
    rw [foldl_absorb_eq, same, absorb_alarm start alarming]

end DocLint.Severity
