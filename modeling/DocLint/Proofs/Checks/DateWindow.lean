import DocLint.Checks.DateRange
import DocLint.Proofs.Calendar.Order
import Mathlib.Logic.Basic

/-!
# The window of dates

A date is accepted if it lies between the two edges of a window around the clock. As long as an edge
belongs to the calendar, or leaves it on its own side, this is decided as by unbounded integers. An
edge that leaves the calendar on the other side is replaced by the wrong end of the calendar: the
window, which no date can be in, is then open on that side.
-/
namespace DocLint.Checks.DateRange

open Calendar Instant

/-- The date comes after the earlier edge; without an edge, after the first instant of all. -/
def Opened (now : Instant) (offset : Int) (date : Instant) : Prop :=
  if (now.plus (-offset)).inRange then (now.plus (-offset)).before date = true
  else Instant.first.before date = true

/-- The date comes before the later edge; without an edge, before the last instant of all. -/
def NotClosed (now : Instant) (offset : Int) (date : Instant) : Prop :=
  if (now.plus offset).inRange then date.before (now.plus offset) = true
  else date.before Instant.last = true

variable {now date : Instant}

theorem inWindow_iff (clock : now.IsValid) (settings : Settings) (date : Instant) :
    inWindow now settings date = true ↔
      Opened now (settings.beforeOffset.getD 0) date ∧
        NotClosed now (settings.afterOffset.getD 0) date := by
  rw [inWindow, Bool.and_eq_true, earliest, latest, shift?_eq clock, shift?_eq clock, Opened,
    NotClosed, if_pos rfl, if_neg Bool.false_ne_true]
  refine and_congr ?_ ?_
  · by_cases dated : (now.plus (-settings.beforeOffset.getD 0)).inRange
    · rw [if_pos dated, if_pos dated, Option.getD_some]
    · rw [if_neg dated, if_neg dated, Option.getD_none]
  · by_cases dated : (now.plus (settings.afterOffset.getD 0)).inRange
    · rw [if_pos dated, if_pos dated, Option.getD_some]
    · rw [if_neg dated, if_neg dated, Option.getD_none]

theorem isAbsent_of_instantOf? {value : Json} (dated : instantOf? value = some date) :
    isAbsent (some value) = false := by
  have nothing : instantOf? (.string "") = none := by decide
  unfold isAbsent
  split
  case h_1 same => cases same
  case h_2 same => cases same; cases dated
  case h_3 same => cases same; cases dated
  case h_4 same => cases same; rw [nothing] at dated; cases dated
  case h_5 => rfl

theorem check_of_dated (now : Instant) {document : Document} {json value : Json} {settings : Settings}
    (read : decode json = .ok settings)
    (present : document.property? settings.property = some value)
    (dated : instantOf? value = some date) :
    ∃ result, check now document json = .ok result ∧
      result.status = if inWindow now settings date then .success else .error := by
  have parsed : parseSettings decode json = .ok settings := by
    rw [parseSettings, read]
    rfl
  rw [check, parsed]
  refine ⟨_, rfl, ?_⟩
  change (assess now settings (document.property? settings.property)).1 = _
  rw [present]
  rw [assess, isAbsent_of_instantOf? dated, Option.bind_some, dated]
  by_cases inside : inWindow now settings date <;> simp [inside]

/-! ### Edges -/

/-- Unless the edge is too late for the calendar, the comparison with it is exact. -/
theorem opened_iff {offset : Int} (edge : ¬ (now.plus (-offset)).IsTooLate)
    (later : Instant.first.before date = true) :
    Opened now offset date ↔ (now.plus (-offset)).before date = true := by
  rw [Opened]
  by_cases dated : (now.plus (-offset)).inRange
  · rw [if_pos dated]
  · rw [if_neg dated]
    rw [inRange_iff, not_and_or, not_not, not_not] at dated
    have early := dated.resolve_right edge
    refine iff_of_true later (before_iff.mpr ?_)
    have first := before_iff.mp early.before_first
    rw [before_iff] at later
    omega

/-- Unless the edge is too early for the calendar, the comparison with it is exact. -/
theorem notClosed_iff {offset : Int} (edge : ¬ (now.plus offset).IsTooEarly)
    (earlier : date.before Instant.last = true) :
    NotClosed now offset date ↔ date.before (now.plus offset) = true := by
  rw [NotClosed]
  by_cases dated : (now.plus offset).inRange
  · rw [if_pos dated]
  · rw [if_neg dated]
    rw [inRange_iff, not_and_or, not_not, not_not] at dated
    have late := (dated.resolve_left edge).last_before
    refine iff_of_true earlier (before_iff.mpr ?_)
    rw [before_iff] at late earlier
    omega

theorem first_before_of_opened {offset : Int} (opened : Opened now offset date) :
    Instant.first.before date = true := by
  rw [Opened] at opened
  by_cases dated : (now.plus (-offset)).inRange
  · rw [if_pos dated] at opened
    exact before_of_not_before_of_before (not_before_first (inRange_iff.mp dated).1) opened
  · rwa [if_neg dated] at opened

/-- Moving the earlier edge back leaves the window open. -/
theorem Opened.mono (clock : now.IsValid) {less more : Int} (le : less ≤ more)
    (edge : ¬ (now.plus (-less)).IsTooLate) (opened : Opened now less date) :
    Opened now more date := by
  have later := first_before_of_opened opened
  have order := plus_mono clock.fraction (Int.neg_le_neg le)
  have edge' : ¬ (now.plus (-more)).IsTooLate := by
    intro late
    rw [before_iff] at order
    rw [IsTooLate] at edge late
    omega
  rw [opened_iff edge later] at opened
  rw [opened_iff edge' later]
  exact before_of_not_before_of_before order opened

/-- Moving the later edge on leaves the window open. -/
theorem NotClosed.mono (clock : now.IsValid) {less more : Int} (le : less ≤ more)
    (edge : ¬ (now.plus less).IsTooEarly) (earlier : date.before Instant.last = true)
    (open' : NotClosed now less date) : NotClosed now more date := by
  have order := plus_mono clock.fraction le
  have edge' : ¬ (now.plus more).IsTooEarly := by
    intro early
    rw [before_iff] at order
    rw [IsTooEarly] at edge early
    omega
  rw [notClosed_iff edge earlier] at open'
  rw [notClosed_iff edge' earlier]
  exact before_of_before_of_not_before open' order

/-- A property that denotes a date is accepted exactly if the date comes after the earlier edge and
before the later one, where an edge that belongs to no date counts as the end of the calendar on its
side. For edges that do not leave the calendar on the wrong side this is the comparison of unbounded
integers, and larger offsets accept no less. -/
theorem check_decides_window (clock : now.IsValid) {document : Document} {json value : Json}
    {settings : Settings} (read : decode json = .ok settings)
    (present : document.property? settings.property = some value)
    (dated : instantOf? value = some date) :
    ∃ result, check now document json = .ok result ∧
      (result.status = .success ∨ result.status = .error) ∧
      (result.status = .success ↔
        Opened now (settings.beforeOffset.getD 0) date ∧
          NotClosed now (settings.afterOffset.getD 0) date) ∧
      (¬ (now.plus (-settings.beforeOffset.getD 0)).IsTooLate →
        ¬ (now.plus (settings.afterOffset.getD 0)).IsTooEarly →
        Instant.first.before date = true → date.before Instant.last = true →
        now.IsOrdinary → date.IsOrdinary →
        (result.status = .success ↔
          now.toNanos - settings.beforeOffset.getD 0 * 1000000 < date.toNanos ∧
            date.toNanos < now.toNanos + settings.afterOffset.getD 0 * 1000000)) ∧
      (¬ (now.plus (-settings.beforeOffset.getD 0)).IsTooLate →
        ¬ (now.plus (settings.afterOffset.getD 0)).IsTooEarly → date.before Instant.last = true →
        result.status = .success → ∀ (wider : Json) (more : Settings),
        decode wider = .ok more → more.property = settings.property →
        settings.beforeOffset.getD 0 ≤ more.beforeOffset.getD 0 →
        settings.afterOffset.getD 0 ≤ more.afterOffset.getD 0 →
        ∃ widened, check now document wider = .ok widened ∧ widened.status = .success) := by
  obtain ⟨result, checked, status⟩ := check_of_dated now read present dated
  have accepted : result.status = .success ↔
      Opened now (settings.beforeOffset.getD 0) date ∧
        NotClosed now (settings.afterOffset.getD 0) date := by
    rw [← inWindow_iff clock, status]
    cases inWindow now settings date <;> simp
  refine ⟨result, checked, ?either, accepted, ?exact, ?wider⟩
  case either =>
    rw [status]
    cases inWindow now settings date <;> simp
  case exact =>
    intro start finish later earlier ordinary also
    rw [accepted, opened_iff start later, notClosed_iff finish earlier,
      before_iff_toNanos_lt (isOrdinary_plus ordinary _) also,
      before_iff_toNanos_lt also (isOrdinary_plus ordinary _), toNanos_plus ordinary,
      toNanos_plus ordinary, Int.neg_mul, Int.sub_eq_add_neg]
  case wider =>
    intro start finish earlier success wider more reads same before after
    obtain ⟨opened, notClosed⟩ := accepted.mp success
    obtain ⟨widened, rechecked, restatus⟩ :=
      check_of_dated now reads (same ▸ present) dated
    have inside : inWindow now more date = true := (inWindow_iff clock more date).mpr
      ⟨opened.mono clock before start, notClosed.mono clock after finish earlier⟩
    exact ⟨widened, rechecked, by rw [restatus, if_pos inside]⟩

private def noon : Instant := ⟨1717243200, 0⟩

private def datedDocument (date : String) : Document :=
  ⟨"doc.md", [("date", .string date)], "", "", []⟩

private def offsets (before after : Int) : Json :=
  .object [("property", .string "date"), ("beforeOffset", .number (.integer before)),
    ("afterOffset", .number (.integer after))]

/-- The earlier edge leaves the calendar, but on its own side. -/
theorem check_decides_window_around_noon :
    noon.IsValid ∧ instantOf? (.string "2024-06-01 11:59:59") = some ⟨1717243199, 0⟩ ∧
    (∃ result, check noon (datedDocument "2024-06-01 11:59:59") (offsets 9000000000000000 0) =
      .ok result ∧ result.status = .success) ∧
    ∃ widened, check noon (datedDocument "2024-06-01 11:59:59") (offsets 9223372036854775807 1) =
      .ok widened ∧ widened.status = .success := by
  have clock : noon.IsValid := ⟨by decide, by decide⟩
  have dated : instantOf? (.string "2024-06-01 11:59:59") = some ⟨1717243199, 0⟩ := by decide
  have read : decode (offsets 9000000000000000 0) =
      .ok ⟨"date", some 0, some 9000000000000000⟩ := by rfl
  have wider : decode (offsets 9223372036854775807 1) =
      .ok ⟨"date", some 1, some 9223372036854775807⟩ := by rfl
  have start : ¬ (noon.plus (-9000000000000000)).IsTooLate := by unfold IsTooLate; decide
  have finish : ¬ (noon.plus 0).IsTooEarly := by unfold IsTooEarly; decide
  have present : (datedDocument "2024-06-01 11:59:59").property? "date" =
      some (.string "2024-06-01 11:59:59") := rfl
  obtain ⟨result, checked, -, -, exact', larger⟩ := check_decides_window clock read present dated
  have success := (exact' start finish (by decide) (by decide) (by unfold IsOrdinary; decide)
    (by unfold IsOrdinary; decide)).mpr ⟨by decide, by decide⟩
  exact ⟨clock, dated, ⟨result, checked, success⟩,
    larger start finish (by decide) success _ _ wider rfl (by decide) (by decide)⟩

/-- A later edge before the first day of the calendar excludes nothing, although no date comes
before it, and moving it up to the clock excludes the date. -/
theorem check_ignores_edge_below_calendar :
    (∃ result, check noon (datedDocument "2024-06-01 12:00:00") (offsets 1 (-9223372036854775808)) =
      .ok result ∧ result.status = .success) ∧
    instantOf? (.string "2024-06-01 12:00:00") = some noon ∧
    ¬ noon.toNanos < noon.toNanos + -9223372036854775808 * 1000000 ∧
    ∃ result, check noon (datedDocument "2024-06-01 12:00:00") (offsets 1 0) =
      .ok result ∧ result.status = .error :=
  ⟨⟨_, rfl, rfl⟩, by decide, by decide, ⟨_, rfl, rfl⟩⟩

end DocLint.Checks.DateRange
