import DocLint.Proofs.Calendar.PrintedInstants
import DocLint.Proofs.Checks.DateWindow

/-!
# Spellings of dates

All layouts of a date, and the number of its milliseconds, denote the instant that the calendar
counts, whatever blanks stand around them. What the check prints for a date denotes this date again,
and a layout of what the calendar or the clock do not have is an invalid date.
-/
namespace DocLint.Checks.DateRange

open Calendar Instant

variable {s : Stamp} {layout : Layout} {now : Instant} {json : Json} {settings : Settings}

/-! ### Milliseconds -/

theorem dayCount_bounds (year : s.year ≤ 9999) (onCalendar : s.date.OnCalendar) :
    -719528 ≤ dayCount s.year s.month s.day ∧ dayCount s.year s.month s.day < 2932897 := by
  have days : s.date.toDays = dayCount s.year s.month s.day :=
    toDays_eq_dayCount onCalendar.month.1 onCalendar.month.2 s.day
  obtain ⟨start, finish⟩ := Date.toDays_bounds onCalendar
  have zero : Date.toDays ⟨0, 1, 1⟩ = -719528 := by decide
  have myriad : Date.toDays ⟨10000, 1, 1⟩ = 2932897 := by decide
  have after := Date.toDays_newYear_mono (Int.natCast_nonneg s.year)
  have before := Date.toDays_newYear_mono (show (s.year : Int) + 1 ≤ 10000 by omega)
  rw [days] at start finish
  rw [zero] at after
  rw [myriad] at before
  exact ⟨Int.le_trans after start, Int.lt_of_lt_of_le finish before⟩

theorem instantOf?_millis (year : s.year ≤ 9999) (onCalendar : s.date.OnCalendar)
    (time : s.IsTime) : instantOf? (.number (.integer (s.seconds * 1000))) =
      some ⟨s.seconds, 0⟩ := by
  obtain ⟨start, finish⟩ := dayCount_bounds year onCalendar
  obtain ⟨hour, minute, second⟩ := time
  have early : -62167219200 ≤ s.seconds := by
    rw [Stamp.seconds]
    omega
  have late : s.seconds < 253402387200 := by
    rw [Stamp.seconds]
    omega
  have word : (minInt64 ≤ s.seconds * 1000 && s.seconds * 1000 ≤ maxInt64) = true := by
    rw [Bool.and_eq_true, decide_eq_true_eq, decide_eq_true_eq, minInt64, maxInt64]
    omega
  have whole : atMillis (s.seconds * 1000) = ⟨s.seconds, 0⟩ := by
    rw [atMillis, Int.fdiv_eq_ediv_of_nonneg _ (by decide), Int.fmod_eq_emod_of_nonneg _ (by decide),
      Int.mul_ediv_cancel _ (by decide), Int.mul_emod_left]
    rfl
  have dated : (⟨s.seconds, 0⟩ : Instant).inRange = true := by
    rw [inRange_iff, IsTooEarly, IsTooLate, minDay_eq, maxDay_eq, daySeconds]
    dsimp only
    omega
  rw [instantOf?, Json.int64?, if_pos word, Option.bind_some, ofMillis?, whole, if_pos dated]
  intro text same
  cases same

/-! ### Texts -/

theorem Layout.fits_of_zone? {offset : Int} (zone : layout.zone? = some offset) : layout.Fits := by
  cases layout with
  | ahead hours minutes | behind hours minutes =>
    rw [Layout.zone?] at zone
    split at zone
    case isTrue within => exact ⟨by omega, by omega⟩
    case isFalse => cases zone
  | _ => trivial

theorem fits_of_possible (year : s.year ≤ 9999) (onCalendar : s.date.OnCalendar)
    (time : s.IsTime) : s.Fits := by
  obtain ⟨hour, minute, second⟩ := time
  obtain ⟨⟨-, december⟩, -, long⟩ := onCalendar
  have short := daysInMonth_le s.year s.month
  have month : s.month < 100 := Nat.lt_of_le_of_lt december (by decide)
  have day : s.day < 100 := Nat.lt_of_le_of_lt (Nat.le_trans long short) (by decide)
  exact ⟨by omega, month, day, by omega, by omega, by omega⟩

theorem isRead_of_instantOf? {value : Json} {date : Instant}
    (dated : instantOf? value = some date) : date.IsRead := by
  unfold instantOf? at dated
  split at dated
  · exact isRead_of_readInstant? date dated
  · obtain ⟨n, -, millis⟩ := Option.bind_eq_some_iff.mp dated
    exact isRead_of_ofMillis? date millis

/-! ### Messages -/

theorem check_eq_ok (read : decode json = .ok settings) (now : Instant) (document : Document) :
    ∃ result, check now document json = .ok result ∧
      (result.status, result.message) =
        assess now settings (document.property? settings.property) := by
  rw [check, parseSettings, read]
  exact ⟨_, rfl, rfl⟩

/-- The dates that are in the window in none of their spellings are printed. -/
theorem check_of_outside (read : decode json = .ok settings) {document : Document} {value : Json}
    {date : Instant} (present : document.property? settings.property = some value)
    (dated : instantOf? value = some date) (outside : inWindow now settings date = false) :
    ∃ result, check now document json = .ok result ∧ result.status = .error ∧
      result.message = "Date " ++ date.text ++ " for " ++ settings.property ++ " not in range" := by
  obtain ⟨result, checked, assessed⟩ := check_eq_ok read now document
  rw [present, assess, isAbsent_of_instantOf? dated, Option.bind_some, dated] at assessed
  simp only [outside, Bool.false_eq_true, if_false, Prod.mk.injEq] at assessed
  exact ⟨result, checked, assessed⟩

theorem check_of_undated (read : decode json = .ok settings) {document : Document}
    {text : List Char} (given : text ≠ [])
    (present : document.property? settings.property = some (.string (String.ofList text)))
    (undated : readInstant? (String.ofList text) = none) :
    ∃ result, check now document json = .ok result ∧ result.status = .error ∧
      result.message = "Invalid date: " ++ (Json.string (String.ofList text)).compact ++ " for: " ++
        settings.property := by
  obtain ⟨result, checked, assessed⟩ := check_eq_ok read now document
  have shown : isAbsent (some (.string (String.ofList text))) = false := by
    unfold isAbsent
    split
    case h_1 same => cases same
    case h_2 same => cases same
    case h_3 same => cases same
    case h_4 same =>
      have empty : String.ofList text = "" := Json.string.inj (Option.some.inj same)
      exact absurd (by simpa using congrArg String.toList empty) given
    case h_5 => rfl
  rw [present, assess, shown, Option.bind_some, instantOf?, undated] at assessed
  simp only [Bool.false_eq_true, if_false, Prod.mk.injEq] at assessed
  exact ⟨result, checked, assessed⟩

theorem text_ne_nil (fits : s.Fits) (fits' : layout.Fits) (before after : List Char) :
    before ++ (layout.text s ++ after) ≠ [] := by
  obtain ⟨c, last, -⟩ := Layout.endsVisibly fits fits'
  intro nothing
  rw [List.append_eq_nil_iff, List.append_eq_nil_iff] at nothing
  rw [nothing.2.1] at last
  cases last

/-- Every layout of a date and a time of day, with blanks around it, denotes the instant that the
calendar counts, less what its zone is ahead of UTC, and so does the number of its milliseconds.
What the check prints for a date outside of the window denotes this date again, cut to milliseconds.
A layout of a date, a time or a zone that there is not is reported as an invalid date. -/
theorem check_agrees_on_spellings (read : decode json = .ok settings) (now : Instant) :
    (∀ s : Stamp, s.year ≤ 9999 → s.date.OnCalendar → s.IsTime → s.second ≤ 59 →
      (∀ (layout : Layout) offset before after, layout.zone? = some offset →
        (layout = .bare → s.hour = 0 ∧ s.minute = 0 ∧ s.second = 0) →
        Text.isBlankText before = true → Text.isBlankText after = true →
        instantOf? (.string (String.ofList (before ++ (layout.text s ++ after)))) =
          some ⟨s.seconds - offset, 0⟩) ∧
      instantOf? (.number (.integer (s.seconds * 1000))) = some ⟨s.seconds, 0⟩) ∧
    (∀ (document : Document) value date, document.property? settings.property = some value →
      instantOf? value = some date → date.InFourDigits → inWindow now settings date = false →
      (∃ result, check now document json = .ok result ∧ result.status = .error ∧
        result.message =
          "Date " ++ date.text ++ " for " ++ settings.property ++ " not in range") ∧
      instantOf? (.string date.text) = some ⟨date.seconds, date.nanos / 1000000 * 1000000⟩) ∧
    ∀ (s : Stamp) (layout : Layout) before after (document : Document), s.Fits → layout.Fits →
      ¬layout.IsPossible s → Text.isBlankText before = true → Text.isBlankText after = true →
      document.property? settings.property =
        some (.string (String.ofList (before ++ (layout.text s ++ after)))) →
      ∃ result, check now document json = .ok result ∧ result.status = .error ∧
        result.message = "Invalid date: " ++
          (Json.string (String.ofList (before ++ (layout.text s ++ after)))).compact ++ " for: " ++
            settings.property := by
  refine ⟨fun s year onCalendar time ordinary => ⟨?layouts, instantOf?_millis year onCalendar time⟩,
    ?printed, ?impossible⟩
  case layouts =>
    intro layout offset before after zone midnight blank blank'
    have fits := fits_of_possible year onCalendar time
    have possible : layout.IsPossible s := ⟨onCalendar, fun _ => time, offset, zone⟩
    rw [instantOf?, readInstant?_text fits (Layout.fits_of_zone? zone) blank blank']
    exact Layout.instant?_of_possible fits possible ordinary midnight zone
  case printed =>
    intro document value date present dated within outside
    refine ⟨check_of_outside read present dated outside, ?_⟩
    rw [instantOf?]
    exact Instant.readInstant?_printed (isRead_of_instantOf? dated) within
  case impossible =>
    intro s layout before after document fits fits' impossible blank blank' present
    refine check_of_undated read (text_ne_nil fits fits' before after) present ?_
    rw [readInstant?_text fits fits' blank blank']
    exact Layout.instant?_of_impossible fits impossible

private def publishedOn (date : String) : Document :=
  ⟨"doc.md", [("date", .string date)], "", "", []⟩

/-- An offset leads from the leap day to the day before it, a leap second is printed as the sixtieth
of its minute, and a common year has no leap day. -/
theorem check_agrees_on_leap_day :
    instantOf? (.string "\u00a02024-02-29T00:30:00+01:00\n") = some ⟨1709163000, 0⟩ ∧
    instantOf? (.number (.integer 1709166600000)) = some ⟨1709166600, 0⟩ ∧
    (∃ result, check ⟨0, 0⟩ (publishedOn "2016-12-31T23:59:60.25Z")
      (.object [("property", .string "date")]) = .ok result ∧
        result.message = "Date 2016-12-31T23:59:60.250Z for date not in range") ∧
    instantOf? (.string "2016-12-31T23:59:60.250Z") = some ⟨1483228799, 1250000000⟩ ∧
    ∃ result, check ⟨0, 0⟩ (publishedOn "2023-02-29 00:30:00")
      (.object [("property", .string "date")]) = .ok result ∧
        result.message = "Invalid date: \"2023-02-29 00:30:00\" for: date" := by
  have read : decode (.object [("property", .string "date")]) = .ok ⟨"date", none, none⟩ := rfl
  obtain ⟨spellings, printed, impossible⟩ := check_agrees_on_spellings read ⟨0, 0⟩
  have leapDay : Date.OnCalendar ⟨2024, 2, 29⟩ := ⟨by decide, by decide⟩
  have seconds : Stamp.seconds ⟨2024, 2, 29, 0, 30, 0⟩ = 1709166600 := by
    have days : Date.toDays ⟨2024, 2, 29⟩ = dayCount 2024 2 29 :=
      @toDays_eq_dayCount 2024 2 (by decide) (by decide) 29
    rw [Stamp.seconds, ← days]
    decide
  obtain ⟨layouts, millis⟩ := spellings ⟨2024, 2, 29, 0, 30, 0⟩ (by decide) leapDay
    ⟨by decide, by decide, by decide⟩ (by decide)
  refine ⟨?ahead, ?millis, ?_⟩
  case ahead =>
    have ahead := layouts (.ahead 1 0) 3600 ['\u00a0'] ['\n'] rfl (fun bare => by cases bare) rfl rfl
    rw [seconds] at ahead
    exact ahead
  case millis =>
    rw [seconds] at millis
    exact millis
  have dated : instantOf? (.string "2016-12-31T23:59:60.25Z") = some ⟨1483228799, 1250000000⟩ := by
    decide
  have within : Instant.InFourDigits ⟨1483228799, 1250000000⟩ :=
    ⟨by rw [← toDays_yearZero]; decide, by rw [← toDays_yearMyriad]; decide⟩
  obtain ⟨⟨result, checked, -, message⟩, again⟩ := printed (publishedOn "2016-12-31T23:59:60.25Z")
    _ _ rfl dated within (by decide)
  have text : Instant.text ⟨1483228799, 1250000000⟩ = "2016-12-31T23:59:60.250Z" := by decide
  rw [text] at message again
  refine ⟨⟨result, checked, message⟩, again, ?_⟩
  have common : ¬Date.OnCalendar ⟨2023, 2, 29⟩ := fun onCalendar =>
    absurd onCalendar.day.2 (by decide)
  obtain ⟨result', checked', -, message'⟩ := impossible ⟨2023, 2, 29, 0, 30, 0⟩ .spaced [] []
    (publishedOn "2023-02-29 00:30:00") ⟨by decide, by decide, by decide, by decide, by decide,
      by decide⟩ trivial (fun possible => common possible.date) rfl rfl rfl
  exact ⟨result', checked', message'⟩

end DocLint.Checks.DateRange
