import DocLint.Calendar.Date

/-!
# The numbering of dates

The number of a date is the number of days that the years and months before it have. Every number is
that of a date: a year counted from March on is a century of its era, a cycle of four years of this
century, and a year of this cycle, the last one of which is the long one.
-/
namespace DocLint.Calendar

def daysInYear (year : Int) : Nat :=
  if isLeapYear year then 366 else 365

def daysBeforeYear : Nat → Nat
  | 0 => 0
  | year + 1 => daysBeforeYear year + daysInYear year

def daysThrough (year : Int) : Nat → Nat
  | 0 => 0
  | month + 1 => daysThrough year month + daysInMonth year (month + 1)

/-- The days from the start of 1970 to a date, negative before it. -/
def dayCount (year month day : Nat) : Int :=
  daysBeforeYear year + daysThrough year (month - 1) + (day - 1) - daysBeforeYear 1970

/-- The years that are no leap years: most of them, and most centuries. -/
theorem isLeapYear_cases (year : Int) :
    isLeapYear year = true ∧ year % 4 = 0 ∧ (year % 100 ≠ 0 ∨ year % 400 = 0) ∨
      isLeapYear year = false ∧ (year % 4 ≠ 0 ∨ year % 100 = 0 ∧ year % 400 ≠ 0) := by
  by_cases four : year % 4 = 0
  · by_cases century : year % 100 = 0
    · by_cases era : year % 400 = 0 <;> simp [isLeapYear, four, century, era]
    · simp [isLeapYear, four, century]
  · simp [isLeapYear, four]

/-! ### Counting days -/

theorem daysBeforeYear_eq (year : Nat) : (daysBeforeYear year : Int) =
    365 * year + (year + 3) / 4 - (year + 99) / 100 + (year + 399) / 400 := by
  induction year with
  | zero => rfl
  | succ year ih =>
    rw [daysBeforeYear, daysInYear]
    obtain ⟨leap, fourth, other | era⟩ | ⟨common, other | ⟨century, other⟩⟩ := isLeapYear_cases year
    · rw [leap, if_pos rfl]
      omega
    · rw [leap, if_pos rfl]
      omega
    · rw [common, if_neg Bool.false_ne_true]
      omega
    · rw [common, if_neg Bool.false_ne_true]
      omega

theorem daysThrough_eq (year : Int) (month : Nat) (first : 2 ≤ month) (last : month ≤ 11) :
    daysThrough year month = (153 * (month - 2) + 2) / 5 + 31 + daysInMonth year 2 := by
  have february : daysThrough year 2 = 31 + daysInMonth year 2 := by
    simp only [daysThrough, daysInMonth]
  have months : month = 2 ∨ month = 3 ∨ month = 4 ∨ month = 5 ∨ month = 6 ∨ month = 7 ∨
      month = 8 ∨ month = 9 ∨ month = 10 ∨ month = 11 := by omega
  rcases months with rfl | rfl | rfl | rfl | rfl | rfl | rfl | rfl | rfl | rfl
  case inl => exact february.trans (by omega)
  all_goals
    simp only [daysThrough, daysInMonth]
    omega

/-- The days of whole years, counted from March on, need no eras. -/
theorem era_eq (year : Int) : year.fdiv 400 * daysPerEra +
    ((year - year.fdiv 400 * 400) * 365 + (year - year.fdiv 400 * 400) / 4 -
      (year - year.fdiv 400 * 400) / 100) = 365 * year + year / 4 - year / 100 + year / 400 := by
  rw [Int.fdiv_eq_ediv_of_nonneg year (by decide), daysPerEra]
  omega

/-- The leap day comes before the first of March, where years are counted from. -/
theorem daysBeforeMarch_eq (year : Nat) : (daysBeforeYear year + daysInMonth year 2 : Int) =
    365 * year + year / 4 - year / 100 + year / 400 + 29 := by
  have next := daysBeforeYear_eq (year + 1)
  rw [daysBeforeYear, daysInYear] at next
  rw [daysInMonth]
  by_cases leap : isLeapYear year = true
  · rw [if_pos leap] at next ⊢
    omega
  · rw [if_neg leap] at next ⊢
    omega

theorem toDays_eq_dayCount {year month : Nat} (first : 1 ≤ month) (last : month ≤ 12) (day : Nat) :
    Date.toDays ⟨year, month, day⟩ = dayCount year month day := by
  have start := daysBeforeYear_eq 1970
  rw [dayCount, Date.toDays]
  dsimp only
  by_cases early : month ≤ 2
  · have before := daysBeforeYear_eq year
    have era := era_eq ((year : Int) - 1)
    rw [if_pos early, if_pos early, epochShift]
    have months : month = 1 ∨ month = 2 := by omega
    rcases months with rfl | rfl
    · have through : daysThrough year (1 - 1) = 0 := rfl
      omega
    · have through : daysThrough year (2 - 1) = 31 := rfl
      omega
  · have march := daysBeforeMarch_eq year
    have era := era_eq year
    have through := daysThrough_eq year (month - 1) (by omega) (by omega)
    rw [if_neg early, if_neg early, through, epochShift]
    omega

theorem toDays_yearZero : Date.toDays ⟨0, 1, 1⟩ = dayCount 0 1 1 :=
  @toDays_eq_dayCount 0 1 (by decide) (by decide) 1

theorem toDays_yearMyriad : Date.toDays ⟨10000, 1, 1⟩ = dayCount 10000 1 1 :=
  @toDays_eq_dayCount 10000 1 (by decide) (by decide) 1

/-! ### Dates of numbers -/

/-- A day of an era: its century, cycle of four years, year of the cycle and day of the year. Only
the last year of a cycle has a leap day, unless the cycle ends a century that does not end the era.
-/
structure IsDayOfEra (day century cycle year rest : Int) : Prop where
  eq : day = 36524 * century + 1461 * cycle + 365 * year + rest
  centuries : 0 ≤ century ∧ century ≤ 3
  cycles : 0 ≤ cycle ∧ cycle ≤ 24
  years : 0 ≤ year ∧ year ≤ 3
  rests : 0 ≤ rest ∧ rest ≤ 365
  leap : rest = 365 → year = 3 ∧ (cycle = 24 → century = 3)

theorem exists_isDayOfEra (day : Int) (first : 0 ≤ day) (last : day < 146097) :
    ∃ century cycle year rest, IsDayOfEra day century cycle year rest := by
  let century := min (day / 36524) 3
  let rest := day - 36524 * century
  let cycle := rest / 1461
  let rest' := rest - 1461 * cycle
  let year := min (rest' / 365) 3
  refine ⟨century, cycle, year, rest' - 365 * year, ⟨?_, ?_, ?_, ?_, ?_, ?_⟩⟩
  all_goals omega

variable {day century cycle year rest : Int}

theorem IsDayOfEra.century_eq (parts : IsDayOfEra day century cycle year rest) :
    day / 36524 - day / 146096 = century := by
  obtain ⟨eq, centuries, cycles, years, rests, leap⟩ := parts
  have start : 36524 * century ≤ day := by omega
  have within : day < 36524 * century + 36524 ∨ day = 146096 ∧ century = 3 := by omega
  clear eq leap
  rcases within with before | last <;> omega

theorem IsDayOfEra.yearOfEra_eq (parts : IsDayOfEra day century cycle year rest) :
    (day - day / 1460 + day / 36524 - day / 146096) / 365 = 100 * century + 4 * cycle + year := by
  have whole := parts.century_eq
  obtain ⟨eq, centuries, cycles, years, rests, leap⟩ := parts
  have fours : day / 1460 =
      25 * century + cycle + (24 * century + cycle + 365 * year + rest) / 1460 := by omega
  have first : rest = 0 → (24 * century + cycle + 365 * year + rest) / 1460 = 0 := by omega
  have last : rest = 365 → (24 * century + cycle + 365 * year + rest) / 1460 = 1 := by omega
  omega

/-- How many leap days, centuries and eras came before a year. -/
theorem IsDayOfEra.quotients (parts : IsDayOfEra day century cycle year rest) (era : Int) :
    (100 * century + 4 * cycle + year + era * 400) / 4 = 25 * century + cycle + 100 * era ∧
      (100 * century + 4 * cycle + year + era * 400) / 100 = century + 4 * era ∧
      (100 * century + 4 * cycle + year + era * 400) / 400 = era := by
  have centuries := parts.centuries
  have cycles := parts.cycles
  have years := parts.years
  refine ⟨?_, ?_, ?_⟩ <;> omega

/-- The date of a year and a month that are counted from March on, the first month being zero. -/
def Date.ofMarch (year month day : Int) : Date :=
  ⟨if month < 10 then year else year + 1, (if month < 10 then month + 3 else month - 9).toNat,
    day.toNat⟩

/-- The years and months before a date, counted from March on, make up its number. -/
theorem Date.toDays_ofMarch {year month day : Int} (first : 0 ≤ month) (last : month ≤ 11)
    (some : 1 ≤ day) : (Date.ofMarch year month day).toDays =
      365 * year + year / 4 - year / 100 + year / 400 + ((153 * month + 2) / 5 + day - 1) -
        epochShift := by
  have era := era_eq year
  rw [Date.toDays, Date.ofMarch]
  dsimp only
  by_cases early : month < 10
  · have late : ¬(month + 3).toNat ≤ 2 := by omega
    rw [if_pos early, if_pos early, if_neg late, if_neg late]
    omega
  · have new : (month - 9).toNat ≤ 2 := by omega
    rw [if_neg early, if_neg early, if_pos new, if_pos new, Int.add_sub_cancel]
    omega

/-- The number of a day gives its era, its year of the era and its month one after the other. -/
theorem Date.ofDays_eq_ofMarch {n era : Int} (counted : (n + epochShift) / 146097 = era)
    (parts : IsDayOfEra (n + epochShift - era * 146097) century cycle year rest) :
    Date.ofDays n = Date.ofMarch (100 * century + 4 * cycle + year + era * 400)
      ((5 * rest + 2) / 153) (rest - (153 * ((5 * rest + 2) / 153) + 2) / 5 + 1) := by
  have start : n + epochShift - era * 146097 - (365 * (100 * century + 4 * cycle + year) +
      (100 * century + 4 * cycle + year) / 4 - (100 * century + 4 * cycle + year) / 100) = rest := by
    have quotients := parts.quotients 0
    have eq := parts.eq
    simp only [Int.zero_mul, Int.add_zero, Int.mul_zero] at quotients
    omega
  rw [Date.ofDays, Date.ofMarch]
  simp only [Int.fdiv_eq_ediv_of_nonneg (n + epochShift) (by decide : (0 : Int) ≤ daysPerEra)]
  simp only [daysPerEra, counted, parts.yearOfEra_eq, start]
  have rests := parts.rests
  by_cases early : (5 * rest + 2) / 153 < 10
  · have late : ¬(5 * rest + 2) / 153 + 3 ≤ 2 := by omega
    simp only [if_pos early, if_neg late, Int.add_zero]
  · have new : (5 * rest + 2) / 153 - 9 ≤ 2 := by omega
    simp only [if_neg early, if_pos new]

structure Date.OnCalendar (d : Date) : Prop where
  month : 1 ≤ d.month ∧ d.month ≤ 12
  day : 1 ≤ d.day ∧ d.day ≤ daysInMonth d.year d.month

theorem IsDayOfEra.isLeapYear (parts : IsDayOfEra day century cycle year rest) (era : Int)
    (leap : rest = 365) :
    Calendar.isLeapYear (100 * century + 4 * cycle + year + era * 400 + 1) = true := by
  obtain ⟨long, last⟩ := parts.leap leap
  have cycles := parts.cycles
  have centuries := parts.centuries
  obtain ⟨isLeap, -⟩ | ⟨-, other | other⟩ :=
    isLeapYear_cases (100 * century + 4 * cycle + year + era * 400 + 1)
  · exact isLeap
  · omega
  · omega

/-- From March to January five months always have 153 days. -/
theorem daysInMonth_ofMarch (year month : Int) (first : 0 ≤ month) (last : month < 11) :
    (daysInMonth year (if month < 10 then month + 3 else month - 9).toNat : Int) =
      (153 * (month + 1) + 2) / 5 - (153 * month + 2) / 5 := by
  have months : month = 0 ∨ month = 1 ∨ month = 2 ∨ month = 3 ∨ month = 4 ∨ month = 5 ∨
      month = 6 ∨ month = 7 ∨ month = 8 ∨ month = 9 ∨ month = 10 := by omega
  rcases months with rfl | rfl | rfl | rfl | rfl | rfl | rfl | rfl | rfl | rfl | rfl <;> rfl

/-- A day of a year that is counted from March on falls into one of its months. -/
theorem Date.onCalendar_ofMarch (year : Int) (first : 0 ≤ rest) (last : rest ≤ 365)
    (leap : rest = 365 → isLeapYear (year + 1) = true) :
    (Date.ofMarch year ((5 * rest + 2) / 153)
      (rest - (153 * ((5 * rest + 2) / 153) + 2) / 5 + 1)).OnCalendar := by
  have some : 1 ≤ (rest - (153 * ((5 * rest + 2) / 153) + 2) / 5 + 1).toNat := by omega
  by_cases february : (5 * rest + 2) / 153 = 11
  · rw [february] at some ⊢
    refine ⟨(by decide : 1 ≤ 2 ∧ 2 ≤ 12), some, ?_⟩
    change (rest - 337 + 1).toNat ≤ if isLeapYear (year + 1) then 29 else 28
    split
    case isTrue => omega
    case isFalse common =>
      have short : rest ≠ 365 := fun long => common (leap long)
      omega
  · have month := daysInMonth_ofMarch (if (5 * rest + 2) / 153 < 10 then year else year + 1)
      ((5 * rest + 2) / 153) (by omega) (by omega)
    constructor
    · rw [Date.ofMarch]
      dsimp only
      split <;> omega
    · refine ⟨some, ?_⟩
      rw [Date.ofMarch]
      dsimp only
      omega

/-- Every number is that of a date. -/
theorem Date.toDays_ofDays (n : Int) : (Date.ofDays n).toDays = n ∧ (Date.ofDays n).OnCalendar := by
  obtain ⟨century, cycle, year, rest, parts⟩ :=
    exists_isDayOfEra (n + epochShift - (n + epochShift) / 146097 * 146097)
      (by omega) (by omega)
  have rests := parts.rests
  rw [Date.ofDays_eq_ofMarch rfl parts]
  constructor
  · obtain ⟨fours, centuries, eras⟩ := parts.quotients ((n + epochShift) / 146097)
    have eq := parts.eq
    rw [Date.toDays_ofMarch (by omega) (by omega) (by omega), fours, centuries, eras]
    omega
  · exact Date.onCalendar_ofMarch _ rests.1 rests.2 (parts.isLeapYear _)

/-! ### Years of numbers -/

theorem daysInMonth_le (year : Int) (month : Nat) : daysInMonth year month ≤ 31 := by
  unfold daysInMonth
  split
  · split <;> decide
  · decide
  · decide
  · decide
  · decide
  · decide

theorem Date.toDays_newYear (year : Int) : Date.toDays ⟨year, 1, 1⟩ =
    365 * (year - 1) + (year - 1) / 4 - (year - 1) / 100 + (year - 1) / 400 + 306 - epochShift := by
  have era := era_eq (year - 1)
  rw [Date.toDays]
  dsimp only
  rw [if_pos (by decide), if_pos (by decide)]
  omega

/-- A date comes before the end of its year. -/
theorem Date.toDays_bounds {d : Date} (onCalendar : d.OnCalendar) :
    Date.toDays ⟨d.year, 1, 1⟩ ≤ d.toDays ∧ d.toDays < Date.toDays ⟨d.year + 1, 1, 1⟩ := by
  obtain ⟨⟨january, december⟩, first, last⟩ := onCalendar
  have long := daysInMonth_le d.year d.month
  rw [Date.toDays_newYear, Date.toDays_newYear, Date.toDays]
  by_cases early : d.month ≤ 2
  · have era := era_eq (d.year - 1)
    rw [if_pos early, if_pos early]
    omega
  · have era := era_eq d.year
    rw [if_neg early, if_neg early]
    omega

theorem Date.toDays_newYear_mono {year year' : Int} (le : year ≤ year') :
    Date.toDays ⟨year, 1, 1⟩ ≤ Date.toDays ⟨year', 1, 1⟩ := by
  rw [Date.toDays_newYear, Date.toDays_newYear]
  omega

end DocLint.Calendar
