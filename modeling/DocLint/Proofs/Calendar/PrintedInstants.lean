import DocLint.Proofs.Calendar.Layouts

/-!
# Reading printed instants

An instant that is read, from a text or a number, is a leap second only at the end of a minute. If
it lies in a year of four digits, the text that it is printed as is read as the same instant, cut to
milliseconds.
-/
namespace DocLint.Calendar

open Instant

/-- An instant as it is read: a second is repeated at most once, at the end of a minute. -/
structure Instant.IsRead (t : Instant) : Prop where
  fraction : t.nanos < 2 * secondNanos
  leap : secondNanos ≤ t.nanos → t.seconds % 60 = 59

/-! ### What is read -/

theorem TimeOfDay.cases_of? {hour minute second nanos : Nat} {time : TimeOfDay}
    (read : TimeOfDay.of? hour minute second nanos = some time) :
    time.nanos = nanos ∨ time.nanos = nanos + secondNanos ∧ time.seconds % 60 = 59 := by
  rw [TimeOfDay.of?] at read
  split at read
  · cases read
  · split at read
    · cases read
      exact .inr ⟨rfl, by dsimp only; omega⟩
    · cases read
      exact .inl rfl

/-- Days and zones are whole minutes. -/
theorem isRead_instantAt {hour minute second nanos : Nat} {time : TimeOfDay}
    (read : TimeOfDay.of? hour minute second nanos = some time) (fraction : nanos < secondNanos)
    (date : Date) {offset : Int} (minutes : offset % 60 = 0) :
    (instantAt date time offset).IsRead := by
  rcases TimeOfDay.cases_of? read with ordinary | ⟨leap, last⟩
  · constructor
    · simp only [instantAt, ordinary]
      omega
    · intro leap
      exact absurd leap (by simpa [instantAt, ordinary] using fraction)
  · constructor
    · simp only [instantAt, leap]
      omega
    · intro _
      simp only [instantAt, daySeconds]
      omega

theorem lt_of_fraction? {s rest : List Char} {nanos : Nat}
    (read : fraction? s = some (nanos, rest)) : nanos < secondNanos := by
  rw [fraction?] at read
  split at read
  case isTrue => cases read
  case isFalse =>
    cases read
    have value := valueOfDigits_lt ((s.takeWhile Char.isDigit).take 9)
    have short : ((s.takeWhile Char.isDigit).take 9).length ≤ 9 := List.length_take_le _ _
    calc _ < Nat.pow 10 ((s.takeWhile Char.isDigit).take 9).length *
          Nat.pow 10 (9 - ((s.takeWhile Char.isDigit).take 9).length) :=
          Nat.mul_lt_mul_of_pos_right value (Nat.pow_pos (by decide))
      _ = Nat.pow 10 9 := by
          rw [Nat.pow_eq, Nat.pow_eq, Nat.pow_eq, ← Nat.pow_add, Nat.add_sub_cancel' short]

theorem minutes_of_offset? {s rest : List Char} {offset : Int}
    (read : offset? s = some (offset, rest)) : offset % 60 = 0 := by
  unfold offset? at read
  split at read
  · cases read
  · split at read
    · cases read
      rfl
    · split at read
      · simp only [Option.bind_eq_bind, Option.bind_eq_some_iff] at read
        obtain ⟨⟨hours, rest'⟩, -, after, -, ⟨minutes, rest''⟩, -, zone⟩ := read
        dsimp only at zone
        split at zone
        · cases zone
        · cases zone
          split <;> omega
      · cases read

/-- What holds of all results of the further steps of a reader holds of its results. -/
theorem forall_of_bind {α β : Type} {P : β → Prop} {x : Option α} {f : α → Option β}
    (each : ∀ a ∈ x, ∀ b ∈ f a, P b) : ∀ b ∈ x >>= f, P b := by
  intro b found
  obtain ⟨a, first, found⟩ := Option.bind_eq_some_iff.mp found
  exact each a first b found

theorem isRead_of_readTimestamp? {s : List Char} :
    ∀ t ∈ readTimestamp? s, t.IsRead := by
  have ended {nanos hour minute second : Nat} {zone : Int × List Char} {rest : List Char}
      {date : Date} {time : TimeOfDay} (fraction : nanos < secondNanos)
      (zoned : offset? rest = some zone)
      (timed : TimeOfDay.of? hour minute second nanos = some time) :
      ∀ t ∈ if zone.2.isEmpty then some (instantAt date time zone.1) else none, t.IsRead := by
    intro t last
    split at last
    · cases last
      exact isRead_instantAt timed fraction date (minutes_of_offset? zoned)
    · cases last
  rw [readTimestamp?]
  iterate 11 refine forall_of_bind fun _ _ => ?_
  dsimp only
  split
  · refine forall_of_bind fun found fraction => ?_
    refine forall_of_bind fun zone zoned => ?_
    refine forall_of_bind fun date _ => ?_
    refine forall_of_bind fun time timed => ?_
    exact ended (lt_of_fraction? fraction) zoned timed
  · refine forall_of_bind fun found fraction => ?_
    cases fraction
    refine forall_of_bind fun zone zoned => ?_
    refine forall_of_bind fun date _ => ?_
    refine forall_of_bind fun time timed => ?_
    exact ended (show 0 < secondNanos by decide) zoned timed

theorem exists_of?_of_looseTime? {s : List Char} : ∀ found ∈ looseTime? s,
    ∃ hour minute second, TimeOfDay.of? hour minute second 0 = some found.1 := by
  rw [looseTime?]
  iterate 5 refine forall_of_bind fun _ _ => ?_
  refine forall_of_bind fun time timed => ?_
  intro found same
  cases same
  exact ⟨_, _, _, timed⟩

theorem isRead_of_readDateTime? {separate : List Char → Option (List Char)} {s : List Char} :
    ∀ t ∈ readDateTime? separate s, t.IsRead := by
  rw [readDateTime?]
  refine forall_of_bind fun dated _ => ?_
  refine forall_of_bind fun _ _ => ?_
  refine forall_of_bind fun found read => ?_
  intro t last
  obtain ⟨hour, minute, second, timed⟩ := exists_of?_of_looseTime? found read
  dsimp only at last
  split at last
  · cases last
    exact isRead_instantAt timed (by decide) dated.1 rfl
  · cases last

theorem isRead_midnight (date : Date) : (instantAt date ⟨0, 0⟩ 0).IsRead :=
  have midnight : TimeOfDay.of? 0 0 0 0 = some ⟨0, 0⟩ := rfl
  isRead_instantAt midnight (by decide) date rfl

theorem isRead_of_readDate? {s : List Char} : ∀ t ∈ readDate? s, t.IsRead := by
  rw [readDate?]
  refine forall_of_bind fun dated _ => ?_
  intro t last
  dsimp only at last
  split at last
  · cases last
    exact isRead_midnight dated.1
  · cases last

theorem forall_of_orElse {α : Type} {P : α → Prop} {first : Option α} {later : Unit → Option α}
    (holds : ∀ a ∈ first, P a) (holds' : ∀ a ∈ later (), P a) :
    ∀ a ∈ first.orElse later, P a := by
  cases first with
  | none => exact holds'
  | some b => exact holds

theorem isRead_of_readInstant? {text : String} : ∀ t ∈ readInstant? text, t.IsRead := by
  rw [readInstant?]
  refine forall_of_orElse (forall_of_orElse (forall_of_orElse ?_ ?_) ?_) ?_
  · exact isRead_of_readTimestamp?
  · exact isRead_of_readDateTime?
  · exact isRead_of_readDateTime?
  · exact isRead_of_readDate?

theorem isRead_of_ofMillis? {n : Int} : ∀ t ∈ ofMillis? n, t.IsRead := by
  intro t read
  rw [ofMillis?] at read
  split at read
  · cases read
    have fraction : (atMillis n).nanos < 1000000000 := by
      rw [atMillis, Int.fmod_eq_emod_of_nonneg n (by decide)]
      dsimp only
      omega
    exact ⟨Nat.lt_trans fraction (by decide), fun leap => absurd fraction (Nat.not_lt.mpr leap)⟩
  · cases read

/-! ### What is printed -/

def Instant.stamp (t : Instant) : Stamp :=
  ⟨(Date.ofDays (t.seconds / 86400)).year.toNat, (Date.ofDays (t.seconds / 86400)).month,
    (Date.ofDays (t.seconds / 86400)).day, (t.seconds % 86400).toNat / 3600,
    (t.seconds % 86400).toNat / 60 % 60, (t.seconds % 86400).toNat % 60 + t.nanos / secondNanos⟩

structure Instant.InFourDigits (t : Instant) : Prop where
  first : dayCount 0 1 1 * 86400 ≤ t.seconds
  last : t.seconds < dayCount 10000 1 1 * 86400

variable {t : Instant}

theorem Instant.InFourDigits.year (within : t.InFourDigits) :
    0 ≤ (Date.ofDays (t.seconds / 86400)).year ∧ (Date.ofDays (t.seconds / 86400)).year ≤ 9999 := by
  obtain ⟨first, last⟩ := within
  obtain ⟨days, onCalendar⟩ := Date.toDays_ofDays (t.seconds / 86400)
  obtain ⟨start, finish⟩ := Date.toDays_bounds onCalendar
  have zero := toDays_yearZero
  have myriad := toDays_yearMyriad
  constructor
  · by_cases early : (Date.ofDays (t.seconds / 86400)).year + 1 ≤ 0
    · have before := Date.toDays_newYear_mono early
      omega
    · omega
  · by_cases late : (10000 : Int) ≤ (Date.ofDays (t.seconds / 86400)).year
    · have after := Date.toDays_newYear_mono late
      omega
    · omega

theorem Instant.toList_text (within : t.InFourDigits) : t.text.toList =
    t.stamp.dateThen ('T' :: t.stamp.timeThen
      ('.' :: ((padded 3 (t.nanos % secondNanos / 1000000)).toList ++ ['Z']))) := by
  obtain ⟨first, last⟩ := within.year
  have days : t.seconds.fdiv daySeconds = t.seconds / 86400 :=
    Int.fdiv_eq_ediv_of_nonneg _ (by decide)
  have seconds : t.seconds.fmod daySeconds = t.seconds % 86400 :=
    Int.fmod_eq_emod_of_nonneg _ (by decide)
  have year : yearText (Date.ofDays (t.seconds / 86400)).year =
      padded 4 (Date.ofDays (t.seconds / 86400)).year.toNat := by
    rw [yearText, if_pos (by simp; omega)]
  rw [text, days, seconds]
  simp only [year, String.toList_append]
  simp [Stamp.dateThen, Stamp.timeThen, clockText, stamp]

theorem Instant.date_stamp (within : t.InFourDigits) :
    t.stamp.date = Date.ofDays (t.seconds / 86400) := by
  rw [Stamp.date, stamp]
  dsimp only
  rw [Int.toNat_of_nonneg within.year.1]

/-- Seconds are printed up to 60, which only shows at the end of a minute. -/
theorem Instant.isTime_stamp (read : t.IsRead) : t.stamp.IsTime := by
  obtain ⟨fraction, leap⟩ := read
  rw [secondNanos] at fraction leap
  refine ⟨?_, ?_, ?_⟩
  · simp only [stamp]
    omega
  · simp only [stamp]
    omega
  · simp only [stamp, secondNanos]
    omega

theorem Instant.fits_stamp (read : t.IsRead) (within : t.InFourDigits) : t.stamp.Fits := by
  obtain ⟨first, last⟩ := within.year
  obtain ⟨hour, minute, second⟩ := isTime_stamp read
  obtain ⟨-, ⟨-, december⟩, -, long⟩ := Date.toDays_ofDays (t.seconds / 86400)
  have short := daysInMonth_le (Date.ofDays (t.seconds / 86400)).year
    (Date.ofDays (t.seconds / 86400)).month
  have month : t.stamp.month < 100 := by
    simp only [stamp]
    omega
  have day : t.stamp.day < 100 := by
    simp only [stamp]
    omega
  refine ⟨?_, month, day, ?_, ?_, ?_⟩
  · simp only [stamp]
    omega
  · omega
  · omega
  · omega

/-- The time of day that is printed, with the leap second that the instant may belong to. -/
theorem Instant.of?_stamp (read : t.IsRead) (nanos : Nat) :
    TimeOfDay.of? t.stamp.hour t.stamp.minute t.stamp.second nanos =
      some ⟨(t.seconds % 86400).toNat, nanos + t.nanos / secondNanos * secondNanos⟩ := by
  have time := isTime_stamp read
  obtain ⟨fraction, last⟩ := read
  rw [secondNanos] at fraction last
  by_cases leap : 1000000000 ≤ t.nanos
  · have repeated : t.nanos / secondNanos = 1 := by
      rw [secondNanos]
      omega
    have second : t.stamp.second = 60 := by
      have minute := last leap
      simp only [stamp, repeated]
      omega
    have seconds : t.stamp.hour * 3600 + t.stamp.minute * 60 + 59 =
        (t.seconds % 86400).toNat := by
      have minute := last leap
      simp only [stamp]
      omega
    rw [TimeOfDay.of?, second, if_neg (by simpa using ⟨time.hour, time.minute⟩), if_pos (by decide),
      seconds, repeated, Nat.one_mul]
  · have ordinary : t.nanos / secondNanos = 0 := by
      rw [secondNanos]
      omega
    have second : t.stamp.second ≤ 59 := by
      simp only [stamp, ordinary]
      omega
    have seconds : t.stamp.hour * 3600 + t.stamp.minute * 60 + t.stamp.second =
        (t.seconds % 86400).toNat := by
      simp only [stamp, ordinary]
      omega
    rw [TimeOfDay.of?_ordinary time second, seconds, ordinary, Nat.zero_mul, Nat.add_zero]

theorem fraction?_digits {n : Nat} {digits : List Char} (areDigits : AreDigits 3 n digits) :
    fraction? (digits ++ ['Z']) = some (n * 1000000, ['Z']) := by
  have taken : (digits ++ ['Z']).takeWhile Char.isDigit = digits := by
    rw [takeWhile_digits_append areDigits]
    exact List.append_nil digits
  have some : digits.isEmpty = false := by
    cases digits with
    | nil => exact absurd areDigits.length (by decide)
    | cons c digits => rfl
  have all : digits.take 9 = digits := List.take_of_length_le (by rw [areDigits.length]; decide)
  have rest : (digits ++ ['Z']).drop 3 = ['Z'] := List.drop_left' areDigits.length
  rw [fraction?]
  simp only [taken, some, all, areDigits.length, areDigits.value, rest]
  rfl

/-- An instant is read back from its text, but for what is less than a millisecond. -/
theorem Instant.readInstant?_printed (read : t.IsRead) (within : t.InFourDigits) :
    readInstant? t.text = some ⟨t.seconds, t.nanos / 1000000 * 1000000⟩ := by
  have small : t.nanos % secondNanos / 1000000 < 1000 := by
    rw [secondNanos]
    omega
  have millis : AreDigits 3 (t.nanos % secondNanos / 1000000)
      (padded 3 (t.nanos % secondNanos / 1000000)).toList := areDigits_padded (by decide) small
  have fits := fits_stamp read within
  have ended : timestampEnd? ('.' :: ((padded 3 (t.nanos % secondNanos / 1000000)).toList ++ ['Z'])) =
      some (t.nanos % secondNanos / 1000000 * 1000000, 0, []) := by
    rw [timestampEnd?, fraction?_digits millis]
    rfl
  have timestamp : readTimestamp? t.text.toList =
      some ⟨t.seconds, t.nanos / 1000000 * 1000000⟩ := by
    obtain ⟨days, onCalendar⟩ := Date.toDays_ofDays (t.seconds / 86400)
    have date := date_stamp within
    have seconds : t.seconds / 86400 * 86400 + (t.seconds % 86400).toNat - 0 = t.seconds := by omega
    have nanos : t.nanos % secondNanos / 1000000 * 1000000 + t.nanos / secondNanos * secondNanos =
        t.nanos / 1000000 * 1000000 := by
      rw [secondNanos]
      omega
    rw [toList_text within, readTimestamp?_stamp fits (.inl rfl), ended]
    simp only [Option.bind_some, date?_eq_some fits (date ▸ onCalendar), of?_stamp read, date,
      List.isEmpty_nil, if_true, instantAt, days, daySeconds, seconds, nanos]
  have visible : EndsVisibly t.text.toList := by
    rw [toList_text within]
    exact .dateThen _ (.cons _ (.timeThen _ (.cons _ (.append _ ⟨'Z', rfl, rfl⟩))))
  have start : Text.trimStart t.text.toList = t.text.toList := by
    rw [toList_text within]
    exact trimStart_digits (areDigits_four fits.year) (by decide) _
  rw [readInstant?, Text.trim, start, visible.trimEnd_eq, timestamp]
  rfl

end DocLint.Calendar
