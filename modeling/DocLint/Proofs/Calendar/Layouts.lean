import DocLint.Proofs.Calendar.DayCount
import DocLint.Proofs.Calendar.Digits
import DocLint.Proofs.Text.Trimming

/-!
# Layouts of dates

A date and a time of day can be written in several layouts with fields of fixed width. Each of them
is read as what its fields say, unless the calendar, the clock or the offsets do not have these:
then it is not read at all.
-/
namespace DocLint.Calendar

open Instant

/-- The fields of a date and a time of day as they are written, whether or not there are such. -/
structure Stamp where
  year : Nat
  month : Nat
  day : Nat
  hour : Nat
  minute : Nat
  second : Nat

/-- No field needs more digits than it is written with. -/
structure Stamp.Fits (s : Stamp) : Prop where
  year : s.year < 10000
  month : s.month < 100
  day : s.day < 100
  hour : s.hour < 100
  minute : s.minute < 100
  second : s.second < 100

def clockText (hours minutes : Nat) (rest : List Char) : List Char :=
  (padded 2 hours).toList ++ ':' :: ((padded 2 minutes).toList ++ rest)

def Stamp.dateThen (s : Stamp) (rest : List Char) : List Char :=
  (padded 4 s.year).toList ++ '-' :: ((padded 2 s.month).toList ++ '-' ::
    ((padded 2 s.day).toList ++ rest))

def Stamp.timeThen (s : Stamp) (rest : List Char) : List Char :=
  clockText s.hour s.minute (':' :: ((padded 2 s.second).toList ++ rest))

/-- The layouts: the date alone, date and time in UTC, and date and time in a zone that is ahead of
UTC or behind it. -/
inductive Layout
  | bare
  | spaced
  | joined
  | utc
  | ahead (hours minutes : Nat)
  | behind (hours minutes : Nat)
deriving DecidableEq

def Layout.text (s : Stamp) : Layout → List Char
  | bare => s.dateThen []
  | spaced => s.dateThen (' ' :: s.timeThen [])
  | joined => s.dateThen ('T' :: s.timeThen [])
  | utc => s.dateThen ('T' :: s.timeThen ['Z'])
  | ahead hours minutes => s.dateThen ('T' :: s.timeThen ('+' :: clockText hours minutes []))
  | behind hours minutes => s.dateThen ('T' :: s.timeThen ('-' :: clockText hours minutes []))

def Layout.Fits : Layout → Prop
  | ahead hours minutes | behind hours minutes => hours < 100 ∧ minutes < 100
  | _ => True

def Layout.zone? : Layout → Option Int
  | ahead hours minutes =>
    if hours ≤ 23 ∧ minutes ≤ 59 then some (hours * 3600 + minutes * 60) else none
  | behind hours minutes =>
    if hours ≤ 23 ∧ minutes ≤ 59 then some (-(hours * 3600 + minutes * 60)) else none
  | _ => some 0

/-- The time of day that a layout gives, midnight if it gives none. -/
def Layout.time? (s : Stamp) : Layout → Option TimeOfDay
  | bare => some ⟨0, 0⟩
  | _ => TimeOfDay.of? s.hour s.minute s.second 0

/-- The instant that is written, if the calendar has its date, the clock its time and the world its
zone. -/
def Layout.instant? (s : Stamp) (layout : Layout) : Option Instant :=
  (date? s.year s.month s.day).bind fun date => (layout.time? s).bind fun time =>
    layout.zone?.map fun offset => instantAt date time offset

variable {s : Stamp} {layout : Layout}

/-! ### Reading the parts -/

@[simp] theorem expect?_cons (c : Char) (rest : List Char) : expect? c (c :: rest) = some rest := by
  simp [expect?]

/-- A reader goes on with what its first step has found. -/
theorem bind_of {α β : Type} {x : Option α} {a : α} (found : x = some a) (f : α → Option β) :
    (x >>= f) = f a := by
  rw [found, Option.bind_eq_bind, Option.bind_some]

theorem looseDate?_dateThen (fits : s.Fits) (rest : List Char) : looseDate? (s.dateThen rest) =
    (date? s.year s.month s.day).map fun date => (date, rest) := by
  have year := areDigits_four fits.year
  have month := areDigits_two fits.month
  have day := areDigits_two fits.day
  rw [looseDate?, Stamp.dateThen, looseYear?_digits year]
  simp only [Option.bind_eq_bind, Option.bind_some, expect?_cons,
    looseNumber?_digits month (by decide), looseNumber?_digits day (by decide)]
  cases date? s.year s.month s.day <;> rfl

theorem looseTime?_timeThen (fits : s.Fits) (rest : List Char) : looseTime? (s.timeThen rest) =
    (TimeOfDay.of? s.hour s.minute s.second 0).map fun time => (time, rest) := by
  have hour := areDigits_two fits.hour
  have minute := areDigits_two fits.minute
  have second := areDigits_two fits.second
  rw [looseTime?, Stamp.timeThen, clockText]
  simp only [Option.bind_eq_bind, Option.bind_some, expect?_cons,
    looseNumber?_digits hour (by decide), looseNumber?_digits minute (by decide),
    looseNumber?_digits second (by decide)]
  cases TimeOfDay.of? s.hour s.minute s.second 0 <;> rfl

def offsetAfter? (found : Nat × List Char) : Option (Nat × Int × List Char) :=
  (offset? found.2).map fun (offset, rest) => (found.1, offset, rest)

def timestampEnd? : List Char → Option (Nat × Int × List Char)
  | '.' :: rest => (fraction? rest).bind offsetAfter?
  | rest => offsetAfter? (0, rest)

/-- After fields of fixed width a timestamp is decided by its end. -/
theorem readTimestamp?_stamp (fits : s.Fits) {separator : Char}
    (either : separator = 'T' ∨ separator = ' ') (rest : List Char) :
    readTimestamp? (s.dateThen (separator :: s.timeThen rest)) =
      (timestampEnd? rest).bind fun (nanos, offset, rest) => (date? s.year s.month s.day).bind fun date =>
        (TimeOfDay.of? s.hour s.minute s.second nanos).bind fun time =>
          if rest.isEmpty then some (instantAt date time offset) else none := by
  have year := areDigits_four fits.year
  have month := areDigits_two fits.month
  have day := areDigits_two fits.day
  have hour := areDigits_two fits.hour
  have minute := areDigits_two fits.minute
  have second := areDigits_two fits.second
  have apart : ((expect? 'T' (separator :: s.timeThen rest)).orElse fun _ =>
      (expect? 't' (separator :: s.timeThen rest)).orElse fun _ =>
        expect? ' ' (separator :: s.timeThen rest)) = some (s.timeThen rest) := by
    rcases either with rfl | rfl <;> rfl
  rw [readTimestamp?, Stamp.dateThen]
  refine (bind_of (number?_digits year (Nat.le_refl 4) _) _).trans ?_
  refine (bind_of (expect?_cons '-' _) _).trans ?_
  refine (bind_of (number?_digits month (Nat.le_refl 2) _) _).trans ?_
  refine (bind_of (expect?_cons '-' _) _).trans ?_
  refine (bind_of (number?_digits day (Nat.le_refl 2) _) _).trans ?_
  refine (bind_of apart _).trans ?_
  refine (bind_of (number?_digits hour (Nat.le_refl 2) _) _).trans ?_
  refine (bind_of (expect?_cons ':' _) _).trans ?_
  refine (bind_of (number?_digits minute (Nat.le_refl 2) _) _).trans ?_
  refine (bind_of (expect?_cons ':' _) _).trans ?_
  refine (bind_of (number?_digits second (Nat.le_refl 2) _) _).trans ?_
  dsimp only
  split
  case h_1 more =>
    rw [timestampEnd?]
    cases fraction? more with
    | none => rfl
    | some found => cases ended : offset? found.2 <;> simp [offsetAfter?, ended]
  case h_2 other =>
    have unmarked : timestampEnd? rest = offsetAfter? (0, rest) := by
      rw [timestampEnd?]
      exact other
    rw [unmarked]
    cases ended : offset? rest <;> simp [offsetAfter?, ended]

theorem readDateTime?_dateThen (fits : s.Fits) (separate : List Char → Option (List Char))
    (rest : List Char) : readDateTime? separate (s.dateThen rest) =
      (date? s.year s.month s.day).bind fun date => ((separate rest).bind looseTime?).bind
        fun (time, rest) => if rest.isEmpty then some (instantAt date time 0) else none := by
  rw [readDateTime?, looseDate?_dateThen fits]
  cases date? s.year s.month s.day with
  | none => rfl
  | some date => cases separated : separate rest <;> simp [separated]

theorem readDate?_dateThen (fits : s.Fits) (rest : List Char) : readDate? (s.dateThen rest) =
    (date? s.year s.month s.day).bind fun date =>
      if rest.isEmpty then some (instantAt date ⟨0, 0⟩ 0) else none := by
  rw [readDate?, looseDate?_dateThen fits]
  cases date? s.year s.month s.day <;> rfl

theorem readTimestamp?_dateThen_nil (fits : s.Fits) : readTimestamp? (s.dateThen []) = none := by
  have year := areDigits_four fits.year
  have month := areDigits_two fits.month
  have day := areDigits_two fits.day
  rw [readTimestamp?, Stamp.dateThen]
  refine (bind_of (number?_digits year (Nat.le_refl 4) _) _).trans ?_
  refine (bind_of (expect?_cons '-' _) _).trans ?_
  refine (bind_of (number?_digits month (Nat.le_refl 2) _) _).trans ?_
  refine (bind_of (expect?_cons '-' _) _).trans ?_
  refine (bind_of (number?_digits day (Nat.le_refl 2) _) _).trans ?_
  rfl

/-- An offset is read if there is such a zone. -/
theorem offset?_clockText {hours minutes : Nat} (hours_lt : hours < 100)
    (minutes_lt : minutes < 100) {sign : Char} (either : sign = '+' ∨ sign = '-') :
    offset? (sign :: clockText hours minutes []) =
      if hours ≤ 23 ∧ minutes ≤ 59 then
        some (if sign == '+' then (hours * 3600 + minutes * 60 : Int)
          else -(hours * 3600 + minutes * 60 : Int), [])
      else none := by
  have hour := areDigits_two hours_lt
  have minute := areDigits_two minutes_lt
  have other : ¬(sign == 'Z' || sign == 'z') = true := by rcases either with rfl | rfl <;> decide
  have signs : (sign == '+' || sign == '-' || sign == '\u2212') = true := by
    rcases either with rfl | rfl <;> decide
  unfold offset?
  dsimp only
  rw [if_neg other, if_pos signs, clockText]
  simp only [Option.bind_eq_bind, Option.bind_some, expect?_cons,
    number?_digits hour (Nat.le_refl 2), number?_digits minute (Nat.le_refl 2)]
  have refused : (59 < minutes || 23 < hours) = true ↔ ¬(hours ≤ 23 ∧ minutes ≤ 59) := by
    rw [Bool.or_eq_true, decide_eq_true_eq, decide_eq_true_eq]
    omega
  by_cases zone : hours ≤ 23 ∧ minutes ≤ 59
  · rw [if_pos zone, if_neg fun other => refused.mp other zone]
  · rw [if_neg zone, if_pos (refused.mpr zone)]

/-! ### Reading the layouts -/

theorem readTimestamp?_zoned (fits : s.Fits) {rest : List Char}
    (timed : layout.time? s = TimeOfDay.of? s.hour s.minute s.second 0)
    (ended : timestampEnd? rest = layout.zone?.map fun offset => (0, offset, [])) :
    readTimestamp? (s.dateThen ('T' :: s.timeThen rest)) = layout.instant? s := by
  rw [readTimestamp?_stamp fits (.inl rfl), ended, Layout.instant?, timed]
  cases layout.zone? with
  | none =>
    cases date? s.year s.month s.day with
    | none => rfl
    | some date => cases TimeOfDay.of? s.hour s.minute s.second 0 <;> rfl
  | some offset => simp

/-- The layouts of timestamps: nothing else is read with a zone. -/
theorem readTimestamp?_text (fits : s.Fits) (fits' : layout.Fits) :
    readTimestamp? (layout.text s) =
      match layout with
      | .bare | .spaced | .joined => none
      | _ => layout.instant? s := by
  cases layout with
  | bare => exact readTimestamp?_dateThen_nil fits
  | spaced => exact readTimestamp?_stamp fits (.inr rfl) []
  | joined => exact readTimestamp?_stamp fits (.inl rfl) []
  | utc => exact readTimestamp?_zoned fits rfl rfl
  | ahead hours minutes =>
    refine readTimestamp?_zoned fits rfl ?_
    have ended := offset?_clockText fits'.1 fits'.2 (.inl rfl)
    rw [timestampEnd?, offsetAfter?, ended, Layout.zone?]
    · split <;> rfl
    · rintro rest ⟨⟩
  | behind hours minutes =>
    refine readTimestamp?_zoned fits rfl ?_
    have ended := offset?_clockText fits'.1 fits'.2 (.inr rfl)
    rw [timestampEnd?, offsetAfter?, ended, Layout.zone?]
    · split <;> rfl
    · rintro rest ⟨⟩

theorem trimStart_timeThen (fits : s.Fits) (rest : List Char) :
    Text.trimStart (' ' :: s.timeThen rest) = s.timeThen rest := by
  have hour := areDigits_two fits.hour
  have blank : Text.trimStart (' ' :: s.timeThen rest) = Text.trimStart (s.timeThen rest) :=
    List.dropWhile_cons_of_pos (by decide)
  rw [blank, Stamp.timeThen, clockText, trimStart_digits hour (by decide)]

theorem spaced_of_letter (rest : List Char) :
    (some (Text.trimStart ('T' :: rest))).bind looseTime? = none := rfl

/-- Nothing but a timestamp has a zone, so that a refused one is not read in another way. -/
theorem laterReaders_refuse (fits : s.Fits) {rest : List Char} (more : rest ≠ []) :
    readDateTime? (fun s => some (Text.trimStart s)) (s.dateThen ('T' :: s.timeThen rest)) = none ∧
      readDateTime? (expect? 'T') (s.dateThen ('T' :: s.timeThen rest)) = none ∧
      readDate? (s.dateThen ('T' :: s.timeThen rest)) = none := by
  refine ⟨?_, ?_, ?_⟩
  · rw [readDateTime?_dateThen fits, spaced_of_letter]
    cases date? s.year s.month s.day <;> rfl
  · rw [readDateTime?_dateThen fits, expect?_cons, Option.bind_some, looseTime?_timeThen fits]
    cases date? s.year s.month s.day with
    | none => rfl
    | some date => cases TimeOfDay.of? s.hour s.minute s.second 0 <;> simp [more]
  · rw [readDate?_dateThen fits]
    cases date? s.year s.month s.day <;> rfl

/-! ### Blanks around a layout -/

def EndsVisibly (text : List Char) : Prop :=
  ∃ c, text.getLast? = some c ∧ Text.isBlank c = false

namespace EndsVisibly

variable {text : List Char}

theorem append (front : List Char) (ends : EndsVisibly text) : EndsVisibly (front ++ text) := by
  obtain ⟨c, last, visible⟩ := ends
  exact ⟨c, by rw [List.getLast?_append, last, Option.some_or], visible⟩

theorem cons (c : Char) (ends : EndsVisibly text) : EndsVisibly (c :: text) :=
  ends.append [c]

theorem trimEnd_eq (ends : EndsVisibly text) : Text.trimEnd text = text := by
  obtain ⟨c, last, visible⟩ := ends
  refine Text.trimEnd_eq_self fun x inside => ?_
  obtain rfl := Option.some.inj (last.symm.trans inside)
  exact visible

theorem of_digits {width n : Nat} {digits : List Char} (areDigits : AreDigits width n digits)
    (some : 0 < width) : EndsVisibly (digits ++ []) := by
  rw [List.append_nil]
  cases last : digits.getLast? with
  | none =>
    rw [List.getLast?_eq_none_iff] at last
    subst last
    exact absurd areDigits.length (Nat.ne_of_lt some)
  | some c =>
    exact ⟨c, last, isBlank_of_isDigit (areDigits.isDigit c (List.mem_of_getLast? last))⟩

theorem clockText (hours minutes : Nat) (ends : EndsVisibly text) :
    EndsVisibly (clockText hours minutes text) :=
  .append _ (.cons _ (.append _ ends))

theorem dateThen (s : Stamp) (ends : EndsVisibly text) : EndsVisibly (s.dateThen text) :=
  .append _ (.cons _ (.append _ (.cons _ (.append _ ends))))

theorem timeThen (s : Stamp) (ends : EndsVisibly text) : EndsVisibly (s.timeThen text) :=
  .clockText _ _ (.cons _ (.append _ ends))

end EndsVisibly

theorem Layout.endsVisibly (fits : s.Fits) (fits' : layout.Fits) :
    EndsVisibly (layout.text s) := by
  have time : EndsVisibly (s.timeThen []) := .clockText _ _ (.cons _
    (.of_digits (areDigits_two fits.second) (by decide)))
  cases layout with
  | bare =>
    have day := areDigits_two fits.day
    exact .append _ (.cons _ (.append _ (.cons _ (.of_digits day (by decide)))))
  | spaced => exact .dateThen s (.cons _ time)
  | joined => exact .dateThen s (.cons _ time)
  | utc => exact .dateThen s (.cons _ (.timeThen s ⟨'Z', rfl, rfl⟩))
  | ahead hours minutes | behind hours minutes =>
    have minute := areDigits_two fits'.2
    exact .dateThen s (.cons _ (.timeThen s (.cons _
      (.append _ (.cons _ (.of_digits minute (by decide)))))))

/-- Blanks around a layout make no difference. -/
theorem Layout.trim_text (fits : s.Fits) (fits' : layout.Fits) {before after : List Char}
    (blank : Text.isBlankText before = true) (blank' : Text.isBlankText after = true) :
    Text.trim (before ++ (layout.text s ++ after)) = layout.text s := by
  have year := areDigits_four fits.year
  have start : Text.trimStart (layout.text s) = layout.text s := by
    cases layout <;> exact trimStart_digits year (by decide) _
  rw [Text.trim_blanks_append blank, Text.trim_append_blanks _ blank', Text.trim, start,
    (Layout.endsVisibly fits fits').trimEnd_eq]

/-- Every layout is read as what it says, by the first reader that knows it. -/
theorem readInstant?_text (fits : s.Fits) (fits' : layout.Fits) {before after : List Char}
    (blank : Text.isBlankText before = true) (blank' : Text.isBlankText after = true) :
    readInstant? (String.ofList (before ++ (layout.text s ++ after))) = layout.instant? s := by
  rw [readInstant?, String.toList_ofList, Layout.trim_text fits fits' blank blank',
    readTimestamp?_text fits fits']
  have zoned {rest : List Char} (more : rest ≠ []) (text : layout.text s =
      s.dateThen ('T' :: s.timeThen rest)) : (((layout.instant? s).orElse fun _ =>
        readDateTime? (fun s => some (Text.trimStart s)) (layout.text s)).orElse fun _ =>
          readDateTime? (expect? 'T') (layout.text s)).orElse (fun _ => readDate? (layout.text s)) =
        layout.instant? s := by
    obtain ⟨spaced, joined, bare⟩ := laterReaders_refuse fits more
    rw [text, spaced, joined, bare]
    cases layout.instant? s <;> rfl
  cases layout with
  | bare =>
    simp only [Layout.text, readDateTime?_dateThen fits, readDate?_dateThen fits, Layout.instant?]
    cases date? s.year s.month s.day <;> rfl
  | spaced =>
    simp only [Layout.text, readDateTime?_dateThen fits, readDate?_dateThen fits, Layout.instant?,
      Option.bind_some, trimStart_timeThen fits, looseTime?_timeThen fits, Layout.time?]
    cases date? s.year s.month s.day with
    | none => rfl
    | some date => cases TimeOfDay.of? s.hour s.minute s.second 0 <;> rfl
  | joined =>
    simp only [Layout.text, readDateTime?_dateThen fits, readDate?_dateThen fits, Layout.instant?,
      expect?_cons, Option.bind_some, looseTime?_timeThen fits, Layout.time?]
    cases date? s.year s.month s.day with
    | none => rfl
    | some date => cases TimeOfDay.of? s.hour s.minute s.second 0 <;> rfl
  | utc => exact zoned (List.cons_ne_nil _ _) rfl
  | ahead hours minutes => exact zoned (List.cons_ne_nil _ _) rfl
  | behind hours minutes => exact zoned (List.cons_ne_nil _ _) rfl

/-! ### What the fields say -/

def Stamp.date (s : Stamp) : Date :=
  ⟨s.year, s.month, s.day⟩

/-- The clock shows the time of the fields, in a leap second if need be. -/
structure Stamp.IsTime (s : Stamp) : Prop where
  hour : s.hour ≤ 23
  minute : s.minute ≤ 59
  second : s.second ≤ 60

/-- The seconds from the start of 1970 to the fields, as the calendar counts its days. -/
def Stamp.seconds (s : Stamp) : Int :=
  dayCount s.year s.month s.day * 86400 + s.hour * 3600 + s.minute * 60 + s.second

/-- There is what the layout writes: the date, the time of day and the zone. -/
structure Layout.IsPossible (s : Stamp) (layout : Layout) : Prop where
  date : s.date.OnCalendar
  time : layout ≠ .bare → s.IsTime
  zone : ∃ offset, layout.zone? = some offset

theorem isDate_iff (fits : s.Fits) :
    isDate s.year s.month s.day = true ↔ s.date.OnCalendar := by
  have year := fits.year
  simp only [isDate, Bool.and_eq_true, decide_eq_true_eq]
  constructor
  · rintro ⟨⟨⟨⟨-, first⟩, last⟩, some⟩, within⟩
    exact ⟨⟨first, last⟩, some, within⟩
  · rintro ⟨⟨first, last⟩, some, within⟩
    have low : minYear ≤ s.year := by rw [minYear]; omega
    have high : s.year ≤ maxYear := by rw [maxYear]; omega
    exact ⟨⟨⟨⟨⟨low, high⟩, first⟩, last⟩, some⟩, within⟩

theorem date?_eq_some (fits : s.Fits) (onCalendar : s.date.OnCalendar) :
    date? s.year s.month s.day = some s.date :=
  if_pos ((isDate_iff fits).mpr onCalendar)

theorem TimeOfDay.of?_ordinary (time : s.IsTime) (ordinary : s.second ≤ 59) (nanos : Nat) :
    TimeOfDay.of? s.hour s.minute s.second nanos =
      some ⟨s.hour * 3600 + s.minute * 60 + s.second, nanos⟩ := by
  obtain ⟨hour, minute, -⟩ := time
  rw [TimeOfDay.of?, if_neg (by simp; omega), if_neg (by simp; omega)]

theorem TimeOfDay.isTime_of_of? {nanos : Nat} {time : TimeOfDay}
    (read : TimeOfDay.of? s.hour s.minute s.second nanos = some time) : s.IsTime := by
  rw [TimeOfDay.of?] at read
  split at read
  case isTrue => cases read
  case isFalse within =>
    simp only [Bool.or_eq_true, decide_eq_true_eq] at within
    exact ⟨by omega, by omega, by omega⟩

/-- A layout that says what there is denotes the instant that the calendar counts. -/
theorem Layout.instant?_of_possible (fits : s.Fits) (possible : layout.IsPossible s)
    (ordinary : s.second ≤ 59)
    (midnight : layout = .bare → s.hour = 0 ∧ s.minute = 0 ∧ s.second = 0) {offset : Int}
    (zone : layout.zone? = some offset) : layout.instant? s = some ⟨s.seconds - offset, 0⟩ := by
  have days : s.date.toDays = dayCount s.year s.month s.day :=
    toDays_eq_dayCount possible.date.month.1 possible.date.month.2 s.day
  have time : layout.time? s = some ⟨s.hour * 3600 + s.minute * 60 + s.second, 0⟩ := by
    by_cases bare : layout = .bare
    · obtain ⟨hour, minute, second⟩ := midnight bare
      rw [bare, Layout.time?, hour, minute, second]
    · have read := TimeOfDay.of?_ordinary (possible.time bare) ordinary 0
      cases layout with
      | bare => exact absurd rfl bare
      | _ => exact read
  rw [Layout.instant?, date?_eq_some fits possible.date, time, zone]
  simp only [Option.bind_some, Option.map_some, instantAt, days, daySeconds, Stamp.seconds]
  congr 2
  omega

/-- A layout that says what there is not denotes nothing. -/
theorem Layout.instant?_of_impossible (fits : s.Fits) (impossible : ¬layout.IsPossible s) :
    layout.instant? s = none := by
  rw [Layout.instant?]
  cases dated : date? s.year s.month s.day with
  | none => rfl
  | some date =>
    have onCalendar : s.date.OnCalendar := by
      cases valid : isDate s.year s.month s.day with
      | true => exact (isDate_iff fits).mp valid
      | false =>
        rw [date?, valid] at dated
        cases dated
    cases timed : layout.time? s with
    | none => rfl
    | some time =>
      cases zoned : layout.zone? with
      | none => rfl
      | some offset =>
        refine absurd ⟨onCalendar, fun other => ?_, offset, zoned⟩ impossible
        cases layout with
        | bare => exact absurd rfl other
        | _ => exact TimeOfDay.isTime_of_of? timed

end DocLint.Calendar
