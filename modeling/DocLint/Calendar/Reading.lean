import DocLint.Calendar.Instant
import DocLint.Decimal.Reading
import DocLint.Text.Blank

/-!
# Reading dates and times

Three notations: the internet profile with fixed fields and an offset, a date with a time of day,
and a bare date.  The latter two accept blanks before numbers, numbers with fewer digits than usual
and years with a sign.  All refuse dates that the calendar does not have.
-/
namespace DocLint.Calendar

open Decimal

/-- A number of at least `least` and at most `most` digits at the start of a text, and the rest. -/
def number? (least : Nat) (most : Option Nat) (s : List Char) : Option (Nat × List Char) :=
  let digits := s.takeWhile Char.isDigit
  let digits := match most with | some n => digits.take n | none => digits
  if digits.length < least then none
  else some (valueOfDigits digits, s.drop digits.length)

def expect? (c : Char) : List Char → Option (List Char)
  | [] => none
  | x :: rest => if x == c then some rest else none

/-- A time of day: seconds since midnight, and nanoseconds, which exceed a second in a leap
second. -/
structure TimeOfDay where
  seconds : Nat
  nanos : Nat

def TimeOfDay.of? (hour minute second nanos : Nat) : Option TimeOfDay :=
  if 23 < hour || 59 < minute || 60 < second then none
  else if second == 60 then some ⟨hour * 3600 + minute * 60 + 59, nanos + secondNanos⟩
  else some ⟨hour * 3600 + minute * 60 + second, nanos⟩

/-- The instant of a date and a time of day, `offset` seconds ahead of UTC. -/
def instantAt (date : Date) (time : TimeOfDay) (offset : Int) : Instant :=
  ⟨date.toDays * daySeconds + time.seconds - offset, time.nanos⟩

def date? (year : Int) (month day : Nat) : Option Date :=
  if isDate year month day then some ⟨year, month, day⟩ else none

/-- The fraction of a second after its point: up to nine digits count, further ones are skipped. -/
def fraction? (s : List Char) : Option (Nat × List Char) :=
  let digits := s.takeWhile Char.isDigit
  if digits.isEmpty then none
  else
    let used := digits.take 9
    some (valueOfDigits used * Nat.pow 10 (9 - used.length), s.drop digits.length)

/-- The offset from UTC at the end of a time, in seconds: a Z, or a sign, hours and minutes. -/
def offset? (s : List Char) : Option (Int × List Char) :=
  match s with
  | [] => none
  | sign :: rest =>
    if sign == 'Z' || sign == 'z' then some (0, rest)
    else if sign == '+' || sign == '-' || sign == '\u2212' then do
      let (hours, rest) ← number? 2 (some 2) rest
      let rest ← expect? ':' rest
      let (minutes, rest) ← number? 2 (some 2) rest
      if 59 < minutes || 23 < hours then none
      else
        let seconds : Int := hours * 3600 + minutes * 60
        some (if sign == '+' then seconds else -seconds, rest)
    else none

/-- The internet profile: a date of fixed width, a T or a blank, a time with an optional fraction,
and an offset. -/
def readTimestamp? (s : List Char) : Option Instant := do
  let (year, s) ← number? 4 (some 4) s
  let s ← expect? '-' s
  let (month, s) ← number? 2 (some 2) s
  let s ← expect? '-' s
  let (day, s) ← number? 2 (some 2) s
  let s ← (expect? 'T' s).orElse fun _ => (expect? 't' s).orElse fun _ => expect? ' ' s
  let (hour, s) ← number? 2 (some 2) s
  let s ← expect? ':' s
  let (minute, s) ← number? 2 (some 2) s
  let s ← expect? ':' s
  let (second, s) ← number? 2 (some 2) s
  let (nanos, s) ← match s with
    | '.' :: rest => fraction? rest
    | _ => some (0, s)
  let (offset, s) ← offset? s
  let date ← date? year month day
  let time ← TimeOfDay.of? hour minute second nanos
  if s.isEmpty then some (instantAt date time offset) else none

def looseNumber? (most : Nat) (s : List Char) : Option (Nat × List Char) :=
  number? 1 (some most) (Text.trimStart s)

/-- A year after blanks: up to four digits, or any number of digits after a sign. -/
def looseYear? (s : List Char) : Option (Int × List Char) :=
  match Text.trimStart s with
  | '-' :: rest => (number? 1 none rest).map fun (n, rest) => (-(n : Int), rest)
  | '+' :: rest => (number? 1 none rest).map fun (n, rest) => ((n : Int), rest)
  | s => (number? 1 (some 4) s).map fun (n, rest) => ((n : Int), rest)

def looseDate? (s : List Char) : Option (Date × List Char) := do
  let (year, s) ← looseYear? s
  let s ← expect? '-' s
  let (month, s) ← looseNumber? 2 s
  let s ← expect? '-' s
  let (day, s) ← looseNumber? 2 s
  let date ← date? year month day
  some (date, s)

def looseTime? (s : List Char) : Option (TimeOfDay × List Char) := do
  let (hour, s) ← looseNumber? 2 s
  let s ← expect? ':' s
  let (minute, s) ← looseNumber? 2 s
  let s ← expect? ':' s
  let (second, s) ← looseNumber? 2 s
  let time ← TimeOfDay.of? hour minute second 0
  some (time, s)

/-- A date and a time of day in UTC; `separate` consumes what stands between them. -/
def readDateTime? (separate : List Char → Option (List Char)) (s : List Char) :
    Option Instant := do
  let (date, s) ← looseDate? s
  let s ← separate s
  let (time, s) ← looseTime? s
  if s.isEmpty then some (instantAt date time 0) else none

def readDate? (s : List Char) : Option Instant := do
  let (date, s) ← looseDate? s
  if s.isEmpty then some (instantAt date ⟨0, 0⟩ 0) else none

/-- The instant that a text denotes in the first notation that fits, blanks around it aside. -/
def readInstant? (text : String) : Option Instant :=
  let s := Text.trim text.toList
  readTimestamp? s
    |>.orElse (fun _ => readDateTime? (fun s => some (Text.trimStart s)) s)
    |>.orElse (fun _ => readDateTime? (expect? 'T') s)
    |>.orElse (fun _ => readDate? s)

end DocLint.Calendar
