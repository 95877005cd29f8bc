import DocLint.Calendar.Date

/-!
# Instants

A point in time is a number of seconds since the start of 1970 in UTC and a number of nanoseconds.
A leap second belongs to the second before it, with a billion nanoseconds or more; instants are
ordered by seconds first, so a leap second comes before the next second.
-/
namespace DocLint.Calendar

/-- Whole seconds since the start of 1970, and the nanoseconds after them. -/
structure Instant where
  seconds : Int
  nanos : Nat
deriving DecidableEq, Repr

def daySeconds : Int := 86400

def secondNanos : Nat := 1000000000

namespace Instant

def before (a b : Instant) : Bool :=
  a.seconds < b.seconds || (a.seconds == b.seconds && a.nanos < b.nanos)

def first : Instant := ⟨minDay * daySeconds, 0⟩

def last : Instant := ⟨maxDay * daySeconds + (daySeconds - 1), secondNanos - 1⟩

def inRange (t : Instant) : Bool :=
  minDay ≤ t.seconds.fdiv daySeconds && t.seconds.fdiv daySeconds ≤ maxDay

/-- The instant a number of milliseconds after the start of 1970, whatever its size. -/
def atMillis (n : Int) : Instant :=
  ⟨n.fdiv 1000, ((n.fmod 1000) * 1000000).toNat⟩

def ofMillis? (n : Int) : Option Instant :=
  if (atMillis n).inRange then some (atMillis n) else none

def ofNanos (n : Int) : Instant :=
  ⟨n.fdiv secondNanos, (n.fmod secondNanos).toNat⟩

/-- The instant a number of milliseconds later, whatever the calendar.  Out of a leap second, a move
forwards starts from the second that it repeats, a move backwards from the one after it. -/
def plus (t : Instant) (millis : Int) : Instant :=
  let nanos := t.nanos + millis * 1000000
  if t.nanos < secondNanos || nanos < secondNanos then ofNanos (t.seconds * secondNanos + nanos)
  else if nanos < 2 * secondNanos then ⟨t.seconds, nanos.toNat⟩
  else ofNanos ((t.seconds - 1) * secondNanos + nanos)

/-- Move an instant by milliseconds.  Offsets at the lower end of the 64-bit range, and results
that belong to no date, give nothing. -/
def shift? (t : Instant) (offset : Int) (backwards : Bool) : Option Instant :=
  if offset < -0x7FFFFFFFFFFFFFFF then none
  else
    let moved := t.plus (if backwards then -offset else offset)
    if moved.inRange then some moved else none

def padded (width n : Nat) : String :=
  let digits := toString n
  String.ofList (List.replicate (width - digits.length) '0') ++ digits

/-- A year of four digits; beyond them, and before the year zero, with a sign. -/
def yearText (year : Int) : String :=
  if 0 ≤ year && year ≤ 9999 then padded 4 year.toNat
  else (if year < 0 then "-" else "+") ++ padded 4 year.natAbs

/-- The text of an instant in UTC, cut to milliseconds. -/
def text (t : Instant) : String :=
  let date := Date.ofDays (t.seconds.fdiv daySeconds)
  let second := (t.seconds.fmod daySeconds).toNat
  let leap := t.nanos / secondNanos
  let nanos := t.nanos % secondNanos
  yearText date.year ++ "-" ++ padded 2 date.month ++ "-" ++ padded 2 date.day ++ "T" ++
    padded 2 (second / 3600) ++ ":" ++ padded 2 (second / 60 % 60) ++ ":" ++
    padded 2 (second % 60 + leap) ++ "." ++ padded 3 (nanos / 1000000) ++ "Z"

end Instant
end DocLint.Calendar
