import DocLint.Calendar.Reading
import DocLint.Rule

/-!
# The rule DateRange

Checks that a date property lies strictly inside a window around a given instant.  An edge of the
window that leaves the calendar is replaced by the end of the calendar on that side.
-/
namespace DocLint.Checks.DateRange

open Calendar

def name : String := "DateRange"

/-- The property that holds the date, and how many milliseconds it may lie after and before the
given instant. -/
structure Settings where
  property : String
  afterOffset : Option Int := none
  beforeOffset : Option Int := none

structure Draft where
  property : Option String := none
  afterOffset : Option (Option Int) := none
  beforeOffset : Option (Option Int) := none

def fields : List (FieldDecoder Draft) :=
  [ .ofSlot "property" [] true (·.property) (fun x d => { d with property := some x })
      Json.decodeString,
    .ofSlot "afterOffset" [] false (·.afterOffset) (fun x d => { d with afterOffset := some x })
      (Json.decodeOption Json.decodeInt64),
    .ofSlot "beforeOffset" [] false (·.beforeOffset) (fun x d => { d with beforeOffset := some x })
      (Json.decodeOption Json.decodeInt64) ]

/-- Read settings; the property has to be named. -/
def decode : Decoder Settings :=
  Json.decodeRecord "struct DateRangeSettings" fields {} fun d => do
    let property ← requireField "property" d.property
    return ⟨property, d.afterOffset.getD none, d.beforeOffset.getD none⟩

/-- The instant that a property's value denotes: a date in text, or milliseconds. -/
def instantOf? : Json → Option Instant
  | .string s => readInstant? s
  | value => value.int64?.bind Instant.ofMillis?

def isAbsent : Option Json → Bool
  | none => true
  | some .null => true
  | some (.bool false) => true
  | some (.string "") => true
  | some _ => false

def earliest (now : Instant) (settings : Settings) : Instant :=
  (now.shift? (settings.beforeOffset.getD 0) true).getD .first

def latest (now : Instant) (settings : Settings) : Instant :=
  (now.shift? (settings.afterOffset.getD 0) false).getD .last

/-- Whether an instant lies strictly inside the window. -/
def inWindow (now : Instant) (settings : Settings) (date : Instant) : Bool :=
  (earliest now settings).before date && date.before (latest now settings)

def assess (now : Instant) (settings : Settings) (raw : Option Json) : Severity × String :=
  let property := settings.property
  if isAbsent raw then (.error, "No date found for: " ++ property)
  else
    match raw.bind instantOf? with
    | some date =>
      if inWindow now settings date then (.success, "Date for " ++ property ++ " within range")
      else (.error, "Date " ++ date.text ++ " for " ++ property ++ " not in range")
    | none =>
      let shown := (raw.map Json.compact).getD ""
      (.error, "Invalid date: " ++ shown ++ " for: " ++ property)

def check (now : Instant) (document : Document) (settings : Json) :
    Except RuleError CheckResult := do
  let settings ← parseSettings decode settings
  let (status, message) := assess now settings (document.property? settings.property)
  return { status, check := name, file := document.file, message, detail := none }

/-- The rule with the instant around which the window lies. -/
def rule (now : Instant) : Rule :=
  ⟨name, fun _ document settings => .ofExcept (check now document settings)⟩

end DocLint.Checks.DateRange
