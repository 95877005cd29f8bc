import DocLint.Json.Decoding

/-!
# Severities

The five outcomes of a check, in ascending rank, and how an aggregate absorbs the outcomes of its
parts.  Absorbing is not taking the maximum: only warnings, errors and failures count, so an
aggregate never becomes `info` on account of a part.
-/
namespace DocLint

/-- The outcomes of a check, in ascending rank. -/
inductive Severity where
  | success
  | info
  | warn
  | error
  | failure
deriving DecidableEq, Repr, Inhabited

namespace Severity

def all : List Severity :=
  [success, info, warn, error, failure]

/-- The place among the severities, zero for the lowest. -/
def rank : Severity → Nat
  | success => 0
  | info => 1
  | warn => 2
  | error => 3
  | failure => 4

def name : Severity → String
  | success => "Success"
  | info => "Info"
  | warn => "Warn"
  | error => "Error"
  | failure => "Failure"

/-- Severities that fail a run. -/
def isBlocking (s : Severity) : Bool :=
  s == error || s == failure

/-- Severities that an aggregate takes over from a part. -/
def isAlarming (s : Severity) : Bool :=
  s == warn || s.isBlocking

/-- The status of an aggregate once it holds one part more. -/
def absorb (aggregate part : Severity) : Severity :=
  if part.isAlarming && aggregate.rank < part.rank then part else aggregate

/-- The status of an aggregate that starts as a success and absorbs its parts in order. -/
def fold (parts : List Severity) : Severity :=
  parts.foldl absorb success

/-- The status of an aggregate after each part, from a given start. -/
def foldSteps (start : Severity) : List Severity → List Severity
  | [] => []
  | part :: parts => start.absorb part :: foldSteps (start.absorb part) parts

def choices : List (String × Severity) :=
  [("Success", success), ("success", success), ("Info", info), ("info", info), ("Warn", warn),
    ("warn", warn), ("warning", warn), ("Error", error), ("error", error), ("Failure", failure),
    ("failure", failure)]

def decode : Decoder Severity :=
  Json.decodeChoice choices

def encode (s : Severity) : Json :=
  .string s.name

theorem rank_injective {s t : Severity} (h : s.rank = t.rank) : s = t := by
  cases s <;> cases t <;> first | rfl | exact absurd h (by decide)

theorem rank_le_rank_absorb (aggregate part : Severity) :
    aggregate.rank ≤ (aggregate.absorb part).rank := by
  cases aggregate <;> cases part <;> decide

theorem absorb_right_comm (aggregate s t : Severity) :
    (aggregate.absorb s).absorb t = (aggregate.absorb t).absorb s := by
  cases aggregate <;> cases s <;> cases t <;> rfl

end Severity
end DocLint
