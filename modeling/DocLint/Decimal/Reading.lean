/-!
# Reading decimal numbers

A decimal numeral is a list of digits and a power of ten.  `nearest` rounds it to the nearest
float.
-/
namespace DocLint.Decimal

def digitValue? (c : Char) : Option Nat :=
  if '0' ≤ c && c ≤ '9' then some (c.toNat - 48) else none

/-- The value of a list of decimal digits; other characters count as nothing. -/
def valueOfDigits (digits : List Char) : Nat :=
  digits.foldl (fun n c => match digitValue? c with | some d => n * 10 + d | none => n) 0

/-- The float nearest to `digits · 10 ^ exponent`.  Magnitudes far beyond the range of floats are
decided without computing the power. -/
def nearest (digits : Nat) (exponent : Int) : Float :=
  if digits = 0 then 0.0
  else
    let leading : Int := (toString digits).length + exponent
    if leading > 310 then 1.0 / 0.0
    else if leading < -330 then 0.0
    else if exponent < 0 then Float.ofScientific digits true (-exponent).toNat
    else Float.ofScientific digits false exponent.toNat

end DocLint.Decimal
