import DocLint.Decimal.Shortest

/-!
# Layouts of decimal numbers

How a float is written once its shortest digits are known: which magnitudes are written with an
exponent, and how whole numbers and exponents look.
-/
namespace DocLint.Decimal

/-- The choices a format makes when it writes a float. -/
structure Layout where
  /-- The least and greatest decimal exponents written positionally; `none` for all of them. -/
  positional : Option (Int × Int)
  /-- What follows a whole number. -/
  wholeSuffix : String
  /-- What stands before an exponent that is not negative. -/
  exponentMark : String

/-- JSON text: positional from `1e-5` up to below `1e16`, whole numbers end in `.0`. -/
def Layout.json : Layout := ⟨some (-5, 15), ".0", "e+"⟩

/-- YAML text: as JSON, without a plus sign in exponents. -/
def Layout.yaml : Layout := ⟨some (-5, 15), ".0", "e"⟩

/-- Plain text: always positional, whole numbers without a point. -/
def Layout.plain : Layout := ⟨none, "", "e"⟩

/-- Digits with a decimal point, without any exponent. -/
def Layout.writePositional (l : Layout) (digits : List Char) (exponent : Int) : String :=
  let point := digits.length + exponent
  if 0 ≤ exponent then
    String.ofList (digits ++ List.replicate exponent.toNat '0') ++ l.wholeSuffix
  else if 0 < point then
    String.ofList (digits.take point.toNat ++ '.' :: digits.drop point.toNat)
  else
    String.ofList ('0' :: '.' :: List.replicate (-point).toNat '0' ++ digits)

/-- One digit before the point, and the exponent after a mark. -/
def Layout.writeScientific (l : Layout) (digits : List Char) (exponent : Int) : String :=
  let mantissa :=
    match digits with
    | [] => []
    | [d] => [d]
    | d :: rest => d :: '.' :: rest
  let mark := if exponent < 0 then "e-" else l.exponentMark
  String.ofList mantissa ++ mark ++ toString exponent.natAbs

def Layout.writeScaled (l : Layout) (x : Scaled) : String :=
  let digits := (toString x.digits).toList
  let leading := digits.length + x.exponent - 1
  match l.positional with
  | none => l.writePositional digits x.exponent
  | some (least, greatest) =>
    if least ≤ leading && leading ≤ greatest then l.writePositional digits x.exponent
    else l.writeScientific digits leading

def Layout.write (l : Layout) (x : Float) : String :=
  let sign := if isNegative x then "-" else ""
  let m := magnitude x
  if m.mantissa = 0 then sign ++ "0" ++ l.wholeSuffix
  else sign ++ l.writeScaled m.shortest

end DocLint.Decimal
