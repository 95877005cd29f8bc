/-!
# Shortest decimal of a floating-point number

A finite float is a dyadic number, and every real in an interval around it reads back as that
float.  The shortest decimal of the float is the multiple of the largest power of ten that lies in
the interval, the nearer one if there are two.  The search runs in exact natural-number
arithmetic.
-/
namespace DocLint.Decimal

/-- The number `mantissa · 2 ^ exponent`. -/
structure Dyadic where
  mantissa : Nat
  exponent : Int
deriving DecidableEq, Repr

/-- The number `digits · 10 ^ exponent`. -/
structure Scaled where
  digits : Nat
  exponent : Int
deriving DecidableEq, Repr

/-- The leading bit of a mantissa, which is not stored. -/
def implicitBit : Nat := 0x10000000000000

def isNegative (x : Float) : Bool :=
  x.toBits >>> 63 == 1

def magnitude (x : Float) : Dyadic :=
  let bits := x.toBits.toNat
  let field : Nat := bits / implicitBit % 0x800
  let fraction : Nat := bits % implicitBit
  if field = 0 then ⟨fraction, -1074⟩ else ⟨fraction + implicitBit, (field : Int) - 1075⟩

/-- The reals that round to a dyadic float, in units of a quarter of its last place: the lower
neighbour is half as far below a power of two. -/
structure Rounding where
  low : Nat
  value : Nat
  high : Nat
  unit : Int
  closed : Bool

def Dyadic.rounding (x : Dyadic) : Rounding :=
  let narrow := x.mantissa == implicitBit && x.exponent > -1074
  { low := 4 * x.mantissa - (if narrow then 1 else 2)
    value := 4 * x.mantissa
    high := 4 * x.mantissa + 2
    unit := x.exponent - 2
    closed := x.mantissa % 2 == 0 }

/-- The multiple of `10 ^ k` in the interval that is nearest to the value, if there is one. -/
def Rounding.multiple? (r : Rounding) (k : Int) : Option Nat :=
  let scale := Nat.pow 2 r.unit.toNat * Nat.pow 10 (-k).toNat
  let step := Nat.pow 10 k.toNat * Nat.pow 2 (-r.unit).toNat
  let inside (d : Nat) : Bool :=
    if r.closed then r.low * scale ≤ d * step && d * step ≤ r.high * scale
    else r.low * scale < d * step && d * step < r.high * scale
  let below := r.value * scale / step
  let above := below + 1
  match inside below, inside above with
  | false, false => none
  | true, false => some below
  | false, true => some above
  | true, true =>
    let short := r.value * scale - below * step
    let beyond := above * step - r.value * scale
    if short < beyond then some below
    else if beyond < short then some above
    else if below % 2 == 0 then some below else some above

/-- Try ever smaller powers of ten, with an explicit budget of steps. -/
def Rounding.search (r : Rounding) : Nat → Int → Scaled
  | 0, k => ⟨0, k⟩
  | budget + 1, k =>
    match r.multiple? k with
    | some d => ⟨d, k⟩
    | none => r.search budget (k - 1)

/-- The shortest decimal that reads back as a positive float.  The first power of ten tried exceeds
the value by less than three places and seventeen digits always suffice, hence the budget. -/
def Dyadic.shortest (x : Dyadic) : Scaled :=
  let bits : Int := x.mantissa.log2 + 1
  x.rounding.search 25 (((bits + x.exponent) * 30103).fdiv 100000 + 1)

end DocLint.Decimal
