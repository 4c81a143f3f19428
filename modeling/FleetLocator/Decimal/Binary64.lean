/-! # Doubles, their shortest digits and how these are written -/
namespace FleetLocator.Decimal

/-- A finite double is `±mantissa · 2 ^ exponent`. -/
structure Dyadic where
  negative : Bool
  mantissa : Nat
  exponent : Int
  deriving DecidableEq, Repr

/-- The bit of a mantissa that is not written, `2 ^ 52`. -/
def hiddenBit : Nat := 0x10000000000000

/-- The bit of the sign, `2 ^ 63`. -/
def signBit : Nat := 0x8000000000000000

namespace Dyadic

def ofBits (bits : Nat) : Option Dyadic :=
  let fraction : Nat := bits % hiddenBit
  let field : Nat := bits / hiddenBit % 2048
  let negative := decide (bits / signBit = 1)
  if field = 2047 then none
  else if field = 0 then some ⟨negative, fraction, -1074⟩
  else some ⟨negative, hiddenBit + fraction, (field : Int) - 1075⟩

def ofFloat (x : Float) : Option Dyadic := ofBits x.toBits.toNat

/-- The mantissa times the power of two, cut off at the point. -/
def magnitude (d : Dyadic) : Nat :=
  match d.exponent with
  | .ofNat up => d.mantissa * Nat.pow 2 up
  | .negSucc down => d.mantissa / Nat.pow 2 (down + 1)

/-- The number cut off toward zero. -/
def truncate (d : Dyadic) : Int :=
  if d.negative then -(d.magnitude : Int) else d.magnitude

end Dyadic

/-- The double nearest to a 64-bit integer. -/
def ofInt64 (n : Int64) : Float :=
  let magnitude := (UInt64.ofNat n.toInt.natAbs).toFloat
  if n < 0 then magnitude.neg else magnitude

def isNegative (x : Float) : Bool := decide (x.toBits.toNat / signBit = 1)

/-- The nearest 64-bit integer. -/
def saturate (n : Int) : Int64 :=
  Int64.ofInt (max Int64.minValue.toInt (min n Int64.maxValue.toInt))

/-- The number `d₁.d₂d₃… · 10 ^ exponent`. -/
structure Scientific where
  digits : List Char
  exponent : Int
  deriving DecidableEq, Repr

/-- The digits of `significand · 10 ^ place`, without zeros at the end. -/
def Scientific.ofNat (significand : Nat) (place : Int) : Scientific :=
  let all := Nat.toDigits 10 significand
  ⟨(all.reverse.dropWhile (· = '0')).reverse, place + all.length - 1⟩

/-- A number with the ends of the interval that rounds to it, as numerators over one denominator.
The ends belong to the interval when `closed`. -/
structure Rounding where
  low : Nat
  value : Nat
  high : Nat
  below : Nat
  closed : Bool

/-- Halfway to the neighbours: half a unit away, or a quarter below a power of two. -/
def Rounding.ofDyadic (d : Dyadic) : Rounding :=
  let m := d.mantissa
  let step := if m = hiddenBit ∧ d.exponent > -1074 then 1 else 2
  let up := (d.exponent - 2).toNat
  let down := (2 - d.exponent).toNat
  let unit := Nat.pow 2 up
  ⟨(4 * m - step) * unit, 4 * m * unit, (4 * m + 2) * unit, Nat.pow 2 down, m % 2 = 0⟩

/-- Both sides of a quotient after multiplying it by `10 ^ power`. -/
def scaleByTen (numerator denominator : Nat) : Int → Nat × Nat
  | .ofNat power => (numerator * Nat.pow 10 power, denominator)
  | .negSucc power => (numerator, denominator * Nat.pow 10 (power + 1))

/-- The `e` with `10 ^ e ≤ numerator / denominator < 10 ^ (e + 1)`. -/
def leadingPlace (numerator denominator : Nat) : Int :=
  let guess : Int := (Nat.toDigits 10 numerator).length - (Nat.toDigits 10 denominator).length
  let scaled := scaleByTen numerator denominator (-guess)
  if scaled.2 ≤ scaled.1 then guess else guess - 1

namespace Rounding

def admits (r : Rounding) (power : Int) (candidate : Nat) : Bool :=
  let low := scaleByTen r.low r.below power
  let high := scaleByTen r.high r.below power
  if r.closed then low.1 ≤ candidate * low.2 && candidate * high.2 ≤ high.1
  else low.1 < candidate * low.2 && candidate * high.2 < high.1

/-- The nearer of the two neighbours on the grid of step `10 ^ -power` that rounds back, if one does;
a tie goes to the even one. -/
def onGrid (r : Rounding) (power : Int) : Option Nat :=
  let scaled := scaleByTen r.value r.below power
  let floor := scaled.1 / scaled.2
  let twice := 2 * (scaled.1 % scaled.2)
  let upward := scaled.2 < twice || (twice == scaled.2 && floor % 2 == 1)
  match r.admits power floor, r.admits power (floor + 1) with
  | true, true => some (if upward then floor + 1 else floor)
  | true, false => some floor
  | false, true => some (floor + 1)
  | false, false => none

/-- The coarsest of the grids of 1 to 17 digits that has a point which rounds back. -/
def shortest (r : Rounding) : Scientific :=
  let place := leadingPlace r.value r.below
  let found := (List.range 17).findSome? fun n : Nat =>
    (r.onGrid (n - place)).map fun c => Scientific.ofNat c (place - n)
  found.getD ⟨['0'], 0⟩

end Rounding

/-- The shortest digits of a finite double's magnitude. -/
def Dyadic.shortest (d : Dyadic) : Scientific :=
  if d.mantissa = 0 then ⟨['0'], 0⟩ else (Rounding.ofDyadic d).shortest

/-- What a text format decides about numbers. -/
structure Style where
  /-- Exponents outside these bounds are written with an `e`; none means always positional. -/
  positional : Option (Int × Int)
  /-- What a whole number carries after its last digit. -/
  whole : String
  /-- What a single digit carries before an exponent. -/
  single : String
  /-- The sign of a positive exponent. -/
  plus : String
  /-- An exponent has at least this many digits. -/
  exponentDigits : Nat

def zeros (n : Nat) : List Char := List.replicate n '0'

namespace Style

def positionally (style : Style) (s : Scientific) : String :=
  match s.exponent with
  | .negSucc below => String.ofList ('0' :: '.' :: zeros below ++ s.digits)
  | .ofNat place =>
    if s.digits.length ≤ place + 1 then
      String.ofList (s.digits ++ zeros (place + 1 - s.digits.length)) ++ style.whole
    else String.ofList (s.digits.take (place + 1) ++ '.' :: s.digits.drop (place + 1))

def exponential (style : Style) (s : Scientific) : String :=
  let point := if s.digits.length ≤ 1 then style.single.toList else '.' :: s.digits.drop 1
  let sign := if s.exponent < 0 then "-" else style.plus
  let power := Nat.toDigits 10 s.exponent.natAbs
  String.ofList (s.digits.take 1 ++ point) ++ "e" ++ sign
    ++ String.ofList (zeros (style.exponentDigits - power.length) ++ power)

def magnitude (style : Style) (s : Scientific) : String :=
  match style.positional with
  | none => style.positionally s
  | some (least, most) =>
    if least ≤ s.exponent ∧ s.exponent ≤ most then style.positionally s else style.exponential s

def finite (style : Style) (d : Dyadic) : String :=
  (if d.negative then "-" else "") ++ style.magnitude d.shortest

/-- A double in the given style; the three values that are no numbers have the same names in all. -/
def text (style : Style) (x : Float) : String :=
  match Dyadic.ofFloat x with
  | some d => style.finite d
  | none => if x.isNaN then "NaN" else if isNegative x then "-inf" else "inf"

end Style

/-- Every digit in its place, and no point after a whole number. -/
def plain : Style := ⟨none, "", "", "", 1⟩

/-- The nearest integer to a quotient; a tie goes to the even one. -/
def roundDiv (numerator denominator : Nat) : Nat :=
  let floor := numerator / denominator
  let twice := 2 * (numerator % denominator)
  if denominator < twice ∨ (twice = denominator ∧ floor % 2 = 1) then floor + 1 else floor

/-- The exact value of the magnitude in units of `10 ^ -places`, rounded. -/
def Dyadic.inPlaces (places : Nat) (d : Dyadic) : Nat :=
  match d.exponent with
  | .ofNat up => d.mantissa * Nat.pow 2 up * Nat.pow 10 places
  | .negSucc down => roundDiv (d.mantissa * Nat.pow 10 places) (Nat.pow 2 (down + 1))

/-- At least `width` digits. -/
def padded (width n : Nat) : List Char :=
  let digits := Nat.toDigits 10 n
  zeros (width - digits.length) ++ digits

def Dyadic.fixed (places : Nat) (d : Dyadic) : String :=
  let units := d.inPlaces places
  let one := Nat.pow 10 places
  (if d.negative then "-" else "") ++ toString (units / one) ++ "."
    ++ String.ofList (padded places (units % one))

/-- A double with exactly `places` decimal places. -/
def fixed (places : Nat) (x : Float) : String :=
  match Dyadic.ofFloat x with
  | some d => d.fixed places
  | none => plain.text x

end FleetLocator.Decimal
