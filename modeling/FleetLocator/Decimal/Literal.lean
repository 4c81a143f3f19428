import FleetLocator.Decimal.Binary64

/-! # Reading numbers, exactly and with sums of two doubles -/
namespace FleetLocator.Decimal

inductive WholeError
  | empty
  | invalidDigit
  | tooLarge
  deriving DecidableEq, Repr

def WholeError.message : WholeError → String
  | .empty => "cannot parse integer from empty string"
  | .invalidDigit => "invalid digit found in string"
  | .tooLarge => "number too large to fit in target type"

def digit? (c : Char) : Option Nat :=
  if '0' ≤ c ∧ c ≤ '9' then some (c.toNat - 48) else none

/-- The digits are read from the left, and the first fault met is the one reported. -/
def readDigits (bound : Nat) : Nat → List Char → Except WholeError Nat
  | value, [] => .ok value
  | value, c :: rest =>
    match digit? c with
    | none => .error .invalidDigit
    | some d =>
      if value * 10 + d ≤ bound then readDigits bound (value * 10 + d) rest else .error .tooLarge

/-- A number from 0 to `bound`, perhaps with a plus sign. -/
def readWhole (bound : Nat) (text : String) : Except WholeError Nat :=
  match text.toList with
  | [] => .error .empty
  | ['+'] => .error .invalidDigit
  | '+' :: digits => readDigits bound 0 digits
  | digits => readDigits bound 0 digits

inductive LiteralError
  | empty
  | invalid
  deriving DecidableEq, Repr

def LiteralError.message : LiteralError → String
  | .empty => "cannot parse float from empty string"
  | .invalid => "invalid float literal"

/-- The number `significand · 10 ^ place`. -/
structure Literal where
  significand : Nat
  place : Int
  deriving DecidableEq, Repr

/-- The nearest double. A literal whose leading digit lies far outside the range of doubles is
settled by its place alone. -/
def Literal.toFloat (l : Literal) : Float :=
  let leading := l.place + (Nat.toDigits 10 l.significand).length
  if l.significand = 0 then 0
  else if leading > 400 then Float.ofBits 0x7ff0000000000000
  else if leading < -400 then 0
  else match l.place with
    | .ofNat up => Float.ofScientific l.significand false up
    | .negSucc down => Float.ofScientific l.significand true (down + 1)

def digitsValue (digits : List Char) : Nat :=
  digits.foldl (fun value c => value * 10 + (c.toNat - 48)) 0

def isDigit (c : Char) : Bool := (digit? c).isSome

/-- The exponent after an `e`: an optional sign and at least one digit, to the end. -/
def readExponent : List Char → Option Int
  | '+' :: rest => if !rest.isEmpty && rest.all isDigit then some (digitsValue rest) else none
  | '-' :: rest => if !rest.isEmpty && rest.all isDigit then some (-(digitsValue rest : Int)) else none
  | rest => if !rest.isEmpty && rest.all isDigit then some (digitsValue rest) else none

/-- Digits with perhaps a point among, before or after them, and perhaps an exponent. -/
def readUnsigned (text : List Char) : Option Literal :=
  let whole := text.takeWhile isDigit
  let afterWhole := text.dropWhile isDigit
  let pointed := match afterWhole with
    | '.' :: rest => (rest.takeWhile isDigit, rest.dropWhile isDigit)
    | rest => ([], rest)
  let fraction := pointed.1
  if whole.isEmpty && fraction.isEmpty then none
  else
    let significand := digitsValue (whole ++ fraction)
    match pointed.2 with
    | [] => some ⟨significand, -(fraction.length : Int)⟩
    | e :: rest =>
      if e = 'e' ∨ e = 'E' then
        (readExponent rest).map fun power => ⟨significand, power - fraction.length⟩
      else none

def magnitude? (text : List Char) : Option Float :=
  let lower := text.map Char.toLower
  if lower = "inf".toList ∨ lower = "infinity".toList then some (Float.ofBits 0x7ff0000000000000)
  else if lower = "nan".toList then some (Float.ofBits 0x7ff8000000000000)
  else (readUnsigned text).map Literal.toFloat

/-- A sign, then a number, an infinity or the value that is no number. -/
def readFloat (text : String) : Except LiteralError Float :=
  match text.toList with
  | [] => .error .empty
  | '-' :: rest => ((magnitude? rest).map Float.neg).elim (.error .invalid) .ok
  | '+' :: rest => (magnitude? rest).elim (.error .invalid) .ok
  | rest => (magnitude? rest).elim (.error .invalid) .ok

/-- The number `high + low`, where `low` is small against `high`. -/
structure Twofold where
  high : Float
  low : Float

/-- The leading half of the bits of a significand. -/
def leadingHalf (x : Float) : Float := Float.ofBits (x.toBits &&& 0xFFFFFFFFFC000000)

namespace Twofold

/-- The product, in which that of the two low parts is left out. -/
def mul (x y : Twofold) : Twofold :=
  let a := leadingHalf x.high
  let b := x.high - a
  let c := leadingHalf y.high
  let d := y.high - c
  let outer := a * c
  let inner := a * d + b * c
  let product := outer + inner
  let rest := x.high * y.low + x.low * y.high + (outer - product + inner + b * d)
  let high := product + rest
  ⟨high, product - high + rest⟩

def hundredPlaces : Twofold := ⟨1.0e100, -1.5902891109759918046e83⟩
def tenPlaces : Twofold := ⟨1.0e10, 0⟩
def onePlace : Twofold := ⟨10, 0⟩
def hundredPlacesDown : Twofold := ⟨1.0e-100, -1.99918998026028836196e-117⟩
def tenPlacesDown : Twofold := ⟨1.0e-10, -3.6432197315497741579e-27⟩
def onePlaceDown : Twofold := ⟨1.0e-1, -5.5511151231257827021e-18⟩

/-- Moves the point by some places, at first in steps of a hundred, then of ten, then of one. -/
def shift (x : Twofold) (hundred ten one : Twofold) (places : Nat) : Twofold :=
  let x := Nat.repeat (·.mul hundred) (places / 100) x
  let x := Nat.repeat (·.mul ten) (places % 100 / 10) x
  Nat.repeat (·.mul one) (places % 10) x

/-- The number times a power of ten. -/
def scale (x : Twofold) : Int → Twofold
  | .ofNat places => x.shift hundredPlaces tenPlaces onePlace places
  | .negSucc places => x.shift hundredPlacesDown tenPlacesDown onePlaceDown (places + 1)

/-- The greatest double below `2 ^ 64`. -/
def greatest : Float := 18446744073709549568

/-- An integer of 64 bits. What the nearest double leaves is the low part. -/
def ofUInt64 (n : UInt64) : Twofold :=
  let high := n.toFloat
  if high ≤ greatest then
    let whole := high.toUInt64
    ⟨high, if whole ≤ n then (n - whole).toFloat else (whole - n).toFloat.neg⟩
  else ⟨high, 0⟩

def toFloat (x : Twofold) : Float :=
  let sum := x.high + x.low
  if sum.isNaN then Float.ofBits 0x7FF0000000000000 else sum

end Twofold

/-- Digits are taken into a significand as long as it is below this. -/
def digitRoom : Nat := (UInt64.size - 10) / 10

/-- The significand of the leading digits, and how many are left over. -/
def takeDigits : Nat → List Char → Nat × Nat
  | n, [] => (n, 0)
  | n, c :: rest => if n < digitRoom then takeDigits (n * 10 + (c.toNat - 48)) rest else (n, rest.length + 1)

/-- Takes places from the power of ten into the significand. -/
def fillUp : Nat → Nat → Nat → Nat × Nat
  | 0, n, places => (n, places)
  | fuel + 1, n, places =>
    if 0 < places ∧ n < (UInt64.size - 2048) / 10 then fillUp fuel (n * 10) (places - 1) else (n, places)

/-- Takes zeros at the end of the significand into the power of ten. -/
def dropZeros : Nat → Nat → Nat → Nat × Nat
  | 0, n, places => (n, places)
  | fuel + 1, n, places =>
    if 0 < places ∧ n % 10 = 0 then dropZeros fuel (n / 10) (places - 1) else (n, places)

/-- Beyond this many places every number is infinite or zero. -/
def farthestPlace : Nat := 10000

/-- A double near to the literal. Of many digits only the leading ones count, and the last bit may
differ from that of the nearest double. -/
def Literal.nearby (l : Literal) : Float :=
  let (n, left) := takeDigits 0 (Nat.toDigits 10 l.significand)
  if n = 0 then 0
  else
    let place := l.place + left
    let places := min farthestPlace place.natAbs
    if 0 ≤ place then
      let (n, places) := fillUp 20 n places
      ((Twofold.ofUInt64 (.ofNat n)).scale places).toFloat
    else
      let (n, places) := dropZeros 20 n places
      ((Twofold.ofUInt64 (.ofNat n)).scale (-(places : Int))).toFloat

namespace Twofold

/-- Multiplies by a small power of ten while the number is above a limit, and adds up the places. -/
def lowerTo (limit : Float) (factor : Twofold) (step : Int) : Nat → Twofold × Int → Twofold × Int
  | 0, s => s
  | fuel + 1, (x, places) =>
    if limit < x.high then lowerTo limit factor step fuel (x.mul factor, places + step) else (x, places)

def raiseTo (limit : Float) (factor : Twofold) (step : Int) : Nat → Twofold × Int → Twofold × Int
  | 0, s => s
  | fuel + 1, (x, places) =>
    if x.high < limit then raiseTo limit factor step fuel (x.mul factor, places - step) else (x, places)

/-- The number as an integer of 18 or 19 digits and a power of ten. -/
def wholeDigits (x : Twofold) : Twofold × Int :=
  if 9.223372036854774784e18 < x.high then
    let s := lowerTo 9.223372036854774784e118 hundredPlacesDown 100 16 (x, 0)
    let s := lowerTo 9.223372036854774784e28 tenPlacesDown 10 16 s
    lowerTo 9.223372036854774784e18 onePlaceDown 1 16 s
  else
    let s := raiseTo 9.223372036854774784e-83 hundredPlaces 100 16 (x, 0)
    let s := raiseTo 9.223372036854774784e7 tenPlaces 10 16 s
    raiseTo 9.22337203685477478e17 onePlace 1 16 s

/-- The integer part of the sum. -/
def truncate (x : Twofold) : Nat :=
  (if x.low < 0 then x.high.toUInt64 - x.low.neg.toUInt64 else x.high.toUInt64 + x.low.toUInt64).toNat

end Twofold

/-- A number of digits of a positive double, rounded by the digit that follows. -/
def leadingDigits (count : Nat) (x : Float) : Scientific :=
  let (scaled, place) := Twofold.wholeDigits ⟨x, 0⟩
  let n := scaled.truncate
  let left := (Nat.toDigits 10 n).length - count
  if left = 0 then .ofNat n place
  else
    let next := n / Nat.pow 10 (left - 1)
    .ofNat (next / 10 + (if 5 ≤ next % 10 then 1 else 0)) (place + left)

end FleetLocator.Decimal
