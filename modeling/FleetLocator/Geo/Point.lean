import FleetLocator.Decimal.Binary64

/-! # Points on the earth, the distances between them and their geohashes -/
namespace FleetLocator.Geo

structure Point where
  lat : Float
  lng : Float
  deriving DecidableEq, Repr

inductive PointError
  | notFinite
  | latitude (found : Float)
  | longitude (found : Float)
  deriving DecidableEq, Repr

def PointError.message : PointError → String
  | .notFinite => "coordinates must be finite numbers"
  | .latitude found => "latitude must be between -90 and 90, got " ++ Decimal.fixed 6 found
  | .longitude found => "longitude must be between -180 and 180, got " ++ Decimal.fixed 6 found

namespace Point

/-- What is wrong with the two degrees, if anything. -/
def error? (p : Point) : Option PointError :=
  if !p.lat.isFinite || !p.lng.isFinite then some .notFinite
  else if !(-90 ≤ p.lat && p.lat ≤ 90) then some (.latitude p.lat)
  else if !(-180 ≤ p.lng && p.lng ≤ 180) then some (.longitude p.lng)
  else none

/-- Both degrees are finite and in range. -/
def isValid (p : Point) : Bool := p.error?.isNone

def check (p : Point) : Except PointError Point :=
  match p.error? with
  | some e => .error e
  | none => .ok p

theorem check_eq_ok {p q : Point} : p.check = .ok q ↔ p.isValid ∧ q = p := by
  unfold check isValid
  cases p.error? <;> simp [eq_comm]

end Point

/-- The numbers and operations that a distance on the sphere is computed with. -/
class SphereArithmetic (α : Type) extends Add α, Sub α, Mul α, Div α where
  radiansPerDegree : α
  two : α
  earthRadius : α
  sin : α → α
  cos : α → α
  sqrt : α → α
  arcsin : α → α

section

variable {α : Type} [SphereArithmetic α]

open SphereArithmetic

/-- The haversine of the central angle between two points given in degrees. -/
def haversine (lat₁ lng₁ lat₂ lng₂ : α) : α :=
  let byLat := sin ((lat₂ - lat₁) * radiansPerDegree / two)
  let byLng := sin ((lng₂ - lng₁) * radiansPerDegree / two)
  byLat * byLat + cos (lat₁ * radiansPerDegree) * cos (lat₂ * radiansPerDegree) * byLng * byLng

def greatCircle (lat₁ lng₁ lat₂ lng₂ : α) : α :=
  earthRadius * (two * arcsin (sqrt (haversine lat₁ lng₁ lat₂ lng₂)))

end

def degree : Float := 3.141592653589793 / 180

instance : SphereArithmetic Float where
  radiansPerDegree := degree
  two := 2
  earthRadius := 6371
  sin := Float.sin
  cos := Float.cos
  sqrt := Float.sqrt
  arcsin := Float.asin

/-- The distance between two points in kilometres. -/
def Point.distance (p q : Point) : Float := greatCircle p.lat p.lng q.lat q.lng

structure Span (α : Type) where
  low : α
  high : α

section

variable {α : Type} [Add α] [Div α] [OfNat α 2] [LE α] [DecidableLE α]

def Span.middle (s : Span α) : α := (s.low + s.high) / 2

/-- Whether a value is in the upper half. -/
def Span.upper (s : Span α) (x : α) : Bool := decide (s.middle ≤ x)

/-- The half in which a value is. -/
def Span.narrow (s : Span α) (x : α) : Span α :=
  if s.upper x then ⟨s.middle, s.high⟩ else ⟨s.low, s.middle⟩

/-- The halves chosen in turn along two axes, beginning with the first. -/
def halves : Nat → Span α → α → Span α → α → List Bool
  | 0, _, _, _, _ => []
  | n + 1, s, x, t, y => s.upper x :: halves n t y (s.narrow x) x

end

def alphabet : List Char := "0123456789bcdefghjkmnpqrstuvwxyz".toList

theorem length_alphabet : alphabet.length = 32 := by decide

/-- The number that five binary digits stand for. -/
def fiveBits (a b c d e : Bool) : Fin 32 :=
  ⟨16 * a.toNat + 8 * b.toNat + 4 * c.toNat + 2 * d.toNat + e.toNat, by
    have := a.toNat_le; have := b.toNat_le; have := c.toNat_le; have := d.toNat_le; have := e.toNat_le
    omega⟩

/-- A letter for each five binary digits. -/
def letters : List Bool → List Char
  | a :: b :: c :: d :: e :: rest =>
    alphabet.get ((fiveBits a b c d e).cast length_alphabet.symm) :: letters rest
  | _ => []

def lngSpan : Span Float := ⟨-180, 180⟩

def latSpan : Span Float := ⟨-90, 90⟩

def Point.geohash (precision : Nat) (p : Point) : String :=
  String.ofList (letters (halves (5 * precision) lngSpan p.lng latSpan p.lat))

/-- Cells of about 40 metres. -/
def defaultPrecision : Nat := 8

end FleetLocator.Geo
