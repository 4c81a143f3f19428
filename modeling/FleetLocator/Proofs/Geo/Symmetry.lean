import FleetLocator.Proofs.Decimal.Exact
import FleetLocator.Proofs.Decimal.Opposite
import FleetLocator.Proofs.Geo.Point

/-!
# The symmetry of distances

The distance between two points is the same from either of them, to the last bit, and a point is at no distance
from itself. No sum or product is regrouped for this: a difference that is taken the other way round is opposite, the
scalings and the sine keep it so, and two equal factors lose their sign. Where the points are the same, all that is
used of sums is that zero and zero make zero.
-/
namespace FleetLocator.Geo

open SphereArithmetic
open Decimal (UpToSign)

/-- What is odd, and what a sign does to products. -/
class SignRules (α : Type) [SphereArithmetic α] [Neg α] : Prop where
  sub_swap (x y : α) : UpToSign (x - y) (y - x)
  mul_comm (x y : α) : x * y = y * x
  neg_mul (x y : α) : -x * y = -(x * y)
  neg_mul_neg (x y : α) : -x * -y = x * y
  half_neg (x : α) : -x / two = -(x / two)
  sin_neg (x : α) : sin (-x) = -sin x

/-- What comes to zero: equal numbers that are subtracted, the sum of two zeros, products with zero, half of zero, and
what sine, root and arc sine make of it. -/
class ZeroRules (α : Type) [SphereArithmetic α] [Zero α] : Prop where
  sub_self (x : α) : x - x = 0
  zero_add_zero : (0 : α) + 0 = 0
  mul_zero (x : α) : x * 0 = 0
  half_zero : (0 : α) / two = 0
  sin_zero : sin (0 : α) = 0
  sqrt_zero : sqrt (0 : α) = 0
  arcsin_zero : arcsin (0 : α) = 0

/-- The sum of two zeros is zero wherever to subtract is to add the opposite. -/
theorem zero_add_zero_of_sub_eq {α : Type} [SphereArithmetic α] [Neg α] [Zero α]
    (hswap : ∀ x y : α, x - y = -(y - x)) (hself : ∀ x : α, x - x = 0) (hsub : ∀ x y : α, x - y = x + -y) :
    (0 : α) + 0 = 0 := by
  have hneg : -(0 : α) = 0 := by
    calc -(0 : α) = -(0 - 0) := by rw [hself]
      _ = 0 - 0 := (hswap 0 0).symm
      _ = 0 := hself 0
  calc (0 : α) + 0 = 0 + -0 := by rw [hneg]
    _ = 0 - 0 := (hsub 0 0).symm
    _ = 0 := hself 0

section

variable {α : Type} [SphereArithmetic α] {c lat lng lat' lng' lat₁ lng₁ lat₂ lng₂ : α}

/-- The sine of half an angle given in degrees. -/
def halfSine (degrees : α) : α := sin (degrees * radiansPerDegree / two)

/-- A haversine, from the product of the cosines and from the differences of the degrees. -/
def spread (c lat lng : α) : α := halfSine lat * halfSine lat + c * halfSine lng * halfSine lng

theorem haversine_eq_spread (lat₁ lng₁ lat₂ lng₂ : α) :
    haversine lat₁ lng₁ lat₂ lng₂ =
      spread (cos (lat₁ * radiansPerDegree) * cos (lat₂ * radiansPerDegree)) (lat₂ - lat₁) (lng₂ - lng₁) :=
  rfl

variable [Neg α] [SignRules α]

theorem halfSine_neg (lat : α) : halfSine (-lat) = -halfSine lat := by
  rw [halfSine, SignRules.neg_mul, SignRules.half_neg, SignRules.sin_neg, halfSine]

theorem square_congr (h : UpToSign lat lat') : halfSine lat * halfSine lat = halfSine lat' * halfSine lat' := by
  rcases h with rfl | rfl
  · rfl
  · rw [halfSine_neg, SignRules.neg_mul_neg]

theorem mul_square_congr (c : α) (h : UpToSign lng lng') :
    c * halfSine lng * halfSine lng = c * halfSine lng' * halfSine lng' := by
  rcases h with rfl | rfl
  · rfl
  · -- the product is nested to the left: the first sign is taken out of it before the second one meets it
    rw [halfSine_neg, SignRules.mul_comm c, SignRules.neg_mul, SignRules.neg_mul_neg, SignRules.mul_comm c]

/-- Only the sizes of the differences count. -/
theorem spread_congr (c : α) (hlat : UpToSign lat lat') (hlng : UpToSign lng lng') :
    spread c lat lng = spread c lat' lng' := by
  rw [spread, spread, square_congr hlat, mul_square_congr c hlng]

theorem greatCircle_comm (lat₁ lng₁ lat₂ lng₂ : α) :
    greatCircle lat₁ lng₁ lat₂ lng₂ = greatCircle lat₂ lng₂ lat₁ lng₁ := by
  have hspread : haversine lat₁ lng₁ lat₂ lng₂ = haversine lat₂ lng₂ lat₁ lng₁ := by
    rw [haversine_eq_spread, haversine_eq_spread, SignRules.mul_comm (cos (lat₁ * radiansPerDegree))]
    exact spread_congr _ (SignRules.sub_swap _ _) (SignRules.sub_swap _ _)
  rw [greatCircle, greatCircle, hspread]

theorem greatCircle_self [Zero α] [ZeroRules α] (lat lng : α) : greatCircle lat lng lat lng = 0 := by
  have hzero : (0 : α) * radiansPerDegree = 0 := by rw [SignRules.mul_comm, ZeroRules.mul_zero]
  simp only [greatCircle, haversine, ZeroRules.sub_self, hzero, ZeroRules.half_zero, ZeroRules.sin_zero,
    ZeroRules.mul_zero, ZeroRules.zero_add_zero, ZeroRules.sqrt_zero, ZeroRules.arcsin_zero]

end

theorem Point.SameDegrees.isValid_eq {p q : Point} (h : p.SameDegrees q) : p.isValid = q.isValid := by
  have hzeros : p.unsignZeros = q.unsignZeros := by
    rw [unsignZeros, unsignZeros, Decimal.unsignZero_of_beq h.1, Decimal.unsignZero_of_beq h.2]
  rw [← isValid_unsignZeros p, hzeros, isValid_unsignZeros]

theorem Point.sameDegrees_self {p : Point} (h : p.isValid = true) : p.SameDegrees p := by
  obtain ⟨⟨hlat, hlng⟩, -⟩ := isValid_iff.mp h
  have hlat := Decimal.isNaN_of_isFinite hlat
  have hlng := Decimal.isNaN_of_isFinite hlng
  exact ⟨(Decimal.beq_iff_place hlat hlat).mpr rfl, (Decimal.beq_iff_place hlng hlng).mpr rfl⟩

/-- Functions of angles that a distance between points may be computed with. -/
structure Trigonometry where
  sin : Float → Float
  cos : Float → Float
  arcsin : Float → Float

namespace Trigonometry

/-- The functions that distances are computed with. -/
def platform : Trigonometry := ⟨Float.sin, Float.cos, Float.asin⟩

/-- What every platform says of its functions of angles. -/
structure Conforms (t : Trigonometry) : Prop where
  sin_neg (x : Float) : t.sin (-x) = -t.sin x
  sin_zero : t.sin 0 = 0
  cos_between (x : Float) (h : x.isFinite = true) : -1 ≤ t.cos x ∧ t.cos x ≤ 1
  arcsin_zero : t.arcsin 0 = 0

variable {t : Trigonometry} {p q : Point}

@[reducible] def arithmetic (t : Trigonometry) : SphereArithmetic Float :=
  { (inferInstance : SphereArithmetic Float) with sin := t.sin, cos := t.cos, arcsin := t.arcsin }

def distance (t : Trigonometry) (p q : Point) : Float := @greatCircle Float t.arithmetic p.lat p.lng q.lat q.lng

theorem distance_platform : platform.distance = Point.distance := rfl

theorem signRules (h : t.Conforms) : @SignRules Float t.arithmetic _ :=
  letI := t.arithmetic
  { sub_swap := fun x y => Decimal.difference_swap y x
    mul_comm := Decimal.product_comm
    neg_mul := Decimal.opposite_mul
    neg_mul_neg := Decimal.opposite_mul_opposite
    half_neg := fun x => Decimal.opposite_div x 2
    sin_neg := h.sin_neg }

theorem distance_comm (h : t.Conforms) (p q : Point) : t.distance p q = t.distance q p :=
  @greatCircle_comm Float t.arithmetic _ (signRules h) p.lat p.lng q.lat q.lng

theorem isFinite_radians {x : Float} (hx : x.isFinite = true) : (x * degree).isFinite = true :=
  Decimal.isFinite_mul_of_le_one hx (by decide +kernel) (by decide +kernel)

theorem isFinite_cosines (h : t.Conforms) {x y : Float} (hx : x.isFinite = true) (hy : y.isFinite = true) :
    (t.cos (x * degree) * t.cos (y * degree)).isFinite = true := by
  obtain ⟨hlow, hhigh⟩ := h.cos_between _ (isFinite_radians hx)
  obtain ⟨hlow', hhigh'⟩ := h.cos_between _ (isFinite_radians hy)
  exact Decimal.isFinite_mul_of_le_one (Decimal.abs_toRat_le_one hlow hhigh).1 hlow' hhigh'

/-- Where the degrees do not differ, the sign of the cosines is lost in a sum with a zero. -/
theorem spread_zero (hsin : t.sin 0 = 0) {c : Float} (hc : c.isFinite = true) :
    @spread Float t.arithmetic c 0 0 = 0 := by
  have hangle : (0 : Float) * degree / 2 = 0 := by decide
  change t.sin (0 * degree / 2) * t.sin (0 * degree / 2) +
    c * t.sin (0 * degree / 2) * t.sin (0 * degree / 2) = 0
  rw [hangle, hsin]
  rcases Decimal.mul_zero_of_isFinite hc with hzero | hzero
  · rw [hzero]
    rfl
  · rw [hzero]
    rfl

theorem distance_of_haversine (harcsin : t.arcsin 0 = 0)
    (h : @haversine Float t.arithmetic p.lat p.lng q.lat q.lng = 0) : t.distance p q = 0 := by
  have hroot : Float.sqrt 0 = 0 := by decide
  change 6371 * (2 * t.arcsin (Float.sqrt (@haversine Float t.arithmetic p.lat p.lng q.lat q.lng))) = (0 : Float)
  rw [h, hroot, harcsin]
  decide

/-- A valid point is at no distance from a point with the same degrees. -/
theorem distance_of_sameDegrees (h : t.Conforms) (hp : p.isValid = true) (hsame : p.SameDegrees q) :
    t.distance q p = 0 := by
  let := t.arithmetic
  have := signRules h
  obtain ⟨hplat, hplng⟩ := (Point.isValid_iff.mp hp).1
  have hqlat := (Point.isValid_iff.mp (hsame.isValid_eq ▸ hp)).1.1
  have hlat : UpToSign (p.lat - q.lat) 0 := Decimal.difference_of_beq hplat hsame.1
  have hlng : UpToSign (p.lng - q.lng) 0 := Decimal.difference_of_beq hplng hsame.2
  apply distance_of_haversine h.arcsin_zero
  rw [haversine_eq_spread, spread_congr _ hlat hlng]
  exact spread_zero h.sin_zero (isFinite_cosines h hqlat hplat)

theorem cos_radians_of_zero (hcos : t.cos (-0) = t.cos 0) {x : Float} (hx : UpToSign x 0) :
    t.cos (x * degree) = t.cos 0 := by
  rcases hx with rfl | rfl
  · exact congrArg t.cos (by decide)
  · rw [← hcos]
    exact congrArg t.cos (by decide)

theorem cos_radians_congr {x y : Float} (h : (x == y) = true) (hcos : x = y ∨ t.cos (-0) = t.cos 0) :
    t.cos (x * degree) = t.cos (y * degree) := by
  rcases hcos with rfl | hcos
  · rfl
  · rcases Decimal.eq_or_zero_of_beq h with rfl | ⟨r, s, hx, hy⟩
    · rfl
    · rw [cos_radians_of_zero hcos (Decimal.upToSign_of_unpack hx),
        cos_radians_of_zero hcos (Decimal.upToSign_of_unpack hy)]

/-- Points with the same degrees are at the same distance, if a cosine of zero is taken whatever its sign. -/
theorem distance_congr (h : t.Conforms) (o : Point) (hsame : p.SameDegrees q)
    (hcos : p = q ∨ t.cos (-0) = t.cos 0) : t.distance o p = t.distance o q := by
  let := t.arithmetic
  have := signRules h
  have hlat : UpToSign (p.lat - o.lat) (q.lat - o.lat) := Decimal.difference_congr o.lat hsame.1
  have hlng : UpToSign (p.lng - o.lng) (q.lng - o.lng) := Decimal.difference_congr o.lng hsame.2
  have hcosine : t.cos (p.lat * degree) = t.cos (q.lat * degree) :=
    cos_radians_congr hsame.1 (hcos.imp_left (congrArg Point.lat))
  have hspread : haversine o.lat o.lng p.lat p.lng = haversine o.lat o.lng q.lat q.lng := by
    rw [haversine_eq_spread, haversine_eq_spread, spread_congr _ hlat hlng]
    exact congrArg (fun c => spread (t.cos (o.lat * degree) * c) _ _) hcosine
  rw [distance, distance, greatCircle, greatCircle, hspread]

end Trigonometry

/-- A point is at no distance from itself, if the angles that are zero are treated as they should be. -/
theorem Point.distance_origin (hsin : Float.sin 0 = 0) (hcos : Float.cos 0 = 1) (harcsin : Float.asin 0 = 0) :
    Point.distance ⟨0, 0⟩ ⟨0, 0⟩ = 0 := by
  have hradians : (0 : Float) * degree = 0 := by decide
  have hcosines : (Float.cos (0 * degree) * Float.cos (0 * degree)).isFinite = true := by
    rw [hradians, hcos]
    decide
  have hdifference : (0 : Float) - 0 = 0 := by decide
  have hspread := @Trigonometry.spread_zero .platform hsin _ hcosines
  rw [← Trigonometry.distance_platform]
  apply Trigonometry.distance_of_haversine harcsin
  rw [haversine_eq_spread, hdifference]
  exact hspread

end FleetLocator.Geo
