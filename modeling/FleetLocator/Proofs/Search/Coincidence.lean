import FleetLocator.Proofs.Geo.Symmetry
import FleetLocator.Proofs.Search.Selection

/-!
# Drivers at one place

A driver where the search begins is within any radius, and between two drivers at one place only their identifiers
decide. Both rest on distances that are symmetric and vanish exactly, however sums and products are rounded.
-/
namespace FleetLocator.Search

open Driver (Record)
open Geo (Point SphereArithmetic SignRules ZeroRules Trigonometry greatCircle)

namespace Query

variable {q : Query} {candidates : List Record} {r s : Record} {p p' : Point}

/-- Two drivers are found together and at one distance, so that their identifiers decide which comes first. -/
structure Tie (q : Query) (r s : Record) : Prop where
  together : (q.match? r).map Match.distance = (q.match? s).map Match.distance
  decided : ∀ m n, q.match? r = some m → q.match? s = some n → m.ordering n = compare r.id s.id

theorem mem_ranking_of_origin (h : Trigonometry.platform.Conforms) (hr : r ∈ candidates) (hp : r.location = some p)
    (hvalid : p.isValid = true) (hsame : p.SameDegrees q.origin) (hradius : 0 < q.radius) :
    ⟨r, 0⟩ ∈ q.ranking candidates := by
  have hzero : q.origin.distance p = 0 := by
    rw [← Trigonometry.distance_platform]
    exact Trigonometry.distance_of_sameDegrees h hvalid hsame
  have hle : 0 ≤ q.radius := by
    obtain ⟨hz, hnumber⟩ := Decimal.isNaN_of_lt hradius
    rw [Decimal.le_iff_place hz hnumber]
    exact ((Decimal.lt_iff_place hz hnumber).mp hradius).le
  exact mem_ranking_iff.mpr ⟨hr, p, hp, hvalid, hzero.symm, hle⟩

theorem map_distance_match? (hp : r.location = some p) :
    (q.match? r).map Match.distance =
      if p.isValid = true ∧ q.origin.distance p ≤ q.radius then some (q.origin.distance p) else none := by
  simp only [match?, hp, Option.bind_eq_bind, Option.bind_some]
  by_cases hvalid : p.isValid = true <;> by_cases hle : q.origin.distance p ≤ q.radius <;> simp [hvalid, hle]

theorem tie_of_distance (hp : r.location = some p) (hp' : s.location = some p') (hvalid : p.isValid = p'.isValid)
    (hdistance : q.origin.distance p = q.origin.distance p') : q.Tie r s where
  together := by rw [map_distance_match? hp, map_distance_match? hp', hvalid, hdistance]
  decided m n hm hn := by
    obtain ⟨rfl, o, ho, -, hm, -⟩ := match?_eq_some_iff.mp hm
    obtain ⟨rfl, o', ho', -, hn, hle⟩ := match?_eq_some_iff.mp hn
    obtain rfl : p = o := Option.some.inj (hp.symm.trans ho)
    obtain rfl : p' = o' := Option.some.inj (hp'.symm.trans ho')
    have hsame : m.distance = n.distance := by rw [hm, hn, hdistance]
    have hnumber := (Decimal.isNaN_of_le hle).1
    rw [Match.ordering, hsame, compare?_eq_compare hnumber hnumber, compare_eq_iff_eq.mpr rfl]
    rfl

end Query

/-- The product of two numbers of hundredths is cut off after the hundredths. -/
def productOfHundredths (x y : ℤ) : ℤ := (x * y).tdiv 100

theorem productOfHundredths_comm (x y : ℤ) : productOfHundredths x y = productOfHundredths y x := by
  rw [productOfHundredths, productOfHundredths, mul_comm]

theorem productOfHundredths_neg (x y : ℤ) : productOfHundredths x (-y) = -productOfHundredths x y := by
  rw [productOfHundredths, productOfHundredths, mul_neg, Int.neg_tdiv]

theorem neg_productOfHundredths (x y : ℤ) : productOfHundredths (-x) y = -productOfHundredths x y := by
  rw [productOfHundredths_comm, productOfHundredths_neg, productOfHundredths_comm]

/-- The quotient of two numbers of hundredths is cut off after the hundredths. -/
def quotientOfHundredths (x y : ℤ) : ℤ := (100 * x).tdiv y

/-- Whole numbers of hundredths, a carrier in which products are rounded and cannot be regrouped. -/
@[reducible] def hundredths : SphereArithmetic ℤ where
  mul := productOfHundredths
  div := quotientOfHundredths
  radiansPerDegree := 2
  two := 200
  earthRadius := 637100
  sin x := x
  cos _ := 100
  sqrt x := (100 * x).toNat.sqrt
  arcsin x := x

theorem signRules_hundredths : @SignRules ℤ hundredths _ :=
  letI := hundredths
  { sub_swap := fun x y => .inr (neg_sub y x).symm
    mul_comm := productOfHundredths_comm
    neg_mul := neg_productOfHundredths
    neg_mul_neg := fun x y => by
      change productOfHundredths (-x) (-y) = productOfHundredths x y
      rw [neg_productOfHundredths, productOfHundredths_neg, neg_neg]
    half_neg := fun x => by
      change quotientOfHundredths (-x) 200 = -quotientOfHundredths x 200
      rw [quotientOfHundredths, mul_neg, Int.neg_tdiv, quotientOfHundredths]
    sin_neg := fun _ => rfl }

theorem zeroRules_hundredths : @ZeroRules ℤ hundredths _ :=
  letI := hundredths
  { sub_self := sub_self
    zero_add_zero := Geo.zero_add_zero_of_sub_eq (fun x y => (neg_sub y x).symm) sub_self sub_eq_add_neg
    mul_zero := fun x => by
      change (x * 0).tdiv 100 = 0
      rw [mul_zero, Int.zero_tdiv]
    half_zero := rfl
    sin_zero := rfl
    sqrt_zero := rfl
    arcsin_zero := rfl }

/-- Straight lines through the values at zero and at a quarter turn. -/
def quarterTurn : Trigonometry where
  sin x := x * 0.6366197723675814
  cos _ := 1
  arcsin x := x * 1.5707963267948966

theorem conforms_quarterTurn : quarterTurn.Conforms where
  sin_neg x := Decimal.opposite_mul x 0.6366197723675814
  sin_zero := by decide +kernel
  cos_between _ _ := by
    change -1 ≤ (1 : Float) ∧ (1 : Float) ≤ 1
    decide
  arcsin_zero := by decide +kernel

/-- Distances are symmetric to the last bit and vanish from a point to itself, in every carrier with the rules of
signs and of zero and on doubles, so that a driver where the search begins is within any radius and two drivers at
one place are as near. -/
theorem distances_symmetric {α : Type} [SphereArithmetic α] [Neg α] [Zero α] [SignRules α] [ZeroRules α]
    (t : Trigonometry) (h : t.Conforms) :
    (∀ lat₁ lng₁ lat₂ lng₂ : α, greatCircle lat₁ lng₁ lat₂ lng₂ = greatCircle lat₂ lng₂ lat₁ lng₁) ∧
    (∀ lat lng : α, greatCircle lat lng lat lng = 0) ∧
    (∀ p p' : Point, t.distance p p' = t.distance p' p) ∧
    (∀ p : Point, p.isValid = true → t.distance p p = 0) ∧
    Trigonometry.platform.distance = Point.distance ∧
    (Trigonometry.platform.Conforms → ∀ (q : Query) (candidates : List Record) (r : Record) (p : Point),
      r ∈ candidates → r.location = some p → p.isValid = true → p.SameDegrees q.origin → 0 < q.radius →
      ⟨r, 0⟩ ∈ q.ranking candidates) ∧
    ∀ (q : Query) (r s : Record) (p p' : Point), r.location = some p → s.location = some p' →
      p = p' ∨ p.SameDegrees p' ∧ Trigonometry.platform.Conforms ∧ Float.cos (-0) = Float.cos 0 → q.Tie r s := by
  refine ⟨Geo.greatCircle_comm, Geo.greatCircle_self, Trigonometry.distance_comm h, ?_,
    Trigonometry.distance_platform, ?_, ?_⟩
  · intro p hp
    exact Trigonometry.distance_of_sameDegrees h hp (Geo.Point.sameDegrees_self hp)
  · intro hplatform q candidates r p hr hp hvalid hsame hradius
    exact Query.mem_ranking_of_origin hplatform hr hp hvalid hsame hradius
  · intro q r s p p' hp hp' hplace
    rcases hplace with rfl | ⟨hsame, hplatform, hcos⟩
    · exact Query.tie_of_distance hp hp' rfl rfl
    · refine Query.tie_of_distance hp hp' hsame.isValid_eq ?_
      rw [← Trigonometry.distance_platform]
      exact Trigonometry.distance_congr hplatform q.origin hsame (.inr hcos)

/-- The antipodes on the equator, half of the earth apart, two points in hundredths of degrees, and two drivers at
one place. -/
theorem distances_symmetric_of_antipodes :
    quarterTurn.Conforms ∧
      quarterTurn.distance ⟨0, 0⟩ ⟨0, 180⟩ = quarterTurn.distance ⟨0, 180⟩ ⟨0, 0⟩ ∧
      quarterTurn.distance ⟨0, 0⟩ ⟨0, 180⟩ = 6371 * 3.141592653589793 ∧
      quarterTurn.distance ⟨0, 180⟩ ⟨0, 180⟩ = 0 ∧
      @greatCircle ℤ hundredths 1050 (-2025) 4000 6075 = @greatCircle ℤ hundredths 4000 6075 1050 (-2025) ∧
      @greatCircle ℤ hundredths 1050 (-2025) 4000 6075 = 1083070 ∧
      @greatCircle ℤ hundredths 4000 6075 4000 6075 = 0 ∧
      Query.Tie ⟨⟨0, 0⟩, 5, 3⟩ { id := "a", location := some ⟨0, 180⟩ } { id := "b", location := some ⟨0, 180⟩ } := by
  obtain ⟨hcomm, hself, hdouble, hzero, -, -, htie⟩ :=
    @distances_symmetric ℤ hundredths _ _ signRules_hundredths zeroRules_hundredths quarterTurn conforms_quarterTurn
  refine ⟨conforms_quarterTurn, hdouble _ _, ?_, hzero _ (by decide), hcomm _ _ _ _, ?_, hself _ _,
    htie _ _ _ _ _ rfl rfl (.inl rfl)⟩
  · decide +kernel
  · decide +kernel

end FleetLocator.Search
