import FleetLocator.Geo.Point
import FleetLocator.Proofs.Decimal.Order

/-!
# Valid points, and points whose zeros have no sign

What is computed of a point, whether it is valid, its distances and its geohash, does not depend on the signs of its
zeros.
-/
namespace FleetLocator.Geo.Point

open Decimal (unsignZero)

theorem isValid_iff {p : Point} :
    p.isValid = true ↔ (p.lat.isFinite = true ∧ p.lng.isFinite = true) ∧
      (-90 ≤ p.lat ∧ p.lat ≤ 90) ∧ (-180 ≤ p.lng ∧ p.lng ≤ 180) := by
  unfold isValid error?
  by_cases hfinite : p.lat.isFinite = true ∧ p.lng.isFinite = true
  · by_cases hlat : -90 ≤ p.lat ∧ p.lat ≤ 90
    · by_cases hlng : -180 ≤ p.lng ∧ p.lng ≤ 180 <;> simp [hfinite, hlat, hlng]
    · simp [hfinite, hlat, not_and_or.mp hlat]
  · rw [← Bool.and_eq_true, Bool.not_eq_true, Bool.and_eq_false_iff] at hfinite
    rcases hfinite with h | h <;> simp [h]

theorem error?_eq_none_iff {p : Point} : p.error? = none ↔ p.isValid = true := by
  rw [isValid, Option.isNone_iff_eq_none]

def unsignZeros (p : Point) : Point := ⟨unsignZero p.lat, unsignZero p.lng⟩

@[simp] theorem isValid_unsignZeros (p : Point) : p.unsignZeros.isValid = p.isValid := by
  rw [Bool.eq_iff_iff, isValid_iff, isValid_iff]
  simp [unsignZeros]

/-- The degrees of the two points compare as equal. -/
def SameDegrees (p q : Point) : Prop := (p.lat == q.lat) = true ∧ (p.lng == q.lng) = true

theorem sameDegrees_unsignZeros {p : Point} (h : p.isValid = true) : p.unsignZeros.SameDegrees p := by
  obtain ⟨⟨hlat, hlng⟩, -⟩ := isValid_iff.mp h
  exact ⟨Decimal.unsignZero_beq (Decimal.isNaN_of_isFinite hlat),
    Decimal.unsignZero_beq (Decimal.isNaN_of_isFinite hlng)⟩

/-- The platform's arc sine of what is not below zero is not below zero. -/
def ArcsineKeepsSign : Prop := ∀ x : Float, ¬x < 0 → ¬x.asin < 0

theorem not_distance_lt_zero (h : ArcsineKeepsSign) (p q : Point) : ¬p.distance q < 0 := by
  have hangle := h _ (Decimal.not_sqrt_lt_zero (haversine p.lat p.lng q.lat q.lng))
  exact Decimal.not_mul_lt_zero (by decide) (Decimal.not_mul_lt_zero (by decide) hangle)

/-- A distance within a finite radius is finite. -/
theorem isFinite_distance (h : ArcsineKeepsSign) {p q : Point} {radius : Float} (hle : p.distance q ≤ radius)
    (hradius : radius.isFinite = true) : (p.distance q).isFinite = true := by
  have hnan := (Decimal.isNaN_of_le hle).1
  have hlow : 0 ≤ p.distance q := (Decimal.not_lt_iff hnan (by decide)).mp (not_distance_lt_zero h p q)
  exact Decimal.isFinite_of_between (by decide) hradius hlow hle

end FleetLocator.Geo.Point

namespace FleetLocator.Geo

open Decimal (unsignZero)

@[simp] theorem Span.upper_unsignZero (s : Span Float) (x : Float) : s.upper (unsignZero x) = s.upper x := by
  simp [Span.upper]

@[simp] theorem Span.narrow_unsignZero (s : Span Float) (x : Float) : s.narrow (unsignZero x) = s.narrow x := by
  simp [Span.narrow]

theorem halves_unsignZero (n : Nat) (s : Span Float) (x : Float) (t : Span Float) (y : Float) :
    halves n s (unsignZero x) t (unsignZero y) = halves n s x t y := by
  induction n generalizing s x t y with
  | zero => rfl
  | succ n ih => rw [halves, halves, Span.upper_unsignZero, Span.narrow_unsignZero, ih]

@[simp] theorem Point.geohash_unsignZeros (precision : Nat) (p : Point) :
    p.unsignZeros.geohash precision = p.geohash precision := by
  rw [geohash, geohash, unsignZeros, halves_unsignZero]

end FleetLocator.Geo
