import FleetLocator.Decimal.Binary64
import Mathlib

/-!
# The order of doubles

Every double but the one that is no number has a place in a linear order, and the comparisons of
doubles are those of their places. Two numbers share a place only if they are equal or both zero. A product of
doubles that are not below zero is not below zero, and a root never is.
-/
namespace FleetLocator.Decimal

open Float.Model (Format UnpackedFloat)
open Float.Model.UnpackedFloat (Accuracy Sign)

section

/-- The place of an unpacked number among all: its class, its exponent and its mantissa. -/
def unpackedPlace : UnpackedFloat → ℤ ×ₗ ℤ ×ₗ ℤ
  | .notANumber => toLex (0, toLex (0, 0))
  | .infinity .negative => toLex (-2, toLex (0, 0))
  | .finite .negative m e _ => toLex (-1, toLex (-e, -m))
  | .zero _ => toLex (0, toLex (0, 0))
  | .finite .positive m e _ => toLex (1, toLex (e, m))
  | .infinity .positive => toLex (2, toLex (0, 0))

private theorem compare_signs :
    compare Sign.negative Sign.negative = .eq ∧ compare Sign.negative Sign.positive = .lt ∧
    compare Sign.positive Sign.negative = .gt ∧ compare Sign.positive Sign.positive = .eq :=
  ⟨rfl, rfl, rfl, rfl⟩

theorem compare_eq_lt_iff {u v : UnpackedFloat} (hu : u.isNaN = false) (hv : v.isNaN = false) :
    u.compare v = some .lt ↔ unpackedPlace u < unpackedPlace v := by
  rcases u with (s | s) | _ | s | ⟨s | s, m, e, hm⟩ <;>
    rcases v with (t | t) | _ | t | ⟨t | t, n, f, hn⟩ <;>
    simp_all [UnpackedFloat.compare, UnpackedFloat.isNaN, unpackedPlace, Prod.Lex.toLex_lt_toLex,
      compare_signs, Ordering.then_eq_gt, Ordering.then_eq_lt, Int.compare_eq_lt, Nat.compare_eq_lt,
      Int.compare_eq_gt, Nat.compare_eq_gt]

theorem compare_eq_eq_iff {u v : UnpackedFloat} (hu : u.isNaN = false) (hv : v.isNaN = false) :
    u.compare v = some .eq ↔ unpackedPlace u = unpackedPlace v := by
  rcases u with (s | s) | _ | s | ⟨s | s, m, e, hm⟩ <;>
    rcases v with (t | t) | _ | t | ⟨t | t, n, f, hn⟩ <;>
    simp_all [UnpackedFloat.compare, UnpackedFloat.isNaN, unpackedPlace, compare_signs,
      Ordering.then_eq_eq]

theorem compare_eq_none {u v : UnpackedFloat} (h : u.isNaN = true ∨ v.isNaN = true) :
    u.compare v = none := by
  cases u <;> cases v <;> simp_all [UnpackedFloat.isNaN, UnpackedFloat.compare]

/-- The place of a double among all others. -/
def place (x : Float) : ℤ ×ₗ ℤ ×ₗ ℤ := unpackedPlace x.toModel.unpack

variable {x y z : Float}

theorem lt_iff_compare : x < y ↔ x.toModel.unpack.compare y.toModel.unpack = some .lt := by
  change decide (x.toModel.unpack.lt y.toModel.unpack = true) = true ↔ _
  simp [UnpackedFloat.lt]

theorem le_iff_compare :
    x ≤ y ↔ (x.toModel.unpack.compare y.toModel.unpack).any Ordering.isLE = true := by
  change decide (x.toModel.unpack.le y.toModel.unpack = true) = true ↔ _
  exact decide_eq_true_iff

theorem beq_iff_compare :
    (x == y) = true ↔ x.toModel.unpack.compare y.toModel.unpack = some .eq := by
  change (x.toModel.unpack.compare y.toModel.unpack == some .eq) = true ↔ _
  simp

theorem lt_iff_place (hx : x.isNaN = false) (hy : y.isNaN = false) : x < y ↔ place x < place y :=
  lt_iff_compare.trans (compare_eq_lt_iff hx hy)

theorem beq_iff_place (hx : x.isNaN = false) (hy : y.isNaN = false) :
    (x == y) = true ↔ place x = place y :=
  beq_iff_compare.trans (compare_eq_eq_iff hx hy)

theorem le_iff_place (hx : x.isNaN = false) (hy : y.isNaN = false) : x ≤ y ↔ place x ≤ place y := by
  rw [le_iff_lt_or_eq, ← lt_iff_place hx hy, ← beq_iff_place hx hy, le_iff_compare, lt_iff_compare,
    beq_iff_compare]
  rcases x.toModel.unpack.compare y.toModel.unpack with _ | o
  · simp
  · cases o <;> simp

/-- Two doubles that compare are numbers. -/
theorem isNaN_of_le (h : x ≤ y) : x.isNaN = false ∧ y.isNaN = false := by
  by_contra hn
  have hnan : x.isNaN = true ∨ y.isNaN = true := by
    cases hx : x.isNaN <;> cases hy : y.isNaN <;> simp_all
  rw [le_iff_compare, compare_eq_none hnan] at h
  exact absurd h (by simp)

theorem le_of_le_of_le (hxy : x ≤ y) (hyz : y ≤ z) : x ≤ z := by
  obtain ⟨hx, hy⟩ := isNaN_of_le hxy
  have hz := (isNaN_of_le hyz).2
  rw [le_iff_place hx hy] at hxy
  rw [le_iff_place hy hz] at hyz
  rw [le_iff_place hx hz]
  exact hxy.trans hyz

theorem isNaN_of_lt (h : x < y) : x.isNaN = false ∧ y.isNaN = false := by
  apply isNaN_of_le
  rw [le_iff_compare, lt_iff_compare.mp h]
  rfl

theorem isNaN_of_beq (h : (x == y) = true) : x.isNaN = false ∧ y.isNaN = false := by
  apply isNaN_of_le
  rw [le_iff_compare, beq_iff_compare.mp h]
  rfl

theorem not_lt_iff (hx : x.isNaN = false) (hy : y.isNaN = false) : ¬x < y ↔ y ≤ x := by
  rw [lt_iff_place hx hy, le_iff_place hy hx, not_lt]

theorem not_le_of_lt (h : x < y) : ¬y ≤ x := by
  obtain ⟨hx, hy⟩ := isNaN_of_lt h
  rw [← not_lt_iff hx hy, not_not]
  exact h

theorem isNaN_of_isFinite (h : x.isFinite = true) : x.isNaN = false := by
  change x.toModel.unpack.isNaN = false
  change x.toModel.unpack.isFinite = true at h
  cases hu : x.toModel.unpack <;> simp_all [UnpackedFloat.isFinite, UnpackedFloat.isNaN]

theorem isInf_of_isFinite (h : x.isFinite = true) : x.isInf = false := by
  change x.toModel.unpack.isFinite = true at h
  change x.toModel.unpack.isInf = false
  cases hu : x.toModel.unpack <;> simp_all [UnpackedFloat.isFinite, UnpackedFloat.isInf]

theorem isFinite_iff_place (hx : x.isNaN = false) :
    x.isFinite = true ↔ -2 < (ofLex (place x)).1 ∧ (ofLex (place x)).1 < 2 := by
  change x.toModel.unpack.isNaN = false at hx
  change x.toModel.unpack.isFinite = true ↔ _
  rw [place]
  generalize x.toModel.unpack = u at hx ⊢
  rcases u with (s | s) | _ | s | ⟨s | s, m, e, hm⟩ <;>
    simp_all [UnpackedFloat.isFinite, UnpackedFloat.isNaN, unpackedPlace]

theorem fst_le_of_place_le (h : place x ≤ place y) : (ofLex (place x)).1 ≤ (ofLex (place y)).1 := by
  rcases Prod.Lex.le_iff.mp h with h | h
  · exact h.le
  · exact h.1.le

/-- What lies between finite numbers is finite. -/
theorem isFinite_of_between (hx : x.isFinite = true) (hz : z.isFinite = true) (hxy : x ≤ y) (hyz : y ≤ z) :
    y.isFinite = true := by
  obtain ⟨hnx, hny⟩ := isNaN_of_le hxy
  have hnz := isNaN_of_isFinite hz
  have hlow := fst_le_of_place_le ((le_iff_place hnx hny).mp hxy)
  have hhigh := fst_le_of_place_le ((le_iff_place hny hnz).mp hyz)
  rw [isFinite_iff_place hnx] at hx
  rw [isFinite_iff_place hnz] at hz
  rw [isFinite_iff_place hny]
  omega

/-- The number itself, except that the zero with a sign becomes the one without. -/
def unsignZero (x : Float) : Float := if x == 0 then 0 else x

theorem unpack_of_beq_zero (h : (x == 0) = true) : ∃ s, x.toModel.unpack = .zero s := by
  rw [beq_iff_compare] at h
  change x.toModel.unpack.compare (.zero .positive) = some .eq at h
  generalize x.toModel.unpack = u at h ⊢
  rcases u with (s | s) | _ | s | ⟨s | s, m, e, hm⟩ <;> simp_all [UnpackedFloat.compare]

theorem compare_unsignZero (u : UnpackedFloat) :
    u.compare (unsignZero x).toModel.unpack = u.compare x.toModel.unpack := by
  unfold unsignZero
  split
  · next h =>
    obtain ⟨s, hs⟩ := unpack_of_beq_zero h
    rw [hs]
    change u.compare (.zero .positive) = _
    rcases u with (t | t) | _ | t | ⟨t | t, m, e, hm⟩ <;> rfl
  · rfl

theorem unsignZero_compare (u : UnpackedFloat) :
    (unsignZero x).toModel.unpack.compare u = x.toModel.unpack.compare u := by
  unfold unsignZero
  split
  · next h =>
    obtain ⟨s, hs⟩ := unpack_of_beq_zero h
    rw [hs]
    change UnpackedFloat.compare (.zero .positive) u = _
    rcases u with (t | t) | _ | t | ⟨t | t, m, e, hm⟩ <;> rfl
  · rfl

@[simp] theorem le_unsignZero : x ≤ unsignZero y ↔ x ≤ y := by
  rw [le_iff_compare, le_iff_compare, compare_unsignZero]

@[simp] theorem unsignZero_le : unsignZero x ≤ y ↔ x ≤ y := by
  rw [le_iff_compare, le_iff_compare, unsignZero_compare]

theorem unsignZero_beq (h : x.isNaN = false) : (unsignZero x == x) = true := by
  rw [beq_iff_compare, unsignZero_compare, ← beq_iff_compare, beq_iff_place h h]

@[simp] theorem isFinite_unsignZero : (unsignZero x).isFinite = x.isFinite := by
  unfold unsignZero
  split
  · next h =>
    obtain ⟨s, hs⟩ := unpack_of_beq_zero h
    change true = x.toModel.unpack.isFinite
    rw [hs]
    rfl
  · rfl

end

/-- Whether an unpacked number is below zero. -/
def unpackedBelowZero : UnpackedFloat → Bool
  | .infinity .negative | .finite .negative _ _ _ => true
  | _ => false

variable {x y : Float} {u v : UnpackedFloat}

theorem lt_zero_iff : x < 0 ↔ unpackedBelowZero x.toModel.unpack = true := by
  rw [lt_iff_compare]
  change x.toModel.unpack.compare (.zero .positive) = some .lt ↔ _
  rcases x.toModel.unpack with (s | s) | _ | s | ⟨s | s, m, e, hm⟩ <;>
    simp [UnpackedFloat.compare, unpackedBelowZero]

theorem unpackSign_packComponents {spec : Format} (s : Sign) (e : BitVec spec.exponentBits)
    (m : BitVec spec.mantissaBitsWithoutImplicit) :
    UnpackedFloat.unpackSign (UnpackedFloat.packComponents spec s e m) = s.toBitVec := by
  ext i hi
  obtain rfl : i = 0 := by omega
  simp [UnpackedFloat.unpackSign, UnpackedFloat.packComponents, BitVec.getLsbD_append, BitVec.getElem_append]

theorem unpack_positive {spec : Format} (e : BitVec spec.exponentBits)
    (m : BitVec spec.mantissaBitsWithoutImplicit) :
    unpackedBelowZero (.unpack spec (UnpackedFloat.packComponents spec .positive e m)) = false := by
  have hsign : Sign.ofBitVec (Sign.toBitVec .positive) = .positive := rfl
  simp only [UnpackedFloat.unpack, unpackSign_packComponents, hsign]
  split
  · split <;> rfl
  · split
    · split <;> rfl
    · rfl

theorem pack_belowZero (h : unpackedBelowZero u = false) :
    unpackedBelowZero (Float.Model.pack u).unpack = false := by
  change unpackedBelowZero (.unpack _ (UnpackedFloat.pack _ u)) = false
  rcases u with (s | s) | _ | s | ⟨s | s, m, e, hm⟩
  · cases h
  · exact unpack_positive _ _
  · exact unpack_positive _ _
  · cases s <;> rfl
  · cases h
  · simp only [UnpackedFloat.pack]
    split
    · exact unpack_positive _ _
    · split <;> exact unpack_positive _ _

theorem round_positive (spec : Format) (m : ℕ) (e : ℤ) (accuracy : Accuracy) :
    unpackedBelowZero (.roundWithAccuracy spec .positive m e accuracy) = false := by
  simp only [UnpackedFloat.roundWithAccuracy]
  split <;> rfl

theorem unpackedBelowZero_mul (hu : unpackedBelowZero u = false) (hv : unpackedBelowZero v = false) :
    unpackedBelowZero (.mul .binary64 u v) = false := by
  rcases u with (s | s) | _ | s | ⟨s | s, m, e, hm⟩ <;>
    rcases v with (t | t) | _ | t | ⟨t | t, n, f, hn⟩ <;>
    first
      | rfl
      | exact absurd hu.symm Bool.false_ne_true
      | exact absurd hv.symm Bool.false_ne_true
      | exact round_positive _ _ _ _

theorem unpackedBelowZero_sqrt (u : UnpackedFloat) : unpackedBelowZero (.sqrt .binary64 u) = false := by
  rcases u with (s | s) | _ | s | ⟨s | s, m, e, hm⟩
  all_goals first | rfl | exact round_positive _ _ _ _

theorem not_mul_lt_zero (hx : ¬x < 0) (hy : ¬y < 0) : ¬x * y < 0 := by
  rw [lt_zero_iff, Bool.not_eq_true] at hx hy ⊢
  exact pack_belowZero (unpackedBelowZero_mul hx hy)

theorem not_sqrt_lt_zero (x : Float) : ¬x.sqrt < 0 := by
  rw [lt_zero_iff, Bool.not_eq_true]
  exact pack_belowZero (unpackedBelowZero_sqrt x.toModel.unpack)

end FleetLocator.Decimal
