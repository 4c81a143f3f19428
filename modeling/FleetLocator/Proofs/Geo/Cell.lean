import FleetLocator.Proofs.Decimal.Exact
import FleetLocator.Proofs.Geo.Bisection
import FleetLocator.Proofs.Geo.Point
import Mathlib.Algebra.Order.Floor.Semiring
import Mathlib.Data.Nat.Bitwise
import Mathlib.Tactic.FieldSimp

/-!
# The cells of geohashes

An axis is divided into two equal cells, and each of these again. A geohash is written from the indices of the
cells in which the point is, as long as no middle between two cells is rounded.
-/
namespace FleetLocator.Geo

open Decimal (Dyadic HasValue IsDouble greatest toRat)

/-- Where a cell begins, after an axis is halved `n` times. -/
def cellStart (bound : ℚ) (n k : ℕ) : ℚ := -bound + 2 * bound * k / 2 ^ n

/-- The middle of a cell. -/
def cellMiddle (bound : ℚ) (n k : ℕ) : ℚ := cellStart bound (n + 1) (2 * k + 1)

/-- How many cells are below a number. -/
def offset (bound : ℚ) (n : ℕ) (x : ℚ) : ℚ := (x + bound) / (2 * bound) * 2 ^ n

/-- The last cell is also that of the number where it ends. -/
def cellIndex (bound : ℚ) (n : ℕ) (x : ℚ) : ℕ := min ⌊offset bound n x⌋₊ (2 ^ n - 1)

/-- Cells are half-open, but for the last. -/
structure InCell (bound : ℚ) (n k : ℕ) (x : ℚ) : Prop where
  index_lt : k < 2 ^ n
  start_le : cellStart bound n k ≤ x
  lt_end : x < cellStart bound n (k + 1) ∨ k + 1 = 2 ^ n ∧ x = bound

theorem cellStart_half (bound : ℚ) (n k : ℕ) : cellStart bound (n + 1) (2 * k) = cellStart bound n k := by
  unfold cellStart
  push_cast
  rw [pow_succ]
  field_simp

theorem cellStart_add (bound : ℚ) (n k : ℕ) :
    cellStart bound n k + cellStart bound n (k + 1) = 2 * cellMiddle bound n k := by
  unfold cellMiddle cellStart
  push_cast
  rw [pow_succ]
  field_simp
  ring

section

variable {bound x : ℚ} {n k l : ℕ}

theorem cellStart_le_iff (hbound : 0 < bound) : cellStart bound n k ≤ x ↔ (k : ℚ) ≤ offset bound n x := by
  have hp : (0 : ℚ) < 2 ^ n := by positivity
  have hstart : cellStart bound n k ≤ x ↔ 2 * bound * k / 2 ^ n ≤ x + bound := by
    unfold cellStart
    constructor <;> intro h <;> linarith
  rw [hstart, div_le_iff₀ hp, offset, div_mul_eq_mul_div, le_div_iff₀ (by positivity), mul_comm (k : ℚ)]

theorem lt_cellStart_iff (hbound : 0 < bound) : x < cellStart bound n k ↔ offset bound n x < k := by
  rw [← not_le, cellStart_le_iff hbound, not_le]

theorem offset_cellStart (hbound : 0 < bound) : offset bound n (cellStart bound n k) = k := by
  unfold offset cellStart
  field_simp
  ring

theorem cellStart_mono (hbound : 0 < bound) (h : k ≤ l) : cellStart bound n k ≤ cellStart bound n l := by
  rw [cellStart_le_iff hbound, offset_cellStart hbound]
  exact_mod_cast h

theorem cellStart_zero (bound : ℚ) (n : ℕ) : cellStart bound n 0 = -bound := by
  rw [cellStart, Nat.cast_zero, mul_zero, zero_div, add_zero]

theorem cellStart_last (bound : ℚ) (n : ℕ) : cellStart bound n (2 ^ n) = bound := by
  unfold cellStart
  push_cast
  field_simp
  ring

theorem abs_cellStart_le (hbound : 0 < bound) (h : k ≤ 2 ^ n) : |cellStart bound n k| ≤ bound := by
  refine abs_le.mpr ⟨?_, ?_⟩
  · rw [← cellStart_zero bound n]
    exact cellStart_mono hbound (Nat.zero_le k)
  · exact (cellStart_mono hbound h).trans_eq (cellStart_last bound n)

theorem abs_cellMiddle_le (hbound : 0 < bound) (h : k < 2 ^ n) : |cellMiddle bound n k| ≤ bound := by
  refine abs_cellStart_le hbound ?_
  rw [pow_succ']
  omega

theorem inCell_cellIndex (hbound : 0 < bound) (hlow : -bound ≤ x) (hhigh : x ≤ bound) :
    InCell bound n (cellIndex bound n x) x := by
  have hcells : 0 < 2 ^ n := by positivity
  have hnonneg : 0 ≤ offset bound n x := by
    rw [← cellStart_zero bound n, cellStart_le_iff hbound] at hlow
    exact_mod_cast hlow
  have hfloor : (⌊offset bound n x⌋₊ : ℚ) ≤ offset bound n x := Nat.floor_le hnonneg
  have hindex : ((cellIndex bound n x : ℕ) : ℚ) ≤ offset bound n x :=
    le_trans (by exact_mod_cast min_le_left _ _) hfloor
  have hlast : cellIndex bound n x ≤ 2 ^ n - 1 := min_le_right _ _
  refine ⟨by omega, (cellStart_le_iff hbound).mpr hindex, ?_⟩
  rw [lt_cellStart_iff hbound]
  rcases hhigh.lt_or_eq with hless | rfl
  · have hbelow : ⌊offset bound n x⌋₊ < 2 ^ n := by
      rw [← cellStart_last bound n, lt_cellStart_iff hbound] at hless
      exact_mod_cast hfloor.trans_lt hless
    rw [cellIndex, min_eq_left (by omega)]
    exact .inl (by exact_mod_cast Nat.lt_floor_add_one (offset bound n x))
  · -- Here the floor is the number of cells, and the minimum is needed.
    have hfull : offset x n x = (2 ^ n : ℕ) :=
      (congrArg (offset x n) (cellStart_last x n)).symm.trans (offset_cellStart hbound)
    rw [cellIndex, hfull, Nat.floor_natCast, min_eq_right (by omega)]
    exact .inr ⟨by omega, rfl⟩

private theorem InCell.index_le (hbound : 0 < bound) (h : InCell bound n k x) (h' : InCell bound n l x) : k ≤ l := by
  by_contra hless
  rcases h'.lt_end with hend | ⟨hlast, -⟩
  · exact absurd ((cellStart_mono hbound (by omega)).trans h.start_le) (not_le.mpr hend)
  · have := h.index_lt
    omega

theorem InCell.unique (hbound : 0 < bound) (h : InCell bound n k x) (h' : InCell bound n l x) : k = l :=
  le_antisymm (h.index_le hbound h') (h'.index_le hbound h)

/-- There is one cell for each number of the axis. -/
theorem cellIndex_eq_iff (hbound : 0 < bound) (hlow : -bound ≤ x) (hhigh : x ≤ bound) :
    cellIndex bound n x = k ↔ InCell bound n k x := by
  have hcell := inCell_cellIndex (n := n) hbound hlow hhigh
  exact ⟨fun h => h ▸ hcell, hcell.unique hbound⟩

/-- The cell of a number within the cell it was in. -/
def halfIndex (bound : ℚ) (n k : ℕ) (x : ℚ) : ℕ := 2 * k + (decide (cellMiddle bound n k ≤ x)).toNat

theorem halfIndex_of_le (h : cellMiddle bound n k ≤ x) : halfIndex bound n k x = 2 * k + 1 := by
  rw [halfIndex, decide_eq_true h, Bool.toNat_true]

theorem halfIndex_of_not_le (h : ¬cellMiddle bound n k ≤ x) : halfIndex bound n k x = 2 * k := by
  rw [halfIndex, decide_eq_false h, Bool.toNat_false, Nat.add_zero]

theorem InCell.half (h : InCell bound n k x) : InCell bound (n + 1) (halfIndex bound n k x) x := by
  have hindex := h.index_lt
  have hcells : 2 ^ (n + 1) = 2 * 2 ^ n := pow_succ' 2 n
  by_cases hmiddle : cellMiddle bound n k ≤ x
  · rw [halfIndex_of_le hmiddle]
    refine ⟨by omega, hmiddle, h.lt_end.imp ?_ ?_⟩
    · intro hend
      rwa [← cellStart_half] at hend
    · rintro ⟨hlast, hx⟩
      exact ⟨by omega, hx⟩
  · rw [halfIndex_of_not_le hmiddle]
    refine ⟨by omega, ?_, .inl (not_le.mp hmiddle)⟩
    rw [cellStart_half]
    exact h.start_le

theorem cellIndex_zero (bound x : ℚ) : cellIndex bound 0 x = 0 := Nat.min_eq_right (Nat.zero_le _)

variable (hbound : 0 < bound) (hlow : -bound ≤ x) (hhigh : x ≤ bound)
include hbound hlow hhigh

theorem cellIndex_succ (n : ℕ) : cellIndex bound (n + 1) x = halfIndex bound n (cellIndex bound n x) x :=
  (cellIndex_eq_iff hbound hlow hhigh).mpr (inCell_cellIndex hbound hlow hhigh).half

/-- The cells from which a cell came are its first digits. -/
theorem cellIndex_div (n d : ℕ) : cellIndex bound (n + d) x / 2 ^ d = cellIndex bound n x := by
  induction d with
  | zero => rw [pow_zero, Nat.div_one, Nat.add_zero]
  | succ d ih =>
    have hbit := (decide (cellMiddle bound (n + d) (cellIndex bound (n + d) x) ≤ x)).toNat_le
    rw [pow_succ', ← Nat.div_div_eq_div_mul, ← Nat.add_assoc, cellIndex_succ hbound hlow hhigh, halfIndex]
    have hquotient (a b : ℕ) (hb : b ≤ 1) : (2 * a + b) / 2 = a := by omega
    rw [hquotient _ _ hbit, ih]

theorem testBit_cellIndex {i : ℕ} (h : i < n) :
    (cellIndex bound n x).testBit (n - 1 - i) = decide (cellMiddle bound i (cellIndex bound i x) ≤ x) := by
  obtain ⟨d, rfl⟩ := Nat.exists_eq_add_of_le (Nat.succ_le_of_lt h)
  have hplace : i.succ + d - 1 - i = d := by omega
  rw [hplace, Nat.testBit_eq_decide_div_mod_eq, cellIndex_div hbound hlow hhigh, cellIndex_succ hbound hlow hhigh,
    halfIndex, Nat.mul_add_mod]
  cases decide (cellMiddle bound i (cellIndex bound i x) ≤ x) <;> rfl

end

/-- The ends of the span are those of the cell. -/
structure Span.IsCell (s : Span Float) (bound : ℚ) (n k : ℕ) : Prop where
  low : HasValue s.low (cellStart bound n k)
  high : HasValue s.high (cellStart bound n (k + 1))

/-- The middles of all cells that are halved on the way to a number are numbers of doubles. -/
def MiddlesAreDoubles (bound : ℚ) (n : ℕ) (x : ℚ) : Prop :=
  ∀ i < n, IsDouble (cellMiddle bound i (cellIndex bound i x))

section

variable {s : Span Float} {bound : ℚ} {n k : ℕ} {x : Float}

theorem Span.IsCell.hasValue_middle (hbound : 0 < bound) (hgreatest : 2 * bound ≤ greatest) (h : s.IsCell bound n k)
    (hk : k < 2 ^ n) (hmiddle : IsDouble (cellMiddle bound n k)) : HasValue s.middle (cellMiddle bound n k) := by
  have hdouble := cellStart_add bound n k
  have hle : |2 * cellMiddle bound n k| ≤ greatest := by
    rw [abs_mul, abs_two]
    have habs := abs_cellMiddle_le hbound hk
    linarith
  have hsum := Decimal.hasValue_add h.low h.high (hdouble ▸ hmiddle.twice hle)
  have hhalf : (cellStart bound n k + cellStart bound n (k + 1)) / 2 = cellMiddle bound n k := by
    rw [hdouble, mul_div_cancel_left₀ _ two_ne_zero]
  have hvalue := Decimal.hasValue_half hsum (hhalf.symm ▸ hmiddle)
  rwa [hhalf] at hvalue

theorem Span.upper_eq (hmiddle : HasValue s.middle (cellMiddle bound n k)) (hx : x.isFinite = true) :
    s.upper x = decide (cellMiddle bound n k ≤ toRat x) :=
  decide_eq_decide.mpr (hmiddle.le_iff ⟨hx, rfl⟩)

theorem Span.IsCell.narrow (h : s.IsCell bound n k) (hmiddle : HasValue s.middle (cellMiddle bound n k))
    (hx : x.isFinite = true) : (s.narrow x).IsCell bound (n + 1) (halfIndex bound n k (toRat x)) := by
  unfold Span.narrow
  rw [Span.upper_eq hmiddle hx]
  by_cases hle : cellMiddle bound n k ≤ toRat x
  · rw [if_pos (decide_eq_true hle), halfIndex_of_le hle]
    refine ⟨hmiddle, ?_⟩
    have hhigh := h.high
    rwa [← cellStart_half] at hhigh
  · rw [if_neg (by simpa using hle), halfIndex_of_not_le hle]
    refine ⟨?_, hmiddle⟩
    rw [cellStart_half]
    exact h.low

end

/-- A finite double on an axis whose span is the one cell of it. -/
structure OnAxis (s : Span Float) (bound : ℚ) (x : Float) : Prop where
  pos : 0 < bound
  le_greatest : 2 * bound ≤ greatest
  isCell : s.IsCell bound 0 0
  isFinite : x.isFinite = true
  low_le : -bound ≤ toRat x
  le_high : toRat x ≤ bound

namespace OnAxis

variable {s : Span Float} {bound : ℚ} {n k : ℕ} {x : Float} (h : OnAxis s bound x)
include h

theorem cellIndex_eq_iff : cellIndex bound n (toRat x) = k ↔ InCell bound n k (toRat x) :=
  Geo.cellIndex_eq_iff h.pos h.low_le h.le_high

theorem cellIndex_lt : cellIndex bound n (toRat x) < 2 ^ n := (h.cellIndex_eq_iff.mp rfl).index_lt

theorem isCell_narrowed (hmiddles : MiddlesAreDoubles bound n (toRat x)) :
    (s.narrowed x n).IsCell bound n (cellIndex bound n (toRat x)) := by
  induction n with
  | zero =>
    rw [cellIndex_zero]
    exact h.isCell
  | succ n ih =>
    have hcell := ih fun i hi => hmiddles i (by omega)
    have hmiddle := hcell.hasValue_middle h.pos h.le_greatest h.cellIndex_lt (hmiddles n n.lt_succ_self)
    rw [Span.narrowed_succ, cellIndex_succ h.pos h.low_le h.le_high]
    exact hcell.narrow hmiddle h.isFinite

theorem upper_narrowed (hmiddles : MiddlesAreDoubles bound n (toRat x)) {i : ℕ} (hi : i < n) :
    (s.narrowed x i).upper x = (cellIndex bound n (toRat x)).testBit (n - 1 - i) := by
  have hcell := h.isCell_narrowed (n := i) fun j hj => hmiddles j (by omega)
  have hmiddle := hcell.hasValue_middle h.pos h.le_greatest h.cellIndex_lt (hmiddles i hi)
  rw [Span.upper_eq hmiddle h.isFinite, testBit_cellIndex h.pos h.low_le h.le_high hi]

end OnAxis

theorem cellMiddle_eq (c n k : ℕ) :
    cellMiddle (45 * 2 ^ c) n k = ((45 * (2 * k + 1 - 2 ^ n) : ℤ) : ℚ) * 2 ^ (c - n : ℤ) := by
  unfold cellMiddle cellStart
  rw [zpow_sub₀ two_ne_zero, zpow_natCast, zpow_natCast]
  push_cast
  rw [pow_succ]
  field_simp
  ring

theorem isDouble_cellMiddle {c n k : ℕ} (hgreatest : 2 * (45 * 2 ^ c) ≤ greatest) (hn : n ≤ 47) (hk : k < 2 ^ n) :
    IsDouble (cellMiddle (45 * 2 ^ c) n k) := by
  have hbound : (0 : ℚ) < 45 * 2 ^ c := by positivity
  have habs := abs_cellMiddle_le hbound hk
  rw [cellMiddle_eq] at habs ⊢
  -- The six digits of 45 and the 47 of a cell make no more than 53.
  refine Decimal.isDouble_mul_zpow ?_ (by omega) (by linarith)
  have hcells : 2 ^ n ≤ 2 ^ 47 := Nat.pow_le_pow_right two_pos hn
  have hunits : (2 : ℤ) ^ n = (2 ^ n : ℕ) := (Nat.cast_pow 2 n).symm
  rw [hunits]
  omega

theorem OnAxis.middlesAreDoubles {s : Span Float} {bound : ℚ} {c n : ℕ} {x : Float} (h : OnAxis s bound x)
    (hbound : bound = 45 * 2 ^ c) (hn : n ≤ 48) : MiddlesAreDoubles bound n (toRat x) := by
  subst hbound
  exact fun i hi => isDouble_cellMiddle h.le_greatest (by omega) h.cellIndex_lt

theorem onAxis_of_ofFloat {s : Span Float} {bound : ℚ} {m : ℕ} {e : ℤ} {x : Float} (hpos : 0 < bound)
    (hle : bound ≤ 180) (hvalue : (m : ℚ) * 2 ^ e = bound) (hlow : Dyadic.ofFloat s.low = some ⟨true, m, e⟩)
    (hhigh : Dyadic.ofFloat s.high = some ⟨false, m, e⟩) (hx : x.isFinite = true) (hbetween : s.low ≤ x ∧ x ≤ s.high) :
    OnAxis s bound x := by
  have hlowest : HasValue s.low (-bound) := by
    rw [← hvalue, ← Dyadic.value_negative]
    exact Decimal.hasValue_of_ofFloat hlow
  have hhighest : HasValue s.high bound := by
    rw [← hvalue, ← Dyadic.value_positive]
    exact Decimal.hasValue_of_ofFloat hhigh
  refine ⟨hpos, ?_, ⟨(cellStart_zero bound 0).symm ▸ hlowest, (cellStart_last bound 0).symm ▸ hhighest⟩, hx,
    (hlowest.le_iff ⟨hx, rfl⟩).mp hbetween.1, (HasValue.le_iff ⟨hx, rfl⟩ hhighest).mp hbetween.2⟩
  calc 2 * bound ≤ (360 : ℕ) := by push_cast; linarith
    _ ≤ greatest := Decimal.natCast_le_greatest (k := 3) (by norm_num) (by norm_num)

theorem onAxis_lng {p : Point} (h : p.isValid = true) : OnAxis lngSpan 180 p.lng := by
  obtain ⟨⟨-, hfinite⟩, -, hbetween⟩ := Point.isValid_iff.mp h
  have hvalue : ((180 * 2 ^ 45 : ℕ) : ℚ) * 2 ^ (-45 : ℤ) = 180 := by norm_num
  exact onAxis_of_ofFloat (by norm_num) le_rfl hvalue (by decide +kernel) (by decide +kernel) hfinite hbetween

theorem onAxis_lat {p : Point} (h : p.isValid = true) : OnAxis latSpan 90 p.lat := by
  obtain ⟨⟨hfinite, -⟩, hbetween, -⟩ := Point.isValid_iff.mp h
  have hvalue : ((90 * 2 ^ 46 : ℕ) : ℚ) * 2 ^ (-46 : ℤ) = 90 := by norm_num
  exact onAxis_of_ofFloat (by norm_num) (by norm_num) hvalue (by decide +kernel) (by decide +kernel) hfinite hbetween

/-- Longitudes have the first digit, and one more where the digits are odd in number. -/
def lngDigits (precision : ℕ) : ℕ := (5 * precision + 1) / 2

def latDigits (precision : ℕ) : ℕ := 5 * precision / 2

/-- The digits of two numbers in turn, the highest first. -/
def interleaved (n k m l : ℕ) (j : ℕ) : Bool :=
  if j % 2 = 0 then k.testBit (n - 1 - j / 2) else l.testBit (m - 1 - j / 2)

namespace Point

def lngCell (precision : ℕ) (p : Point) : ℕ := cellIndex 180 (lngDigits precision) (toRat p.lng)

def latCell (precision : ℕ) (p : Point) : ℕ := cellIndex 90 (latDigits precision) (toRat p.lat)

/-- No middle is rounded on the way to the cell of the point. -/
structure HasExactMiddles (precision : ℕ) (p : Point) : Prop where
  lng : MiddlesAreDoubles 180 (lngDigits precision) (toRat p.lng)
  lat : MiddlesAreDoubles 90 (latDigits precision) (toRat p.lat)

/-- The letters for the digits of the point's two cells. -/
def standardGeohash (precision : ℕ) (p : Point) : String :=
  String.ofList ((List.range precision).map (letter
    (interleaved (lngDigits precision) (p.lngCell precision) (latDigits precision) (p.latCell precision))))

/-- The spans of doubles where the bisection ends are the cells of the point. -/
structure EndsInCells (precision : ℕ) (p : Point) : Prop where
  lng : (lngSpan.narrowed p.lng (lngDigits precision)).IsCell 180 (lngDigits precision) (p.lngCell precision)
  lat : (latSpan.narrowed p.lat (latDigits precision)).IsCell 90 (latDigits precision) (p.latCell precision)

variable {precision : ℕ} {p : Point}

theorem hasExactMiddles (h : p.isValid = true) (hprecision : precision ≤ 19) : p.HasExactMiddles precision where
  lng := (onAxis_lng h).middlesAreDoubles (c := 2) (by norm_num) (by unfold lngDigits; omega)
  lat := (onAxis_lat h).middlesAreDoubles (c := 1) (by norm_num) (by unfold latDigits; omega)

theorem geohash_eq_standard (h : p.isValid = true) (hmiddles : p.HasExactMiddles precision) :
    p.geohash precision = p.standardGeohash precision := by
  have hdigit (j : ℕ) (hj : j < 5 * precision) : digit lngSpan p.lng latSpan p.lat j =
      interleaved (lngDigits precision) (p.lngCell precision) (latDigits precision) (p.latCell precision) j := by
    rw [digit, interleaved]
    split
    · next heven => exact (onAxis_lng h).upper_narrowed hmiddles.lng (by unfold lngDigits; omega)
    · next hodd => exact (onAxis_lat h).upper_narrowed hmiddles.lat (by unfold latDigits; omega)
  rw [geohash, halves_eq, List.map_congr_left fun j hj => hdigit j (List.mem_range.mp hj), letters_eq, standardGeohash]

/-- A geohash is made of the digits of the point's two cells, and the bisection ends in these, as long as no middle
is rounded; up to 19 letters none is. -/
theorem geohash_standard (h : p.isValid = true) (precision : ℕ) :
    (precision ≤ 19 → p.HasExactMiddles precision) ∧
      (p.HasExactMiddles precision →
        p.geohash precision = p.standardGeohash precision ∧ p.EndsInCells precision) ∧
      ∀ k, (p.lngCell precision = k ↔ InCell 180 (lngDigits precision) k (toRat p.lng)) ∧
        (p.latCell precision = k ↔ InCell 90 (latDigits precision) k (toRat p.lat)) := by
  have hlng := onAxis_lng h
  have hlat := onAxis_lat h
  refine ⟨hasExactMiddles h, fun hmiddles => ⟨geohash_eq_standard h hmiddles, ?_⟩, fun k => ?_⟩
  · exact ⟨hlng.isCell_narrowed hmiddles.lng, hlat.isCell_narrowed hmiddles.lat⟩
  · exact ⟨hlng.cellIndex_eq_iff, hlat.cellIndex_eq_iff⟩

theorem geohash_standard_of_five : (⟨57.64911, 10.40744⟩ : Point).isValid = true ∧
    (⟨57.64911, 10.40744⟩ : Point).standardGeohash 5 = "u4pru" := by
  have hvalid : (⟨57.64911, 10.40744⟩ : Point).isValid = true := by decide +kernel
  obtain ⟨hmiddles, hstandard, -⟩ := geohash_standard hvalid 5
  refine ⟨hvalid, (hstandard (hmiddles (by norm_num))).1.symm.trans ?_⟩
  decide +kernel

end Point

end FleetLocator.Geo
