import FleetLocator.Proofs.Decimal.Dyadic
import FleetLocator.Proofs.Decimal.Rounding
import FleetLocator.Proofs.Json.Field

/-!
# Whole numbers in documents

A double is truncated toward zero and saturated into 64 bits, which keeps the order. So a number that a field of
integers finds is read as the integer it is, or as the nearest one that there is between zero and it, in whichever
way the document holds it.
-/
namespace FleetLocator.Decimal

/-- The integer that is left when the digits after the point are dropped. -/
def towardZero (q : ℚ) : ℤ := if 0 ≤ q then ⌊q⌋ else ⌈q⌉

@[simp] theorem towardZero_intCast (n : ℤ) : towardZero n = n := by
  simp [towardZero]

@[simp] theorem towardZero_natCast (n : ℕ) : towardZero n = n := towardZero_intCast n

theorem towardZero_neg (q : ℚ) : towardZero (-q) = -towardZero q := by
  rcases lt_trichotomy q 0 with hq | rfl | hq
  · rw [towardZero, towardZero, if_pos (neg_nonneg.mpr hq.le), if_neg hq.not_ge, Int.floor_neg]
  · simp [towardZero]
  · rw [towardZero, towardZero, if_neg (neg_neg_of_pos hq).not_ge, if_pos hq.le, Int.ceil_neg]

theorem towardZero_mono : Monotone towardZero := by
  intro p q h
  unfold towardZero
  split_ifs with hp hq hq
  · exact Int.floor_le_floor h
  · exact absurd (hp.trans h) hq
  · exact (Int.ceil_le.mpr (by exact_mod_cast (not_le.mp hp).le)).trans (Int.floor_nonneg.mpr hq)
  · exact Int.ceil_le_ceil h

theorem magnitude_eq_floor (d : Dyadic) : (d.magnitude : ℤ) = ⌊(d.mantissa : ℚ) * 2 ^ d.exponent⌋ := by
  obtain ⟨negative, m, e⟩ := d
  cases e with
  | ofNat up =>
    change ((m * 2 ^ up : ℕ) : ℤ) = ⌊(m : ℚ) * 2 ^ (up : ℤ)⌋
    rw [zpow_natCast, ← Int.floor_natCast (R := ℚ)]
    push_cast
    rfl
  | negSucc down =>
    change ((m / 2 ^ (down + 1) : ℕ) : ℤ) = ⌊(m : ℚ) * 2 ^ Int.negSucc down⌋
    rw [zpow_negSucc, ← div_eq_mul_inv, Int.natCast_div, ← Rat.floor_natCast_div_natCast]
    push_cast
    rfl

theorem truncate_eq_towardZero (d : Dyadic) : d.truncate = towardZero d.value := by
  obtain ⟨negative, m, e⟩ := d
  have hmagnitude := magnitude_eq_floor ⟨negative, m, e⟩
  have hpositive : towardZero (m * 2 ^ e) = ⌊(m : ℚ) * 2 ^ e⌋ := if_pos (by positivity)
  cases negative with
  | false => rw [Dyadic.value_positive, hpositive, ← hmagnitude, Dyadic.truncate, if_neg Bool.false_ne_true]
  | true => rw [Dyadic.value_negative, towardZero_neg, hpositive, ← hmagnitude, Dyadic.truncate, if_pos rfl]

theorem saturate_eq_ofIntClamp (n : ℤ) : saturate n = Int64.ofIntClamp n := by
  have horder : Int64.minValue.toInt ≤ Int64.maxValue.toInt := by decide
  unfold saturate Int64.ofIntClamp
  split_ifs with hleast hmost
  · rw [min_eq_left hmost, max_eq_right hleast, Int64.ofIntLE_eq_ofInt]
  · rw [min_eq_right (not_le.mp hmost).le, max_eq_right horder, Int64.ofInt_toInt]
  · have hmost : n ≤ Int64.maxValue.toInt := (not_le.mp hleast).le.trans horder
    rw [min_eq_left hmost, max_eq_left (not_le.mp hleast).le, Int64.ofInt_toInt]

theorem toInt_saturate (n : ℤ) : (saturate n).toInt = max Int64.minValue.toInt (min n Int64.maxValue.toInt) := by
  have horder : Int64.minValue.toInt ≤ Int64.maxValue.toInt := by decide
  have hmost : max Int64.minValue.toInt (min n Int64.maxValue.toInt) ≤ Int64.maxValue.toInt :=
    max_le horder (min_le_right _ _)
  exact Int64.toInt_ofInt_of_le (le_max_left _ _) (Int.lt_add_one_of_le hmost)

theorem saturate_le_saturate {m n : ℤ} (h : m ≤ n) : saturate m ≤ saturate n := by
  rw [Int64.le_iff_toInt_le, toInt_saturate, toInt_saturate]
  exact max_le_max_left _ (min_le_min_right _ h)

theorem saturate_of_le {n : ℤ} (h : Int64.maxValue.toInt ≤ n) : saturate n = Int64.maxValue := by
  rw [saturate, min_eq_right h, max_eq_right (by decide), Int64.ofInt_toInt]

end FleetLocator.Decimal

namespace FleetLocator.Json

open Decimal

namespace Number

/-- The number that is held. -/
def value : Number → ℚ
  | .natural n => n.toNat
  | .negative n => n.toInt
  | .real x => toRat x

/-- Texts give no other numbers. -/
def IsFinite : Number → Prop
  | .real x => x.isFinite = true
  | _ => True

instance (v : Number) : Decidable v.IsFinite := by unfold IsFinite; cases v <;> infer_instance

variable {v w : Number}

theorem toInt64?_of_ofFloat {d : Decimal.Dyadic} (hv : v.whole? = none) (hd : Dyadic.ofFloat v.toFloat = some d) :
    v.toInt64? = some (saturate d.truncate) := by
  rw [toInt64?, hv, cutOff?, hd]
  rfl

/-- The double nearest to a natural beyond 63 bits is beyond them too. -/
theorem exists_ofFloat_natural {n : UInt64} (h : 2 ^ 63 ≤ n.toNat) :
    ∃ d, Dyadic.ofFloat n.toFloat = some d ∧ 2 ^ 63 ≤ d.truncate := by
  have hnear : NearestTo (UInt64.ofNat n.toNat).toFloat n.toNat :=
    nearestTo_toFloat (lt_of_lt_of_le (by norm_num) h) n.toNat_lt
  rw [UInt64.ofNat_toNat] at hnear
  have hpower : Representable (2 ^ 63) := by
    simpa using representable_mul_zpow (n := 1) (j := 63) one_pos (by norm_num) (by norm_num)
  have hle : 2 ^ 63 ≤ toRat n.toFloat := hnear.ge hpower (by exact_mod_cast h)
  obtain ⟨-, m, e, -, hd⟩ := hnear
  refine ⟨⟨false, m, e⟩, hd, ?_⟩
  calc (2 ^ 63 : ℤ) = towardZero ((2 ^ 63 : ℕ) : ℚ) := by rw [towardZero_natCast]; norm_num
    _ ≤ towardZero (toRat n.toFloat) := towardZero_mono (by exact_mod_cast hle)
    _ = Dyadic.truncate ⟨false, m, e⟩ := by rw [toRat_of_ofFloat hd, truncate_eq_towardZero]

theorem toInt64?_natural (n : UInt64) : (natural n).toInt64? = some (saturate n.toNat) := by
  by_cases hn : n < 0x8000000000000000
  · have hwhole : (natural n).whole? = some n.toInt64 := if_pos hn
    rw [toInt64?_of_whole? hwhole, ← toInt_toInt64 hn, saturate_toInt]
  · have hwhole : (natural n).whole? = none := if_neg hn
    have hle : 2 ^ 63 ≤ n.toNat := UInt64.le_iff_toNat_le.mp (UInt64.not_lt.mp hn)
    obtain ⟨d, hd, htruncate⟩ := exists_ofFloat_natural hle
    have hmost : Int64.maxValue.toInt ≤ 2 ^ 63 := by decide
    rw [toInt64?_of_ofFloat hwhole hd, saturate_of_le (hmost.trans htruncate),
      saturate_of_le (hmost.trans (by exact_mod_cast hle))]

/-- In whichever way a number is held, it is cut off and kept within 64 bits. -/
theorem toInt64?_eq (h : v.IsFinite) : v.toInt64? = some (saturate (towardZero v.value)) := by
  cases v with
  | natural n => rw [toInt64?_natural, value, towardZero_natCast]
  | negative n =>
    have hwhole : (negative n).whole? = some n := rfl
    rw [toInt64?_of_whole? hwhole, value, towardZero_intCast, saturate_toInt]
  | real x =>
    obtain ⟨d, hd⟩ := exists_ofFloat h
    have hwhole : (real x).whole? = none := rfl
    rw [toInt64?_of_ofFloat hwhole hd, truncate_eq_towardZero, value, toRat_of_ofFloat hd]

end Number

section

variable {v w : Number} {d e : Document} {name other : String}

theorem optional_of_number (hv : v.IsFinite) (hd : d.get? name = some (.number v)) :
    d.optional Int64 name = some (saturate (towardZero v.value)) := by
  rw [Document.optional_eq_bind rfl, hd]
  exact Number.toInt64?_eq hv

/-- A field that holds a number is read as the number cut off toward zero, or as the integer nearest to it if that
does not fit. So integers that fit are read as they are, the order of numbers is kept, and an integer that was
written is read back. -/
theorem integer_fields (hv : v.IsFinite) (hw : w.IsFinite) (hd : d.get? name = some (.number v))
    (he : e.get? other = some (.number w)) :
    (d.optional Int64 name = some (Int64.ofIntClamp (towardZero v.value)) ∧
      ∀ default, d.field name default = Int64.ofIntClamp (towardZero v.value)) ∧
    (∀ n : Int64, v.value = n.toInt → d.optional Int64 name = some n) ∧
    (v.value ≤ w.value →
      ∃ m n, d.optional Int64 name = some m ∧ e.optional Int64 other = some n ∧ m ≤ n) ∧
    ∀ n : Int64, (d.put name n).optional Int64 name = some n := by
  have hread := optional_of_number hv hd
  rw [← saturate_eq_ofIntClamp]
  refine ⟨⟨hread, fun default => by rw [Document.field, hread, Option.getD_some]⟩, fun n hn => ?_, fun hle => ?_,
    fun n => ?_⟩
  · rw [hread, hn, towardZero_intCast, saturate_toInt]
  · exact ⟨_, _, hread, optional_of_number hw he, saturate_le_saturate (towardZero_mono hle)⟩
  · exact Document.optional_of_get? (faithful_int64 n) (Document.get?_insert_self d name _)

/-- A number of trips that no double has, and one that does not fit 64 bits. -/
theorem integer_fields_of_two :
    let few := Document.empty.insert "totalTrips" (.number (.natural 9007199254740993))
    let many := Document.empty.insert "totalTrips" (.number (.real 1e19))
    (Number.natural 9007199254740993).IsFinite ∧ (Number.real 1e19).IsFinite ∧
      few.get? "totalTrips" = some (.number (.natural 9007199254740993)) ∧
      many.get? "totalTrips" = some (.number (.real 1e19)) ∧
      few.optional Int64 "totalTrips" = some 9007199254740993 ∧
      ∃ m n, few.optional Int64 "totalTrips" = some m ∧ many.optional Int64 "totalTrips" = some n ∧ m ≤ n := by
  intro few many
  have hmany : (Number.real 1e19).IsFinite := by decide
  obtain ⟨-, hexact, horder, -⟩ := integer_fields (v := .natural 9007199254740993) (w := .real 1e19) trivial hmany
    (show few.get? "totalTrips" = _ from rfl) (show many.get? "totalTrips" = _ from rfl)
  exact ⟨trivial, hmany, rfl, rfl, hexact 9007199254740993 rfl, horder (by decide +kernel)⟩

end

end FleetLocator.Json
