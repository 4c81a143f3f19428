import FleetLocator.Json.Number
import FleetLocator.Proofs.Decimal.Rounding

/-!
# Scaling a significand by a power of ten

A reader makes doubles of the significand and of the power of ten and divides the one by the other. With few
digits and a small power only the division rounds; in any case a bound with few digits is kept.
-/
namespace FleetLocator.Json

open Decimal
open Float.Model (Format UnpackedFloat)

variable {x y : Float} {k n c : ℕ} {q : ℚ}

/-- The double has no sign and stands for the power. -/
def isPower (x : Float) (k : ℕ) : Bool :=
  (Dyadic.ofFloat x).any fun d =>
    !d.negative && decide (-52 ≤ d.exponent) && d.mantissa * 2 ^ (d.exponent + 52).toNat == 10 ^ k * 2 ^ 52

theorem isPower_powerOfTen : ∀ k < 23, isPower (powerOfTen k) k = true := by decide +kernel

theorem nearestTo_of_isPower (h : isPower x k = true) : NearestTo x (10 ^ k) := by
  unfold isPower at h
  rw [Option.any_eq_true] at h
  obtain ⟨⟨negative, m, e⟩, hx, hd⟩ := h
  simp only [Bool.and_eq_true, Bool.not_eq_true', decide_eq_true_eq, beq_iff_eq] at hd
  obtain ⟨⟨rfl, hleast⟩, hvalue⟩ := hd
  have hcast : (m : ℚ) * 2 ^ (e + 52).toNat = 10 ^ k * 2 ^ 52 := by exact_mod_cast hvalue
  have hpow : (m : ℚ) * 2 ^ e = 10 ^ k := by
    rw [← mul_left_inj' (pow_ne_zero 52 (two_ne_zero (α := ℚ))), ← hcast, mul_assoc, ← zpow_natCast,
      ← zpow_natCast, ← zpow_add₀ two_ne_zero]
    congr 2
    omega
  refine ⟨by positivity, m, e, ?_, hx⟩
  rw [← hpow]
  exact (within_self m e).roundsTo (canonical_of_ofFloat hx).1 (by rw [hpow]; positivity)

theorem ofScientific_eq (hk : 22 < k) (hle : k ≤ 308) :
    powerOfTen k = Float.ofModel (.pack (.roundWithAccuracy .binary64 .positive (10 ^ k * 2 ^ 53) (-53) .exact)) := by
  have hfast : ¬(1 < 2 ^ 53 ∧ k ≤ 22) := fun h => by omega
  have hmost : ¬((k : ℤ) > 2 ^ 11) := by norm_num; omega
  have hleast : ¬((k : ℤ) < -((2 ^ 11 : ℤ) + (Nat.log2 1 : ℤ))) := by omega
  have hone : 1 <<< 53 * 10 ^ k = 10 ^ k * 2 ^ 53 := by rw [Nat.shiftLeft_eq]; ring
  have hmodel : powerOfTen k = Float.ofModel (.pack (.ofScientific .binary64 1 k)) := dif_neg hfast
  have hnormal : UnpackedFloat.ofScientific .binary64 1 k =
      .roundWithAccuracy .binary64 .positive (1 <<< 53 * 10 ^ k) (-53) .exact := by
    unfold UnpackedFloat.ofScientific
    rw [dif_neg one_ne_zero]
    exact (if_neg hmost).trans ((if_neg hleast).trans ((if_pos (Int.natCast_nonneg k)).trans rfl))
  rw [hmodel, hnormal, hone]

theorem nearestTo_powerOfTen (hk : k ≤ 308) : NearestTo (powerOfTen k) (10 ^ k) := by
  by_cases hsmall : k < 23
  · exact nearestTo_of_isPower (isPower_powerOfTen k hsmall)
  have hpos : 0 < 10 ^ k := Nat.pow_pos (by norm_num)
  have hq : (0 : ℚ) < ((10 ^ k : ℕ) : ℚ) := by exact_mod_cast hpos
  obtain ⟨m, e, hround⟩ := exists_roundsTo hq
  have he := hround.exponent_le hq (natCast_le_greatest hk le_rfl)
  have hlast : -((53 : ℕ) : ℤ) ≤ lastPlace ((10 ^ k : ℕ) : ℚ) := by
    rw [lastPlace_natCast hpos]
    omega
  have hx := ofFloat_round_shifted hpos hlast hround he
  rw [Nat.cast_pow, Nat.cast_ofNat] at hround hq
  refine ⟨hq, m, e, hround, ?_⟩
  rw [ofScientific_eq (by omega) hk]
  exact hx

theorem representable_mul_pow (hc : 0 < c) (hlt : c * 5 ^ k < 2 ^ 53) : Representable (c * 10 ^ k) := by
  have h := representable_mul_zpow (n := c * 5 ^ k) (j := k) (by positivity) hlt (by omega)
  have hten : (c : ℚ) * 10 ^ k = ((c * 5 ^ k : ℕ) : ℚ) * 2 ^ (k : ℤ) := by
    have : (10 : ℚ) ^ k = 5 ^ k * 2 ^ k := by rw [← mul_pow]; norm_num
    rw [this, zpow_natCast]
    push_cast
    ring
  rw [hten]
  exact h

theorem representable_pow (hk : k ≤ 22) : Representable (10 ^ k) := by
  have hsmall : 5 ^ k ≤ 5 ^ 22 := Nat.pow_le_pow_right (by norm_num) hk
  simpa using representable_mul_pow (c := 1) (k := k) one_pos (by norm_num at hsmall ⊢; omega)

theorem toRat_powerOfTen (hk : k ≤ 22) : toRat (powerOfTen k) = 10 ^ k :=
  (nearestTo_powerOfTen (by omega)).eq (representable_pow hk)

theorem le_toRat_powerOfTen (hn : n ≤ 22) (hnk : n ≤ k) (hk : k ≤ 308) : 10 ^ n ≤ toRat (powerOfTen k) :=
  (nearestTo_powerOfTen hk).ge (representable_pow hn) (pow_le_pow_right₀ (by norm_num) hnk)

theorem toRat_powerOfTen_pos (hk : k ≤ 308) : 0 < toRat (powerOfTen k) := by
  have h := le_toRat_powerOfTen (n := 0) (by norm_num) (Nat.zero_le k) hk
  linarith

theorem scale_near (more : ℕ) (x : Float) (hpos : 0 < k) (hk : k ≤ 308) :
    scale more x (-k) = some (x / powerOfTen k) := by
  obtain ⟨k, rfl⟩ : ∃ j, k = j + 1 := ⟨k - 1, by omega⟩
  have hneg : -((k + 1 : ℕ) : ℤ) = .negSucc k := rfl
  unfold scale
  rw [if_pos (by omega), hneg]

theorem scale_zero (more : ℕ) (hx : (x == 0) = true) (hk : 308 < k) : scale more x (-k) = some x := by
  unfold scale
  rw [if_neg (by omega), hx, if_pos rfl]

theorem scale_last (hx : (x == 0) = false) (hk : 308 < k) : scale 0 x (-k) = some 0 := by
  unfold scale
  rw [if_neg (by omega), hx, if_neg Bool.false_ne_true, if_neg (by omega)]

theorem scale_far (more : ℕ) (hx : (x == 0) = false) (hk : 308 < k) :
    scale (more + 1) x (-k) = scale more (x / powerOfTen 308) (-((k - 308 : ℕ) : ℤ)) := by
  have hpower : -(k : ℤ) + 308 = -((k - 308 : ℕ) : ℤ) := by omega
  conv_lhs => unfold scale
  rw [if_neg (by omega), hx, if_neg Bool.false_ne_true, if_neg (by omega), hpower]

/-- Only scaling up can leave the doubles. -/
theorem exists_scale (more : ℕ) (x : Float) (hpos : 0 < k) : ∃ y, scale more x (-k) = some y := by
  induction more generalizing x k with
  | zero =>
    by_cases hk : k ≤ 308
    · exact ⟨_, scale_near 0 x hpos hk⟩
    · cases hzero : x == 0 with
      | true => exact ⟨x, scale_zero 0 hzero (by omega)⟩
      | false => exact ⟨0, scale_last hzero (by omega)⟩
  | succ more ih =>
    by_cases hk : k ≤ 308
    · exact ⟨_, scale_near _ x hpos hk⟩
    · cases hzero : x == 0 with
      | true => exact ⟨x, scale_zero _ hzero (by omega)⟩
      | false =>
        rw [scale_far more hzero (by omega)]
        exact ih _ (by omega)

theorem unsigned_div_powerOfTen (hx : Unsigned x) (hq : Representable q) (hgreatest : q ≤ greatest)
    (hle : toRat x ≤ q) (hk : k ≤ 308) : Unsigned (x / powerOfTen k) ∧ toRat (x / powerOfTen k) ≤ q := by
  have hone := le_toRat_powerOfTen (n := 0) (by norm_num) (Nat.zero_le k) hk
  apply unsigned_div hx (toRat_powerOfTen_pos hk) hq hgreatest
  obtain ⟨m, e, -, rfl⟩ := hq
  exact hle.trans (le_mul_of_one_le_right (by positivity) (by simpa using hone))

/-- Scaling down does not exceed what the number itself does not exceed. -/
theorem scale_le_of_le (more : ℕ) (hx : Unsigned x) (hq : Representable q) (hgreatest : q ≤ greatest)
    (hle : toRat x ≤ q) (hpos : 0 < k) :
    ∃ y, scale more x (-k) = some y ∧ Unsigned y ∧ toRat y ≤ q := by
  induction more generalizing x k with
  | zero =>
    by_cases hk : k ≤ 308
    · exact ⟨_, scale_near 0 x hpos hk, unsigned_div_powerOfTen hx hq hgreatest hle hk⟩
    · cases hzero : x == 0 with
      | true => exact ⟨x, scale_zero 0 hzero (by omega), hx, hle⟩
      | false =>
        have hq0 : toRat 0 ≤ q := by
          rw [toRat_of_beq_zero rfl]
          obtain ⟨m, e, -, rfl⟩ := hq
          positivity
        exact ⟨0, scale_last hzero (by omega), ⟨0, -1074, rfl⟩, hq0⟩
  | succ more ih =>
    by_cases hk : k ≤ 308
    · exact ⟨_, scale_near _ x hpos hk, unsigned_div_powerOfTen hx hq hgreatest hle hk⟩
    · cases hzero : x == 0 with
      | true => exact ⟨x, scale_zero _ hzero (by omega), hx, hle⟩
      | false =>
        obtain ⟨hunsigned, hless⟩ := unsigned_div_powerOfTen hx hq hgreatest hle le_rfl
        rw [scale_far more hzero (by omega)]
        exact ih hunsigned hless (by omega)

/-- With a small power the significand is rounded, and then the quotient. -/
theorem scale_twice (hn : 0 < n) (hsmall : n ≤ 10 ^ 17) (hpos : 0 < k) (hk : k ≤ 22) :
    ∃ y, scale 2 (UInt64.ofNat n).toFloat (-k) = some y ∧
      NearestTo y (toRat (UInt64.ofNat n).toFloat / 10 ^ k) := by
  have hx := nearestTo_toFloat hn (hsmall.trans_lt (by decide))
  have hone : 1 ≤ toRat (UInt64.ofNat n).toFloat :=
    hx.ge representable_one (by exact_mod_cast hn)
  have hle : toRat (UInt64.ofNat n).toFloat ≤ 10 ^ 17 :=
    hx.le (representable_pow (by norm_num)) (by exact_mod_cast hsmall)
  have hgreatest : (10 : ℚ) ^ 17 ≤ greatest := by
    have := natCast_le_greatest (k := 17) (by norm_num) le_rfl
    exact_mod_cast this
  have hquotient : toRat (UInt64.ofNat n).toFloat / 10 ^ k ≤ greatest :=
    (div_le_self (by linarith) (one_le_pow₀ (by norm_num))).trans (hle.trans hgreatest)
  refine ⟨_, scale_near 2 _ hpos (by omega), ?_⟩
  rw [← toRat_powerOfTen hk] at hquotient ⊢
  exact nearestTo_div (by linarith) (toRat_powerOfTen_pos (by omega)) hquotient

/-- With few digits and a small power only the quotient is rounded. -/
theorem scale_exact (hn : 0 < n) (hlt : n < 2 ^ 53) (hpos : 0 < k) (hk : k ≤ 22) :
    ∃ y, scale 2 (UInt64.ofNat n).toFloat (-k) = some y ∧ NearestTo y (n / 10 ^ k) := by
  obtain ⟨y, hy, hnearest⟩ := scale_twice hn (hlt.le.trans (by norm_num)) hpos hk
  rw [(nearestTo_toFloat hn (hlt.trans (by decide))).eq (representable_natCast hn hlt)] at hnearest
  exact ⟨y, hy, hnearest⟩

/-- Before the quotient is rounded it is off by no more than a rounding. -/
theorem scale_error (hn : 0 < n) (hsmall : n ≤ 10 ^ 17) (hpos : 0 < k) (hk : k ≤ 22) :
    ∃ y v, scale 2 (UInt64.ofNat n).toFloat (-k) = some y ∧ NearestTo y v ∧
      |v - n / 10 ^ k| ≤ (n : ℚ) / 10 ^ k / 2 ^ 53 := by
  obtain ⟨y, hy, hnearest⟩ := scale_twice hn hsmall hpos hk
  have herror := (nearestTo_toFloat hn (hsmall.trans_lt (by decide))).error_le (by
    rw [lastPlace_natCast hn]
    omega)
  refine ⟨y, _, hy, hnearest, ?_⟩
  rw [← sub_div, abs_div, abs_of_pos (show (0 : ℚ) < 10 ^ k by positivity), div_right_comm]
  gcongr

/-- A bound of few digits is kept. -/
theorem scale_le (hn : 0 < n) (hsmall : n ≤ 10 ^ 17) (hpos : 0 < k) (hc : 0 < c) (hc' : c ≤ 180)
    (hle : n ≤ c * 10 ^ k) :
    ∃ y, scale 2 (UInt64.ofNat n).toFloat (-k) = some y ∧ Unsigned y ∧ toRat y ≤ c := by
  have hx := nearestTo_toFloat hn (hsmall.trans_lt (by decide))
  have hgreatest {j : ℕ} (hj : j ≤ 180) : (j : ℚ) ≤ greatest :=
    natCast_le_greatest (k := 3) (by norm_num) (by omega)
  have hone : (1 : ℚ) ≤ c := by exact_mod_cast hc
  by_cases hfew : k ≤ 17
  · -- The bound times the power is itself a double.
    have hfive : 5 ^ k ≤ 5 ^ 17 := Nat.pow_le_pow_right (by norm_num) hfew
    have hbound := hx.le (representable_mul_pow hc (k := k) (by nlinarith)) (by exact_mod_cast hle)
    refine ⟨_, scale_near 2 _ hpos (by omega), ?_⟩
    apply unsigned_div hx.unsigned (toRat_powerOfTen_pos (by omega))
      (representable_natCast hc (by omega)) (hgreatest hc')
    rw [toRat_powerOfTen (by omega)]
    exact hbound
  · -- A greater power is above every significand.
    have hbound : toRat (UInt64.ofNat n).toFloat ≤ 10 ^ 17 :=
      hx.le (representable_pow (by norm_num)) (by exact_mod_cast hsmall)
    have hdiv {j : ℕ} (hj : 17 ≤ j) (hj' : j ≤ 308) :
        Unsigned ((UInt64.ofNat n).toFloat / powerOfTen j) ∧ toRat ((UInt64.ofNat n).toFloat / powerOfTen j) ≤ 1 := by
      apply unsigned_div hx.unsigned (toRat_powerOfTen_pos hj')
        representable_one (by simpa using hgreatest (j := 1) (by norm_num))
      rw [one_mul]
      exact hbound.trans (le_toRat_powerOfTen (by norm_num) hj hj')
    by_cases hk : k ≤ 308
    · obtain ⟨hunsigned, hless⟩ := hdiv (by omega) hk
      exact ⟨_, scale_near 2 _ hpos hk, hunsigned, hless.trans hone⟩
    · obtain ⟨hunsigned, hless⟩ := hdiv (by norm_num) le_rfl
      have hne : ((UInt64.ofNat n).toFloat == 0) = false := by
        have hpos := hx.ge representable_one
          (by exact_mod_cast hn)
        refine Bool.eq_false_iff.mpr fun hzero => ?_
        rw [toRat_of_beq_zero hzero] at hpos
        linarith
      rw [scale_far 1 hne (by omega)]
      exact scale_le_of_le 1 hunsigned (representable_natCast hc (by omega)) (hgreatest hc') (hless.trans hone)
        (by omega)

end FleetLocator.Json
