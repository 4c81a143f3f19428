import FleetLocator.Proofs.Decimal.Rounding

/-!
# Sums, halves and products of doubles

Where the sum of two doubles, or the half of one, is a number that a double stands for, it is computed exactly.
The exact product of two doubles is rounded once, and is finite if it is not too great.
-/
namespace FleetLocator.Decimal

open Float.Model (Format UnpackedFloat)
open Float.Model.UnpackedFloat (Sign)

/-- The double is finite and stands for the number. -/
structure HasValue (x : Float) (q : ℚ) : Prop where
  isFinite : x.isFinite = true
  toRat : toRat x = q

/-- Some double stands for the number. -/
def IsDouble (q : ℚ) : Prop := ∃ x, HasValue x q

section

variable {x y : Float} {q r : ℚ} {d : Dyadic} {m : ℕ} {e : ℤ}

theorem hasValue_of_ofFloat (h : Dyadic.ofFloat x = some d) : HasValue x d.value :=
  ⟨isFinite_of_ofFloat h, toRat_of_ofFloat h⟩

theorem HasValue.exists_ofFloat (h : HasValue x q) : ∃ d, Dyadic.ofFloat x = some d ∧ d.value = q := by
  obtain ⟨d, hd⟩ := Decimal.exists_ofFloat h.isFinite
  exact ⟨d, hd, by rw [← toRat_of_ofFloat hd, h.toRat]⟩

theorem HasValue.le_iff (hx : HasValue x q) (hy : HasValue y r) : x ≤ y ↔ q ≤ r := by
  rw [le_iff_toRat hx.isFinite hy.isFinite, hx.toRat, hy.toRat]

theorem abs_value (d : Dyadic) : |d.value| = d.mantissa * 2 ^ d.exponent := by
  obtain ⟨negative, m, e⟩ := d
  have hnonneg : (0 : ℚ) ≤ m * 2 ^ e := by positivity
  cases negative with
  | false => rw [Dyadic.value_positive, abs_of_nonneg hnonneg]
  | true => rw [Dyadic.value_negative, abs_neg, abs_of_nonneg hnonneg]

theorem canonical_le_greatest (h : Dyadic.Canonical m e) (he : e ≤ 971) : (m : ℚ) * 2 ^ e ≤ greatest := by
  have hm : m ≤ 2 ^ 53 - 1 := by
    have := h.lt
    omega
  unfold greatest
  gcongr
  exact one_le_two

theorem exponent_le_of_le_greatest (h : Dyadic.Canonical m e) (hle : (m : ℚ) * 2 ^ e ≤ greatest) : e ≤ 971 := by
  by_contra hmore
  have hmul := h.pow_le (f := 971) (by norm_num) (not_le.mp hmore)
  have hp := two_zpow_pos 971
  have hless : greatest < (2 ^ 53 : ℕ) * 2 ^ (971 : ℤ) := by
    unfold greatest
    gcongr
    norm_num
  exact absurd (hmul.trans hle) hless.not_ge

/-- The numbers of doubles are those of 53 binary digits that are not too great. -/
theorem isDouble_iff : IsDouble q ↔ Representable |q| ∧ |q| ≤ greatest := by
  constructor
  · rintro ⟨x, hx⟩
    obtain ⟨d, hd, rfl⟩ := hx.exists_ofFloat
    obtain ⟨hcanonical, hmost⟩ := canonical_of_ofFloat hd
    rw [abs_value]
    exact ⟨⟨_, _, hcanonical, rfl⟩, canonical_le_greatest hcanonical hmost⟩
  · rintro ⟨⟨m, e, hcanonical, heq⟩, hle⟩
    rw [← heq] at hle
    have hd := ofFloat_pack (d := ⟨decide (q < 0), m, e⟩) hcanonical (exponent_le_of_le_greatest hcanonical hle)
    refine ⟨_, isFinite_of_ofFloat hd, ?_⟩
    rw [toRat_of_ofFloat hd]
    by_cases hq : q < 0
    · rw [decide_eq_true hq, Dyadic.value_negative, heq, abs_of_neg hq, neg_neg]
    · rw [decide_eq_false hq, Dyadic.value_positive, heq, abs_of_nonneg (not_lt.mp hq)]

theorem isDouble_zero : IsDouble 0 := ⟨0, by decide, toRat_of_beq_zero (by decide)⟩

theorem isDouble_mul_zpow {a : ℤ} (ha : a.natAbs < 2 ^ 53) (he : -1022 ≤ e) (hle : |(a : ℚ) * 2 ^ e| ≤ greatest) :
    IsDouble (a * 2 ^ e) := by
  rcases eq_or_ne a 0 with rfl | hne
  · rw [Int.cast_zero, zero_mul]
    exact isDouble_zero
  · refine isDouble_iff.mpr ⟨?_, hle⟩
    rw [abs_mul, abs_of_pos (two_zpow_pos e), ← Int.cast_abs, ← Nat.cast_natAbs]
    exact representable_mul_zpow (Int.natAbs_pos.mpr hne) ha he

theorem Representable.twice (h : Representable q) : Representable (2 * q) := by
  obtain ⟨m, e, hcanonical, rfl⟩ := h
  have hleast := hcanonical.least
  by_cases hfull : 2 ^ 52 ≤ m
  · refine ⟨m, e + 1, ⟨hcanonical.lt, by omega, .inl hfull⟩, ?_⟩
    rw [zpow_add_one₀ two_ne_zero]
    ring
  · refine ⟨2 * m, e, ⟨by omega, hleast, .inr (hcanonical.full.resolve_left hfull)⟩, ?_⟩
    push_cast
    ring

theorem IsDouble.twice (h : IsDouble q) (hle : |2 * q| ≤ greatest) : IsDouble (2 * q) := by
  refine isDouble_iff.mpr ⟨?_, hle⟩
  rw [abs_mul, abs_two]
  exact (isDouble_iff.mp h).1.twice

/-- A number of 53 digits is rounded to itself. -/
theorem roundsTo_self (hq : 0 < q) (h : Representable q) : ∃ m e, RoundsTo q m e ∧ (m : ℚ) * 2 ^ e = q := by
  obtain ⟨m, e, hcanonical, rfl⟩ := h
  exact ⟨m, e, (within_self m e).roundsTo hcanonical hq, rfl⟩

theorem hasValue_round (s : Sign) (hm : 0 < m) (h : IsDouble ((s.apply m : ℤ) * 2 ^ e)) :
    HasValue (Float.ofModel (.pack (.round .binary64 s m e))) ((s.apply m : ℤ) * 2 ^ e) := by
  have hpos : (0 : ℚ) < m * 2 ^ e := mul_pos (by exact_mod_cast hm) (two_zpow_pos e)
  have habs : |((s.apply m : ℤ) : ℚ) * 2 ^ e| = m * 2 ^ e := by
    cases s <;> simp [Sign.apply, abs_mul, abs_of_pos (two_zpow_pos e)]
  obtain ⟨hrepresentable, hle⟩ := isDouble_iff.mp h
  rw [habs] at hrepresentable hle
  obtain ⟨n, p, hround, heq⟩ := roundsTo_self hpos hrepresentable
  have hd := ofFloat_pack_round s hm hround (hround.exponent_le hpos hle)
  refine ⟨isFinite_of_ofFloat hd, ?_⟩
  rw [toRat_of_ofFloat hd]
  cases s with
  | positive => exact (Dyadic.value_positive n p).trans (by rw [heq, Sign.apply, Int.cast_natCast])
  | negative =>
    exact (Dyadic.value_negative n p).trans (by rw [heq, Sign.apply, Int.cast_neg, Int.cast_natCast, neg_mul])

theorem hasValue_zero (s : Sign) : HasValue (Float.ofModel (.pack (.zero s))) 0 := by
  have hd : Dyadic.ofFloat (Float.ofModel (.pack (.zero s))) = some ⟨isMinus s, 0, -1074⟩ := by cases s <;> rfl
  exact Dyadic.value_zero (isMinus s) (-1074) ▸ hasValue_of_ofFloat hd

theorem hasValue_normalize (a : ℤ) (s : Sign) (h : IsDouble (a * 2 ^ e)) :
    HasValue (Float.ofModel (.pack (.normalize .binary64 a e s))) (a * 2 ^ e) := by
  rcases lt_trichotomy a 0 with hneg | rfl | hpos
  · have hm : Sign.negative.apply ((-a).toNat : ℤ) = a := by rw [Sign.apply]; omega
    rw [UnpackedFloat.normalize, Int.compare_eq_lt.mpr hneg]
    rw [← hm] at h
    have hvalue := hasValue_round .negative (by omega) h
    rwa [hm] at hvalue
  · rw [Int.cast_zero, zero_mul]
    exact hasValue_zero s
  · have hm : Sign.positive.apply (a.toNat : ℤ) = a := by rw [Sign.apply]; omega
    rw [UnpackedFloat.normalize, Int.compare_eq_gt.mpr hpos]
    rw [← hm] at h
    have hvalue := hasValue_round .positive (by omega) h
    rwa [hm] at hvalue

theorem cast_apply (s : Sign) (n : ℕ) : ((s.apply n : ℤ) : ℚ) = (s.apply 1 : ℤ) * n := by
  cases s <;> simp [Sign.apply]

/-- A number in units of a lower exponent. -/
theorem apply_shifted (s : Sign) (m : ℕ) {e p : ℤ} (h : p ≤ e) :
    ((s.apply ((m * 2 ^ (e - p).toNat : ℕ) : ℤ) : ℤ) : ℚ) * 2 ^ p = (s.apply m : ℤ) * 2 ^ e := by
  have hpow : (2 : ℚ) ^ (e - p).toNat * 2 ^ p = 2 ^ e := by
    rw [← zpow_natCast, ← zpow_add₀ two_ne_zero]
    congr 1
    omega
  rw [cast_apply, cast_apply s m, ← hpow]
  push_cast
  ring

theorem value_eq_apply (d : Dyadic) : d.value = (d.sign.apply d.mantissa : ℤ) * 2 ^ d.exponent := by
  obtain ⟨negative, m, e⟩ := d
  cases negative <;> simp [Dyadic.value, Dyadic.sign, Sign.apply]

theorem unpacked_of_pos (h : 0 < d.mantissa) : d.unpacked = .finite d.sign d.mantissa d.exponent h :=
  dif_neg h.ne'

theorem unpacked_of_eq_zero (h : d.mantissa = 0) : d.unpacked = .zero d.sign := dif_pos h

theorem value_of_eq_zero (h : d.mantissa = 0) : d.value = 0 := by
  rw [Dyadic.value, h, Nat.cast_zero, zero_mul, mul_zero]

theorem hasValue_pack (h : Dyadic.ofFloat x = some d) : HasValue (Float.ofModel (.pack d.unpacked)) d.value := by
  obtain ⟨hcanonical, hmost⟩ := canonical_of_ofFloat h
  exact hasValue_of_ofFloat (ofFloat_pack hcanonical hmost)

/-- The sum of two doubles of which neither is zero, before it is rounded. -/
theorem add_finite (s t : Sign) {n : ℕ} {f : ℤ} (hm : 0 < m) (hn : 0 < n) :
    UnpackedFloat.add .binary64 (.finite s m e hm) (.finite t n f hn) =
      .normalize .binary64 (s.apply ((m * 2 ^ (e - min e f).toNat : ℕ) : ℤ) +
        t.apply ((n * 2 ^ (f - min e f).toNat : ℕ) : ℤ)) (min e f) .positive := by
  rw [← Nat.shiftLeft_eq, ← Nat.shiftLeft_eq]
  rfl

theorem hasValue_add (hx : HasValue x q) (hy : HasValue y r) (h : IsDouble (q + r)) : HasValue (x + y) (q + r) := by
  obtain ⟨c, hc, rfl⟩ := hx.exists_ofFloat
  obtain ⟨d, hd, rfl⟩ := hy.exists_ofFloat
  have hadd : x + y = Float.ofModel (.pack (.add .binary64 c.unpacked d.unpacked)) := by
    rw [← unpack_of_ofFloat hc, ← unpack_of_ofFloat hd]
    rfl
  rw [hadd]
  rcases Nat.eq_zero_or_pos c.mantissa with hm | hm <;> rcases Nat.eq_zero_or_pos d.mantissa with hn | hn
  · rw [value_of_eq_zero hm, value_of_eq_zero hn, add_zero, unpacked_of_eq_zero hm, unpacked_of_eq_zero hn]
    cases c.sign <;> cases d.sign <;> exact hasValue_zero _
  · have hpack := hasValue_pack hd
    rw [unpacked_of_pos hn] at hpack
    rw [value_of_eq_zero hm, zero_add, unpacked_of_eq_zero hm, unpacked_of_pos hn]
    exact hpack
  · have hpack := hasValue_pack hc
    rw [unpacked_of_pos hm] at hpack
    rw [value_of_eq_zero hn, add_zero, unpacked_of_eq_zero hn, unpacked_of_pos hm]
    exact hpack
  · have hsum : c.value + d.value =
        ((c.sign.apply ((c.mantissa * 2 ^ (c.exponent - min c.exponent d.exponent).toNat : ℕ) : ℤ) +
          d.sign.apply ((d.mantissa * 2 ^ (d.exponent - min c.exponent d.exponent).toNat : ℕ) : ℤ) : ℤ) : ℚ) *
          2 ^ min c.exponent d.exponent := by
      rw [value_eq_apply, value_eq_apply, Int.cast_add, add_mul, apply_shifted _ _ (min_le_left _ _),
        apply_shifted _ _ (min_le_right _ _)]
    rw [unpacked_of_pos hm, unpacked_of_pos hn, add_finite]
    rw [hsum] at h ⊢
    exact hasValue_normalize _ _ h

theorem hasValue_half (hx : HasValue x q) (h : IsDouble (q / 2)) : HasValue (x / 2) (q / 2) := by
  obtain ⟨d, hd, rfl⟩ := hx.exists_ofFloat
  have htwo : Dyadic.ofFloat 2 = some ⟨false, 2 ^ 52, -51⟩ := by decide +kernel
  rcases Nat.eq_zero_or_pos d.mantissa with hm | hm
  · have hdiv : x / 2 = Float.ofModel (.pack (.div .binary64 d.unpacked (2 : Float).toModel.unpack)) := by
      rw [← unpack_of_ofFloat hd]
      rfl
    rw [hdiv, unpack_of_positive htwo (by norm_num), unpacked_of_eq_zero hm, value_of_eq_zero hm, zero_div]
    cases d.sign <;> exact hasValue_zero _
  · obtain ⟨negative, m, e⟩ := d
    have hvalue : ((2 ^ 52 : ℕ) : ℚ) * 2 ^ (-51 : ℤ) = 2 := by norm_num
    have hpos : (0 : ℚ) < m * 2 ^ e / 2 := div_pos (mul_pos (by exact_mod_cast hm) (two_zpow_pos e)) two_pos
    have habs : |(Dyadic.mk negative m e).value / 2| = m * 2 ^ e / 2 := by
      rw [abs_div, abs_value, abs_two]
    obtain ⟨hrepresentable, hle⟩ := isDouble_iff.mp h
    rw [habs] at hrepresentable hle
    obtain ⟨n, p, hround, heq⟩ := roundsTo_self hpos hrepresentable
    have hhalf : Dyadic.ofFloat (x / 2) = some ⟨negative, n, p⟩ :=
      ofFloat_div hd htwo hm (by norm_num) (by rw [hvalue]; exact hround) (hround.exponent_le hpos hle)
    refine ⟨isFinite_of_ofFloat hhalf, ?_⟩
    rw [toRat_of_ofFloat hhalf]
    simp only [Dyadic.value, heq]
    ring

end

variable {x y : Float} {c d : Dyadic} {m n k : ℕ} {e f p : ℤ}

/-- The exact product has no fewer digits than are kept of it. -/
theorem add_exponent_le (hm : 0 < m) (hn : 0 < n) (hc : Dyadic.Canonical m e) (hd : Dyadic.Canonical n f) :
    e + f ≤ lastPlace ((m * n : ℕ) * 2 ^ (e + f)) := by
  have hmn : 0 < m * n := Nat.mul_pos hm hn
  rw [lastPlace_scaled hmn]
  by_cases hfull : 2 ^ 52 ≤ m * n
  · have hlog := (Nat.le_log2 hmn.ne').mpr hfull
    omega
  · have hle : m ≤ m * n := Nat.le_mul_of_pos_right m hn
    have hle' : n ≤ m * n := Nat.le_mul_of_pos_left n hm
    have he := hc.full.resolve_left (by omega)
    have hf := hd.full.resolve_left (by omega)
    omega

/-- The product of two doubles of which neither is zero is the rounded product of their values. -/
theorem ofFloat_mul (hx : Dyadic.ofFloat x = some c) (hy : Dyadic.ofFloat y = some d) (hm : 0 < c.mantissa)
    (hn : 0 < d.mantissa)
    (hr : RoundsTo ((c.mantissa * d.mantissa : ℕ) * 2 ^ (c.exponent + d.exponent)) k p) (hp : p ≤ 971) :
    Dyadic.ofFloat (x * y) = some ⟨isMinus (c.sign * d.sign), k, p⟩ := by
  have hexponent := add_exponent_le hm hn (canonical_of_ofFloat hx).1 (canonical_of_ofFloat hy).1
  have hmn : 0 < c.mantissa * d.mantissa := Nat.mul_pos hm hn
  have hmul : x * y = Float.ofModel (.pack (.mul .binary64 x.toModel.unpack y.toModel.unpack)) := rfl
  rw [hmul, unpack_of_ofFloat hx, unpack_of_ofFloat hy, unpacked_of_pos hm, unpacked_of_pos hn]
  exact ofFloat_round (c.sign * d.sign) (represents_exact _) (by exact_mod_cast hmn) hexponent (.inl hmn) hr hp

theorem abs_value_mul (c d : Dyadic) :
    |c.value * d.value| = (c.mantissa * d.mantissa : ℕ) * 2 ^ (c.exponent + d.exponent) := by
  rw [abs_mul, abs_value, abs_value, zpow_add₀ two_ne_zero]
  push_cast
  ring

theorem isFinite_mul (hx : x.isFinite = true) (hy : y.isFinite = true) (hle : |toRat x * toRat y| ≤ greatest) :
    (x * y).isFinite = true := by
  obtain ⟨c, hc⟩ := exists_ofFloat hx
  obtain ⟨d, hd⟩ := exists_ofFloat hy
  have hmul : x * y = Float.ofModel (.pack (.mul .binary64 c.unpacked d.unpacked)) := by
    rw [← unpack_of_ofFloat hc, ← unpack_of_ofFloat hd]
    rfl
  rcases Nat.eq_zero_or_pos c.mantissa with hm | hm <;> rcases Nat.eq_zero_or_pos d.mantissa with hn | hn
  · rw [hmul, unpacked_of_eq_zero hm, unpacked_of_eq_zero hn]
    exact (hasValue_zero (c.sign * d.sign)).isFinite
  · rw [hmul, unpacked_of_eq_zero hm, unpacked_of_pos hn]
    exact (hasValue_zero (c.sign * d.sign)).isFinite
  · rw [hmul, unpacked_of_pos hm, unpacked_of_eq_zero hn]
    exact (hasValue_zero (c.sign * d.sign)).isFinite
  · rw [toRat_of_ofFloat hc, toRat_of_ofFloat hd, abs_value_mul] at hle
    have hpos : (0 : ℚ) < (c.mantissa * d.mantissa : ℕ) * 2 ^ (c.exponent + d.exponent) :=
      mul_pos (by exact_mod_cast Nat.mul_pos hm hn) (two_zpow_pos _)
    obtain ⟨k, p, hround⟩ := exists_roundsTo hpos
    exact isFinite_of_ofFloat (ofFloat_mul hc hd hm hn hround (hround.exponent_le hpos hle))

theorem abs_toRat_le_one (hlow : -1 ≤ x) (hhigh : x ≤ 1) : x.isFinite = true ∧ |toRat x| ≤ 1 := by
  have hone : Dyadic.ofFloat 1 = some ⟨false, 2 ^ 52, -52⟩ := by decide +kernel
  have hfinite := isFinite_of_ofFloat hone
  have hvalue : toRat 1 = 1 := by
    rw [toRat_of_ofFloat hone, Dyadic.value_positive]
    norm_num
  have hx : x.isFinite = true := isFinite_of_between (isFinite_neg hfinite) hfinite hlow hhigh
  have hlow' := (le_iff_toRat (isFinite_neg hfinite) hx).mp hlow
  have hhigh' := (le_iff_toRat hx hfinite).mp hhigh
  rw [toRat_neg hfinite, hvalue] at hlow'
  rw [hvalue] at hhigh'
  exact ⟨hx, abs_le.mpr ⟨hlow', hhigh'⟩⟩

theorem isFinite_mul_of_le_one (hx : x.isFinite = true) (hlow : -1 ≤ y) (hhigh : y ≤ 1) :
    (x * y).isFinite = true := by
  obtain ⟨hy, hone⟩ := abs_toRat_le_one hlow hhigh
  have hgreatest := (isDouble_iff.mp ⟨x, hx, rfl⟩).2
  refine isFinite_mul hx hy ?_
  calc |toRat x * toRat y| = |toRat x| * |toRat y| := abs_mul _ _
    _ ≤ |toRat x| := mul_le_of_le_one_right (abs_nonneg _) hone
    _ ≤ greatest := hgreatest

end FleetLocator.Decimal
