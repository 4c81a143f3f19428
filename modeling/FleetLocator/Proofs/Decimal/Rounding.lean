import FleetLocator.Proofs.Decimal.Dyadic

/-!
# Rounding to the nearest double

A quotient of doubles, a product and a whole number made a double are the double nearest to the exact result,
and the even one of two that are equally near. Rounding is monotone, and it hits a double from everywhere
halfway to its neighbours.
-/
namespace FleetLocator.Decimal

open Float.Model (Format UnpackedFloat totalExponent)
open Float.Model.UnpackedFloat (Accuracy ExtendedMantissa Sign)

structure IsNearest (t : ℚ) (n : ℕ) : Prop where
  near : |t - n| ≤ 1 / 2
  even : |t - n| = 1 / 2 → n % 2 = 0

section IsNearest

variable {t : ℚ} {m n k : ℕ}

theorem IsNearest.le (h : IsNearest t n) (ht : t ≤ k) : n ≤ k := by
  by_contra hgt
  have hcast : (k : ℚ) + 1 ≤ n := by exact_mod_cast not_le.mp hgt
  have := (abs_le.mp h.near).1
  linarith

theorem IsNearest.ge (h : IsNearest t n) (ht : k ≤ t) : k ≤ n := by
  by_contra hlt
  have hcast : (n : ℚ) + 1 ≤ k := by exact_mod_cast not_le.mp hlt
  have := (abs_le.mp h.near).2
  linarith

private theorem not_lt_of_isNearest (hm : IsNearest t m) (hn : IsNearest t n) : ¬m < n := by
  intro hlt
  have hcast : (m : ℚ) + 1 ≤ n := by exact_mod_cast hlt
  have hlow := (abs_le.mp hm.near).2
  have hhigh := (abs_le.mp hn.near).1
  have htm : t - m = 1 / 2 := by linarith
  have htn : t - n = -(1 / 2) := by linarith
  have hnext : (n : ℚ) = m + 1 := by linarith
  have hsucc : n = m + 1 := by exact_mod_cast hnext
  have heven := hm.even (by rw [htm]; norm_num)
  have heven' := hn.even (by rw [htn]; norm_num)
  omega

theorem IsNearest.unique (hm : IsNearest t m) (hn : IsNearest t n) : m = n :=
  le_antisymm (not_lt.mp (not_lt_of_isNearest hn hm)) (not_lt.mp (not_lt_of_isNearest hm hn))

theorem isNearest_self (n : ℕ) : IsNearest n n := by
  constructor <;> norm_num

end IsNearest

theorem exists_isNearest {t : ℚ} (ht : 0 ≤ t) : ∃ n, IsNearest t n := by
  have hlow := Nat.floor_le ht
  have hhigh := Nat.lt_floor_add_one t
  rcases lt_trichotomy (t - ⌊t⌋₊) (1 / 2) with hlt | heq | hgt
  · have hd : |t - ⌊t⌋₊| < 1 / 2 := abs_lt.mpr ⟨by linarith, hlt⟩
    exact ⟨⌊t⌋₊, hd.le, fun h => absurd h hd.ne⟩
  · rcases Nat.mod_two_eq_zero_or_one ⌊t⌋₊ with heven | hodd
    · exact ⟨⌊t⌋₊, by rw [heq]; norm_num, fun _ => heven⟩
    · refine ⟨⌊t⌋₊ + 1, ?_, fun _ => by omega⟩
      push_cast
      rw [abs_le]
      constructor <;> linarith
  · have hd : |t - ((⌊t⌋₊ + 1 : ℕ) : ℚ)| < 1 / 2 := by
      push_cast
      exact abs_lt.mpr ⟨by linarith, by linarith⟩
    exact ⟨⌊t⌋₊ + 1, hd.le, fun h => absurd h hd.ne⟩

/-- The mantissa and its two residual bits say where a number lies between two integers. -/
def Represents (em : ExtendedMantissa) (t : ℚ) : Prop :=
  match em.roundBit, em.stickyBit with
  | false, false => t = em.mantissa
  | false, true => em.mantissa < t ∧ t < em.mantissa + 1 / 2
  | true, false => t = em.mantissa + 1 / 2
  | true, true => em.mantissa + 1 / 2 < t ∧ t < em.mantissa + 1

section Represents

variable {em : ExtendedMantissa} {t : ℚ}

theorem Represents.between (h : Represents em t) : em.mantissa ≤ t ∧ t < em.mantissa + 1 := by
  rcases em with ⟨m, r, s⟩
  cases r <;> cases s <;> simp only [Represents] at h ⊢ <;> constructor <;> linarith

theorem Represents.isNearest (h : Represents em t) : IsNearest t em.roundedMantissa := by
  rcases em with ⟨m, r, s⟩
  cases r <;> cases s <;>
    simp only [Represents, ExtendedMantissa.roundedMantissa, ExtendedMantissa.accuracy,
      Accuracy.roundToNearestEven] at h ⊢
  · rw [h]
    exact isNearest_self m
  · have hd : |t - m| < 1 / 2 := abs_lt.mpr ⟨by linarith, by linarith⟩
    exact ⟨hd.le, fun h => absurd h hd.ne⟩
  · rcases Nat.mod_two_eq_zero_or_one m with hm | hm
    · rw [hm, Nat.add_zero, h]
      exact ⟨by norm_num, fun _ => hm⟩
    · rw [hm, h]
      refine ⟨?_, fun _ => by omega⟩
      rw [Nat.cast_add, Nat.cast_one, abs_le]
      constructor <;> linarith
  · have hd : |t - ((m + 1 : ℕ) : ℚ)| < 1 / 2 := by
      rw [Nat.cast_add, Nat.cast_one]
      exact abs_lt.mpr ⟨by linarith, by linarith⟩
    exact ⟨hd.le, fun h => absurd h hd.ne⟩

theorem Represents.shiftRightOne (h : Represents em t) : Represents em.shiftRightOne (t / 2) := by
  rcases em with ⟨m, r, s⟩
  have hm : (m : ℚ) = 2 * ((m / 2 : ℕ) : ℚ) + ((m % 2 : ℕ) : ℚ) := by exact_mod_cast (Nat.div_add_mod m 2).symm
  have hzero : ((0 : ℕ) != 0) = false := rfl
  have hone : ((1 : ℕ) != 0) = true := rfl
  rcases Nat.mod_two_eq_zero_or_one m with hmod | hmod <;> rw [hmod] at hm <;> cases r <;> cases s <;>
    simp only [Represents, ExtendedMantissa.shiftRightOne, hmod, hzero, hone, Bool.or_false, Bool.or_true] at h ⊢ <;>
    norm_num at hm h ⊢ <;>
    first
      | linarith
      | (constructor <;> linarith)

theorem Represents.shiftRight (h : Represents em t) (n : ℕ) : Represents (em >>> n) (t / 2 ^ n) := by
  change Represents (n.repeat ExtendedMantissa.shiftRightOne em) _
  induction n with
  | zero => simpa [Nat.repeat] using h
  | succ n ih =>
    rw [Nat.repeat, pow_succ, ← div_div]
    exact ih.shiftRightOne

theorem represents_exact (m : ℕ) : Represents (.ofMantissaAndAccuracy m .exact) m := rfl

/-- The quotient of two integers with what the remainder says of the rest. -/
theorem represents_div (a : ℕ) {b : ℕ} (hb : 0 < b) :
    Represents (.ofMantissaAndAccuracy (a / b) (UnpackedFloat.accuracyOfFraction (a % b) b)) ((a : ℚ) / b) := by
  have hb' : (0 : ℚ) < b := by exact_mod_cast hb
  have hsplit : (a : ℚ) / b = ((a / b : ℕ) : ℚ) + ((a % b : ℕ) : ℚ) / b := by
    rw [div_eq_iff hb'.ne', add_mul, div_mul_cancel₀ _ hb'.ne']
    exact_mod_cast (Nat.div_add_mod' a b).symm
  have hrest : ((a % b : ℕ) : ℚ) / b < 1 := (div_lt_one hb').mpr (by exact_mod_cast Nat.mod_lt a hb)
  rw [hsplit, UnpackedFloat.accuracyOfFraction]
  split
  · next h => simp [h, Represents, ExtendedMantissa.ofMantissaAndAccuracy]
  · next h =>
    have hpos : 0 < ((a % b : ℕ) : ℚ) / b := div_pos (by exact_mod_cast Nat.pos_of_ne_zero h) hb'
    cases hc : compare (2 * (a % b)) b with
    | lt =>
      have hlt : ((2 * (a % b) : ℕ) : ℚ) < b := by exact_mod_cast Nat.compare_eq_lt.mp hc
      have hhalf : ((a % b : ℕ) : ℚ) / b < 1 / 2 := by
        rw [div_lt_div_iff₀ hb' two_pos]
        push_cast at hlt ⊢
        linarith
      have hbetween : ((a / b : ℕ) : ℚ) < (a / b : ℕ) + ((a % b : ℕ) : ℚ) / b ∧
          ((a / b : ℕ) : ℚ) + ((a % b : ℕ) : ℚ) / b < (a / b : ℕ) + 1 / 2 := ⟨by linarith, by linarith⟩
      exact hbetween
    | eq =>
      have heq : ((2 * (a % b) : ℕ) : ℚ) = b := by exact_mod_cast Nat.compare_eq_eq.mp hc
      have hhalf : ((a % b : ℕ) : ℚ) / b = 1 / 2 := by
        rw [div_eq_div_iff hb'.ne' two_ne_zero]
        push_cast at heq ⊢
        linarith
      rw [hhalf]
      rfl
    | gt =>
      have hgt : (b : ℚ) < ((2 * (a % b) : ℕ) : ℚ) := by exact_mod_cast Nat.compare_eq_gt.mp hc
      have hhalf : 1 / 2 < ((a % b : ℕ) : ℚ) / b := by
        rw [div_lt_div_iff₀ two_pos hb']
        push_cast at hgt ⊢
        linarith
      have hbetween : ((a / b : ℕ) : ℚ) + 1 / 2 < (a / b : ℕ) + ((a % b : ℕ) : ℚ) / b ∧
          ((a / b : ℕ) : ℚ) + ((a % b : ℕ) : ℚ) / b < (a / b : ℕ) + 1 := ⟨by linarith, by linarith⟩
      exact hbetween

end Represents

/-- The exponent of the last digit that is kept of a number. -/
def lastPlace (q : ℚ) : ℤ := max (Int.log 2 q - 52) (-1074)

/-- The nearest number with 53 digits, or with fewer down to the least exponent, is `m · 2 ^ e`. -/
def RoundsTo (q : ℚ) (m : ℕ) (e : ℤ) : Prop :=
  ∃ n : ℕ, IsNearest (q / 2 ^ lastPlace q) n ∧
    (m, e) = if n < 2 ^ 53 then (n, lastPlace q) else (2 ^ 52, lastPlace q + 1)

section RoundsTo

variable {q : ℚ} {m n : ℕ} {e f : ℤ}

theorem two_zpow_pos (e : ℤ) : (0 : ℚ) < 2 ^ e := zpow_pos two_pos e

theorem scaled_lt (q : ℚ) : q / 2 ^ lastPlace q < 2 ^ 53 := by
  have hlog := Int.lt_zpow_succ_log_self (b := 2) (by decide) q
  rw [div_lt_iff₀ (two_zpow_pos _)]
  calc q < 2 ^ (Int.log 2 q + 1) := by exact_mod_cast hlog
    _ ≤ 2 ^ ((53 : ℕ) + lastPlace q) := zpow_le_zpow_right₀ one_le_two (by unfold lastPlace; push_cast; omega)
    _ = 2 ^ 53 * 2 ^ lastPlace q := by rw [zpow_add₀ two_ne_zero, zpow_natCast]

theorem le_scaled (hq : 0 < q) (h : -1074 < lastPlace q) : 2 ^ 52 ≤ q / 2 ^ lastPlace q := by
  have hlog := Int.zpow_log_le_self (b := 2) (by decide) hq
  rw [le_div_iff₀ (two_zpow_pos _)]
  calc (2 : ℚ) ^ 52 * 2 ^ lastPlace q = 2 ^ ((52 : ℕ) + lastPlace q) := by
        rw [zpow_add₀ two_ne_zero, zpow_natCast]
    _ = 2 ^ Int.log 2 q := by
        congr 1
        unfold lastPlace at h ⊢
        push_cast
        omega
    _ ≤ q := by exact_mod_cast hlog

theorem isNearest_scaled_le (h : IsNearest (q / 2 ^ lastPlace q) n) : n ≤ 2 ^ 53 :=
  h.le (by push_cast; exact (scaled_lt q).le)

theorem RoundsTo.canonical (hq : 0 < q) (h : RoundsTo q m e) : Dyadic.Canonical m e := by
  obtain ⟨n, hn, heq⟩ := h
  have hleast : -1074 ≤ lastPlace q := le_max_right _ _
  split_ifs at heq with hlt
  · obtain ⟨rfl, rfl⟩ := Prod.mk.inj heq
    refine ⟨hlt, hleast, ?_⟩
    rcases hleast.lt_or_eq with hmore | heq
    · exact .inl (hn.ge (by push_cast; exact le_scaled hq hmore))
    · exact .inr heq.symm
  · obtain ⟨rfl, rfl⟩ := Prod.mk.inj heq
    exact ⟨by norm_num, by omega, .inl le_rfl⟩

/-- The result in units of the last place. -/
theorem RoundsTo.exists_units (h : RoundsTo q m e) :
    ∃ n : ℕ, IsNearest (q / 2 ^ lastPlace q) n ∧ (m : ℚ) * 2 ^ e = n * 2 ^ lastPlace q := by
  obtain ⟨n, hn, heq⟩ := h
  refine ⟨n, hn, ?_⟩
  have hle := isNearest_scaled_le hn
  split_ifs at heq with hlt
  · obtain ⟨rfl, rfl⟩ := Prod.mk.inj heq
    rfl
  · obtain ⟨rfl, rfl⟩ := Prod.mk.inj heq
    obtain rfl : n = 2 ^ 53 := by omega
    rw [zpow_add₀ two_ne_zero]
    push_cast
    ring

theorem exists_roundsTo (hq : 0 < q) : ∃ m e, RoundsTo q m e := by
  obtain ⟨n, hn⟩ := exists_isNearest (div_pos hq (two_zpow_pos (lastPlace q))).le
  exact ⟨_, _, n, hn, rfl⟩

/-- A canonical number is a multiple of every last place that is not beyond its own. -/
theorem scaled_eq_natCast (m : ℕ) {e p : ℤ} (h : p ≤ e) :
    (m : ℚ) * 2 ^ e / 2 ^ p = ((m * 2 ^ (e - p).toNat : ℕ) : ℚ) := by
  rw [div_eq_iff (two_zpow_pos p).ne']
  push_cast
  rw [mul_assoc, ← zpow_natCast, ← zpow_add₀ two_ne_zero]
  congr 2
  omega

/-- Rounding stays on its side of every canonical number. -/
theorem RoundsTo.le (hq : 0 < q) (h : RoundsTo q m e) (hc : Dyadic.Canonical n f) (hle : q ≤ n * 2 ^ f) :
    (m : ℚ) * 2 ^ e ≤ n * 2 ^ f := by
  obtain ⟨k, hk, hvalue⟩ := h.exists_units
  have hp := two_zpow_pos (lastPlace q)
  rw [hvalue, ← le_div_iff₀ hp]
  by_cases hplace : lastPlace q ≤ f
  · rw [scaled_eq_natCast n hplace]
    exact_mod_cast hk.le (by rw [← scaled_eq_natCast n hplace]; gcongr)
  · have hlow := le_scaled hq (by have := hc.least; omega)
    have hn : (n : ℚ) < 2 ^ 53 := by exact_mod_cast hc.lt
    have hf : (2 : ℚ) ^ f ≤ 2 ^ (lastPlace q - 1) := zpow_le_zpow_right₀ one_le_two (by omega)
    have : (2 : ℚ) ^ 52 * 2 ^ lastPlace q < 2 ^ 52 * 2 ^ lastPlace q := by
      calc (2 : ℚ) ^ 52 * 2 ^ lastPlace q ≤ q := (le_div_iff₀ hp).mp hlow
        _ ≤ n * 2 ^ f := hle
        _ < 2 ^ 53 * 2 ^ f := by
          have := two_zpow_pos f
          gcongr
        _ ≤ 2 ^ 53 * 2 ^ (lastPlace q - 1) := by gcongr
        _ = 2 ^ 52 * 2 ^ lastPlace q := by rw [zpow_sub_one₀ two_ne_zero]; ring
    exact absurd this (lt_irrefl _)

theorem RoundsTo.ge (hq : 0 < q) (h : RoundsTo q m e) (hc : Dyadic.Canonical n f) (hge : n * 2 ^ f ≤ q) :
    (n : ℚ) * 2 ^ f ≤ m * 2 ^ e := by
  obtain ⟨k, hk, hvalue⟩ := h.exists_units
  have hp := two_zpow_pos (lastPlace q)
  rw [hvalue, ← div_le_iff₀ hp]
  by_cases hplace : lastPlace q ≤ f
  · rw [scaled_eq_natCast n hplace]
    exact_mod_cast hk.ge (by rw [← scaled_eq_natCast n hplace]; gcongr)
  · have hlow := le_scaled hq (by have := hc.least; omega)
    have hk' : ((2 ^ 52 : ℕ) : ℚ) ≤ k := by exact_mod_cast hk.ge (by push_cast; exact hlow)
    have hn : (n : ℚ) ≤ 2 ^ 53 := by exact_mod_cast hc.lt.le
    refine le_trans ?_ hk'
    rw [div_le_iff₀ hp]
    calc (n : ℚ) * 2 ^ f ≤ 2 ^ 53 * 2 ^ (lastPlace q - 1) := by
          gcongr
          · norm_num
          · omega
      _ = ((2 ^ 52 : ℕ) : ℚ) * 2 ^ lastPlace q := by rw [zpow_sub_one₀ two_ne_zero]; push_cast; ring

/-- The greatest number of a double. -/
def greatest : ℚ := ((2 ^ 53 - 1 : ℕ) : ℚ) * 2 ^ (971 : ℤ)

/-- What does not exceed the greatest double is not rounded beyond it. -/
theorem RoundsTo.exponent_le (hq : 0 < q) (h : RoundsTo q m e)
    (hle : q ≤ greatest) : e ≤ 971 := by
  have hgreatest : Dyadic.Canonical (2 ^ 53 - 1) 971 := ⟨by norm_num, by norm_num, .inl (by norm_num)⟩
  have hround := h.le hq hgreatest hle
  have hp := two_zpow_pos 971
  by_contra hmore
  have hmul := (h.canonical hq).pow_le (f := 971) (by norm_num) (not_le.mp hmore)
  have hless : ((2 ^ 53 - 1 : ℕ) : ℚ) < (2 ^ 53 : ℕ) := by norm_num
  generalize (2 : ℚ) ^ (971 : ℤ) = g at hround hmul hp
  exact absurd (hmul.trans hround) (not_le.mpr (by gcongr))

theorem RoundsTo.unique {m' : ℕ} {e' : ℤ} (h : RoundsTo q m e) (h' : RoundsTo q m' e') : m = m' ∧ e = e' := by
  obtain ⟨n, hn, heq⟩ := h
  obtain ⟨n', hn', heq'⟩ := h'
  obtain rfl := hn.unique hn'
  exact Prod.mk.inj (heq.trans heq'.symm)

theorem RoundsTo.lastPlace_le (h : RoundsTo q m e) : lastPlace q ≤ e := by
  obtain ⟨n, -, heq⟩ := h
  split_ifs at heq <;> obtain ⟨-, rfl⟩ := Prod.mk.inj heq <;> omega

/-- A rounding changes a number by at most a part in `2 ^ 53`. -/
theorem RoundsTo.error_le (hq : 0 < q) (h : RoundsTo q m e) (hplace : -1074 < lastPlace q) :
    |(m : ℚ) * 2 ^ e - q| ≤ q / 2 ^ 53 := by
  obtain ⟨n, hn, hvalue⟩ := h.exists_units
  have hp := two_zpow_pos (lastPlace q)
  have hfull := le_scaled hq hplace
  have hunits : (n : ℚ) * 2 ^ lastPlace q - q = -((q / 2 ^ lastPlace q - n) * 2 ^ lastPlace q) := by
    rw [sub_mul, div_mul_cancel₀ _ hp.ne']
    ring
  rw [le_div_iff₀ hp] at hfull
  rw [hvalue, hunits, abs_neg, abs_mul, abs_of_pos hp]
  calc |q / 2 ^ lastPlace q - n| * 2 ^ lastPlace q ≤ 1 / 2 * 2 ^ lastPlace q := by
        gcongr
        exact hn.near
    _ ≤ q / 2 ^ 53 := by linarith

/-- What is not rounded to zero is at least half of the least number. -/
theorem RoundsTo.least_le (h : RoundsTo q m e) (hm : 0 < m) : 2 ^ (-1075 : ℤ) ≤ q := by
  obtain ⟨n, hn, hvalue⟩ := h.exists_units
  have hp := two_zpow_pos (lastPlace q)
  have hleast : (2 : ℚ) ^ (-1074 : ℤ) ≤ 2 ^ lastPlace q := zpow_le_zpow_right₀ one_le_two (le_max_right _ _)
  have hpos : (0 : ℚ) < n := by
    have := mul_pos (show (0 : ℚ) < m by exact_mod_cast hm) (two_zpow_pos e)
    rw [hvalue] at this
    exact pos_of_mul_pos_left this hp.le
  have hone : (1 : ℚ) ≤ n := by exact_mod_cast hpos
  have hhalf : 1 / 2 ≤ q / 2 ^ lastPlace q := by
    have := (abs_le.mp hn.near).1
    linarith
  rw [le_div_iff₀ hp] at hhalf
  calc (2 : ℚ) ^ (-1075 : ℤ) = 1 / 2 * 2 ^ (-1074 : ℤ) := by
        rw [show (-1075 : ℤ) = -1074 - 1 from rfl, zpow_sub_one₀ two_ne_zero]
        ring
    _ ≤ 1 / 2 * 2 ^ lastPlace q := by linarith
    _ ≤ q := hhalf

/-- How far below a number, in units of its last place, the middle to the next lower one is. -/
def gapBelow (m : ℕ) (e : ℤ) : ℚ := if m = 2 ^ 52 ∧ -1074 < e then 1 / 4 else 1 / 2

/-- The number lies no farther than halfway from `m · 2 ^ e` to its neighbours, and not as far if the mantissa
is odd. -/
structure Within (m : ℕ) (e : ℤ) (q : ℚ) : Prop where
  low : m - gapBelow m e ≤ q / 2 ^ e
  high : q / 2 ^ e ≤ m + 1 / 2
  strict : m % 2 = 1 → m - gapBelow m e < q / 2 ^ e ∧ q / 2 ^ e < m + 1 / 2

theorem gapBelow_le (m : ℕ) (e : ℤ) : gapBelow m e ≤ 1 / 2 := by
  unfold gapBelow
  split <;> norm_num

theorem lastPlace_le_of_lt (hq : 0 < q) (he : -1074 ≤ e) (h : q / 2 ^ e < 2 ^ 53) : lastPlace q ≤ e := by
  rw [div_lt_iff₀ (two_zpow_pos e), ← zpow_natCast, ← zpow_add₀ two_ne_zero] at h
  have hlog : Int.log 2 q < (53 : ℕ) + e := (Int.lt_zpow_iff_log_lt (b := 2) (by decide) hq).mp (by exact_mod_cast h)
  unfold lastPlace
  push_cast at hlog
  omega

theorem le_lastPlace_of_le {k : ℕ} (hq : 0 < q) (h : 2 ^ k ≤ q / 2 ^ e) : e + k - 52 ≤ lastPlace q := by
  rw [le_div_iff₀ (two_zpow_pos e), ← zpow_natCast, ← zpow_add₀ two_ne_zero] at h
  have hlog : k + e ≤ Int.log 2 q := (Int.zpow_le_iff_le_log (b := 2) (by decide) hq).mp (by exact_mod_cast h)
  unfold lastPlace
  omega

/-- What lies within half the way to the neighbours of a number is rounded to this number. -/
theorem Within.roundsTo (hc : Dyadic.Canonical m e) (hq : 0 < q) (h : Within m e q) : RoundsTo q m e := by
  obtain ⟨hlow, hhigh, hstrict⟩ := h
  have hgap := gapBelow_le m e
  have hm : (m : ℚ) + 1 ≤ 2 ^ 53 := by exact_mod_cast hc.lt
  have hle : lastPlace q ≤ e := lastPlace_le_of_lt hq hc.least (by linarith)
  rcases hle.lt_or_eq with hless | heq
  · -- The last place is lower only below a power of two.
    have hfull : 2 ^ 52 ≤ m := hc.full.resolve_right (by have : -1074 ≤ lastPlace q := le_max_right _ _; omega)
    have hbelow : q / 2 ^ e < 2 ^ 52 := by
      by_contra hnot
      have := le_lastPlace_of_le hq (not_lt.mp hnot)
      omega
    have hpower : m = 2 ^ 52 := by
      by_contra hne
      have hmore : ((2 ^ 52 : ℕ) : ℚ) + 1 ≤ m := by exact_mod_cast lt_of_le_of_ne hfull (Ne.symm hne)
      push_cast at hmore
      linarith
    subst hpower
    have hgap : gapBelow (2 ^ 52) e = 1 / 4 :=
      if_pos ⟨rfl, by have : -1074 ≤ lastPlace q := le_max_right _ _; omega⟩
    rw [hgap] at hlow
    push_cast at hlow
    have hplace : lastPlace q = e - 1 := by
      have := le_lastPlace_of_le (k := 51) hq (e := e) (by linarith)
      omega
    have htwice : q / 2 ^ (e - 1) = 2 * (q / 2 ^ e) := by
      rw [zpow_sub_one₀ two_ne_zero]
      field_simp
    refine ⟨2 ^ 53, ⟨?_, fun _ => by decide⟩, ?_⟩
    · rw [hplace, htwice, abs_le]
      push_cast
      constructor <;> linarith
    · rw [if_neg (lt_irrefl _), hplace, sub_add_cancel]
  · refine ⟨m, ⟨?_, fun htie => ?_⟩, ?_⟩
    · rw [heq, abs_le]
      constructor <;> linarith
    · by_contra hodd
      obtain ⟨hl, hh⟩ := hstrict (by omega)
      rw [heq] at htie
      exact absurd htie (abs_lt.mpr ⟨by linarith, by linarith⟩).ne
    · rw [if_pos hc.lt, heq]

theorem within_self (m : ℕ) (e : ℤ) : Within m e (m * 2 ^ e) := by
  have hself : (m : ℚ) * 2 ^ e / 2 ^ e = m := mul_div_cancel_right₀ _ (two_zpow_pos e).ne'
  have hgap : 0 < gapBelow m e := by
    unfold gapBelow
    split <;> norm_num
  constructor
  · rw [hself]
    linarith
  · rw [hself]
    linarith
  · intro _
    rw [hself]
    constructor <;> linarith

end RoundsTo

section Model

variable {m n : ℕ} {e p : ℤ} {acc : Accuracy} {t q : ℚ}

theorem targetExponent_eq (m : ℕ) (e : ℤ) :
    Format.targetExponent .binary64 (totalExponent m e) = max (m.log2 + e - 52) (-1074) := by
  have hmin : Format.minExponent .binary64 = -1074 := rfl
  have hbits : (Format.mantissaBits .binary64 : ℤ) = 53 := rfl
  rw [Format.targetExponent, totalExponent, hmin, hbits]
  congr 1
  omega

theorem log_mul_zpow (hm : 0 < m) (hlow : m ≤ t) (hhigh : t < m + 1) (e : ℤ) :
    Int.log 2 (t * 2 ^ e) = m.log2 + e := by
  have ht : 0 < t := lt_of_lt_of_le (by exact_mod_cast hm) hlow
  have hq : 0 < t * 2 ^ e := mul_pos ht (two_zpow_pos e)
  have hge : (2 : ℚ) ^ m.log2 ≤ t := le_trans (by exact_mod_cast Nat.log2_self_le hm.ne') hlow
  have hle : t < (2 : ℚ) ^ (m.log2 + 1) := by
    have : (m : ℚ) + 1 ≤ (2 : ℚ) ^ (m.log2 + 1) := by exact_mod_cast Nat.lt_log2_self
    linarith
  apply le_antisymm
  · rw [← Int.lt_add_one_iff]
    apply (Int.lt_zpow_iff_log_lt (b := 2) (by decide) hq).mp
    calc t * 2 ^ e < 2 ^ (m.log2 + 1) * 2 ^ e := by
          have := two_zpow_pos e
          gcongr
      _ = ((2 : ℕ) : ℚ) ^ ((m.log2 : ℤ) + e + 1) := by
          rw [← zpow_natCast, ← zpow_add₀ two_ne_zero]
          push_cast
          congr 1
          ring
  · apply (Int.zpow_le_iff_le_log (b := 2) (by decide) hq).mp
    calc ((2 : ℕ) : ℚ) ^ ((m.log2 : ℤ) + e) = 2 ^ m.log2 * 2 ^ e := by
          rw [Nat.cast_ofNat, zpow_add₀ two_ne_zero, zpow_natCast]
      _ ≤ t * 2 ^ e := by
          have := two_zpow_pos e
          gcongr

/-- The model shifts to the last place of the number, unless it has too few digits to begin with. -/
theorem lastPlace_eq_target (hlow : m ≤ t) (hhigh : t < m + 1) (ht : 0 < t) (hm : 0 < m ∨ e ≤ -1074) :
    lastPlace (t * 2 ^ e) = Format.targetExponent .binary64 (totalExponent m e) := by
  rw [targetExponent_eq]
  rcases Nat.eq_zero_or_pos m with rfl | hpos
  · have he : e ≤ -1074 := hm.resolve_left (lt_irrefl 0)
    have hq : 0 < t * 2 ^ e := mul_pos ht (two_zpow_pos e)
    have hlog : Int.log 2 (t * 2 ^ e) < e := by
      apply (Int.lt_zpow_iff_log_lt (b := 2) (by decide) hq).mp
      have := two_zpow_pos e
      norm_num at hhigh ⊢
      nlinarith
    have hzero : Nat.log2 0 = 0 := rfl
    rw [lastPlace, hzero, max_eq_right (by omega), max_eq_right (by push_cast; omega)]
  · rw [lastPlace, log_mul_zpow hpos hlow hhigh]

theorem shiftToTargetExponent_exact (hm : n ≤ 2 ^ 53) (hp : -1074 ≤ p) :
    ((UnpackedFloat.shiftToTargetExponent .binary64 n p .exact).1.mantissa,
      (UnpackedFloat.shiftToTargetExponent .binary64 n p .exact).2) =
      if n < 2 ^ 53 then (n, p) else (2 ^ 52, p + 1) := by
  unfold UnpackedFloat.shiftToTargetExponent UnpackedFloat.shiftToExponent
  dsimp only
  rw [targetExponent_eq]
  split
  · next hlt =>
    have hlog : n.log2 ≤ 52 := by
      rcases Nat.eq_zero_or_pos n with rfl | hn
      · decide
      · have := (Nat.log2_lt hn.ne').mpr hlt
        omega
    have hshift : (max ((n.log2 : ℤ) + p - 52) (-1074) - p).toNat = 0 := by omega
    rw [hshift]
    exact Prod.ext rfl (add_zero p)
  · next hge =>
    obtain rfl : n = 2 ^ 53 := by omega
    have hlog : Nat.log2 (2 ^ 53) = 53 := Nat.log2_two_pow
    have hshift : (max ((Nat.log2 (2 ^ 53) : ℤ) + p - 52) (-1074) - p).toNat = 1 := by
      rw [hlog]
      push_cast
      omega
    rw [hshift]
    rfl

theorem mantissa_ofMantissaAndAccuracy (m : ℕ) (acc : Accuracy) :
    (ExtendedMantissa.ofMantissaAndAccuracy m acc).mantissa = m := by
  rcases acc with _ | (_ | _ | _) <;> rfl

/-- The model rounds to the nearest number of 53 digits. -/
theorem roundWithAccuracy_eq (s : Sign) (ht : Represents (.ofMantissaAndAccuracy m acc) t)
    (hpos : 0 < t) (he : e ≤ lastPlace (t * 2 ^ e)) (hdigits : 0 < m ∨ e ≤ -1074) :
    ∃ m' e', RoundsTo (t * 2 ^ e) m' e' ∧
      UnpackedFloat.roundWithAccuracy .binary64 s m e acc = Dyadic.unpacked ⟨isMinus s, m', e'⟩ := by
  obtain ⟨hlow, hhigh⟩ := ht.between
  rw [mantissa_ofMantissaAndAccuracy] at hlow hhigh
  have htarget := lastPlace_eq_target hlow hhigh hpos hdigits
  set p := lastPlace (t * 2 ^ e) with hp
  have hshift : e + ((p - e).toNat : ℤ) = p := by omega
  have hscaled : t / 2 ^ (p - e).toNat = t * 2 ^ e / 2 ^ p := by
    rw [div_eq_div_iff (by positivity) (by positivity), mul_assoc, ← zpow_natCast, ← zpow_add₀ two_ne_zero, hshift]
  have hnearest := (ht.shiftRight (p - e).toNat).isNearest
  rw [hscaled] at hnearest
  set n := (ExtendedMantissa.ofMantissaAndAccuracy m acc >>> (p - e).toNat).roundedMantissa with hn
  have hle : n ≤ 2 ^ 53 := isNearest_scaled_le hnearest
  have hfinal := shiftToTargetExponent_exact (p := p) hle (le_max_right _ _)
  have hfirst : UnpackedFloat.shiftToTargetExponent .binary64 m e acc =
      (ExtendedMantissa.ofMantissaAndAccuracy m acc >>> (p - e).toNat, p) := by
    unfold UnpackedFloat.shiftToTargetExponent UnpackedFloat.shiftToExponent
    dsimp only
    rw [← htarget, hshift]
  refine ⟨_, _, ⟨n, hnearest, hfinal⟩, ?_⟩
  have hsign (a : ℕ) (b : ℤ) : (Dyadic.mk (isMinus s) a b).sign = s := by cases s <;> rfl
  simp only [UnpackedFloat.roundWithAccuracy, Dyadic.unpacked, hfirst, ← hn, hsign]

/-- What the model rounds is packed into the double of the rounded number, if that is not too great. -/
theorem ofFloat_round (s : Sign) (ht : Represents (.ofMantissaAndAccuracy m acc) t)
    (hpos : 0 < t) (he : e ≤ lastPlace (t * 2 ^ e)) (hdigits : 0 < m ∨ e ≤ -1074) (hr : RoundsTo (t * 2 ^ e) n p)
    (hp : p ≤ 971) :
    Dyadic.ofFloat (Float.ofModel (.pack (.roundWithAccuracy .binary64 s m e acc))) = some ⟨isMinus s, n, p⟩ := by
  obtain ⟨m', e', hr', heq⟩ := roundWithAccuracy_eq s ht hpos he hdigits
  obtain ⟨rfl, rfl⟩ := hr.unique hr'
  rw [heq]
  exact ofFloat_pack (hr.canonical (mul_pos hpos (two_zpow_pos e))) hp

end Model

section Operations

variable {x y : Float} {m₁ m₂ m n : ℕ} {e₁ e₂ e : ℤ}

theorem log_le_log_div (h₁ : 0 < m₁) (h₂ : 0 < m₂) :
    (m₁.log2 + e₁ : ℤ) - (m₂.log2 + e₂) - 1 ≤ Int.log 2 ((m₁ * 2 ^ e₁ / (m₂ * 2 ^ e₂) : ℚ)) := by
  have h₁' : (0 : ℚ) < m₁ := by exact_mod_cast h₁
  have h₂' : (0 : ℚ) < m₂ := by exact_mod_cast h₂
  have hlow : (2 : ℚ) ^ m₁.log2 ≤ m₁ := by exact_mod_cast Nat.log2_self_le h₁.ne'
  have hhigh : (m₂ : ℚ) ≤ 2 ^ (m₂.log2 + 1) := by exact_mod_cast Nat.lt_log2_self.le
  apply (Int.zpow_le_iff_le_log (b := 2) (by decide) (by positivity)).mp
  rw [Nat.cast_ofNat, le_div_iff₀ (by positivity)]
  calc (2 : ℚ) ^ ((m₁.log2 + e₁ : ℤ) - (m₂.log2 + e₂) - 1) * (m₂ * 2 ^ e₂)
      ≤ 2 ^ ((m₁.log2 + e₁ : ℤ) - (m₂.log2 + e₂) - 1) * (2 ^ (m₂.log2 + 1) * 2 ^ e₂) := by gcongr
    _ = 2 ^ m₁.log2 * 2 ^ e₁ := by
        rw [← zpow_natCast, ← zpow_natCast, ← zpow_add₀ two_ne_zero, ← zpow_add₀ two_ne_zero,
          ← zpow_add₀ two_ne_zero]
        congr 1
        push_cast
        ring
    _ ≤ m₁ * 2 ^ e₁ := by gcongr

/-- The exponent to which a quotient is computed before it is rounded. -/
def quotientExponent (m₁ : ℕ) (e₁ : ℤ) (m₂ : ℕ) (e₂ : ℤ) : ℤ :=
  min (e₁ - e₂) (max ((m₁.log2 + e₁ : ℤ) - (m₂.log2 + e₂) - 53) (-1074))

theorem divCore_eq (m₁ : ℕ) (e₁ : ℤ) (m₂ : ℕ) (e₂ : ℤ) :
    UnpackedFloat.divCore .binary64 m₁ e₁ m₂ e₂ =
      let m := m₁ * 2 ^ (e₁ - e₂ - quotientExponent m₁ e₁ m₂ e₂).toNat
      (m / m₂, quotientExponent m₁ e₁ m₂ e₂, UnpackedFloat.accuracyOfFraction (m % m₂) m₂) := by
  have htarget : Format.targetExponent .binary64 (totalExponent m₁ e₁ - totalExponent m₂ e₂) =
      max ((m₁.log2 + e₁ : ℤ) - (m₂.log2 + e₂) - 53) (-1074) := by
    have hmin : Format.minExponent .binary64 = -1074 := rfl
    have hbits : (Format.mantissaBits .binary64 : ℤ) = 53 := rfl
    rw [Format.targetExponent, totalExponent, totalExponent, hmin, hbits]
    congr 1
    ring
  unfold UnpackedFloat.divCore
  dsimp only
  rw [htarget, Nat.shiftLeft_eq]
  rfl

/-- So many digits are computed of a quotient that none is missing after rounding. -/
theorem quotient_digits (h₁ : 0 < m₁) (h₂ : 0 < m₂) :
    0 < m₁ * 2 ^ (e₁ - e₂ - quotientExponent m₁ e₁ m₂ e₂).toNat / m₂ ∨ quotientExponent m₁ e₁ m₂ e₂ ≤ -1074 := by
  by_cases hleast : quotientExponent m₁ e₁ m₂ e₂ ≤ -1074
  · exact .inr hleast
  refine .inl (Nat.div_pos ?_ h₂)
  have hshift : m₂.log2 + 1 ≤ m₁.log2 + (e₁ - e₂ - quotientExponent m₁ e₁ m₂ e₂).toNat := by
    unfold quotientExponent at hleast ⊢
    omega
  calc m₂ ≤ 2 ^ (m₂.log2 + 1) := Nat.lt_log2_self.le
    _ ≤ 2 ^ (m₁.log2 + (e₁ - e₂ - quotientExponent m₁ e₁ m₂ e₂).toNat) := Nat.pow_le_pow_right two_pos hshift
    _ ≤ m₁ * 2 ^ (e₁ - e₂ - quotientExponent m₁ e₁ m₂ e₂).toNat := by
        rw [pow_add]
        exact Nat.mul_le_mul_right _ (Nat.log2_self_le h₁.ne')

theorem unpack_of_positive (hx : Dyadic.ofFloat x = some ⟨false, m, e⟩) (h : 0 < m) :
    x.toModel.unpack = .finite .positive m e h := by
  rw [unpack_of_ofFloat hx, Dyadic.unpacked, dif_neg h.ne']
  rfl

theorem div_finite (s : Sign) (h₁ : 0 < m₁) (h₂ : 0 < m₂) (e₁ e₂ : ℤ) :
    UnpackedFloat.div .binary64 (.finite s m₁ e₁ h₁) (.finite .positive m₂ e₂ h₂) =
      let c := UnpackedFloat.divCore .binary64 m₁ e₁ m₂ e₂
      .roundWithAccuracy .binary64 s c.1 c.2.1 c.2.2 := by
  cases s <;> rfl

/-- What is computed of a quotient, in units of its exponent. -/
theorem quotient_scaled (h₂ : 0 < m₂) (e₁ e₂ p : ℤ) (hp : p ≤ e₁ - e₂) :
    ((m₁ * 2 ^ (e₁ - e₂ - p).toNat : ℕ) : ℚ) / m₂ * 2 ^ p = m₁ * 2 ^ e₁ / (m₂ * 2 ^ e₂) := by
  have h₂' : (0 : ℚ) < m₂ := by exact_mod_cast h₂
  have hpow : (2 : ℚ) ^ (e₁ - e₂ - p).toNat * 2 ^ p * 2 ^ e₂ = 2 ^ e₁ := by
    rw [← zpow_natCast, ← zpow_add₀ two_ne_zero, ← zpow_add₀ two_ne_zero]
    congr 1
    omega
  rw [eq_div_iff (by positivity), ← hpow]
  push_cast
  field_simp

/-- The quotient of two doubles is the rounded quotient of their values. -/
theorem ofFloat_div {negative : Bool} (hx : Dyadic.ofFloat x = some ⟨negative, m₁, e₁⟩)
    (hy : Dyadic.ofFloat y = some ⟨false, m₂, e₂⟩) (h₁ : 0 < m₁) (h₂ : 0 < m₂)
    (hr : RoundsTo (m₁ * 2 ^ e₁ / (m₂ * 2 ^ e₂)) m e) (he : e ≤ 971) :
    Dyadic.ofFloat (x / y) = some ⟨negative, m, e⟩ := by
  have h₁' : (0 : ℚ) < m₁ := by exact_mod_cast h₁
  have h₂' : (0 : ℚ) < m₂ := by exact_mod_cast h₂
  have hscaled := @quotient_scaled m₁ m₂ h₂ e₁ e₂ (quotientExponent m₁ e₁ m₂ e₂) (min_le_left _ _)
  have hdigits := @quotient_digits m₁ m₂ e₁ e₂ h₁ h₂
  have hlast : quotientExponent m₁ e₁ m₂ e₂ ≤ lastPlace (m₁ * 2 ^ e₁ / (m₂ * 2 ^ e₂)) := by
    have hlog := @log_le_log_div m₁ m₂ e₁ e₂ h₁ h₂
    unfold quotientExponent lastPlace
    omega
  have hdiv : x / y = Float.ofModel (.pack (.div .binary64 x.toModel.unpack y.toModel.unpack)) := rfl
  have hsign : isMinus (Dyadic.mk negative m₁ e₁).sign = negative := isMinus_sign _
  rw [hdiv, unpack_of_ofFloat hx, Dyadic.unpacked, dif_neg h₁.ne', unpack_of_positive hy h₂, div_finite, divCore_eq]
  dsimp only
  generalize quotientExponent m₁ e₁ m₂ e₂ = p at hscaled hdigits hlast ⊢
  rw [← hscaled] at hlast hr
  generalize m₁ * 2 ^ (e₁ - e₂ - p).toNat = a at hscaled hdigits hlast hr ⊢
  have ha : 0 < (a : ℚ) / m₂ := by
    have : 0 < (a : ℚ) / m₂ * 2 ^ p := by rw [hscaled]; positivity
    exact pos_of_mul_pos_left this (two_zpow_pos p).le
  rw [ofFloat_round _ (represents_div a h₂) ha hlast hdigits hr he, hsign]

/-- A number that is shifted first is rounded as it is. -/
theorem ofFloat_round_scaled (s : Sign) {k : ℕ} {p : ℤ} (hn : 0 < n) (hk : e - k ≤ lastPlace (n * 2 ^ e))
    (hr : RoundsTo (n * 2 ^ e) m p) (hp : p ≤ 971) :
    Dyadic.ofFloat (Float.ofModel (.pack (.roundWithAccuracy .binary64 s (n * 2 ^ k) (e - k) .exact))) =
      some ⟨isMinus s, m, p⟩ := by
  have hshift : ((n * 2 ^ k : ℕ) : ℚ) * 2 ^ (e - k : ℤ) = n * 2 ^ e := by
    push_cast
    rw [mul_assoc, ← zpow_natCast, ← zpow_add₀ two_ne_zero, add_sub_cancel]
  exact ofFloat_round s (represents_exact _) (by positivity) (by rw [hshift]; exact hk)
    (.inl (by positivity)) (by rw [hshift]; exact hr) hp

theorem ofFloat_round_shifted {k : ℕ} (hn : 0 < n) (hk : -(k : ℤ) ≤ lastPlace n) (hr : RoundsTo n m e)
    (he : e ≤ 971) :
    Dyadic.ofFloat (Float.ofModel (.pack (.roundWithAccuracy .binary64 .positive (n * 2 ^ k) (-k) .exact))) =
      some ⟨false, m, e⟩ := by
  rw [← zero_sub (k : ℤ)]
  exact ofFloat_round_scaled .positive hn (by simpa using hk) (by simpa using hr) he

theorem lastPlace_scaled (hn : 0 < n) (e : ℤ) : lastPlace (n * 2 ^ e) = max ((n.log2 : ℤ) + e - 52) (-1074) := by
  have h := lastPlace_eq_target (m := n) (t := n) (e := e) le_rfl (by linarith) (by exact_mod_cast hn) (.inl hn)
  rw [h, targetExponent_eq]

theorem lastPlace_natCast (hn : 0 < n) : lastPlace n = max ((n.log2 : ℤ) - 52) (-1074) := by
  simpa using lastPlace_scaled hn 0

/-- The model rounds a number of any exponent. -/
theorem ofFloat_pack_round (s : Sign) {p : ℤ} (hn : 0 < n) (hr : RoundsTo (n * 2 ^ e) m p) (hp : p ≤ 971) :
    Dyadic.ofFloat (Float.ofModel (.pack (.round .binary64 s n e))) = some ⟨isMinus s, m, p⟩ := by
  have hlast := lastPlace_scaled hn e
  have hround : UnpackedFloat.round .binary64 s n e =
      .roundWithAccuracy .binary64 s (n * 2 ^ (e - lastPlace (n * 2 ^ e)).toNat)
        (e - (e - lastPlace (n * 2 ^ e)).toNat) .exact := by
    unfold UnpackedFloat.round UnpackedFloat.decreaseExponent
    dsimp only
    rw [targetExponent_eq, ← hlast, Nat.shiftLeft_eq]
  rw [hround]
  exact ofFloat_round_scaled s hn (by omega) hr hp

theorem ofFloat_ofNat (hn : 0 < n) (hr : RoundsTo n m e) (he : e ≤ 971) :
    Dyadic.ofFloat (Float.ofModel (.pack (.ofNat .binary64 n))) = some ⟨false, m, e⟩ := by
  have hof : UnpackedFloat.ofNat .binary64 n = .round .binary64 .positive n 0 := by
    have hgt : compare (n : ℤ) 0 = .gt := Int.compare_eq_gt.mpr (by exact_mod_cast hn)
    unfold UnpackedFloat.ofNat UnpackedFloat.ofInt UnpackedFloat.normalize
    rw [hgt]
    rfl
  rw [hof]
  exact ofFloat_pack_round .positive hn (by simpa using hr) he

theorem ofFloat_toFloat {n : UInt64} (hn : 0 < n.toNat) (hr : RoundsTo n.toNat m e) (he : e ≤ 971) :
    Dyadic.ofFloat n.toFloat = some ⟨false, m, e⟩ :=
  ofFloat_ofNat hn hr he

end Operations

/-- The double is the one nearest to a positive number. -/
def NearestTo (x : Float) (q : ℚ) : Prop :=
  0 < q ∧ ∃ m e, RoundsTo q m e ∧ Dyadic.ofFloat x = some ⟨false, m, e⟩

section NearestTo

variable {x y : Float} {q r : ℚ} {m n : ℕ} {e f : ℤ}

/-- A number that a double stands for. -/
def Representable (q : ℚ) : Prop := ∃ m e, Dyadic.Canonical m e ∧ (m : ℚ) * 2 ^ e = q

/-- A number of at most 53 binary digits times a power of two. -/
theorem representable_mul_zpow {j : ℤ} (hn : 0 < n) (hlt : n < 2 ^ 53) (hj : -1022 ≤ j) :
    Representable (n * 2 ^ j) := by
  have hlog : n.log2 ≤ 52 := by
    have := (Nat.log2_lt hn.ne').mpr hlt
    omega
  have hlow := Nat.log2_self_le hn.ne'
  have hhigh : n < 2 ^ (n.log2 + 1) := Nat.lt_log2_self
  refine ⟨n * 2 ^ (52 - n.log2), j + n.log2 - 52, ⟨?_, by omega, .inl ?_⟩, ?_⟩
  · calc n * 2 ^ (52 - n.log2) < 2 ^ (n.log2 + 1) * 2 ^ (52 - n.log2) := by gcongr
      _ = 2 ^ 53 := by
        rw [← pow_add]
        congr 1
        omega
  · calc 2 ^ 52 = 2 ^ n.log2 * 2 ^ (52 - n.log2) := by
          rw [← pow_add]
          congr 1
          omega
      _ ≤ n * 2 ^ (52 - n.log2) := Nat.mul_le_mul_right _ hlow
  · push_cast
    rw [mul_assoc, ← zpow_natCast, ← zpow_add₀ two_ne_zero]
    congr 2
    omega

theorem representable_natCast (hn : 0 < n) (hlt : n < 2 ^ 53) : Representable n := by
  simpa using representable_mul_zpow (j := 0) hn hlt (by norm_num)

theorem representable_one : Representable 1 := by
  simpa using representable_natCast one_pos (by norm_num)

theorem NearestTo.le (h : NearestTo x q) (hr : Representable r) (hle : q ≤ r) : toRat x ≤ r := by
  obtain ⟨hq, m, e, hround, hx⟩ := h
  obtain ⟨n, f, hc, rfl⟩ := hr
  rw [toRat_of_ofFloat hx, Dyadic.value_positive]
  exact hround.le hq hc hle

theorem NearestTo.ge (h : NearestTo x q) (hr : Representable r) (hge : r ≤ q) : r ≤ toRat x := by
  obtain ⟨hq, m, e, hround, hx⟩ := h
  obtain ⟨n, f, hc, rfl⟩ := hr
  rw [toRat_of_ofFloat hx, Dyadic.value_positive]
  exact hround.ge hq hc hge

theorem NearestTo.error_le (h : NearestTo x q) (hplace : -1074 < lastPlace q) : |toRat x - q| ≤ q / 2 ^ 53 := by
  obtain ⟨hq, m, e, hround, hx⟩ := h
  rw [toRat_of_ofFloat hx, Dyadic.value_positive]
  exact hround.error_le hq hplace

theorem NearestTo.le_of_one_le (h : NearestTo x q) (hq : 1 ≤ q) : toRat x ≤ q * (1 + 1 / 2 ^ 53) := by
  have hlog : 0 ≤ Int.log 2 q := by
    rw [← Int.log_one_right (R := ℚ) 2]
    exact Int.log_mono_right one_pos hq
  have hplace : -1074 < lastPlace q := lt_max_of_lt_left (by omega)
  have herror := (abs_le.mp (h.error_le hplace)).2
  linarith

/-- A number that some double stands for is not changed. -/
theorem NearestTo.eq (h : NearestTo x q) (hq : Representable q) : toRat x = q :=
  le_antisymm (h.le hq le_rfl) (h.ge hq le_rfl)

/-- The double is finite and has no sign. -/
def Unsigned (x : Float) : Prop := ∃ m e, Dyadic.ofFloat x = some ⟨false, m, e⟩

theorem NearestTo.unsigned (h : NearestTo x q) : Unsigned x := by
  obtain ⟨-, m, e, -, hx⟩ := h
  exact ⟨m, e, hx⟩

theorem nearestTo_div (hx : 0 < toRat x) (hy : 0 < toRat y) (hle : toRat x / toRat y ≤ greatest) :
    NearestTo (x / y) (toRat x / toRat y) := by
  have hq := div_pos hx hy
  obtain ⟨m₁, e₁, hfx, h₁, hvx⟩ := exists_ofFloat_of_toRat_pos hx
  obtain ⟨m₂, e₂, hfy, h₂, hvy⟩ := exists_ofFloat_of_toRat_pos hy
  obtain ⟨m, e, hround⟩ := exists_roundsTo hq
  have he := hround.exponent_le hq hle
  refine ⟨hq, m, e, hround, ofFloat_div hfx hfy h₁ h₂ ?_ he⟩
  rw [← hvx, ← hvy]
  exact hround

theorem zero_div_finite (hx : Dyadic.ofFloat x = some ⟨false, 0, e⟩) (hy : Dyadic.ofFloat y = some ⟨false, m, f⟩)
    (hm : 0 < m) : Dyadic.ofFloat (x / y) = some ⟨false, 0, -1074⟩ := by
  have hdiv : x / y = Float.ofModel (.pack (.div .binary64 x.toModel.unpack y.toModel.unpack)) := rfl
  rw [hdiv, unpack_of_ofFloat hx, unpack_of_positive hy hm]
  exact ofFloat_pack (d := ⟨false, 0, -1074⟩) ⟨by norm_num, le_rfl, .inr rfl⟩ (by norm_num)

/-- A quotient does not exceed a number that some double stands for if the exact quotient does not. -/
theorem unsigned_div (hx : Unsigned x) (hy : 0 < toRat y) (hr : Representable r) (hgreatest : r ≤ greatest)
    (hle : toRat x ≤ r * toRat y) : Unsigned (x / y) ∧ toRat (x / y) ≤ r := by
  obtain ⟨m, e, hfx⟩ := hx
  obtain ⟨n, f, hfy, hn, -⟩ := exists_ofFloat_of_toRat_pos hy
  rcases Nat.eq_zero_or_pos m with rfl | hm
  · have hzero := zero_div_finite hfx hfy hn
    refine ⟨⟨_, _, hzero⟩, ?_⟩
    obtain ⟨k, p, -, rfl⟩ := hr
    rw [toRat_of_ofFloat hzero, Dyadic.value_zero]
    positivity
  · have hpos : 0 < toRat x := by
      rw [toRat_of_ofFloat hfx, Dyadic.value_positive]
      have : (0 : ℚ) < m := by exact_mod_cast hm
      positivity
    have hquotient : toRat x / toRat y ≤ r := (div_le_iff₀ hy).mpr hle
    have hnear := nearestTo_div hpos hy (hquotient.trans hgreatest)
    exact ⟨hnear.unsigned, hnear.le hr hquotient⟩

theorem pow_ten_le : ∀ k < 309, 10 ^ k ≤ (2 ^ 53 - 1) * 2 ^ 971 := by decide +kernel

theorem natCast_le_greatest {k : ℕ} (hk : k ≤ 308) (hn : n ≤ 10 ^ k) : (n : ℚ) ≤ greatest := by
  have hpow := hn.trans (pow_ten_le k (Nat.lt_succ_of_le hk))
  calc (n : ℚ) ≤ (((2 ^ 53 - 1) * 2 ^ 971 : ℕ) : ℚ) := by exact_mod_cast hpow
    _ = greatest := by
      rw [Nat.cast_mul, Nat.cast_pow, greatest]
      exact congrArg _ (zpow_natCast _ 971).symm

theorem ten_pow_le_greatest : (10 : ℚ) ^ 308 * (11 / 10) ≤ greatest := by
  have hnat : 11 * 10 ^ 307 ≤ (2 ^ 53 - 1) * 2 ^ 971 := by decide +kernel
  have hsplit : (10 : ℚ) ^ 308 * (11 / 10) = ((11 * 10 ^ 307 : ℕ) : ℚ) := by
    have hshift (a : ℚ) : a * 10 * (11 / 10) = 11 * a := by ring
    rw [pow_succ, hshift, Nat.cast_mul, Nat.cast_pow]
    rfl
  have hgreatest : greatest = (((2 ^ 53 - 1) * 2 ^ 971 : ℕ) : ℚ) := by
    rw [Nat.cast_mul, Nat.cast_pow, greatest]
    exact congrArg _ (zpow_natCast _ 971)
  rw [hsplit, hgreatest]
  exact_mod_cast hnat

theorem nearestTo_toFloat (hn : 0 < n) (hlt : n < UInt64.size) : NearestTo (UInt64.ofNat n).toFloat n := by
  have hq : (0 : ℚ) < n := by exact_mod_cast hn
  have hsame : (UInt64.ofNat n).toNat = n := UInt64.toNat_ofNat_of_lt' hlt
  obtain ⟨m, e, hround⟩ := exists_roundsTo hq
  have hsmall : n ≤ 10 ^ 20 := hlt.le.trans (by decide)
  have he := hround.exponent_le hq (natCast_le_greatest (by norm_num) hsmall)
  exact ⟨hq, m, e, hround, ofFloat_toFloat (by rw [hsame]; exact hn) (by rw [hsame]; exact hround) he⟩

end NearestTo

end FleetLocator.Decimal
