import FleetLocator.Decimal.Binary64
import FleetLocator.Proofs.Decimal.Rounding

/-!
# The shortest digits round to the double they are of

A grid of 17 digits always has a point no farther from a double than halfway to its neighbours, so the search
for a grid ends, and what it finds is rounded to the double again.
-/
namespace FleetLocator.Decimal

theorem ten_zpow_pos (p : ℤ) : (0 : ℚ) < 10 ^ p := zpow_pos (by norm_num) p

theorem pow_length_toDigits {n : ℕ} (hn : 0 < n) :
    10 ^ ((Nat.toDigits 10 n).length - 1) ≤ n ∧ n < 10 ^ (Nat.toDigits 10 n).length := by
  have hpos : 0 < (Nat.toDigits 10 n).length := Nat.length_toDigits_pos
  constructor
  · rcases Nat.eq_zero_or_pos ((Nat.toDigits 10 n).length - 1) with h | h
    · rw [h]
      exact hn
    · have := (Nat.length_toDigits_le_iff (b := 10) (n := n) (by norm_num) h).not.mp (by omega)
      exact not_lt.mp this
  · exact (Nat.length_toDigits_le_iff (by norm_num) hpos).mp le_rfl

/-- The digits without the zeros at the end are those of the number without its factors of ten. -/
theorem dropZeros_toDigits {n : ℕ} (hn : 0 < n) :
    ∃ k j, n = k * 10 ^ j ∧ k % 10 ≠ 0 ∧
      ((Nat.toDigits 10 n).reverse.dropWhile (· = '0')).reverse = Nat.toDigits 10 k ∧
      (Nat.toDigits 10 n).length = (Nat.toDigits 10 k).length + j := by
  induction n using Nat.strong_induction_on with
  | _ n ih =>
    by_cases hmod : n % 10 = 0
    · have hten : 10 ≤ n := by omega
      obtain ⟨k, j, hk, hlast, hdigits, hlength⟩ := ih (n / 10) (by omega) (by omega)
      have hsplit := Nat.toDigits_of_base_le (b := 10) (by norm_num) hten
      refine ⟨k, j + 1, ?_, hlast, ?_, ?_⟩
      · rw [pow_succ, ← mul_assoc, ← hk]
        omega
      · rw [hsplit, List.reverse_append, hmod]
        exact hdigits
      · rw [hsplit, List.length_append, hlength]
        rfl
    · refine ⟨n, 0, by ring, hmod, ?_, rfl⟩
      have hlast : ∃ cs, Nat.toDigits 10 n = cs ++ [Nat.digitChar (n % 10)] := by
        rcases Nat.lt_or_ge n 10 with hlt | hge
        · exact ⟨[], by rw [Nat.toDigits_of_lt_base hlt, Nat.mod_eq_of_lt hlt]; rfl⟩
        · exact ⟨_, Nat.toDigits_of_base_le (by norm_num) hge⟩
      have hne : ∀ d < 10, d ≠ 0 → Nat.digitChar d ≠ '0' := by decide
      obtain ⟨cs, hcs⟩ := hlast
      have hfirst : decide (Nat.digitChar (n % 10) = '0') = false :=
        decide_eq_false (hne _ (Nat.mod_lt n (by norm_num)) hmod)
      rw [hcs, List.reverse_append, List.reverse_singleton, List.singleton_append, List.dropWhile_cons, hfirst]
      simp

namespace Scientific

/-- The digits of a number stand for `n · 10 ^ place`, and `n` has fewer than 18 digits. -/
structure Spells (s : Scientific) (n : ℕ) : Prop where
  digits : s.digits = Nat.toDigits 10 n
  pos : 0 < n
  lt : n < 10 ^ 17

/-- The place of the last digit. -/
def place (s : Scientific) : ℤ := s.exponent + 1 - s.digits.length

end Scientific

theorem exists_spells_ofNat {c : ℕ} (hpos : 0 < c) (hle : c ≤ 10 ^ 17) (p : ℤ) :
    ∃ n, (Scientific.ofNat c p).Spells n ∧ (n : ℚ) * 10 ^ (Scientific.ofNat c p).place = c * 10 ^ p := by
  obtain ⟨n, j, hc, hlast, hdigits, hlength⟩ := dropZeros_toDigits hpos
  have hn : n ≤ c := by
    rw [hc]
    exact Nat.le_mul_of_pos_right n (by positivity)
  refine ⟨n, ⟨hdigits, by omega, by omega⟩, ?_⟩
  have hplace : (Scientific.ofNat c p).place = j + p := by
    unfold Scientific.place Scientific.ofNat
    dsimp only
    rw [hdigits, hlength]
    push_cast
    ring
  rw [hplace, hc, zpow_add₀ (by norm_num), zpow_natCast]
  push_cast
  ring

theorem scaleByTen_pos {a b : ℕ} (hb : 0 < b) (p : ℤ) : 0 < (scaleByTen a b p).2 := by
  cases p with
  | ofNat p => exact hb
  | negSucc p => exact Nat.mul_pos hb (Nat.pow_pos (by norm_num))

theorem scaleByTen_div {a b : ℕ} (hb : 0 < b) (p : ℤ) :
    ((scaleByTen a b p).1 : ℚ) / (scaleByTen a b p).2 = a / b * 10 ^ p := by
  have hb' : (b : ℚ) ≠ 0 := by exact_mod_cast hb.ne'
  cases p with
  | ofNat p =>
    rw [scaleByTen, Int.ofNat_eq_natCast, zpow_natCast, Nat.pow_eq]
    push_cast
    ring
  | negSucc p =>
    rw [scaleByTen, zpow_negSucc, Nat.pow_eq]
    push_cast
    field_simp

/-- The leading place of a quotient lies between the two that the lengths of its sides allow. -/
theorem leadingPlace_spec {a b : ℕ} (ha : 0 < a) (hb : 0 < b) :
    (10 : ℚ) ^ leadingPlace a b ≤ a / b ∧ (a : ℚ) / b < 10 ^ (leadingPlace a b + 1) := by
  have ha' : (0 : ℚ) < a := by exact_mod_cast ha
  have hb' : (0 : ℚ) < b := by exact_mod_cast hb
  have hla : 0 < (Nat.toDigits 10 a).length := Nat.length_toDigits_pos
  have hlb : 0 < (Nat.toDigits 10 b).length := Nat.length_toDigits_pos
  obtain ⟨halow, hahigh⟩ := pow_length_toDigits ha
  obtain ⟨hblow, hbhigh⟩ := pow_length_toDigits hb
  unfold leadingPlace
  dsimp only
  set k : ℤ := (Nat.toDigits 10 a).length - (Nat.toDigits 10 b).length with hk
  have hlow : (10 : ℚ) ^ (k - 1) ≤ a / b := by
    rw [le_div_iff₀ hb']
    calc (10 : ℚ) ^ (k - 1) * b ≤ 10 ^ (k - 1) * ((10 ^ (Nat.toDigits 10 b).length : ℕ) : ℚ) := by gcongr
      _ = ((10 ^ ((Nat.toDigits 10 a).length - 1) : ℕ) : ℚ) := by
          push_cast
          rw [← zpow_natCast, ← zpow_natCast, ← zpow_add₀ (by norm_num)]
          congr 1
          omega
      _ ≤ a := by exact_mod_cast halow
  have hhigh : (a : ℚ) / b < 10 ^ (k + 1) := by
    rw [div_lt_iff₀ hb']
    calc (a : ℚ) < ((10 ^ (Nat.toDigits 10 a).length : ℕ) : ℚ) := by exact_mod_cast hahigh
      _ = 10 ^ (k + 1) * ((10 ^ ((Nat.toDigits 10 b).length - 1) : ℕ) : ℚ) := by
          push_cast
          rw [← zpow_natCast, ← zpow_natCast, ← zpow_add₀ (by norm_num)]
          congr 1
          omega
      _ ≤ 10 ^ (k + 1) * b := by gcongr
  have hdiv := scaleByTen_div (a := a) hb (-k)
  have hpos : (0 : ℚ) < (scaleByTen a b (-k)).2 := by exact_mod_cast scaleByTen_pos hb (-k)
  have hone : (scaleByTen a b (-k)).2 ≤ (scaleByTen a b (-k)).1 ↔ (10 : ℚ) ^ k ≤ a / b := by
    rw [← Nat.cast_le (α := ℚ), ← one_le_div hpos, hdiv, zpow_neg, ← div_eq_mul_inv, one_le_div (ten_zpow_pos k)]
  split
  · next h => exact ⟨hone.mp h, hhigh⟩
  · next h =>
    rw [sub_add_cancel]
    exact ⟨hlow, not_le.mp (mt hone.mpr h)⟩

namespace Rounding

variable {m : ℕ} {e : ℤ} {negative : Bool}

theorem ofDyadic_below_pos (d : Dyadic) : 0 < (ofDyadic d).below := Nat.pow_pos (by norm_num)

theorem unit_div_below (e : ℤ) : ((Nat.pow 2 (e - 2).toNat : ℕ) : ℚ) / (Nat.pow 2 (2 - e).toNat : ℕ) = 2 ^ (e - 2) := by
  rw [Nat.pow_eq, Nat.pow_eq, div_eq_iff (by positivity)]
  push_cast
  rw [← zpow_natCast, ← zpow_natCast, ← zpow_add₀ two_ne_zero]
  congr 1
  omega

theorem quarter_zpow (e : ℤ) : (2 : ℚ) ^ (e - 2) = 2 ^ e / 4 := by
  rw [zpow_sub₀ two_ne_zero]
  norm_num

theorem value_ofDyadic (d : Dyadic) :
    ((ofDyadic d).value : ℚ) / (ofDyadic d).below = d.mantissa * 2 ^ d.exponent := by
  have hunit := unit_div_below d.exponent
  rw [quarter_zpow] at hunit
  unfold ofDyadic
  dsimp only
  push_cast at hunit ⊢
  rw [mul_div_assoc, hunit]
  ring

theorem high_ofDyadic (d : Dyadic) :
    ((ofDyadic d).high : ℚ) / (ofDyadic d).below = (d.mantissa + 1 / 2) * 2 ^ d.exponent := by
  have hunit := unit_div_below d.exponent
  rw [quarter_zpow] at hunit
  unfold ofDyadic
  dsimp only
  push_cast at hunit ⊢
  rw [mul_div_assoc, hunit]
  ring

theorem low_ofDyadic {d : Dyadic} (h : 0 < d.mantissa) :
    ((ofDyadic d).low : ℚ) / (ofDyadic d).below =
      (d.mantissa - gapBelow d.mantissa d.exponent) * 2 ^ d.exponent := by
  have hunit := unit_div_below d.exponent
  rw [quarter_zpow] at hunit
  have hpower : (d.mantissa = hiddenBit ∧ d.exponent > -1074) ↔ (d.mantissa = 2 ^ 52 ∧ -1074 < d.exponent) := Iff.rfl
  unfold ofDyadic gapBelow
  simp only [hpower]
  split
  · rw [Nat.cast_mul, mul_div_assoc, hunit, Nat.cast_sub (by omega)]
    push_cast
    ring
  · rw [Nat.cast_mul, mul_div_assoc, hunit, Nat.cast_sub (by omega)]
    push_cast
    ring

variable {a b : ℕ}

theorem scaleByTen_le_iff (hb : 0 < b) (p : ℤ) (c : ℕ) :
    (scaleByTen a b p).1 ≤ c * (scaleByTen a b p).2 ↔ (a : ℚ) / b ≤ c / 10 ^ p := by
  have hpos : (0 : ℚ) < (scaleByTen a b p).2 := by exact_mod_cast scaleByTen_pos hb p
  rw [← Nat.cast_le (α := ℚ), Nat.cast_mul, ← div_le_iff₀ hpos, scaleByTen_div hb, le_div_iff₀ (ten_zpow_pos p)]

theorem le_scaleByTen_iff (hb : 0 < b) (p : ℤ) (c : ℕ) :
    c * (scaleByTen a b p).2 ≤ (scaleByTen a b p).1 ↔ (c : ℚ) / 10 ^ p ≤ a / b := by
  have hpos : (0 : ℚ) < (scaleByTen a b p).2 := by exact_mod_cast scaleByTen_pos hb p
  rw [← Nat.cast_le (α := ℚ), Nat.cast_mul, ← le_div_iff₀ hpos, scaleByTen_div hb, div_le_iff₀ (ten_zpow_pos p)]

theorem scaleByTen_lt_iff (hb : 0 < b) (p : ℤ) (c : ℕ) :
    (scaleByTen a b p).1 < c * (scaleByTen a b p).2 ↔ (a : ℚ) / b < c / 10 ^ p := by
  rw [← not_le, ← not_le, le_scaleByTen_iff hb]

theorem lt_scaleByTen_iff (hb : 0 < b) (p : ℤ) (c : ℕ) :
    c * (scaleByTen a b p).2 < (scaleByTen a b p).1 ↔ (c : ℚ) / 10 ^ p < a / b := by
  rw [← not_le, ← not_le, scaleByTen_le_iff hb]

/-- A point of the grid is admitted if and only if it lies within half the way to the neighbours. -/
theorem admits_iff {d : Dyadic} (h : 0 < d.mantissa) (p : ℤ) (c : ℕ) :
    (ofDyadic d).admits p c = true ↔ Within d.mantissa d.exponent (c / 10 ^ p) := by
  have hb := ofDyadic_below_pos d
  have hu := two_zpow_pos d.exponent
  have hclosed : (ofDyadic d).closed = decide (d.mantissa % 2 = 0) := rfl
  unfold admits
  dsimp only
  rw [hclosed]
  by_cases heven : d.mantissa % 2 = 0
  · rw [decide_eq_true heven, if_pos rfl, Bool.and_eq_true, decide_eq_true_eq, decide_eq_true_eq,
      scaleByTen_le_iff hb, le_scaleByTen_iff hb, low_ofDyadic h, high_ofDyadic, ← le_div_iff₀ hu, ← div_le_iff₀ hu]
    exact ⟨fun hboth => ⟨hboth.1, hboth.2, fun hodd => by omega⟩, fun hw => ⟨hw.low, hw.high⟩⟩
  · rw [decide_eq_false heven, if_neg Bool.false_ne_true, Bool.and_eq_true, decide_eq_true_eq, decide_eq_true_eq,
      scaleByTen_lt_iff hb, lt_scaleByTen_iff hb, low_ofDyadic h, high_ofDyadic, ← lt_div_iff₀ hu, ← div_lt_iff₀ hu]
    exact ⟨fun hboth => ⟨hboth.1.le, hboth.2.le, fun _ => hboth⟩, fun hw => hw.strict (by omega)⟩

/-- The lower of the two neighbours on a grid. -/
def gridFloor (r : Rounding) (p : ℤ) : ℕ := (scaleByTen r.value r.below p).1 / (scaleByTen r.value r.below p).2

theorem onGrid_cases {r : Rounding} {p : ℤ} {c : ℕ} (h : r.onGrid p = some c) :
    r.admits p c = true ∧ (c = r.gridFloor p ∨ c = r.gridFloor p + 1) := by
  unfold onGrid at h
  dsimp only at h
  split at h
  · next hlow hhigh =>
    split at h <;> obtain rfl := Option.some.inj h
    · exact ⟨hhigh, .inr rfl⟩
    · exact ⟨hlow, .inl rfl⟩
  · next hlow _ =>
    obtain rfl := Option.some.inj h
    exact ⟨hlow, .inl rfl⟩
  · next _ hhigh =>
    obtain rfl := Option.some.inj h
    exact ⟨hhigh, .inr rfl⟩
  · cases h

theorem onGrid_isSome {r : Rounding} {p : ℤ}
    (h : r.admits p (r.gridFloor p) = true ∨ r.admits p (r.gridFloor p + 1) = true) : (r.onGrid p).isSome = true := by
  unfold onGrid
  dsimp only
  split
  · rfl
  · rfl
  · rfl
  · next hlow hhigh =>
    rcases h with h | h
    · exact absurd (h.symm.trans hlow) (by decide)
    · exact absurd (h.symm.trans hhigh) (by decide)

theorem gridFloor_le (d : Dyadic) (p : ℤ) :
    ((ofDyadic d).gridFloor p : ℚ) ≤ d.mantissa * 2 ^ d.exponent * 10 ^ p ∧
      d.mantissa * (2 : ℚ) ^ d.exponent * 10 ^ p < (ofDyadic d).gridFloor p + 1 := by
  have hvalue := scaleByTen_div (a := (ofDyadic d).value) (ofDyadic_below_pos d) p
  rw [value_ofDyadic] at hvalue
  have hfloor : (ofDyadic d).gridFloor p = ⌊d.mantissa * (2 : ℚ) ^ d.exponent * 10 ^ p⌋₊ := by
    rw [← hvalue, Nat.floor_div_eq_div]
    rfl
  rw [hfloor]
  exact ⟨Nat.floor_le (by positivity), Nat.lt_floor_add_one _⟩

/-- Of two neighbours on a grid that is finer than the double's own, one is nearer than halfway to the next doubles. -/
theorem near_of_fine {m : ℕ} {e : ℤ} {low step : ℚ} (hm : (m : ℚ) ≤ 2 ^ 53) (hstep : step ≤ m / 10 ^ 16)
    (hlow : low ≤ m) (hhigh : m < low + step) :
    (m - gapBelow m e < low ∧ low < m + 1 / 2) ∨
      (m - gapBelow m e < low + step ∧ low + step < m + 1 / 2) := by
  by_cases hpower : m = 2 ^ 52
  · -- Above a power of two half a unit is more than a step.
    right
    have hpower' : (m : ℚ) = 2 ^ 52 := by exact_mod_cast hpower
    have hgap : 0 < gapBelow m e := by
      unfold gapBelow
      split <;> norm_num
    refine ⟨by linarith, ?_⟩
    rw [hpower'] at hstep hlow ⊢
    norm_num at hstep hlow ⊢
    linarith
  · -- Elsewhere half a unit on both sides is more than half a step.
    have hgap : gapBelow m e = 1 / 2 := if_neg fun h => hpower h.1
    have hstep' : step < 1 := by
      refine lt_of_le_of_lt hstep ?_
      rw [div_lt_one (by positivity)]
      linarith
    rw [hgap]
    by_cases hnear : (m : ℚ) - low < 1 / 2
    · exact .inl ⟨by linarith, by linarith⟩
    · exact .inr ⟨by linarith, by linarith⟩

/-- On a grid that is finer than the double's own, a neighbour of the double is admitted. -/
theorem onGrid_isSome_of_fine {d : Dyadic} (hc : Dyadic.Canonical d.mantissa d.exponent) (h : 0 < d.mantissa)
    {p : ℤ} (hp : 10 ^ 16 ≤ d.mantissa * (2 : ℚ) ^ d.exponent * 10 ^ p) : ((ofDyadic d).onGrid p).isSome = true := by
  obtain ⟨hlow, hhigh⟩ := gridFloor_le d p
  apply onGrid_isSome
  rw [admits_iff h, admits_iff h]
  obtain ⟨negative, m, e⟩ := d
  dsimp only at hc h hp hlow hhigh ⊢
  generalize (ofDyadic ⟨negative, m, e⟩).gridFloor p = f at hlow hhigh
  -- In units of the last place the double is `m` and a step of the grid is `1 / t`.
  set t : ℚ := 2 ^ e * 10 ^ p with ht
  have htpos : 0 < t := mul_pos (two_zpow_pos e) (ten_zpow_pos p)
  have hunits (c : ℕ) : (c : ℚ) / 10 ^ p / 2 ^ e = c / t := by rw [div_div, mul_comm]
  have hcast : ((f + 1 : ℕ) : ℚ) / t = (f : ℚ) / t + 1 / t := by
    rw [← add_div]
    push_cast
    rfl
  rw [mul_assoc, ← ht] at hp hlow hhigh
  have hstep : 1 / t ≤ m / 10 ^ 16 := by
    rw [div_le_div_iff₀ htpos (by positivity), one_mul]
    exact hp
  have hhigh' : (m : ℚ) < (f : ℚ) / t + 1 / t := by
    rw [← add_div, lt_div_iff₀ htpos]
    exact hhigh
  have hwithin {c : ℕ} (hnear : m - gapBelow m e < (c : ℚ) / t ∧ (c : ℚ) / t < m + 1 / 2) :
      Within m e (c / 10 ^ p) := by
    rw [← hunits] at hnear
    exact ⟨hnear.1.le, hnear.2.le, fun _ => hnear⟩
  have hm : (m : ℚ) ≤ 2 ^ 53 := by exact_mod_cast hc.lt.le
  rcases near_of_fine (e := e) hm hstep ((div_le_iff₀ htpos).mpr hlow) hhigh' with hnear | hnear
  · exact .inl (hwithin hnear)
  · rw [← hcast] at hnear
    exact .inr (hwithin hnear)

/-- The place of the first digit. -/
def lead (d : Dyadic) : ℤ := leadingPlace (ofDyadic d).value (ofDyadic d).below

/-- On the grid of `n + 1` digits the number lies between two powers of ten. -/
theorem scaled_between {d : Dyadic} (h : 0 < d.mantissa) (n : ℕ) :
    (10 : ℚ) ^ n ≤ d.mantissa * (2 : ℚ) ^ d.exponent * 10 ^ (n - lead d) ∧
      d.mantissa * (2 : ℚ) ^ d.exponent * 10 ^ (n - lead d) < 10 ^ (n + 1) := by
  have hm : (0 : ℚ) < d.mantissa := by exact_mod_cast h
  have hvalue := value_ofDyadic d
  have hpos : 0 < (ofDyadic d).value := by
    by_contra hzero
    rw [Nat.eq_zero_of_not_pos hzero, Nat.cast_zero, zero_div] at hvalue
    exact absurd hvalue.symm (mul_pos hm (two_zpow_pos _)).ne'
  obtain ⟨hlead, hnext⟩ := leadingPlace_spec hpos (ofDyadic_below_pos d)
  change (10 : ℚ) ^ lead d ≤ _ at hlead
  change _ < (10 : ℚ) ^ (lead d + 1) at hnext
  rw [hvalue] at hlead hnext
  have hpow := ten_zpow_pos (n - lead d)
  have hlow : (10 : ℚ) ^ n = 10 ^ lead d * 10 ^ (n - lead d) := by
    rw [← zpow_natCast, ← zpow_add₀ (by norm_num)]
    congr 1
    ring
  have hhigh : (10 : ℚ) ^ (n + 1) = 10 ^ (lead d + 1) * 10 ^ (n - lead d) := by
    rw [← zpow_natCast, ← zpow_add₀ (by norm_num)]
    congr 1
    push_cast
    ring
  rw [hlow, hhigh]
  constructor <;> gcongr

theorem gridFloor_between {d : Dyadic} (h : 0 < d.mantissa) (n : ℕ) :
    10 ^ n ≤ (ofDyadic d).gridFloor (n - lead d) ∧ (ofDyadic d).gridFloor (n - lead d) < 10 ^ (n + 1) := by
  obtain ⟨hlow, hhigh⟩ := gridFloor_le d (n - lead d)
  obtain ⟨hmost, hleast⟩ := scaled_between h n
  constructor
  · have : ((10 ^ n : ℕ) : ℚ) < (((ofDyadic d).gridFloor (n - lead d) + 1 : ℕ) : ℚ) := by
      push_cast
      linarith
    exact Nat.le_of_lt_succ (by exact_mod_cast this)
  · have : ((ofDyadic d).gridFloor (n - lead d) : ℚ) < ((10 ^ (n + 1) : ℕ) : ℚ) := by
      push_cast
      linarith
    exact_mod_cast this

end Rounding

namespace Dyadic

open Rounding (lead)

variable {d : Dyadic}

/-- The shortest digits are those of a point on a grid of at most 17 digits. -/
theorem exists_onGrid_shortest (hc : Canonical d.mantissa d.exponent) (h : 0 < d.mantissa) :
    ∃ n c : ℕ, n < 17 ∧ (Rounding.ofDyadic d).onGrid (n - lead d) = some c ∧
      d.shortest = Scientific.ofNat c (lead d - n) := by
  have hsome : ((List.range 17).findSome? fun n : ℕ =>
      ((Rounding.ofDyadic d).onGrid (n - lead d)).map fun c => Scientific.ofNat c (lead d - n)).isSome = true := by
    rw [List.findSome?_isSome_iff]
    refine ⟨16, by decide, ?_⟩
    rw [Option.isSome_map]
    exact Rounding.onGrid_isSome_of_fine hc h (Rounding.scaled_between h 16).1
  obtain ⟨s, hs⟩ := Option.isSome_iff_exists.mp hsome
  obtain ⟨n, hn, hmap⟩ := List.exists_of_findSome?_eq_some hs
  obtain ⟨c, hgrid, rfl⟩ := Option.map_eq_some_iff.mp hmap
  refine ⟨n, c, List.mem_range.mp hn, hgrid, ?_⟩
  rw [shortest, if_neg h.ne']
  exact congrArg (fun found => found.getD ⟨['0'], 0⟩) hs

/-- The shortest digits stand for a number with fewer than 18 digits no farther than halfway to the neighbours. -/
theorem exists_spells_shortest (hc : Canonical d.mantissa d.exponent) (h : 0 < d.mantissa) :
    ∃ n, d.shortest.Spells n ∧ Within d.mantissa d.exponent (n * 10 ^ d.shortest.place) := by
  obtain ⟨n, c, hn, hgrid, hshortest⟩ := exists_onGrid_shortest hc h
  obtain ⟨hadmits, hfloor⟩ := Rounding.onGrid_cases hgrid
  obtain ⟨hleast, hmost⟩ := Rounding.gridFloor_between h n
  have hpow : 10 ^ (n + 1) ≤ 10 ^ 17 := Nat.pow_le_pow_right (by norm_num) hn
  have hone : 0 < 10 ^ n := Nat.pow_pos (by norm_num)
  obtain ⟨k, hspells, hk⟩ := exists_spells_ofNat (c := c) (by omega) (by omega) (lead d - n)
  have hinv : (c : ℚ) * 10 ^ (lead d - n) = c / 10 ^ ((n : ℤ) - lead d) := by
    rw [← neg_sub, zpow_neg, div_eq_mul_inv]
  rw [hshortest]
  refine ⟨k, hspells, ?_⟩
  rw [hk, hinv]
  exact (Rounding.admits_iff h _ c).mp hadmits

end Dyadic

end FleetLocator.Decimal
