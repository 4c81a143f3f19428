import FleetLocator.Decimal.Literal
import FleetLocator.Proofs.Decimal.Adjacent
import FleetLocator.Proofs.Decimal.Shortest
import FleetLocator.Proofs.Json.Scale

/-!
# What a reader makes of the shortest digits of a double

The reader takes the digits as a whole number and scales it by a power of ten. Of few digits it makes the same
double again; of many it may make the next one. It never leaves the bounds of degrees and ratings.
-/
namespace FleetLocator.Json

open Decimal

/-- All digits stand before the point of a number that is written without an exponent. -/
def WholeDigits (s : Scientific) : Prop :=
  (0 ≤ s.exponent ∧ s.exponent ≤ 15) ∧ (s.digits.length : ℤ) ≤ s.exponent + 1

instance (s : Scientific) : Decidable (WholeDigits s) := by unfold WholeDigits; infer_instance

/-- The significand in a number's text, in which a whole number has a zero after the point. -/
def significand (s : Scientific) : ℕ :=
  if WholeDigits s then digitsValue s.digits * 10 ^ (s.exponent + 2 - s.digits.length).toNat
  else digitsValue s.digits

/-- The power of ten that belongs to the significand. -/
def power (s : Scientific) : ℤ := if WholeDigits s then -1 else s.place

/-- The double that is read from the shortest digits of a magnitude. -/
def rereadMagnitude (m : ℕ) (e : ℤ) : Float :=
  let s := Dyadic.shortest ⟨false, m, e⟩
  (scale 2 (UInt64.ofNat (significand s)).toFloat (power s)).getD 0

/-- The double that is read from the text of a double. -/
def reread (x : Float) : Float :=
  match Dyadic.ofFloat x with
  | some d => signed (!d.negative) (rereadMagnitude d.mantissa d.exponent)
  | none => x

variable {s : Scientific} {n m c : ℕ} {e : ℤ} {x : Float}

theorem digitsValue_toDigits (n : ℕ) : digitsValue (Nat.toDigits 10 n) = n := by
  have h := Nat.ofDigitChars_ten_toDigits (n := n)
  have hfold : digitsValue = fun cs => Nat.ofDigitChars 10 cs 0 := by
    funext cs
    unfold digitsValue Nat.ofDigitChars
    congr 1
    funext value c
    rw [Nat.mul_comm]
    rfl
  rw [hfold]
  exact h

theorem spells_between (h : s.Spells n) :
    (10 : ℚ) ^ s.exponent ≤ n * 10 ^ s.place ∧ (n : ℚ) * 10 ^ s.place < 10 ^ (s.exponent + 1) := by
  obtain ⟨hlow, hhigh⟩ := pow_length_toDigits h.pos
  have hlength : 0 < s.digits.length := by
    rw [h.digits]
    exact Nat.length_toDigits_pos
  rw [← h.digits] at hlow hhigh
  have hplace := ten_zpow_pos s.place
  constructor
  · calc (10 : ℚ) ^ s.exponent = ((10 ^ (s.digits.length - 1) : ℕ) : ℚ) * 10 ^ s.place := by
          push_cast
          rw [← zpow_natCast, ← zpow_add₀ (by norm_num), Scientific.place]
          congr 1
          omega
      _ ≤ n * 10 ^ s.place := by
          gcongr
  · calc (n : ℚ) * 10 ^ s.place < ((10 ^ s.digits.length : ℕ) : ℚ) * 10 ^ s.place := by
          gcongr
      _ = 10 ^ (s.exponent + 1) := by
          push_cast
          rw [← zpow_natCast, ← zpow_add₀ (by norm_num), Scientific.place]
          congr 1
          omega

/-- The significand is that of a number below one or has the point within its digits or one zero behind it. -/
theorem significand_spec (h : s.Spells n) (hsmall : s.exponent ≤ 15) :
    ∃ k : ℕ, 0 < k ∧ power s = -(k : ℤ) ∧ 0 < significand s ∧ significand s < 10 ^ 17 ∧
      (significand s : ℚ) / 10 ^ k = n * 10 ^ s.place := by
  have hvalue : digitsValue s.digits = n := by rw [h.digits, digitsValue_toDigits]
  have hpos := h.pos
  have hlength : 0 < s.digits.length := by
    rw [h.digits]
    exact Nat.length_toDigits_pos
  obtain ⟨-, hhigh⟩ := pow_length_toDigits h.pos
  rw [← h.digits] at hhigh
  by_cases hwhole : WholeDigits s
  · obtain ⟨⟨hexp, -⟩, hle⟩ := id hwhole
    have hpower : power s = -1 := if_pos hwhole
    have hsig : significand s = n * 10 ^ (s.exponent + 2 - s.digits.length).toNat := by
      rw [significand, if_pos hwhole, hvalue]
    refine ⟨1, one_pos, hpower, by rw [hsig]; positivity, ?_, ?_⟩
    · rw [hsig]
      calc n * 10 ^ (s.exponent + 2 - s.digits.length).toNat
          < 10 ^ s.digits.length * 10 ^ (s.exponent + 2 - s.digits.length).toNat := by gcongr
        _ = 10 ^ (s.exponent + 2).toNat := by
            rw [← pow_add]
            congr 1
            omega
        _ ≤ 10 ^ 17 := Nat.pow_le_pow_right (by norm_num) (by omega)
    · rw [hsig, pow_one, div_eq_iff (by norm_num), mul_assoc, ← zpow_add_one₀ (by norm_num)]
      push_cast
      rw [← zpow_natCast, Scientific.place]
      congr 2
      omega
  · have hpower : power s = s.place := if_neg hwhole
    have hsig : significand s = n := by rw [significand, if_neg hwhole, hvalue]
    have hneg : s.place < 0 := by
      unfold WholeDigits at hwhole
      unfold Scientific.place
      omega
    obtain ⟨k, hk⟩ : ∃ k : ℕ, s.place = -(k : ℤ) := ⟨(-s.place).toNat, by omega⟩
    refine ⟨k, by omega, by rw [hpower, hk], by rw [hsig]; exact hpos, by rw [hsig]; exact h.lt, ?_⟩
    rw [hsig, hk, zpow_neg, zpow_natCast, div_eq_mul_inv]

theorem rereadMagnitude_zero : Dyadic.ofFloat (rereadMagnitude 0 (-1074)) = some ⟨false, 0, -1074⟩ := by
  decide +kernel

/-- What the digits stand for is rounded to the number that they are of. -/
theorem exists_spells (hc : Dyadic.Canonical m e) (h : 0 < m) :
    ∃ n, (Dyadic.shortest ⟨false, m, e⟩).Spells n ∧
      RoundsTo (n * 10 ^ (Dyadic.shortest ⟨false, m, e⟩).place) m e := by
  obtain ⟨n, hn, hwithin⟩ := Dyadic.exists_spells_shortest (d := ⟨false, m, e⟩) hc h
  have hpos : (0 : ℚ) < n := by exact_mod_cast hn.pos
  exact ⟨n, hn, hwithin.roundsTo hc (mul_pos hpos (ten_zpow_pos _))⟩

/-- A significand below `2 ^ 53` and a power of ten down to `10 ^ -22` give the same number again. -/
theorem rereadMagnitude_exact (hc : Dyadic.Canonical m e)
    (hsmall : (Dyadic.shortest ⟨false, m, e⟩).exponent ≤ 15)
    (hsig : significand (Dyadic.shortest ⟨false, m, e⟩) < 2 ^ 53)
    (hpower : -22 ≤ power (Dyadic.shortest ⟨false, m, e⟩)) :
    Dyadic.ofFloat (rereadMagnitude m e) = some ⟨false, m, e⟩ := by
  rcases Nat.eq_zero_or_pos m with rfl | h
  · obtain rfl := exponent_of_mantissa_eq_zero hc
    exact rereadMagnitude_zero
  obtain ⟨n, hn, hround⟩ := exists_spells hc h
  obtain ⟨k, hk, hpow, hpos, -, hvalue⟩ := significand_spec hn hsmall
  obtain ⟨y, hy, -, m', e', hround', hfloat⟩ := scale_exact hpos hsig hk (by omega)
  rw [hvalue] at hround'
  obtain ⟨rfl, rfl⟩ := hround.unique hround'
  unfold rereadMagnitude
  dsimp only
  rw [hpow, hy, Option.getD_some, hfloat]

/-- What is not below `10 ^ -22` is rounded to a number of 53 digits. -/
theorem full_of_roundsTo {q : ℚ} (hc : Dyadic.Canonical m e) (hq : 0 < q) (hround : RoundsTo q m e)
    (hleast : 1 / 10 ^ 22 ≤ q) : 2 ^ 52 ≤ m ∧ -1074 < e := by
  have hunits : (2 : ℚ) ^ 0 ≤ q / 2 ^ (-74 : ℤ) := by
    rw [le_div_iff₀ (two_zpow_pos _)]
    refine le_trans ?_ hleast
    norm_num
  have hplace := le_lastPlace_of_le hq hunits
  have hle := hround.lastPlace_le
  exact ⟨hc.full.resolve_right (by omega), by omega⟩

/-- Of at most 22 digits behind the point the reader makes the number itself or the one beside it. -/
theorem rereadMagnitude_beside (hc : Dyadic.Canonical m e)
    (hsmall : (Dyadic.shortest ⟨false, m, e⟩).exponent ≤ 15)
    (hpower : -22 ≤ power (Dyadic.shortest ⟨false, m, e⟩)) :
    ∃ n f, Dyadic.ofFloat (rereadMagnitude m e) = some ⟨false, n, f⟩ ∧ Beside m e n f := by
  rcases Nat.eq_zero_or_pos m with rfl | h
  · obtain rfl := exponent_of_mantissa_eq_zero hc
    exact ⟨0, -1074, rereadMagnitude_zero, .inl rfl⟩
  obtain ⟨n, hn, hwithin⟩ := Dyadic.exists_spells_shortest (d := ⟨false, m, e⟩) hc h
  obtain ⟨k, hk, hpow, hpos, hlt, hvalue⟩ := significand_spec hn hsmall
  obtain ⟨y, v, hy, ⟨-, m', e', hround, hfloat⟩, herror⟩ := scale_error hpos hlt.le hk (by omega)
  have hq : 0 < (n : ℚ) * 10 ^ (Dyadic.shortest ⟨false, m, e⟩).place :=
    mul_pos (by exact_mod_cast hn.pos) (ten_zpow_pos _)
  have hleast : 1 / 10 ^ 22 ≤ (n : ℚ) * 10 ^ (Dyadic.shortest ⟨false, m, e⟩).place := by
    rw [← hvalue]
    gcongr
    · exact_mod_cast hpos
    · norm_num
    · omega
  rw [hvalue] at herror
  obtain ⟨hfull, he⟩ := full_of_roundsTo hc hq (hwithin.roundsTo hc hq) hleast
  obtain ⟨n', f, hround', hbeside⟩ := hwithin.beside hc hfull he hq herror
  obtain ⟨rfl, rfl⟩ := hround'.unique hround
  refine ⟨n', f, ?_, hbeside⟩
  unfold rereadMagnitude
  dsimp only
  rw [hpow, hy, Option.getD_some, hfloat]

theorem ofFloat_signed {y : Float} (negative : Bool) (hy : Dyadic.ofFloat y = some ⟨false, m, e⟩) :
    Dyadic.ofFloat (signed (!negative) y) = some ⟨negative, m, e⟩ := by
  cases negative with
  | false => exact hy
  | true => exact ofFloat_neg hy

/-- Whether the text of a double has at most 22 digits behind its point, and no exponent above that. -/
def FewPlaces (x : Float) : Prop := ∀ d ∈ Dyadic.ofFloat x, d.shortest.exponent ≤ 15 ∧ -22 ≤ power d.shortest

instance (x : Float) : Decidable (FewPlaces x) := by unfold FewPlaces; infer_instance

/-- Whether moreover the digits are, as a whole number, below `2 ^ 53`. -/
def FewDigits (x : Float) : Prop := FewPlaces x ∧ ∀ d ∈ Dyadic.ofFloat x, significand d.shortest < 2 ^ 53

instance (x : Float) : Decidable (FewDigits x) := by unfold FewDigits; infer_instance

/-- A double whose text has few digits is read from it again. -/
theorem reread_of_fewDigits (h : FewDigits x) : reread x = x := by
  unfold reread
  cases hx : Dyadic.ofFloat x with
  | none => rfl
  | some d =>
    obtain ⟨hsmall, hpower⟩ := h.1 d hx
    have hexact := rereadMagnitude_exact (canonical_of_ofFloat hx).1 hsmall (h.2 d hx) hpower
    exact eq_of_ofFloat (ofFloat_signed d.negative hexact) hx

/-- A double whose text has few places is read from it again, or else the next double is. -/
theorem adjacent_reread (h : FewPlaces x) : Adjacent x (reread x) := by
  unfold reread
  cases hx : Dyadic.ofFloat x with
  | none => exact ⟨Nat.le_succ _, Nat.le_succ _⟩
  | some d =>
    obtain ⟨hsmall, hpower⟩ := h d hx
    obtain ⟨n, f, hreread, hbeside⟩ := rereadMagnitude_beside (canonical_of_ofFloat hx).1 hsmall hpower
    exact adjacent_of_beside hx (ofFloat_signed d.negative hreread) hbeside

example : reread 97.45424510282939 = 97.4542451028294 := by decide +kernel

theorem length_le_of_spells (h : s.Spells n) : s.digits.length ≤ 17 := by
  have hlow := (pow_length_toDigits h.pos).1.trans_lt h.lt
  rw [← h.digits] at hlow
  have := (Nat.pow_lt_pow_iff_right (by norm_num)).mp hlow
  omega

theorem exponent_lt_of_lt (h : s.Spells n) {k : ℕ} (hlt : (n : ℚ) * 10 ^ s.place < 10 ^ k) : s.exponent < k := by
  have hle := (spells_between h).1.trans_lt hlt
  rw [← zpow_natCast] at hle
  exact (zpow_lt_zpow_iff_right₀ (by norm_num)).mp hle

/-- The digits of a number below `10 ^ 15` stand for a number below `10 ^ 15`. -/
theorem exponent_lt_of_roundsTo (h : s.Spells n)
    (hround : RoundsTo (n * 10 ^ s.place) m e) (hlt : (m : ℚ) * 2 ^ e < 10 ^ 15) : s.exponent < 15 := by
  apply exponent_lt_of_lt h
  have hpos : (0 : ℚ) < n := by exact_mod_cast h.pos
  obtain ⟨m', e', hc, hvalue⟩ := representable_pow (k := 15) (by norm_num)
  by_contra hge
  have hle := hround.ge (mul_pos hpos (ten_zpow_pos _)) hc (by rw [hvalue]; exact not_lt.mp hge)
  rw [hvalue] at hle
  exact absurd hlt (not_lt.mpr hle)

theorem lt_exponent_of_lt (h : s.Spells n) (hround : RoundsTo (n * 10 ^ s.place) m e)
    (hfar : 2 ^ (-19 : ℤ) < (m : ℚ) * 2 ^ e) : -7 < s.exponent := by
  have hpos : (0 : ℚ) < n := by exact_mod_cast h.pos
  have hleast : ((2 ^ 52 : ℕ) : ℚ) * 2 ^ (-71 : ℤ) = 2 ^ (-19 : ℤ) := by norm_num
  have hten : (10 : ℚ) ^ (-6 : ℤ) < 2 ^ (-19 : ℤ) := by norm_num
  have hmore : (2 : ℚ) ^ (-19 : ℤ) < n * 10 ^ s.place := by
    by_contra hnear
    have hle := hround.le (mul_pos hpos (ten_zpow_pos _)) (n := 2 ^ 52) (f := -71)
      ⟨by norm_num, by norm_num, .inl le_rfl⟩ (by rw [hleast]; exact not_lt.mp hnear)
    rw [hleast] at hle
    exact absurd hfar (not_lt.mpr hle)
  have := (zpow_lt_zpow_iff_right₀ (by norm_num)).mp (hten.trans (hmore.trans (spells_between h).2))
  omega

theorem lt_exponent_of_roundsTo (h : s.Spells n)
    (hround : RoundsTo (n * 10 ^ s.place) m e) (hm : 0 < m) : -400 < s.exponent := by
  have hpow : 2 ^ 1075 < 10 ^ 399 := by decide +kernel
  have hleast : (10 : ℚ) ^ (-(399 : ℕ) : ℤ) < 2 ^ (-(1075 : ℕ) : ℤ) := by
    rw [zpow_neg, zpow_neg, zpow_natCast, zpow_natCast, inv_lt_inv₀ (by positivity) (by positivity)]
    exact_mod_cast hpow
  have hlt := hleast.trans ((hround.least_le hm).trans_lt (spells_between h).2)
  have := (zpow_lt_zpow_iff_right₀ (by norm_num)).mp hlt
  omega

/-- A bound that is itself read back bounds what is read of every lower number. -/
theorem rereadMagnitude_le {f : ℤ} (hc : Dyadic.Canonical m e) (hpos : 0 < c) (hle : c ≤ 180)
    (hf : Dyadic.Canonical n f) (hvalue : n * (2 : ℚ) ^ f = c)
    (hself : Dyadic.ofFloat (rereadMagnitude n f) = some ⟨false, n, f⟩) (h : (m : ℚ) * 2 ^ e ≤ c) :
    Unsigned (rereadMagnitude m e) ∧ toRat (rereadMagnitude m e) ≤ c := by
  rcases Nat.eq_zero_or_pos m with rfl | hm
  · obtain rfl := exponent_of_mantissa_eq_zero hc
    refine ⟨⟨_, _, rereadMagnitude_zero⟩, ?_⟩
    rw [toRat_of_ofFloat rereadMagnitude_zero, Dyadic.value_zero]
    positivity
  obtain ⟨k, hk, hround⟩ := exists_spells hc hm
  have hq : 0 < (k : ℚ) * 10 ^ (Dyadic.shortest ⟨false, m, e⟩).place :=
    mul_pos (by exact_mod_cast hk.pos) (ten_zpow_pos _)
  by_cases hqc : (k : ℚ) * 10 ^ (Dyadic.shortest ⟨false, m, e⟩).place ≤ c
  · have hsmall := exponent_lt_of_lt hk (k := 3) (hqc.trans_lt (by
      have : (c : ℚ) ≤ 180 := by exact_mod_cast hle
      linarith))
    obtain ⟨j, hj, hpow, hsigpos, hsiglt, hsigvalue⟩ := significand_spec hk (by omega)
    have hbound : significand (Dyadic.shortest ⟨false, m, e⟩) ≤ c * 10 ^ j := by
      rw [← hsigvalue, div_le_iff₀ (by positivity)] at hqc
      exact_mod_cast hqc
    obtain ⟨y, hy, hunsigned, hyc⟩ := scale_le hsigpos hsiglt.le hj hpos hle hbound
    have hread : rereadMagnitude m e = y := by
      unfold rereadMagnitude
      dsimp only
      rw [hpow, hy, Option.getD_some]
    rw [hread]
    exact ⟨hunsigned, hyc⟩
  · -- Digits above the bound are those of the bound itself.
    have hge := hround.ge hq hf (by rw [hvalue]; exact (not_le.mp hqc).le)
    rw [hvalue] at hge
    have heq : (m : ℚ) * 2 ^ e = n * 2 ^ f := by rw [hvalue]; exact le_antisymm h hge
    obtain ⟨rfl, rfl⟩ := hc.eq_of_value_eq hf heq
    exact ⟨⟨_, _, hself⟩, by rw [toRat_of_ofFloat hself, Dyadic.value_positive, hvalue]⟩

/-- The double is a whole number up to 180 that its own text gives back. -/
structure IsBound (b : Float) : Prop where
  exists_whole : ∃ c n f, Dyadic.ofFloat b = some ⟨false, n, f⟩ ∧ 0 < c ∧ c ≤ 180 ∧ n * (2 : ℚ) ^ f = (c : ℕ) ∧
    Dyadic.ofFloat (rereadMagnitude n f) = some ⟨false, n, f⟩

theorem isBound_five : IsBound 5 :=
  ⟨5, 5 * 2 ^ 50, -50, by decide +kernel, by norm_num, by norm_num, by norm_num, by decide +kernel⟩

theorem isBound_ninety : IsBound 90 :=
  ⟨90, 90 * 2 ^ 46, -46, by decide +kernel, by norm_num, by norm_num, by norm_num, by decide +kernel⟩

theorem isBound_turn : IsBound 180 :=
  ⟨180, 180 * 2 ^ 45, -45, by decide +kernel, by norm_num, by norm_num, by norm_num, by decide +kernel⟩

theorem toRat_nonneg_of_unsigned (h : Unsigned x) : 0 ≤ toRat x := by
  obtain ⟨m, e, hx⟩ := h
  rw [toRat_of_ofFloat hx, Dyadic.value_positive]
  positivity

theorem isFinite_of_unsigned (h : Unsigned x) : x.isFinite = true := by
  obtain ⟨m, e, hx⟩ := h
  exact isFinite_of_ofFloat hx

/-- The double is below `10 ^ 15` in magnitude. -/
def Moderate (x : Float) : Prop := ∃ d, Dyadic.ofFloat x = some d ∧ (d.mantissa : ℚ) * 2 ^ d.exponent < 10 ^ 15

/-- A moderate double that is not close to zero has few places. -/
theorem fewPlaces_of_moderate (h : Moderate x) (hfar : 2 ^ (-19 : ℤ) < |toRat x|) : FewPlaces x := by
  obtain ⟨⟨negative, m, e⟩, hx, hlt⟩ := h
  rw [abs_toRat_of_ofFloat hx] at hfar
  have hm : 0 < m := by
    rcases Nat.eq_zero_or_pos m with rfl | hm
    · rw [Nat.cast_zero, zero_mul] at hfar
      exact absurd hfar (not_lt.mpr (two_zpow_pos _).le)
    · exact hm
  have hc : Dyadic.Canonical m e := (canonical_of_ofFloat hx).1
  obtain ⟨n, hn, hround⟩ := exists_spells hc hm
  have hhigh := exponent_lt_of_roundsTo hn hround hlt
  have hlow := lt_exponent_of_lt hn hround hfar
  have hlength := length_le_of_spells hn
  intro d hd
  obtain rfl : ⟨negative, m, e⟩ = d := Option.some.inj (hx.symm.trans hd)
  change (Dyadic.shortest ⟨false, m, e⟩).exponent ≤ 15 ∧ -22 ≤ power (Dyadic.shortest ⟨false, m, e⟩)
  refine ⟨by omega, ?_⟩
  unfold power Scientific.place
  split <;> omega

namespace IsBound

variable {b : Float}

theorem isFinite (hb : IsBound b) : b.isFinite = true := by
  obtain ⟨c, n, f, hfb, -⟩ := hb.exists_whole
  exact isFinite_of_ofFloat hfb

theorem toRat_le (hb : IsBound b) : toRat b ≤ 180 := by
  obtain ⟨c, n, f, hfb, -, hle, hvalue, -⟩ := hb.exists_whole
  rw [toRat_of_ofFloat hfb, Dyadic.value_positive, hvalue]
  exact_mod_cast hle

/-- The magnitude of a double between the bounds, and what is read again of it. -/
theorem exists_parts (hb : IsBound b) (hlow : -b ≤ x) (hhigh : x ≤ b) :
    ∃ negative m e, Dyadic.ofFloat x = some ⟨negative, m, e⟩ ∧ (m : ℚ) * 2 ^ e ≤ toRat b ∧
      Unsigned (rereadMagnitude m e) ∧ toRat (rereadMagnitude m e) ≤ toRat b := by
  have hbneg : (-b).isFinite = true := isFinite_neg hb.isFinite
  have hneg : toRat (-b) = -toRat b := toRat_neg hb.isFinite
  have hx := isFinite_of_between hbneg hb.isFinite hlow hhigh
  rw [le_iff_toRat hbneg hx, hneg] at hlow
  rw [le_iff_toRat hx hb.isFinite] at hhigh
  obtain ⟨⟨negative, m, e⟩, hfx⟩ := exists_ofFloat hx
  have hbound : (m : ℚ) * 2 ^ e ≤ toRat b := by
    rw [toRat_of_ofFloat hfx] at hlow hhigh
    cases negative with
    | true => rw [Dyadic.value_negative] at hlow; linarith
    | false => rw [Dyadic.value_positive] at hhigh; exact hhigh
  obtain ⟨c, n, f, hfb, hpos, hle, hvalue, hself⟩ := hb.exists_whole
  have hwhole : toRat b = c := by rw [toRat_of_ofFloat hfb, Dyadic.value_positive, hvalue]
  refine ⟨negative, m, e, hfx, hbound, ?_⟩
  rw [hwhole] at hbound ⊢
  exact rereadMagnitude_le (canonical_of_ofFloat hfx).1 hpos hle (canonical_of_ofFloat hfb).1 hvalue hself hbound

theorem moderate (hb : IsBound b) (hlow : -b ≤ x) (hhigh : x ≤ b) : Moderate x := by
  obtain ⟨negative, m, e, hfx, hbound, -⟩ := hb.exists_parts hlow hhigh
  refine ⟨_, hfx, (hbound.trans hb.toRat_le).trans_lt ?_⟩
  norm_num

/-- What is read again stays within a bound on both sides. -/
theorem reread_between (hb : IsBound b) (hlow : -b ≤ x) (hhigh : x ≤ b) :
    (reread x).isFinite = true ∧ -b ≤ reread x ∧ reread x ≤ b := by
  obtain ⟨negative, m, e, hfx, -, hunsigned, hless⟩ := hb.exists_parts hlow hhigh
  have hbneg : (-b).isFinite = true := isFinite_neg hb.isFinite
  have hneg : toRat (-b) = -toRat b := toRat_neg hb.isFinite
  have hnonneg := toRat_nonneg_of_unsigned hunsigned
  have hfinite := isFinite_of_unsigned hunsigned
  have hreread : reread x = signed (!negative) (rereadMagnitude m e) := by rw [reread, hfx]
  rw [hreread]
  cases negative with
  | false =>
    change (rereadMagnitude m e).isFinite = true ∧ -b ≤ rereadMagnitude m e ∧ rereadMagnitude m e ≤ b
    rw [le_iff_toRat hbneg hfinite, le_iff_toRat hfinite hb.isFinite, hneg]
    exact ⟨hfinite, by linarith, hless⟩
  | true =>
    have hfneg := isFinite_neg hfinite
    change (rereadMagnitude m e).neg.isFinite = true ∧ -b ≤ (rereadMagnitude m e).neg ∧ (rereadMagnitude m e).neg ≤ b
    rw [le_iff_toRat hbneg hfneg, le_iff_toRat hfneg hb.isFinite, hneg, toRat_neg hfinite]
    exact ⟨hfneg, by linarith, by linarith⟩

theorem neg_le (hb : IsBound b) (hlow : 0 ≤ x) (hhigh : x ≤ b) : -b ≤ x := by
  have hzero : (0 : Float).isFinite = true := by decide
  have hbneg : (-b).isFinite = true := isFinite_neg hb.isFinite
  have hx := isFinite_of_between hzero hb.isFinite hlow hhigh
  rw [le_iff_toRat hzero hx, toRat_of_beq_zero rfl] at hlow
  rw [le_iff_toRat hx hb.isFinite] at hhigh
  rw [le_iff_toRat hbneg hx, show toRat (-b) = -toRat b from toRat_neg hb.isFinite]
  linarith

/-- What is read again of a number that is not below zero is not below zero. -/
theorem reread_nonneg (hb : IsBound b) (hlow : 0 ≤ x) (hhigh : x ≤ b) : 0 ≤ reread x := by
  obtain ⟨negative, m, e, hfx, -, hunsigned, -⟩ := hb.exists_parts (hb.neg_le hlow hhigh) hhigh
  have hzero : (0 : Float).isFinite = true := by decide
  have hreread : reread x = signed (!negative) (rereadMagnitude m e) := by rw [reread, hfx]
  rw [hreread]
  cases negative with
  | false =>
    change 0 ≤ rereadMagnitude m e
    rw [le_iff_toRat hzero (isFinite_of_unsigned hunsigned), toRat_of_beq_zero rfl]
    exact toRat_nonneg_of_unsigned hunsigned
  | true =>
    -- Of the negative numbers only the zero with a sign is not below zero.
    have hm : m = 0 := by
      rw [le_iff_toRat hzero (isFinite_of_ofFloat hfx), toRat_of_beq_zero rfl, toRat_of_ofFloat hfx,
        Dyadic.value_negative] at hlow
      by_contra hne
      have : 0 < (m : ℚ) * 2 ^ e := by
        have := Nat.pos_of_ne_zero hne
        positivity
      linarith
    subst hm
    obtain rfl := exponent_of_mantissa_eq_zero (canonical_of_ofFloat hfx).1
    decide +kernel

end IsBound

end FleetLocator.Json
