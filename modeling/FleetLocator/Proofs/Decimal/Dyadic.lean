import FleetLocator.Proofs.Decimal.Order

/-!
# Doubles and the dyadic numbers they stand for

A finite double and its mantissa, exponent and sign determine each other, and the order of finite doubles is
the order of the rational numbers.
-/
namespace FleetLocator.Decimal

open Float.Model (Format UnpackedFloat)
open Float.Model.UnpackedFloat (Sign)

def isMinus : Sign → Bool
  | .negative => true
  | .positive => false

namespace Dyadic

def sign (d : Dyadic) : Sign := if d.negative then .negative else .positive

/-- The mantissa has 53 digits, or fewer at the least exponent. -/
structure Canonical (m : ℕ) (e : ℤ) : Prop where
  lt : m < 2 ^ 53
  least : -1074 ≤ e
  full : 2 ^ 52 ≤ m ∨ e = -1074

def unpacked (d : Dyadic) : UnpackedFloat :=
  if h : d.mantissa = 0 then .zero d.sign
  else .finite d.sign d.mantissa d.exponent (Nat.pos_of_ne_zero h)

def ofUnpacked : UnpackedFloat → Option Dyadic
  | .zero s => some ⟨isMinus s, 0, -1074⟩
  | .finite s m e _ => some ⟨isMinus s, m, e⟩
  | _ => none

end Dyadic

section Parts

variable {b : BitVec Format.binary64.numBits}

theorem toNat_unpackMantissa : (UnpackedFloat.unpackMantissa b).toNat = b.toNat % hiddenBit := by
  simp [UnpackedFloat.unpackMantissa, hiddenBit]

theorem toNat_unpackExponent : (UnpackedFloat.unpackExponent b).toNat = b.toNat / hiddenBit % 2048 := by
  simp [UnpackedFloat.unpackExponent, hiddenBit, Nat.shiftRight_eq_div_pow]

theorem toNat_unpackSign : (UnpackedFloat.unpackSign b).toNat = b.toNat / signBit := by
  have hb : b.toNat < 2 ^ 64 := b.isLt
  simp [UnpackedFloat.unpackSign, signBit, Nat.shiftRight_eq_div_pow]
  omega

theorem toNat_sign {n : ℕ} (hn : n < 2 ^ 64) : (decide (n / signBit = 1)).toNat = n / signBit := by
  have hsign : n / signBit = 0 ∨ n / signBit = 1 := by
    simp only [signBit]
    omega
  rcases hsign with h | h <;> rw [h] <;> rfl

theorem isMinus_ofBitVec (s : BitVec 1) : isMinus (Sign.ofBitVec s) = decide (s.toNat = 1) := by
  rcases BitVec.eq_zero_or_eq_one s with rfl | rfl <;> rfl

end Parts

theorem ofBits_eq_ofUnpacked (b : BitVec Format.binary64.numBits) :
    Dyadic.ofBits b.toNat = Dyadic.ofUnpacked (.unpack .binary64 b) := by
  have hm : UnpackedFloat.unpackMantissa b = 0#_ ↔ b.toNat % hiddenBit = 0 := by
    rw [← toNat_unpackMantissa, ← BitVec.toNat_inj]
    simp
  have htop : UnpackedFloat.unpackExponent b = -1#_ ↔ b.toNat / hiddenBit % 2048 = 2047 := by
    rw [← toNat_unpackExponent, ← BitVec.toNat_inj]
    rfl
  have hlow : UnpackedFloat.unpackExponent b = 0#_ ↔ b.toNat / hiddenBit % 2048 = 0 := by
    rw [← toNat_unpackExponent, ← BitVec.toNat_inj]
    simp
  have hs : isMinus (Sign.ofBitVec (UnpackedFloat.unpackSign b)) = decide (b.toNat / signBit = 1) := by
    rw [isMinus_ofBitVec, toNat_unpackSign]
  have hfull : (1#1 ++ UnpackedFloat.unpackMantissa b).toNat = hiddenBit + b.toNat % hiddenBit := by
    rw [BitVec.toNat_append, ← Nat.shiftLeft_add_eq_or_of_lt (BitVec.isLt _), toNat_unpackMantissa]
    rfl
  unfold Dyadic.ofBits UnpackedFloat.unpack
  dsimp only
  by_cases h1 : b.toNat / hiddenBit % 2048 = 2047
  · rw [if_pos h1, if_pos (htop.mpr h1)]
    split <;> rfl
  rw [if_neg h1, if_neg (mt htop.mp h1)]
  by_cases h2 : b.toNat / hiddenBit % 2048 = 0
  · rw [if_pos h2, if_pos (hlow.mpr h2)]
    split
    · next h => rw [Dyadic.ofUnpacked, hs, hm.mp h]
    · rw [Dyadic.ofUnpacked, hs, toNat_unpackMantissa, toNat_unpackExponent, h2]
      rfl
  · rw [if_neg h2, if_neg (mt hlow.mp h2), Dyadic.ofUnpacked, hs, hfull, toNat_unpackExponent]
    rfl

theorem ofFloat_eq_ofUnpacked (x : Float) : Dyadic.ofFloat x = Dyadic.ofUnpacked x.toModel.unpack :=
  ofBits_eq_ofUnpacked x.toBits.toBitVec

variable {x y : Float} {d : Dyadic}

theorem isMinus_sign (d : Dyadic) : isMinus d.sign = d.negative := by
  unfold Dyadic.sign
  cases d.negative <;> rfl

theorem unpack_of_ofFloat (h : Dyadic.ofFloat x = some d) : x.toModel.unpack = d.unpacked := by
  rw [ofFloat_eq_ofUnpacked] at h
  cases hu : x.toModel.unpack with
  | notANumber => rw [hu] at h; cases h
  | infinity s => rw [hu] at h; cases h
  | zero s =>
    rw [hu] at h
    cases h
    cases s <;> rfl
  | finite s m e hm =>
    rw [hu] at h
    cases h
    rw [Dyadic.unpacked, dif_neg (Nat.pos_iff_ne_zero.mp hm)]
    cases s <;> rfl

theorem canonical_of_ofFloat (h : Dyadic.ofFloat x = some d) :
    Dyadic.Canonical d.mantissa d.exponent ∧ d.exponent ≤ 971 := by
  have hbits : Dyadic.ofBits x.toBits.toNat = some d := h
  have hfraction : x.toBits.toNat % hiddenBit < hiddenBit := Nat.mod_lt _ (by decide)
  have hfield : x.toBits.toNat / hiddenBit % 2048 < 2048 := Nat.mod_lt _ (by decide)
  have hhidden : hiddenBit = 2 ^ 52 := rfl
  unfold Dyadic.ofBits at hbits
  dsimp only at hbits
  split_ifs at hbits
  · obtain rfl := Option.some.inj hbits
    exact ⟨⟨by dsimp only; omega, le_refl _, .inr rfl⟩, by norm_num⟩
  · obtain rfl := Option.some.inj hbits
    exact ⟨⟨by dsimp only; omega, by dsimp only; omega, .inl (by dsimp only; omega)⟩, by dsimp only; omega⟩

theorem ofBits_parts {sign field fraction : ℕ} (hf : field < 2047) (hm : fraction < hiddenBit) :
    Dyadic.ofBits (sign * signBit + field * hiddenBit + fraction) =
      if field = 0 then some ⟨decide (sign = 1), fraction, -1074⟩
      else some ⟨decide (sign = 1), hiddenBit + fraction, (field : ℤ) - 1075⟩ := by
  have hfraction : (sign * signBit + field * hiddenBit + fraction) % hiddenBit = fraction := by
    simp only [signBit, hiddenBit] at hm ⊢
    omega
  have hfield : (sign * signBit + field * hiddenBit + fraction) / hiddenBit % 2048 = field := by
    simp only [signBit, hiddenBit] at hm ⊢
    omega
  have hsign : (sign * signBit + field * hiddenBit + fraction) / signBit = sign := by
    simp only [signBit, hiddenBit] at hm ⊢
    omega
  simp only [Dyadic.ofBits, hfraction, hfield, hsign, if_neg hf.ne]

theorem toNat_packComponents (s : Sign) (field : BitVec 11) (fraction : BitVec 52) :
    (UnpackedFloat.packComponents .binary64 s field fraction).toNat =
      (isMinus s).toNat * signBit + field.toNat * hiddenBit + fraction.toNat := by
  have hs : s.toBitVec.toNat = (isMinus s).toNat := by cases s <;> rfl
  rw [UnpackedFloat.packComponents, BitVec.toNat_append, ← Nat.shiftLeft_add_eq_or_of_lt fraction.isLt,
    BitVec.toNat_append, ← Nat.shiftLeft_add_eq_or_of_lt field.isLt, hs, Nat.shiftLeft_eq, Nat.shiftLeft_eq]
  simp only [signBit, hiddenBit]
  omega

section Pack

variable {s : Sign} {m : ℕ} {e : ℤ} (hpos : 0 < m)

theorem toNat_pack_zero (s : Sign) :
    (UnpackedFloat.pack .binary64 (.zero s)).toNat = (isMinus s).toNat * signBit := by
  cases s <;> rfl

theorem toNat_pack_of_full (hlow : hiddenBit ≤ m) (hlt : m < 2 ^ 53) (hleast : -1074 ≤ e) (he : e ≤ 971) :
    (UnpackedFloat.pack .binary64 (.finite s m e hpos)).toNat =
      (isMinus s).toNat * signBit + (e + 1075).toNat * hiddenBit + (m - hiddenBit) := by
  have hlog : m.log2 = 52 := (Nat.log2_eq_iff hpos.ne').mpr ⟨hlow, hlt⟩
  have hsmall : ¬2048 ≤ (e + 1023 + 52).toNat + 1 := by omega
  have hfield : (BitVec.ofNat 11 (e + 1023 + 52).toNat).toNat = (e + 1075).toNat := by
    rw [BitVec.toNat_ofNat]
    omega
  have hfraction : (BitVec.ofNat 52 m).toNat = m - hiddenBit := by
    simp only [hiddenBit] at hlow
    rw [BitVec.toNat_ofNat, hiddenBit]
    omega
  have hpack : UnpackedFloat.pack .binary64 (.finite s m e hpos) = UnpackedFloat.packComponents .binary64 s
      (BitVec.ofNat 11 (e + 1023 + 52).toNat) (BitVec.ofNat 52 m) :=
    (if_neg hsmall).trans (if_pos (congrArg (· + 1) hlog))
  rw [hpack, toNat_packComponents, hfield, hfraction]

theorem toNat_pack_of_not_full (hlt : m < hiddenBit) :
    (UnpackedFloat.pack .binary64 (.finite s m (-1074) hpos)).toNat = (isMinus s).toNat * signBit + m := by
  have hlog : m.log2 < 52 := (Nat.log2_lt hpos.ne').mpr hlt
  have hfraction : (BitVec.ofNat 52 m).toNat = m := by
    rw [BitVec.toNat_ofNat]
    exact Nat.mod_eq_of_lt hlt
  have hbits : ¬m.log2 + 1 = 53 := by omega
  have hpack : UnpackedFloat.pack .binary64 (.finite s m (-1074) hpos) =
      UnpackedFloat.packComponents .binary64 s 0#11 (BitVec.ofNat 52 m) := if_neg hbits
  rw [hpack, toNat_packComponents, hfraction]
  exact congrArg (· + m) (Nat.add_zero _)

end Pack

theorem exponent_of_mantissa_eq_zero {e : ℤ} (h : Dyadic.Canonical 0 e) : e = -1074 :=
  h.full.resolve_left (by omega)

/-- Each canonical number that is not too great is that of a double. -/
theorem ofFloat_pack (h : Dyadic.Canonical d.mantissa d.exponent) (he : d.exponent ≤ 971) :
    Dyadic.ofFloat (Float.ofModel (.pack d.unpacked)) = some d := by
  change Dyadic.ofBits (UnpackedFloat.pack .binary64 d.unpacked).toNat = some d
  obtain ⟨negative, m, e⟩ := d
  dsimp only at h he
  have hsign : (isMinus (Dyadic.mk negative m e).sign).toNat = negative.toNat := congrArg _ (isMinus_sign _)
  have hnegative : decide (negative.toNat = 1) = negative := by cases negative <;> rfl
  unfold Dyadic.unpacked
  dsimp only
  split
  · next hm =>
    subst hm
    obtain rfl := exponent_of_mantissa_eq_zero h
    have hparts : Dyadic.ofBits (negative.toNat * signBit + 0 * hiddenBit + 0) = _ :=
      ofBits_parts (by decide) (by decide)
    rw [toNat_pack_zero, hsign]
    simpa using hparts
  next hm =>
  by_cases hfull : hiddenBit ≤ m
  · have hlt := h.lt
    have hleast := h.least
    rw [toNat_pack_of_full _ hfull hlt hleast he, ofBits_parts (by omega) (by simp only [hiddenBit]; omega),
      if_neg (by omega), hsign, hnegative, Nat.add_sub_cancel' hfull]
    congr 2
    omega
  · have hlt : m < hiddenBit := Nat.lt_of_not_le hfull
    obtain rfl : e = -1074 := h.full.resolve_left hfull
    have hparts : Dyadic.ofBits (negative.toNat * signBit + 0 * hiddenBit + m) = _ :=
      ofBits_parts (by decide) hlt
    rw [toNat_pack_of_not_full _ hlt, hsign]
    simpa using hparts

/-- The bits of the parts. -/
theorem bits_of_ofBits {b : ℕ} (hb : b < 2 ^ 64) (h : Dyadic.ofBits b = some d) :
    b = d.negative.toNat * signBit +
      if d.mantissa < hiddenBit then d.mantissa
      else (d.exponent + 1075).toNat * hiddenBit + (d.mantissa - hiddenBit) := by
  have hsign := toNat_sign hb
  unfold Dyadic.ofBits at h
  dsimp only at h
  split_ifs at h with _ hlow
  · obtain rfl := Option.some.inj h
    rw [if_pos (Nat.mod_lt _ (by decide)), hsign]
    simp only [signBit, hiddenBit] at hlow ⊢
    omega
  · obtain rfl := Option.some.inj h
    rw [if_neg (by simp), hsign]
    simp only [signBit, hiddenBit] at hlow ⊢
    omega

/-- A double is the only one of its parts. -/
theorem eq_of_ofFloat (hx : Dyadic.ofFloat x = some d) (hy : Dyadic.ofFloat y = some d) : x = y := by
  have hbits : x.toBits.toNat = y.toBits.toNat := by
    rw [bits_of_ofBits x.toBits.toNat_lt hx, bits_of_ofBits y.toBits.toNat_lt hy]
  obtain ⟨⟨bx, vx⟩⟩ := x
  obtain ⟨⟨bz, vy⟩⟩ := y
  obtain rfl : bx = bz := UInt64.toNat_inj.mp hbits
  rfl

namespace Dyadic

/-- The rational number that the parts stand for. -/
def value (d : Dyadic) : ℚ := (if d.negative then -1 else 1) * (d.mantissa * 2 ^ d.exponent)

theorem value_positive (m : ℕ) (e : ℤ) : value ⟨false, m, e⟩ = m * 2 ^ e := by
  simp [value]

theorem value_negative (m : ℕ) (e : ℤ) : value ⟨true, m, e⟩ = -(m * 2 ^ e) := by
  simp [value]

theorem value_zero (negative : Bool) (e : ℤ) : value ⟨negative, 0, e⟩ = 0 := by
  simp [value]

/-- With a higher exponent than some other number's, the mantissa is full. -/
theorem Canonical.pow_le {m : ℕ} {e f : ℤ} (h : Canonical m e) (hleast : -1074 ≤ f) (hlt : f < e) :
    (2 ^ 53 : ℕ) * (2 : ℚ) ^ f ≤ m * 2 ^ e := by
  have hm : 2 ^ 52 ≤ m := h.full.resolve_right (by omega)
  calc ((2 ^ 53 : ℕ) : ℚ) * 2 ^ f = ((2 ^ 52 : ℕ) : ℚ) * 2 ^ (f + 1) := by
        rw [zpow_add_one₀ two_ne_zero]
        push_cast
        ring
    _ ≤ m * 2 ^ e := by
        gcongr
        · norm_num
        · omega

/-- Of two canonical numbers the one with the lower exponent is less, and with equal exponents the one with
the lower mantissa. -/
theorem Canonical.magnitude_lt {m n : ℕ} {e f : ℤ} (h : Canonical m e) (h' : Canonical n f)
    (hlt : e < f ∨ e = f ∧ m < n) : (m : ℚ) * 2 ^ e < n * 2 ^ f := by
  rcases hlt with hlt | ⟨rfl, hlt⟩
  · calc (m : ℚ) * 2 ^ e < (2 ^ 53 : ℕ) * 2 ^ e := by
          gcongr
          exact h.lt
      _ ≤ n * 2 ^ f := h'.pow_le h.least hlt
  · gcongr

/-- A value has only one canonical form. -/
theorem Canonical.eq_of_value_eq {m n : ℕ} {e f : ℤ} (h : Canonical m e) (h' : Canonical n f)
    (heq : (m : ℚ) * 2 ^ e = n * 2 ^ f) : m = n ∧ e = f := by
  have hlt := mt (h.magnitude_lt h') heq.not_lt
  have hgt := mt (h'.magnitude_lt h) heq.not_gt
  omega

theorem place_zero (negative : Bool) (e : ℤ) : unpackedPlace (unpacked ⟨negative, 0, e⟩) = toLex (0, toLex (0, 0)) :=
  rfl

theorem place_positive {m : ℕ} (h : 0 < m) (e : ℤ) :
    unpackedPlace (unpacked ⟨false, m, e⟩) = toLex (1, toLex (e, (m : ℤ))) := by
  rw [unpacked, dif_neg (by dsimp only; omega)]
  rfl

theorem place_negative {m : ℕ} (h : 0 < m) (e : ℤ) :
    unpackedPlace (unpacked ⟨true, m, e⟩) = toLex (-1, toLex (-e, -(m : ℤ))) := by
  rw [unpacked, dif_neg (by dsimp only; omega)]
  rfl

end Dyadic

/-- The sign of a number, its exponent and its mantissa decide before one another. -/
theorem value_lt_of_place_lt {c d : Dyadic} (hc : Dyadic.Canonical c.mantissa c.exponent)
    (hd : Dyadic.Canonical d.mantissa d.exponent) (h : unpackedPlace c.unpacked < unpackedPlace d.unpacked) :
    c.value < d.value := by
  obtain ⟨s, m, e⟩ := c
  obtain ⟨t, n, f⟩ := d
  dsimp only at hc hd
  have hlt := hc.magnitude_lt hd
  have hgt := hd.magnitude_lt hc
  rcases Nat.eq_zero_or_pos m with rfl | hm <;> rcases Nat.eq_zero_or_pos n with rfl | hn
  · exact absurd h (lt_irrefl _)
  · have hpos : 0 < (n : ℚ) * 2 ^ f := by positivity
    cases t
    · rw [Dyadic.value_zero, Dyadic.value_positive]
      exact hpos
    · simp [Dyadic.place_zero, Dyadic.place_negative hn, Prod.Lex.toLex_lt_toLex] at h
  · have hpos : 0 < (m : ℚ) * 2 ^ e := by positivity
    cases s
    · simp [Dyadic.place_zero, Dyadic.place_positive hm, Prod.Lex.toLex_lt_toLex] at h
    · rw [Dyadic.value_zero, Dyadic.value_negative]
      linarith
  · have hpos : 0 < (m : ℚ) * 2 ^ e := by positivity
    have hpos' : 0 < (n : ℚ) * 2 ^ f := by positivity
    cases s <;> cases t
    · rw [Dyadic.place_positive hm, Dyadic.place_positive hn] at h
      simp only [Prod.Lex.toLex_lt_toLex, lt_irrefl, true_and, false_or, Nat.cast_lt] at h
      rw [Dyadic.value_positive, Dyadic.value_positive]
      exact hlt h
    · simp [Dyadic.place_positive hm, Dyadic.place_negative hn, Prod.Lex.toLex_lt_toLex] at h
    · rw [Dyadic.value_positive, Dyadic.value_negative]
      linarith
    · rw [Dyadic.place_negative hm, Dyadic.place_negative hn] at h
      simp only [Prod.Lex.toLex_lt_toLex, lt_irrefl, true_and, false_or, neg_lt_neg_iff, neg_inj, Nat.cast_lt] at h
      rw [Dyadic.value_negative, Dyadic.value_negative]
      exact neg_lt_neg (hgt (h.imp_right fun h => ⟨h.1.symm, h.2⟩))

theorem value_eq_of_place_eq {c d : Dyadic} (h : unpackedPlace c.unpacked = unpackedPlace d.unpacked) :
    c.value = d.value := by
  obtain ⟨s, m, e⟩ := c
  obtain ⟨t, n, f⟩ := d
  rcases Nat.eq_zero_or_pos m with rfl | hm <;> rcases Nat.eq_zero_or_pos n with rfl | hn
  · rw [Dyadic.value_zero, Dyadic.value_zero]
  · cases t <;> simp [Dyadic.place_zero, Dyadic.place_positive hn, Dyadic.place_negative hn] at h
  · cases s <;> simp [Dyadic.place_zero, Dyadic.place_positive hm, Dyadic.place_negative hm] at h
  · cases s <;> cases t <;>
      simp_all [Dyadic.place_positive hm, Dyadic.place_positive hn, Dyadic.place_negative hm,
        Dyadic.place_negative hn, Dyadic.value_positive, Dyadic.value_negative]

theorem isNaN_of_ofFloat (h : Dyadic.ofFloat x = some d) : x.isNaN = false := by
  change x.toModel.unpack.isNaN = false
  rw [unpack_of_ofFloat h, Dyadic.unpacked]
  split <;> rfl

theorem isFinite_of_ofFloat (h : Dyadic.ofFloat x = some d) : x.isFinite = true := by
  change x.toModel.unpack.isFinite = true
  rw [unpack_of_ofFloat h, Dyadic.unpacked]
  split <;> rfl

theorem exists_ofFloat (h : x.isFinite = true) : ∃ d, Dyadic.ofFloat x = some d := by
  change x.toModel.unpack.isFinite = true at h
  rw [ofFloat_eq_ofUnpacked]
  cases hu : x.toModel.unpack with
  | notANumber => rw [hu] at h; cases h
  | infinity s => rw [hu] at h; cases h
  | zero s => exact ⟨_, rfl⟩
  | finite s m e hm => exact ⟨_, rfl⟩

theorem ofFloat_neg (h : Dyadic.ofFloat x = some d) :
    Dyadic.ofFloat x.neg = some { d with negative := !d.negative } := by
  obtain ⟨hcanonical, hmost⟩ := canonical_of_ofFloat h
  have hneg : d.unpacked.neg = ({ d with negative := !d.negative } : Dyadic).unpacked := by
    obtain ⟨negative, m, e⟩ := d
    unfold Dyadic.unpacked
    dsimp only
    split <;> cases negative <;> rfl
  have hpack : x.neg = Float.ofModel (.pack d.unpacked.neg) := by
    rw [← unpack_of_ofFloat h]
    rfl
  rw [hpack, hneg]
  exact ofFloat_pack hcanonical hmost

/-- The number that a finite double stands for. -/
def toRat (x : Float) : ℚ := ((Dyadic.ofFloat x).map Dyadic.value).getD 0

theorem toRat_of_ofFloat (h : Dyadic.ofFloat x = some d) : toRat x = d.value := by
  rw [toRat, h]
  rfl

theorem abs_toRat_of_ofFloat {negative : Bool} {m : ℕ} {e : ℤ} (h : Dyadic.ofFloat x = some ⟨negative, m, e⟩) :
    |toRat x| = m * 2 ^ e := by
  have hnonneg : (0 : ℚ) ≤ m * 2 ^ e := by positivity
  rw [toRat_of_ofFloat h]
  cases negative with
  | false => rw [Dyadic.value_positive, abs_of_nonneg hnonneg]
  | true => rw [Dyadic.value_negative, abs_neg, abs_of_nonneg hnonneg]

theorem toRat_of_beq_zero (h : (x == 0) = true) : toRat x = 0 := by
  obtain ⟨s, hs⟩ := unpack_of_beq_zero h
  have hzero : Dyadic.ofFloat x = some ⟨isMinus s, 0, -1074⟩ := by
    rw [ofFloat_eq_ofUnpacked, hs]
    rfl
  rw [toRat_of_ofFloat hzero, Dyadic.value_zero]

theorem toRat_neg (h : x.isFinite = true) : toRat x.neg = -toRat x := by
  obtain ⟨⟨negative, m, e⟩, hx⟩ := exists_ofFloat h
  rw [toRat_of_ofFloat hx, toRat_of_ofFloat (ofFloat_neg hx)]
  cases negative with
  | true => exact (Dyadic.value_positive m e).trans (by rw [Dyadic.value_negative, neg_neg])
  | false => exact (Dyadic.value_negative m e).trans (by rw [Dyadic.value_positive])

theorem isFinite_neg (h : x.isFinite = true) : x.neg.isFinite = true := by
  obtain ⟨d, hx⟩ := exists_ofFloat h
  exact isFinite_of_ofFloat (ofFloat_neg hx)

/-- A positive number is that of a double with a mantissa and no sign. -/
theorem exists_ofFloat_of_toRat_pos (h : 0 < toRat x) :
    ∃ m e, Dyadic.ofFloat x = some ⟨false, m, e⟩ ∧ 0 < m ∧ toRat x = m * 2 ^ e := by
  cases hx : Dyadic.ofFloat x with
  | none =>
    rw [toRat, hx] at h
    exact absurd h (lt_irrefl _)
  | some d =>
    obtain ⟨negative, m, e⟩ := d
    rw [toRat_of_ofFloat hx] at h ⊢
    cases negative with
    | true =>
      rw [Dyadic.value_negative] at h
      have : 0 ≤ (m : ℚ) * 2 ^ e := by positivity
      linarith
    | false =>
      refine ⟨m, e, rfl, Nat.pos_of_ne_zero fun hm => ?_, Dyadic.value_positive m e⟩
      rw [hm, Dyadic.value_zero] at h
      exact absurd h (lt_irrefl _)

/-- Finite doubles are in the order of their values. -/
theorem le_iff_value {c d : Dyadic} (hx : Dyadic.ofFloat x = some c) (hy : Dyadic.ofFloat y = some d) :
    x ≤ y ↔ c.value ≤ d.value := by
  have hc := (canonical_of_ofFloat hx).1
  have hd := (canonical_of_ofFloat hy).1
  rw [le_iff_place (isNaN_of_ofFloat hx) (isNaN_of_ofFloat hy), place, place, unpack_of_ofFloat hx,
    unpack_of_ofFloat hy]
  constructor
  · intro h
    rcases h.lt_or_eq with hlt | heq
    · exact (value_lt_of_place_lt hc hd hlt).le
    · exact (value_eq_of_place_eq heq).le
  · intro h
    by_contra hgt
    exact absurd (value_lt_of_place_lt hd hc (not_le.mp hgt)) (not_lt.mpr h)

theorem le_iff_toRat (hx : x.isFinite = true) (hy : y.isFinite = true) : x ≤ y ↔ toRat x ≤ toRat y := by
  obtain ⟨c, hc⟩ := exists_ofFloat hx
  obtain ⟨d, hd⟩ := exists_ofFloat hy
  rw [toRat_of_ofFloat hc, toRat_of_ofFloat hd, le_iff_value hc hd]

end FleetLocator.Decimal
