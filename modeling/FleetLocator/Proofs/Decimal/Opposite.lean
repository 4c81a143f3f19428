import FleetLocator.Proofs.Decimal.Dyadic

/-!
# Opposites of doubles

The sign of a double is kept apart from its other parts. Products and quotients with an opposite are therefore
opposite, to the last bit, and so are the two differences of doubles, unless both are the zero without a sign.
-/
namespace FleetLocator.Decimal

open Float.Model (Format UnpackedFloat)
open Float.Model.UnpackedFloat (Sign Accuracy)

variable {x y : Float}

@[simp] theorem ofBitVec_toBitVec (s : Sign) : Sign.ofBitVec s.toBitVec = s := by cases s <;> rfl

theorem unpack_packComponents_neg {spec : Format} (s : Sign) (e : BitVec spec.exponentBits)
    (m : BitVec spec.mantissaBitsWithoutImplicit) :
    UnpackedFloat.unpack spec (UnpackedFloat.packComponents spec (-s) e m) =
      (UnpackedFloat.unpack spec (UnpackedFloat.packComponents spec s e m)).neg := by
  simp only [UnpackedFloat.unpack, UnpackedFloat.unpackMantissa_packComponents,
    UnpackedFloat.unpackExponent_packComponents, unpackSign_packComponents, ofBitVec_toBitVec]
  split
  · split <;> rfl
  · split
    · split <;> rfl
    · rfl

/-- What is opposite before it is packed is opposite afterwards. -/
theorem unpack_pack_neg (u : UnpackedFloat) : (Float.Model.pack u.neg).unpack = (Float.Model.pack u).unpack.neg := by
  change UnpackedFloat.unpack .binary64 (UnpackedFloat.pack _ u.neg) =
    (UnpackedFloat.unpack .binary64 (UnpackedFloat.pack _ u)).neg
  cases u with
  | infinity s => exact unpack_packComponents_neg s _ _
  | notANumber => rfl
  | zero s => exact unpack_packComponents_neg s _ _
  | finite s m e hm =>
    simp only [UnpackedFloat.neg, UnpackedFloat.pack]
    split
    · exact unpack_packComponents_neg s _ _
    · split <;> exact unpack_packComponents_neg s _ _

/-- Bits are those of the sign, the exponent and the mantissa that they are divided into. -/
theorem packComponents_parts (b : BitVec Format.binary64.numBits) :
    UnpackedFloat.packComponents .binary64 (Sign.ofBitVec (UnpackedFloat.unpackSign b))
      (UnpackedFloat.unpackExponent b) (UnpackedFloat.unpackMantissa b) = b := by
  have hsign : (decide (b.toNat / signBit = 1)).toNat = b.toNat / signBit := toNat_sign b.isLt
  apply BitVec.eq_of_toNat_eq
  rw [toNat_packComponents, isMinus_ofBitVec, toNat_unpackSign, toNat_unpackExponent, toNat_unpackMantissa, hsign]
  simp only [signBit, hiddenBit]
  omega

theorem pack_unpack_of_not_finite {b : BitVec Format.binary64.numBits} (hvalid : Format.binary64.Valid b)
    (h : (UnpackedFloat.unpack .binary64 b).isFinite = false) :
    UnpackedFloat.pack .binary64 (UnpackedFloat.unpack .binary64 b) = b := by
  by_cases htop : UnpackedFloat.unpackExponent b = -1#_
  · by_cases hzero : UnpackedFloat.unpackMantissa b = 0#_
    · have hinfinity : UnpackedFloat.unpack .binary64 b = .infinity (Sign.ofBitVec (UnpackedFloat.unpackSign b)) := by
        simp only [UnpackedFloat.unpack, if_pos htop, if_pos hzero]
      have hparts := packComponents_parts b
      rw [htop, hzero] at hparts
      rw [hinfinity]
      exact hparts
    · have hnan : UnpackedFloat.unpack .binary64 b = .notANumber := by
        simp only [UnpackedFloat.unpack, if_pos htop, if_neg hzero]
      rw [hnan]
      exact (hvalid.eq_packedNaN htop hzero).symm
  · rw [UnpackedFloat.unpack] at h
    simp only [if_neg htop] at h
    split at h
    · split at h <;> cases h
    · cases h

/-- A double is packed from what it is unpacked into. -/
theorem pack_unpack (x : Float) : Float.ofModel (.pack x.toModel.unpack) = x := by
  cases hx : x.isFinite with
  | true =>
    obtain ⟨d, hd⟩ := exists_ofFloat hx
    obtain ⟨hcanonical, hmost⟩ := canonical_of_ofFloat hd
    rw [unpack_of_ofFloat hd]
    exact eq_of_ofFloat (ofFloat_pack hcanonical hmost) hd
  | false =>
    obtain ⟨⟨⟨b⟩, hvalid⟩⟩ := x
    have hbits : UnpackedFloat.pack .binary64 (UnpackedFloat.unpack .binary64 b) = b :=
      pack_unpack_of_not_finite hvalid hx
    simp only [Float.Model.pack, Float.Model.unpack, hbits]

theorem eq_of_unpack_eq (h : x.toModel.unpack = y.toModel.unpack) : x = y := by
  rw [← pack_unpack x, h, pack_unpack]

theorem unpack_neg (x : Float) : (-x).toModel.unpack = x.toModel.unpack.neg := by
  change (Float.Model.pack x.toModel.unpack.neg).unpack = _
  rw [unpack_pack_neg]
  exact congrArg (fun y => UnpackedFloat.neg y.toModel.unpack) (pack_unpack x)

theorem pack_neg (u : UnpackedFloat) : Float.ofModel (.pack u.neg) = -Float.ofModel (.pack u) := by
  apply eq_of_unpack_eq
  rw [unpack_neg]
  exact unpack_pack_neg u

theorem round_neg (spec : Format) (s : Sign) (m : ℕ) (e : ℤ) (accuracy : Accuracy) :
    UnpackedFloat.roundWithAccuracy spec (-s) m e accuracy =
      (UnpackedFloat.roundWithAccuracy spec s m e accuracy).neg := by
  simp only [UnpackedFloat.roundWithAccuracy]
  split <;> rfl

theorem neg_mul_sign (s t : Sign) : -s * t = -(s * t) := by cases s <;> cases t <;> rfl

theorem mul_sign_comm (s t : Sign) : s * t = t * s := by cases s <;> cases t <;> rfl

theorem neg_div_sign (s t : Sign) : -s / t = -(s / t) := by cases s <;> cases t <;> rfl

theorem unpacked_neg_mul (u v : UnpackedFloat) :
    UnpackedFloat.mul .binary64 u.neg v = (UnpackedFloat.mul .binary64 u v).neg := by
  cases u <;> cases v <;> simp only [UnpackedFloat.mul, UnpackedFloat.neg, neg_mul_sign, round_neg]

theorem unpacked_mul_comm (u v : UnpackedFloat) :
    UnpackedFloat.mul .binary64 u v = UnpackedFloat.mul .binary64 v u := by
  cases u <;> cases v <;> simp only [UnpackedFloat.mul, mul_sign_comm, Nat.mul_comm, Int.add_comm]

theorem unpacked_neg_div (u v : UnpackedFloat) :
    UnpackedFloat.div .binary64 u.neg v = (UnpackedFloat.div .binary64 u v).neg := by
  cases u <;> cases v <;> simp only [UnpackedFloat.div, UnpackedFloat.neg, neg_div_sign, round_neg]

theorem normalize_neg (spec : Format) {a : ℤ} (ha : a ≠ 0) (e : ℤ) (s : Sign) :
    UnpackedFloat.normalize spec (-a) e s = (UnpackedFloat.normalize spec a e s).neg := by
  rcases lt_or_gt_of_ne ha with hneg | hpos
  · rw [UnpackedFloat.normalize, UnpackedFloat.normalize, Int.compare_eq_gt.mpr (by omega : -a > 0),
      Int.compare_eq_lt.mpr hneg]
    exact round_neg spec .negative _ _ _
  · rw [UnpackedFloat.normalize, UnpackedFloat.normalize, Int.compare_eq_lt.mpr (by omega : -a < 0),
      Int.compare_eq_gt.mpr hpos, neg_neg]
    exact round_neg spec .positive _ _ _

/-- The difference of two doubles of which neither is zero, before it is rounded. -/
theorem sub_finite (s t : Sign) {m n : ℕ} {e f : ℤ} (hm : 0 < m) (hn : 0 < n) :
    UnpackedFloat.sub .binary64 (.finite s m e hm) (.finite t n f hn) =
      .normalize .binary64 (s.apply ((m <<< (e - min e f).toNat : ℕ) : ℤ) -
        t.apply ((n <<< (f - min e f).toNat : ℕ) : ℤ)) (min e f) .positive := rfl

theorem sub_finite_swap (s t : Sign) {m n : ℕ} {e f : ℤ} (hm : 0 < m) (hn : 0 < n) :
    UnpackedFloat.sub .binary64 (.finite t n f hn) (.finite s m e hm) =
        (UnpackedFloat.sub .binary64 (.finite s m e hm) (.finite t n f hn)).neg ∨
      UnpackedFloat.sub .binary64 (.finite t n f hn) (.finite s m e hm) =
        UnpackedFloat.sub .binary64 (.finite s m e hm) (.finite t n f hn) := by
  -- an exact difference of zero has no sign, whichever number is taken from the other
  rw [sub_finite, sub_finite, min_comm f e, ← neg_sub (s.apply _)]
  generalize s.apply _ - t.apply _ = a
  by_cases ha : a = 0
  · exact .inr (by rw [ha, neg_zero])
  · exact .inl (normalize_neg .binary64 ha _ _)

/-- The two differences are opposite, unless both are no number or the zero without a sign. -/
theorem unpacked_sub_swap (u v : UnpackedFloat) :
    UnpackedFloat.sub .binary64 v u = (UnpackedFloat.sub .binary64 u v).neg ∨
      UnpackedFloat.sub .binary64 v u = UnpackedFloat.sub .binary64 u v := by
  cases u with
  | notANumber => cases v <;> exact .inr rfl
  | infinity s =>
    cases v with
    | notANumber => exact .inr rfl
    | infinity t => exact .inl (by cases s <;> cases t <;> rfl)
    | zero t => exact .inl rfl
    | finite t n f hn => exact .inl rfl
  | zero s =>
    cases v with
    | notANumber => exact .inr rfl
    | infinity t => exact .inl (by cases t <;> rfl)
    | zero t => cases s <;> cases t <;> first | exact .inl rfl | exact .inr rfl
    | finite t n f hn => exact .inl (by cases t <;> rfl)
  | finite s m e hm =>
    cases v with
    | notANumber => exact .inr rfl
    | infinity t => exact .inl (by cases t <;> rfl)
    | zero t => exact .inl rfl
    | finite t n f hn => exact sub_finite_swap s t hm hn

theorem opposite_mul (x y : Float) : -x * y = -(x * y) := by
  change Float.ofModel (.pack (.mul .binary64 (-x).toModel.unpack y.toModel.unpack)) = _
  rw [unpack_neg, unpacked_neg_mul, pack_neg]
  rfl

theorem product_comm (x y : Float) : x * y = y * x :=
  congrArg (fun u => Float.ofModel (.pack u)) (unpacked_mul_comm x.toModel.unpack y.toModel.unpack)

theorem opposite_div (x y : Float) : -x / y = -(x / y) := by
  change Float.ofModel (.pack (.div .binary64 (-x).toModel.unpack y.toModel.unpack)) = _
  rw [unpack_neg, unpacked_neg_div, pack_neg]
  rfl

theorem opposite_opposite (x : Float) : - -x = x := by
  apply eq_of_unpack_eq
  rw [unpack_neg, unpack_neg]
  cases x.toModel.unpack with
  | notANumber => rfl
  | infinity s => cases s <;> rfl
  | zero s => cases s <;> rfl
  | finite s m e hm => cases s <;> rfl

theorem opposite_mul_opposite (x y : Float) : -x * -y = x * y := by
  rw [opposite_mul, product_comm, opposite_mul, opposite_opposite, product_comm]

/-- The two are the same or opposite. -/
def UpToSign {α : Type} [Neg α] (x y : α) : Prop := x = y ∨ x = -y

/-- Whichever double is taken from the other, the difference is the same up to its sign. -/
theorem difference_swap (x y : Float) : UpToSign (y - x) (x - y) := by
  rcases unpacked_sub_swap x.toModel.unpack y.toModel.unpack with h | h
  · refine .inr ?_
    change Float.ofModel (.pack (.sub .binary64 y.toModel.unpack x.toModel.unpack)) = _
    rw [h, pack_neg]
    rfl
  · exact .inl (congrArg (fun u => Float.ofModel (.pack u)) h)

theorem eq_or_zero_of_place {u v : UnpackedFloat} (hu : u.isNaN = false) (hv : v.isNaN = false)
    (h : unpackedPlace u = unpackedPlace v) : u = v ∨ ∃ s t, u = .zero s ∧ v = .zero t := by
  rcases u with (s | s) | _ | s | ⟨s | s, m, e, hm⟩ <;>
    rcases v with (t | t) | _ | t | ⟨t | t, n, f, hn⟩ <;>
    simp_all [UnpackedFloat.isNaN, unpackedPlace]

/-- Doubles compare as equal only if they are the same or both zero. -/
theorem eq_or_zero_of_beq (h : (x == y) = true) :
    x = y ∨ ∃ s t, x.toModel.unpack = .zero s ∧ y.toModel.unpack = .zero t := by
  obtain ⟨hx, hy⟩ := isNaN_of_beq h
  have hplace : place x = place y := (beq_iff_place hx hy).mp h
  exact (eq_or_zero_of_place hx hy hplace).imp_left eq_of_unpack_eq

theorem unsignZero_of_beq (h : (x == y) = true) : unsignZero x = unsignZero y := by
  rcases eq_or_zero_of_beq h with rfl | ⟨s, t, hs, ht⟩
  · rfl
  · have hx : (x == 0) = true := by
      rw [beq_iff_compare, hs]
      rfl
    have hy : (y == 0) = true := by
      rw [beq_iff_compare, ht]
      rfl
    rw [unsignZero, unsignZero, if_pos hx, if_pos hy]

theorem upToSign_zero (s : Sign) : UpToSign (Float.ofModel (.pack (.zero s))) 0 := by
  cases s with
  | negative => exact .inr rfl
  | positive => exact .inl rfl

theorem upToSign_of_unpack {s : Sign} (h : x.toModel.unpack = .zero s) : UpToSign x 0 := by
  rw [← pack_unpack x, h]
  exact upToSign_zero s

theorem exists_sub_zero (s t : Sign) : ∃ r, UnpackedFloat.sub .binary64 (.zero s) (.zero t) = .zero r := by
  cases s <;> cases t <;> exact ⟨_, rfl⟩

theorem sub_self_of_isFinite (h : x.isFinite = true) : x - x = 0 := by
  have hsub : x - x = Float.ofModel (.pack (.sub .binary64 x.toModel.unpack x.toModel.unpack)) := rfl
  change x.toModel.unpack.isFinite = true at h
  rw [hsub]
  generalize x.toModel.unpack = u at h
  cases u with
  | notANumber => cases h
  | infinity s => cases h
  | zero s => cases s <;> rfl
  | finite s m e hm =>
    rw [sub_finite, sub_self]
    rfl

/-- The difference of finite doubles that compare as equal is a zero. -/
theorem difference_of_beq (hx : x.isFinite = true) (h : (x == y) = true) : UpToSign (x - y) 0 := by
  rcases eq_or_zero_of_beq h with rfl | ⟨s, t, hs, ht⟩
  · exact .inl (sub_self_of_isFinite hx)
  · obtain ⟨r, hr⟩ := exists_sub_zero s t
    have hsub : x - y = Float.ofModel (.pack (.zero r)) := by
      rw [← hr, ← hs, ← ht]
      rfl
    rw [hsub]
    exact upToSign_zero r

/-- The differences of doubles that compare as equal are the same up to the sign of a zero. -/
theorem difference_congr (z : Float) (h : (x == y) = true) : UpToSign (x - z) (y - z) := by
  rcases eq_or_zero_of_beq h with rfl | ⟨s, t, hs, ht⟩
  · exact .inl rfl
  · have hx : x - z = Float.ofModel (.pack (.sub .binary64 (.zero s) z.toModel.unpack)) := by
      rw [← hs]
      rfl
    have hy : y - z = Float.ofModel (.pack (.sub .binary64 (.zero t) z.toModel.unpack)) := by
      rw [← ht]
      rfl
    rw [hx, hy]
    cases z.toModel.unpack with
    | notANumber => exact .inl rfl
    | infinity r => exact .inl rfl
    | zero r => cases s <;> cases t <;> cases r <;> first | exact .inl rfl | exact .inr rfl
    | finite r m e hm => exact .inl rfl

theorem exists_mul_zero {u : UnpackedFloat} (h : u.isFinite = true) :
    ∃ s, UnpackedFloat.mul .binary64 u (.zero .positive) = .zero s := by
  cases u with
  | notANumber => cases h
  | infinity s => cases h
  | zero s => exact ⟨_, rfl⟩
  | finite s m e hm => exact ⟨_, rfl⟩

theorem mul_zero_of_isFinite (h : x.isFinite = true) : UpToSign (x * 0) 0 := by
  obtain ⟨s, hs⟩ := exists_mul_zero (u := x.toModel.unpack) h
  have hmul : x * 0 = Float.ofModel (.pack (.zero s)) := by
    rw [← hs]
    rfl
  rw [hmul]
  exact upToSign_zero s

end FleetLocator.Decimal
