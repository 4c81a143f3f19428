import FleetLocator.Proofs.Decimal.Rounding

/-!
# Doubles next to one another

What has been rounded once on its way is rounded to the same double as before, or to the next one on either side.
-/
namespace FleetLocator.Decimal

/-- The bits of the two are at most one apart: they are the same double, or one is the next after the other. -/
def Adjacent (x y : Float) : Prop :=
  x.toBits.toNat ≤ y.toBits.toNat + 1 ∧ y.toBits.toNat ≤ x.toBits.toNat + 1

instance (x y : Float) : Decidable (Adjacent x y) := by unfold Adjacent; infer_instance

/-- The next number of 53 digits. -/
def next (m : ℕ) (e : ℤ) : ℕ × ℤ := if m + 1 = 2 ^ 53 then (2 ^ 52, e + 1) else (m + 1, e)

/-- The two numbers are the same, or one is the next after the other. -/
def Beside (m : ℕ) (e : ℤ) (n : ℕ) (f : ℤ) : Prop := (n, f) = (m, e) ∨ (n, f) = next m e ∨ (m, e) = next n f

variable {x y : Float} {negative : Bool} {m n : ℕ} {e f : ℤ} {q v : ℚ}

/-- The bits count the numbers of 53 digits one after the other. -/
theorem toNat_toBits (hx : Dyadic.ofFloat x = some ⟨negative, m, e⟩) :
    x.toBits.toNat + hiddenBit = negative.toNat * signBit + (e + 1075).toNat * hiddenBit + m := by
  obtain ⟨hlt, hleast, hfull⟩ := (canonical_of_ofFloat hx).1
  dsimp only at hlt hleast hfull
  rw [bits_of_ofBits x.toBits.toNat_lt hx]
  dsimp only
  split <;> simp only [hiddenBit] at * <;> omega

theorem toBits_next (hx : Dyadic.ofFloat x = some ⟨negative, m, e⟩) (hy : Dyadic.ofFloat y = some ⟨negative, n, f⟩)
    (h : (n, f) = next m e) : y.toBits.toNat = x.toBits.toNat + 1 := by
  have hleast : -1074 ≤ e := (canonical_of_ofFloat hx).1.least
  have hbits := toNat_toBits hx
  have hbits' := toNat_toBits hy
  simp only [hiddenBit] at hbits hbits'
  by_cases hmost : m + 1 = 2 ^ 53
  · obtain ⟨rfl, rfl⟩ := Prod.mk.inj (h.trans (if_pos hmost))
    omega
  · obtain ⟨rfl, rfl⟩ := Prod.mk.inj (h.trans (if_neg hmost))
    omega

theorem adjacent_of_beside (hx : Dyadic.ofFloat x = some ⟨negative, m, e⟩)
    (hy : Dyadic.ofFloat y = some ⟨negative, n, f⟩) (h : Beside m e n f) : Adjacent x y := by
  unfold Adjacent
  rcases h with heq | hnext | hnext
  · obtain ⟨rfl, rfl⟩ := Prod.mk.inj heq
    rw [eq_of_ofFloat hx hy]
    omega
  · have := toBits_next hx hy hnext
    omega
  · have := toBits_next hy hx hnext
    omega

theorem within_or (m : ℕ) (e : ℤ) (v : ℚ) : Within m e v ∨
    (m + 1 / 2 ≤ v / 2 ^ e ∧ (m % 2 = 0 → m + 1 / 2 < v / 2 ^ e)) ∨
    (v / 2 ^ e ≤ m - gapBelow m e ∧ (m % 2 = 0 → v / 2 ^ e < m - gapBelow m e)) := by
  rcases lt_or_ge (v / 2 ^ e) (m - gapBelow m e) with hbelow | hlow
  · exact .inr (.inr ⟨hbelow.le, fun _ => hbelow⟩)
  rcases lt_or_ge ((m : ℚ) + 1 / 2) (v / 2 ^ e) with habove | hhigh
  · exact .inr (.inl ⟨habove.le, fun _ => habove⟩)
  rcases Nat.mod_two_eq_zero_or_one m with heven | hodd
  · exact .inl ⟨hlow, hhigh, fun hodd => by omega⟩
  rcases hlow.eq_or_lt with heq | hlow'
  · exact .inr (.inr ⟨heq.ge, fun heven => by omega⟩)
  rcases hhigh.eq_or_lt with heq | hhigh'
  · exact .inr (.inl ⟨heq.ge, fun heven => by omega⟩)
  · exact .inl ⟨hlow, hhigh, fun _ => ⟨hlow', hhigh'⟩⟩

theorem half_scaled (v : ℚ) (e : ℤ) : v / 2 ^ (e + 1) = v / 2 ^ e / 2 := by
  rw [zpow_add_one₀ two_ne_zero, div_div]

/-- Above the middle to the next number, but not beyond the one after it, the next number is the nearest. -/
theorem roundsTo_next (hc : Dyadic.Canonical m e) (hv : 0 < v) (hlow : m + 1 / 2 ≤ v / 2 ^ e)
    (heven : m % 2 = 0 → m + 1 / 2 < v / 2 ^ e) (hhigh : v / 2 ^ e < m + 3 / 2) :
    ∃ n f, RoundsTo v n f ∧ (n, f) = next m e := by
  have hlt := hc.lt
  have hleast := hc.least
  by_cases hmost : m + 1 = 2 ^ 53
  · refine ⟨2 ^ 52, e + 1, ?_, (if_pos hmost).symm⟩
    have hm : (m : ℚ) = 2 ^ 53 - 1 := eq_sub_of_add_eq (by exact_mod_cast hmost)
    have hgap : gapBelow (2 ^ 52) (e + 1) = 1 / 4 := if_pos ⟨rfl, by omega⟩
    rw [hm] at hlow hhigh
    refine Within.roundsTo ⟨by norm_num, by omega, .inl le_rfl⟩ hv ⟨?_, ?_, fun hodd => absurd hodd (by norm_num)⟩
    · rw [half_scaled, hgap]
      push_cast
      linarith
    · rw [half_scaled]
      push_cast
      linarith
  · refine ⟨m + 1, e, ?_, (if_neg hmost).symm⟩
    have hgap : m + 1 = 2 ^ 52 → e = -1074 := fun h => hc.full.resolve_left (by omega)
    have hhalf : gapBelow (m + 1) e = 1 / 2 := if_neg fun h => by
      have := hgap h.1
      omega
    refine Within.roundsTo ⟨by omega, hleast, ?_⟩ hv ⟨?_, ?_, fun hodd => ⟨?_, ?_⟩⟩
    · exact hc.full.imp_left fun hfull => by omega
    all_goals push_cast
    · rw [hhalf]
      linarith
    · linarith
    · rw [hhalf]
      have := heven (by omega)
      linarith
    · linarith

/-- Below the middle to the number before, but not by more than a rounding, that number is the nearest. -/
theorem roundsTo_previous (hc : Dyadic.Canonical m e) (hfull : 2 ^ 52 ≤ m) (he : -1074 < e) (hv : 0 < v)
    (hhigh : v / 2 ^ e ≤ m - gapBelow m e) (heven : m % 2 = 0 → v / 2 ^ e < m - gapBelow m e)
    (hlow : (m - gapBelow m e) * (1 - 1 / 2 ^ 53) ≤ v / 2 ^ e) : ∃ n f, RoundsTo v n f ∧ (m, e) = next n f := by
  have hlt := hc.lt
  by_cases hpower : m = 2 ^ 52
  · -- Below a power of two the numbers are twice as dense.
    subst hpower
    have hgap : gapBelow (2 ^ 52) e = 1 / 4 := if_pos ⟨rfl, he⟩
    have hhalf : gapBelow (2 ^ 53 - 1) (e - 1) = 1 / 2 := if_neg fun h => absurd h.1 (by norm_num)
    have htwice : v / 2 ^ e = v / 2 ^ (e - 1) / 2 := by
      rw [← half_scaled, sub_add_cancel]
    have hless := heven (by norm_num)
    rw [hgap, htwice] at hlow hless
    norm_num at hlow hless
    have hnear : ((2 ^ 53 - 1 : ℕ) : ℚ) - gapBelow (2 ^ 53 - 1) (e - 1) < v / 2 ^ (e - 1) ∧
        v / 2 ^ (e - 1) < ((2 ^ 53 - 1 : ℕ) : ℚ) + 1 / 2 := by
      rw [hhalf]
      norm_num
      exact ⟨by linarith, by linarith⟩
    exact ⟨2 ^ 53 - 1, e - 1, Within.roundsTo ⟨by norm_num, by omega, .inl (by norm_num)⟩ hv
      ⟨hnear.1.le, hnear.2.le, fun _ => hnear⟩, by rw [next, if_pos (by norm_num), sub_add_cancel]⟩
  · obtain ⟨n, rfl⟩ : ∃ n, m = n + 1 := ⟨m - 1, by omega⟩
    have hgap : gapBelow (n + 1) e = 1 / 2 := if_neg fun h => hpower h.1
    have hn : (n : ℚ) + 1 + 1 ≤ 2 ^ 53 := by exact_mod_cast hlt
    rw [hgap] at hlow hhigh heven
    push_cast at hlow hhigh heven
    have hbelow : n - gapBelow n e < v / 2 ^ e := by
      by_cases hn' : n = 2 ^ 52
      · subst hn'
        rw [show gapBelow (2 ^ 52) e = 1 / 4 from if_pos ⟨rfl, he⟩]
        norm_num at hlow ⊢
        linarith
      · rw [show gapBelow n e = 1 / 2 from if_neg fun h => hn' h.1]
        linarith
    refine ⟨n, e, Within.roundsTo ⟨by omega, hc.least, .inl (by omega)⟩ hv ⟨hbelow.le, ?_, fun hodd => ⟨hbelow, ?_⟩⟩,
      by rw [next, if_neg (by omega)]⟩
    · linarith
    · have := heven (by omega)
      linarith

/-- What is off by no more than a rounding is rounded to the same number or to one beside it. -/
theorem Within.beside (hc : Dyadic.Canonical m e) (hfull : 2 ^ 52 ≤ m) (he : -1074 < e) (h : Within m e q)
    (hq : 0 < q) (hv : |v - q| ≤ q / 2 ^ 53) : ∃ n f, RoundsTo v n f ∧ Beside m e n f := by
  have hpow := two_zpow_pos e
  have hm : (m : ℚ) + 1 ≤ 2 ^ 53 := by exact_mod_cast hc.lt
  obtain ⟨hfar, hfar'⟩ := abs_le.mp hv
  have hvpos : 0 < v := by linarith
  have hlow : q / 2 ^ e * (1 - 1 / 2 ^ 53) ≤ v / 2 ^ e := by
    rw [div_mul_eq_mul_div]
    gcongr
    linarith
  have hhigh : v / 2 ^ e ≤ q / 2 ^ e * (1 + 1 / 2 ^ 53) := by
    rw [div_mul_eq_mul_div]
    gcongr
    linarith
  have hmost := h.high
  have hleast := h.low
  rcases within_or m e v with hwithin | ⟨habove, heven⟩ | ⟨hbelow, heven⟩
  · exact ⟨m, e, hwithin.roundsTo hc hvpos, .inl rfl⟩
  · obtain ⟨n, f, hround, hnext⟩ := roundsTo_next hc hvpos habove heven (by linarith)
    exact ⟨n, f, hround, .inr (.inl hnext)⟩
  · obtain ⟨n, f, hround, hnext⟩ := roundsTo_previous hc hfull he hvpos hbelow heven (by linarith)
    exact ⟨n, f, hround, .inr (.inr hnext)⟩

end FleetLocator.Decimal
