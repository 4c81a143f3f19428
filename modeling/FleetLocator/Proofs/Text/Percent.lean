import FleetLocator.Proofs.Text.Utf8
import FleetLocator.Text.Utf8

/-!
# What is written in percent signs is read back

The bytes of a text are read from its percent coding, if the percent sign itself is reserved.
-/
namespace FleetLocator.Text.Percent

/-- The byte of a digit. -/
def digit (n : Nat) : UInt8 := UInt8.ofNat (hexUpper n).toNat

theorem encodeChar_hexUpper : ∀ n < 16, String.utf8EncodeChar (hexUpper n) = [digit n] := by
  decide

theorem hexValue_digit : ∀ n < 16, hexValue (digit n) = some n := by
  decide

theorem toNat_hexUpper : ∀ n < 16, (hexUpper n).toNat < 0x80 := by
  decide

theorem decode_cons_of_ne {b : UInt8} (h : b ≠ 0x25) (rest : List UInt8) :
    decode (b :: rest) = b :: decode rest := by
  rw [decode]
  rintro high low rest rfl
  exact absurd rfl h

/-- A byte is read back, whatever follows it. -/
theorem decode_escape (b : UInt8) (rest : List UInt8) :
    decode ((escape b).flatMap String.utf8EncodeChar ++ rest) = b :: decode rest := by
  have hb : b.toNat < 256 := b.toNat_lt
  have hhigh : b.toNat / 16 < 16 := by omega
  have hlow : b.toNat % 16 < 16 := by omega
  have hsum : b.toNat / 16 * 16 + b.toNat % 16 = b.toNat := by omega
  have hmark : String.utf8EncodeChar '%' = [0x25] := by decide
  have hbytes : (escape b).flatMap String.utf8EncodeChar = [0x25, digit (b.toNat / 16), digit (b.toNat % 16)] := by
    rw [escape, List.flatMap_cons, List.flatMap_cons, List.flatMap_singleton, hmark,
      encodeChar_hexUpper _ hhigh, encodeChar_hexUpper _ hlow]
    rfl
  rw [hbytes]
  change decode (0x25 :: digit (b.toNat / 16) :: digit (b.toNat % 16) :: rest) = _
  simp only [decode, hexValue_digit _ hhigh, hexValue_digit _ hlow, hsum, UInt8.ofNat_toNat]

theorem decode_flatMap_escape (bs rest : List UInt8) :
    decode ((bs.flatMap escape).flatMap String.utf8EncodeChar ++ rest) = bs ++ decode rest := by
  induction bs with
  | nil => rfl
  | cons b bs ih =>
    rw [List.flatMap_cons, List.flatMap_append, List.append_assoc, decode_escape, ih]
    rfl

variable {reserved : Char → Bool}

theorem encodeChar_of_lt {c : Char} (h : c.toNat < 0x80) :
    String.utf8EncodeChar c = [UInt8.ofNat c.toNat] :=
  if_pos (Nat.le_of_lt_succ h)

theorem decode_encodeChar (h : reserved '%' = true) (c : Char) (rest : List UInt8) :
    decode ((encodeChar reserved c).flatMap String.utf8EncodeChar ++ rest) =
      String.utf8EncodeChar c ++ decode rest := by
  unfold encodeChar
  split
  · next hc =>
    rw [Bool.and_eq_true, decide_eq_true_eq, Bool.not_eq_true'] at hc
    obtain ⟨hlow, hfree⟩ := hc
    have hne : UInt8.ofNat c.toNat ≠ 0x25 := fun heq => by
      have hnat : c.toNat = '%'.toNat := by
        rw [← UInt8.toNat_ofNat_of_lt' (show c.toNat < 256 by omega), heq]
        rfl
      rw [Char.toNat_inj.mp hnat, h] at hfree
      exact absurd hfree (by decide)
    rw [List.flatMap_singleton, encodeChar_of_lt hlow]
    exact decode_cons_of_ne hne rest
  · exact decode_flatMap_escape (String.utf8EncodeChar c) rest

/-- The bytes of a text are read back. -/
theorem decode_encode (h : reserved '%' = true) (cs : List Char) :
    decode ((encode reserved cs).flatMap String.utf8EncodeChar) = cs.flatMap String.utf8EncodeChar := by
  induction cs with
  | nil => rfl
  | cons c cs ih =>
    rw [encode, List.flatMap_cons, List.flatMap_append, decode_encodeChar h, List.flatMap_cons]
    exact congrArg _ ih

theorem mem_escape {b : UInt8} {c : Char} (h : c ∈ escape b) : c = '%' ∨ ∃ n < 16, c = hexUpper n := by
  have hb : b.toNat < 256 := b.toNat_lt
  rcases List.mem_cons.mp h with rfl | h
  · exact .inl rfl
  rcases List.mem_cons.mp h with rfl | h
  · exact .inr ⟨b.toNat / 16, by omega, rfl⟩
  · obtain rfl := List.mem_singleton.mp h
    exact .inr ⟨b.toNat % 16, by omega, rfl⟩

/-- Besides characters that are not reserved, only percent signs and digits are written. -/
theorem mem_encode {cs : List Char} {c : Char} (h : c ∈ encode reserved cs) :
    c.toNat < 0x80 ∧ (reserved c = false ∨ c = '%' ∨ ∃ n < 16, c = hexUpper n) := by
  obtain ⟨d, -, hc⟩ := List.mem_flatMap.mp h
  unfold encodeChar at hc
  split at hc
  · next hd =>
    rw [Bool.and_eq_true, decide_eq_true_eq, Bool.not_eq_true'] at hd
    obtain rfl := List.mem_singleton.mp hc
    exact ⟨hd.1, .inl hd.2⟩
  · obtain ⟨b, -, hb⟩ := List.mem_flatMap.mp hc
    have hescape := mem_escape hb
    refine ⟨?_, .inr hescape⟩
    rcases hescape with rfl | ⟨n, hn, rfl⟩
    · decide
    · exact toNat_hexUpper n hn

end FleetLocator.Text.Percent
