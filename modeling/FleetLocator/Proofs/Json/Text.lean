import FleetLocator.Json.Text
import FleetLocator.Proofs.Text.Percent

/-!
# A text is read as it was written

What may not stand between quotes is escaped, and an escape is read as the character that it is written for.
-/
namespace FleetLocator.Json

/-- The bytes of some characters. -/
def bytesOf (cs : List Char) : List UInt8 := cs.flatMap String.utf8EncodeChar

theorem bytesOf_append (cs ds : List Char) : bytesOf (cs ++ ds) = bytesOf cs ++ bytesOf ds := List.flatMap_append

variable {c : Char} {b : UInt8} {bs rest : List UInt8}

/-- The byte stands for itself between quotes. -/
def Unescaped (b : UInt8) : Prop := b ≠ quote ∧ b ≠ backslash ∧ ¬b < 0x20

theorem textBytes_unescaped (h : ∀ b ∈ bs, Unescaped b) (rest : List UInt8) :
    textBytes 0 (bs ++ rest) = (textBytes 0 rest).map fun found => (bs ++ found.1, found.2) := by
  induction bs with
  | nil =>
    rw [List.nil_append]
    cases textBytes 0 rest <;> rfl
  | cons b bs ih =>
    obtain ⟨hquote, hback, hcontrol⟩ := h b List.mem_cons_self
    rw [List.cons_append, textBytes, if_neg hquote, if_neg hback, if_neg hcontrol,
      ih fun b hb => h b (List.mem_cons_of_mem _ hb)]
    cases textBytes 0 rest <;> rfl

/-- The bytes of a character that is not ASCII are not ASCII either. -/
theorem le_of_mem_encodeChar (hc : 0x80 ≤ c.toNat) (hb : b ∈ String.utf8EncodeChar c) : 0x80 ≤ b := by
  have hsize : c.val.toNat < 0x110000 := by
    rcases c.valid with h | h <;> omega
  change 0x80 ≤ c.val.toNat at hc
  unfold String.utf8EncodeChar at hb
  generalize c.val.toNat = v at hb hc hsize
  dsimp only at hb
  rw [UInt8.le_iff_toNat_le]
  change 128 ≤ b.toNat
  split_ifs at hb <;> simp only [List.mem_cons, List.not_mem_nil, or_false] at hb
  · omega
  all_goals rcases hb with rfl | rfl | rfl | rfl <;> simp only [UInt8.toNat_ofNat'] <;> omega

theorem unescaped_of_le (h : 0x80 ≤ b) : Unescaped b := by
  refine ⟨?_, ?_, ?_⟩
  · rintro rfl
    exact absurd h (by decide)
  · rintro rfl
    exact absurd h (by decide)
  · rw [UInt8.le_iff_toNat_le] at h
    rw [UInt8.lt_iff_toNat_lt]
    change 128 ≤ b.toNat at h
    change ¬b.toNat < 32
    omega

theorem unescaped_of_mem_encodeChar (hquote : c ≠ '"') (hback : c ≠ '\\') (hcontrol : 0x20 ≤ c.toNat)
    (hb : b ∈ String.utf8EncodeChar c) : Unescaped b := by
  by_cases hc : c.toNat < 0x80
  · have hnat : (UInt8.ofNat c.toNat).toNat = c.toNat := UInt8.toNat_ofNat_of_lt' (show c.toNat < 256 by omega)
    rw [Text.Percent.encodeChar_of_lt hc, List.mem_singleton] at hb
    subst hb
    refine ⟨fun h => hquote ?_, fun h => hback ?_, fun h => ?_⟩
    · rw [← Char.toNat_inj, ← hnat, h]
      rfl
    · rw [← Char.toNat_inj, ← hnat, h]
      rfl
    · rw [UInt8.lt_iff_toNat_lt, hnat] at h
      exact absurd hcontrol (not_le.mpr h)
  · exact unescaped_of_le (le_of_mem_encodeChar (not_lt.mp hc) hb)

theorem textBytes_skip (bs rest : List UInt8) : textBytes bs.length (bs ++ rest) = textBytes 0 rest := by
  induction bs with
  | nil => rw [List.length_nil, List.nil_append]
  | cons b bs ih => rw [List.length_cons, List.cons_append, textBytes, ih]

theorem textBytes_escape {out : List UInt8} (h : escape (bs ++ rest) = .ok (out, bs.length)) :
    textBytes 0 (backslash :: (bs ++ rest)) = (textBytes 0 rest).map fun found => (out ++ found.1, found.2) := by
  rw [textBytes, if_neg (by decide), if_pos rfl, h]
  dsimp only
  rw [textBytes_skip]

/-- The byte of a hexadecimal digit. -/
def hexByte (n : ℕ) : UInt8 := UInt8.ofNat (Nat.digitChar n).toNat

theorem encodeChar_digitChar : ∀ n < 16, String.utf8EncodeChar (Nat.digitChar n) = [hexByte n] := by decide

theorem fourHex_control : ∀ n < 0x20, fourHex 0x30 0x30 (hexByte (n / 16)) (hexByte (n % 16)) = some n := by decide

theorem byCode_control (hc : c.toNat < 0x20) (rest : List UInt8) :
    byCode (0x30 :: 0x30 :: hexByte (c.toNat / 16) :: hexByte (c.toNat % 16) :: rest) = .ok (c, 5) := by
  have htrailing : isTrailing c.toNat = false := by
    unfold isTrailing
    simp
    omega
  have hleading : isLeading c.toNat = false := by
    unfold isLeading
    simp
    omega
  simp only [byCode, codeUnit, fourHex_control _ hc, htrailing, hleading, Char.ofNat_toNat]
  rfl

theorem escape_control (hc : c.toNat < 0x20) (rest : List UInt8) :
    escape ([letterU, 0x30, 0x30, hexByte (c.toNat / 16), hexByte (c.toNat % 16)] ++ rest) =
      .ok (String.utf8EncodeChar c, 5) := by
  change (byCode (0x30 :: 0x30 :: hexByte (c.toNat / 16) :: hexByte (c.toNat % 16) :: rest)).map _ = _
  rw [byCode_control hc]
  rfl

/-- A character is read as its own bytes. -/
theorem textBytes_writeChar (c : Char) (rest : List UInt8) :
    textBytes 0 (bytesOf (writeChar c) ++ rest) =
      (textBytes 0 rest).map fun found => (String.utf8EncodeChar c ++ found.1, found.2) := by
  have hnamed {letter : UInt8} {d : Char} (hc : c.toNat = d.toNat)
      (hd : escape ([letter] ++ rest) = .ok (String.utf8EncodeChar d, 1)) :
      textBytes 0 (backslash :: ([letter] ++ rest)) =
        (textBytes 0 rest).map fun found => (String.utf8EncodeChar c ++ found.1, found.2) := by
    rw [Char.toNat_inj.mp hc]
    exact textBytes_escape hd
  unfold writeChar
  split_ifs with h1 h2 h3 h4 h5 h6 h7 h8
  · exact hnamed (d := '"') (by rw [h1]) rfl
  · exact hnamed (d := '\\') (by rw [h2]) rfl
  · exact hnamed (d := Char.ofNat 8) (by rw [h3]; rfl) rfl
  · exact hnamed (d := Char.ofNat 12) (by rw [h4]; rfl) rfl
  · exact hnamed (d := '\n') (by rw [h5]) rfl
  · exact hnamed (d := '\r') (by rw [h6]) rfl
  · exact hnamed (d := '\t') (by rw [h7]) rfl
  · have hbytes : bytesOf ['\\', 'u', '0', '0', Nat.digitChar (c.toNat / 16), Nat.digitChar (c.toNat % 16)] =
        backslash :: [letterU, 0x30, 0x30, hexByte (c.toNat / 16), hexByte (c.toNat % 16)] := by
      simp only [bytesOf, List.flatMap_cons, List.flatMap_nil, encodeChar_digitChar _ (show c.toNat / 16 < 16 by omega),
        encodeChar_digitChar _ (show c.toNat % 16 < 16 by omega)]
      rfl
    rw [hbytes]
    exact textBytes_escape (escape_control h8 rest)
  · have hmem : ∀ b ∈ String.utf8EncodeChar c, Unescaped b := fun b hb =>
      unescaped_of_mem_encodeChar h1 h2 (by omega) hb
    rw [bytesOf, List.flatMap_singleton]
    exact textBytes_unescaped hmem rest

theorem textBytes_flatMap (cs : List Char) (rest : List UInt8) :
    textBytes 0 (bytesOf (cs.flatMap writeChar) ++ quote :: rest) = .ok (bytesOf cs, rest) := by
  induction cs with
  | nil => rfl
  | cons c cs ih =>
    rw [List.flatMap_cons, bytesOf_append, List.append_assoc, textBytes_writeChar, ih]
    rfl

theorem bytesOf_writeText (s : String) (rest : List UInt8) :
    bytesOf (writeText s) ++ rest = quote :: (bytesOf (s.toList.flatMap writeChar) ++ quote :: rest) := by
  rw [writeText, bytesOf_append, List.append_assoc]
  rfl

/-- A text is read up to its closing quote, whatever its characters. -/
theorem readText_writeText (s : String) (rest : List UInt8) :
    readText (bytesOf (s.toList.flatMap writeChar) ++ quote :: rest) = .ok (s, rest) := by
  have hdecode : Text.Utf8.decode (bytesOf s.toList) = some s := Text.Utf8.decode_encode s
  rw [readText, textBytes_flatMap]
  dsimp only
  rw [hdecode]

end FleetLocator.Json
