import FleetLocator.Text.Utf8
import Mathlib.Data.String.Basic

/-!
# Characters as bytes and back

Every reader of bytes gives back the text whose bytes it reads, so that bytes tell texts apart; and
texts are in the order of their bytes.
-/
namespace FleetLocator.Text.Utf8

private theorem toNat_ofNat {n : Nat} (h : n < 256) : (UInt8.ofNat n).toNat = n :=
  UInt8.toNat_ofNat_of_lt' h

theorem lead_ofNat {n : Nat} (h : n < 256) :
    lead (UInt8.ofNat n) =
      if n < 0x80 then .ascii
      else if n < 0xC2 then .none
      else if n < 0xE0 then .two
      else if n = 0xE0 then .three 0xA0 0xBF
      else if n = 0xED then .three 0x80 0x9F
      else if n < 0xF0 then .three 0x80 0xBF
      else if n = 0xF0 then .four 0x90 0xBF
      else if n < 0xF4 then .four 0x80 0xBF
      else if n = 0xF4 then .four 0x80 0x8F
      else .none := by
  simp only [lead, UInt8.lt_iff_toNat_lt, ← UInt8.toNat_inj, toNat_ofNat h]
  rfl

theorem isTail_ofNat {n : Nat} (h : n < 64) : isTail (UInt8.ofNat (n + 128)) = true := by
  simp only [isTail, UInt8.le_iff_toNat_le, toNat_ofNat (show n + 128 < 256 by omega), Bool.and_eq_true,
    decide_eq_true_eq]
  constructor
  · change 128 ≤ _
    omega
  · change _ ≤ 191
    omega

theorem bits_ofNat {n : Nat} (h : n < 64) : bits (UInt8.ofNat (n + 128)) = n := by
  rw [bits, toNat_ofNat (by omega)]
  omega

theorem piece_two {v : Nat} (hlow : 0x7F < v) (hhigh : v ≤ 0x7FF) (rest : List UInt8) :
    piece (UInt8.ofNat (v / 64 % 32 + 192)) (UInt8.ofNat (v % 64 + 128) :: rest) = .char (Char.ofNat v) 2 := by
  have hlead : lead (UInt8.ofNat (v / 64 % 32 + 192)) = .two := by
    rw [lead_ofNat (by omega), if_neg (by omega), if_neg (by omega), if_pos (by omega)]
  have hv : (v / 64 % 32 + 192) % 32 * 64 + v % 64 = v := by omega
  simp only [piece, hlead, isTail_ofNat (Nat.mod_lt v (show 64 > 0 by decide)), if_true,
    bits_ofNat (Nat.mod_lt v (show 64 > 0 by decide)), toNat_ofNat (show v / 64 % 32 + 192 < 256 by omega), hv]

private theorem within_ofNat {low high : UInt8} {n : Nat} (h : n < 256) (hlow : low.toNat ≤ n)
    (hhigh : n ≤ high.toNat) : (decide (low ≤ UInt8.ofNat n) && decide (UInt8.ofNat n ≤ high)) = true := by
  simp only [UInt8.le_iff_toNat_le, toNat_ofNat h, hlow, hhigh, decide_true, Bool.and_self]

theorem lead_three {v : Nat} (hlow : 0x7FF < v) (hhigh : v ≤ 0xFFFF) (hv : v < 0xD800 ∨ 0xDFFF < v) :
    ∃ low high, lead (UInt8.ofNat (v / 4096 % 16 + 224)) = .three low high ∧
      low.toNat ≤ v / 64 % 64 + 128 ∧ v / 64 % 64 + 128 ≤ high.toNat := by
  rw [lead_ofNat (by omega), if_neg (by omega), if_neg (by omega), if_neg (by omega)]
  by_cases hfirst : v / 4096 % 16 + 224 = 0xE0
  · refine ⟨0xA0, 0xBF, if_pos hfirst, ?_, ?_⟩
    · change 160 ≤ _
      omega
    · change _ ≤ 191
      omega
  rw [if_neg hfirst]
  by_cases hlast : v / 4096 % 16 + 224 = 0xED
  · refine ⟨0x80, 0x9F, if_pos hlast, ?_, ?_⟩
    · change 128 ≤ _
      omega
    · change _ ≤ 159
      omega
  rw [if_neg hlast]
  refine ⟨0x80, 0xBF, if_pos (by omega), ?_, ?_⟩
  · change 128 ≤ _
    omega
  · change _ ≤ 191
    omega

theorem piece_three {v : Nat} (hlow : 0x7FF < v) (hhigh : v ≤ 0xFFFF) (hv : v < 0xD800 ∨ 0xDFFF < v)
    (rest : List UInt8) :
    piece (UInt8.ofNat (v / 4096 % 16 + 224))
      (UInt8.ofNat (v / 64 % 64 + 128) :: UInt8.ofNat (v % 64 + 128) :: rest) = .char (Char.ofNat v) 3 := by
  obtain ⟨low, high, hlead, hl, hh⟩ := lead_three hlow hhigh hv
  have hsecond : v / 64 % 64 < 64 := Nat.mod_lt _ (by decide)
  have hthird : v % 64 < 64 := Nat.mod_lt _ (by decide)
  have hsum : (v / 4096 % 16 + 224) % 16 * 4096 + v / 64 % 64 * 64 + v % 64 = v := by omega
  simp only [piece, hlead, within_ofNat (by omega) hl hh, isTail_ofNat hthird, if_true, bits_ofNat hsecond,
    bits_ofNat hthird, toNat_ofNat (show v / 4096 % 16 + 224 < 256 by omega), hsum]

theorem lead_four {v : Nat} (hlow : 0xFFFF < v) (hhigh : v < 0x110000) :
    ∃ low high, lead (UInt8.ofNat (v / 262144 % 8 + 240)) = .four low high ∧
      low.toNat ≤ v / 4096 % 64 + 128 ∧ v / 4096 % 64 + 128 ≤ high.toNat := by
  rw [lead_ofNat (by omega), if_neg (by omega), if_neg (by omega), if_neg (by omega), if_neg (by omega),
    if_neg (by omega), if_neg (by omega)]
  by_cases hfirst : v / 262144 % 8 + 240 = 0xF0
  · refine ⟨0x90, 0xBF, if_pos hfirst, ?_, ?_⟩
    · change 144 ≤ _
      omega
    · change _ ≤ 191
      omega
  rw [if_neg hfirst]
  by_cases hlast : v / 262144 % 8 + 240 < 0xF4
  · refine ⟨0x80, 0xBF, if_pos hlast, ?_, ?_⟩
    · change 128 ≤ _
      omega
    · change _ ≤ 191
      omega
  rw [if_neg hlast]
  refine ⟨0x80, 0x8F, if_pos (by omega), ?_, ?_⟩
  · change 128 ≤ _
    omega
  · change _ ≤ 143
    omega

theorem piece_four {v : Nat} (hlow : 0xFFFF < v) (hhigh : v < 0x110000) (rest : List UInt8) :
    piece (UInt8.ofNat (v / 262144 % 8 + 240)) (UInt8.ofNat (v / 4096 % 64 + 128) ::
      UInt8.ofNat (v / 64 % 64 + 128) :: UInt8.ofNat (v % 64 + 128) :: rest) = .char (Char.ofNat v) 4 := by
  obtain ⟨low, high, hlead, hl, hh⟩ := lead_four hlow hhigh
  have hsecond : v / 4096 % 64 < 64 := Nat.mod_lt _ (by decide)
  have hthird : v / 64 % 64 < 64 := Nat.mod_lt _ (by decide)
  have hfourth : v % 64 < 64 := Nat.mod_lt _ (by decide)
  have hsum : (v / 262144 % 8 + 240) % 8 * 262144 + v / 4096 % 64 * 4096 + v / 64 % 64 * 64 + v % 64 = v := by
    omega
  simp only [piece, hlead, within_ofNat (by omega) hl hh, isTail_ofNat hthird, isTail_ofNat hfourth, if_true,
    bits_ofNat hsecond, bits_ofNat hthird, bits_ofNat hfourth,
    toNat_ofNat (show v / 262144 % 8 + 240 < 256 by omega), hsum]

theorem piece_one {v : Nat} (h : v ≤ 0x7F) (rest : List UInt8) :
    piece (UInt8.ofNat v) rest = .char (Char.ofNat v) 1 := by
  have hlead : lead (UInt8.ofNat v) = .ascii := by rw [lead_ofNat (by omega), if_pos (by omega)]
  simp only [piece, hlead, toNat_ofNat (show v < 256 by omega)]

/-- The bytes of a character are one piece, whatever follows them. -/
theorem pieces_encodeChar (c : Char) (rest : List UInt8) :
    pieces 0 (String.utf8EncodeChar c ++ rest) =
      .char c (String.utf8EncodeChar c).length :: pieces 0 rest := by
  have hc : Char.ofNat c.val.toNat = c := Char.ofNat_toNat c
  have hvalid : c.val.toNat < 0xD800 ∨ 0xDFFF < c.val.toNat ∧ c.val.toNat < 0x110000 := c.valid
  unfold String.utf8EncodeChar
  generalize c.val.toNat = v at hc hvalid
  dsimp only
  by_cases h1 : v ≤ 0x7F
  · rw [if_pos h1]
    simp only [List.singleton_append, pieces, piece_one h1, hc]
    rfl
  rw [if_neg h1]
  by_cases h2 : v ≤ 0x7FF
  · rw [if_pos h2]
    simp only [List.cons_append, List.nil_append, pieces, piece_two (by omega) h2, hc]
    rfl
  rw [if_neg h2]
  by_cases h3 : v ≤ 0xFFFF
  · rw [if_pos h3]
    simp only [List.cons_append, List.nil_append, pieces, piece_three (by omega) h3 (by omega), hc]
    rfl
  rw [if_neg h3]
  simp only [List.cons_append, List.nil_append, pieces, piece_four (show 0xFFFF < v by omega) (by omega), hc]
  rfl

theorem pieces_flatMap (cs : List Char) :
    pieces 0 (cs.flatMap String.utf8EncodeChar) =
      cs.map fun c => .char c (String.utf8EncodeChar c).length := by
  induction cs with
  | nil => rfl
  | cons c cs ih => rw [List.flatMap_cons, pieces_encodeChar, ih, List.map_cons]

@[simp] theorem decodeLossy_encode (s : String) : decodeLossy (encode s) = s := by
  have hshown : (Piece.shown ∘ fun c => Piece.char c (String.utf8EncodeChar c).length) = id := rfl
  rw [decodeLossy, encode, pieces_flatMap, List.map_map, hshown, List.map_id, String.ofList_toList]

theorem charsOf_map (cs : List Char) (width : Char → Nat) :
    charsOf (cs.map fun c => .char c (width c)) = some cs := by
  induction cs with
  | nil => rfl
  | cons c cs ih => rw [List.map_cons, charsOf, ih, Option.map_some]

@[simp] theorem decode_encode (s : String) : decode (encode s) = some s := by
  rw [decode, encode, pieces_flatMap, charsOf_map, Option.map_some, String.ofList_toList]

theorem encode_injective : Function.Injective encode := fun s t h => by
  rw [← decodeLossy_encode s, h, decodeLossy_encode]

theorem val_ofNat {v : Nat} (h : v < 0xD800 ∨ 0xDFFF < v ∧ v < 0x110000) : (Char.ofNat v).val.toNat = v := by
  have hv : v.isValidChar := h
  rw [Char.ofNat, dif_pos hv]
  rfl

section

variable {b c d e low high : UInt8} {rest : List UInt8}

private theorem ofNat_eq {n : Nat} (h : n = b.toNat) : UInt8.ofNat n = b := by
  rw [h, UInt8.ofNat_toNat]

theorem isTail_iff : isTail b = true ↔ 128 ≤ b.toNat ∧ b.toNat < 192 := by
  simp only [isTail, Bool.and_eq_true, decide_eq_true_eq, UInt8.le_iff_toNat_le]
  exact and_congr_right fun _ => Nat.lt_succ_iff.symm

theorem lead_eq (b : UInt8) :
    lead b =
      if b.toNat < 0x80 then .ascii
      else if b.toNat < 0xC2 then .none
      else if b.toNat < 0xE0 then .two
      else if b.toNat = 0xE0 then .three 0xA0 0xBF
      else if b.toNat = 0xED then .three 0x80 0x9F
      else if b.toNat < 0xF0 then .three 0x80 0xBF
      else if b.toNat = 0xF0 then .four 0x90 0xBF
      else if b.toNat < 0xF4 then .four 0x80 0xBF
      else if b.toNat = 0xF4 then .four 0x80 0x8F
      else .none := by
  rw [← lead_ofNat b.toNat_lt, UInt8.ofNat_toNat]

theorem lead_eq_two (h : lead b = .two) : 0xC2 ≤ b.toNat ∧ b.toNat < 0xE0 := by
  rw [lead_eq] at h
  split_ifs at h
  omega

/-- The byte that follows keeps the character above those of two bytes and out of the surrogates. -/
theorem lead_eq_three (h : lead b = .three low high) :
    0xE0 ≤ b.toNat ∧ b.toNat < 0xF0 ∧ 0x80 ≤ low.toNat ∧ high.toNat ≤ 0xBF ∧
      (b.toNat = 0xE0 → 0xA0 ≤ low.toNat) ∧ (b.toNat = 0xED → high.toNat ≤ 0x9F) := by
  rw [lead_eq] at h
  split_ifs at h <;> cases h
  · exact ⟨by omega, by omega, by decide, by decide, fun _ => by decide, by omega⟩
  · exact ⟨by omega, by omega, by decide, by decide, by omega, fun _ => by decide⟩
  · exact ⟨by omega, by omega, by decide, by decide, by omega, by omega⟩

/-- The byte that follows keeps the character above those of three bytes and below the end of all. -/
theorem lead_eq_four (h : lead b = .four low high) :
    0xF0 ≤ b.toNat ∧ b.toNat < 0xF5 ∧ 0x80 ≤ low.toNat ∧ high.toNat ≤ 0xBF ∧
      (b.toNat = 0xF0 → 0x90 ≤ low.toNat) ∧ (b.toNat = 0xF4 → high.toNat ≤ 0x8F) := by
  rw [lead_eq] at h
  split_ifs at h <;> cases h
  · exact ⟨by omega, by omega, by decide, by decide, fun _ => by decide, by omega⟩
  · exact ⟨by omega, by omega, by decide, by decide, by omega, by omega⟩
  · exact ⟨by omega, by omega, by decide, by decide, by omega, fun _ => by decide⟩

theorem encodeChar_one (h : lead b = .ascii) : String.utf8EncodeChar (Char.ofNat b.toNat) = [b] := by
  have hb : b.toNat < 0x80 := by
    rw [lead_eq] at h
    split_ifs at h
    assumption
  unfold String.utf8EncodeChar
  rw [val_ofNat (by omega)]
  dsimp only
  rw [if_pos (by omega), UInt8.ofNat_toNat]

theorem encodeChar_two (hb : lead b = .two) (hc : isTail c = true) :
    String.utf8EncodeChar (Char.ofNat (b.toNat % 32 * 64 + bits c)) = [b, c] := by
  obtain ⟨hlow, hhigh⟩ := lead_eq_two hb
  have hc := isTail_iff.mp hc
  unfold String.utf8EncodeChar bits
  rw [val_ofNat (by omega)]
  dsimp only
  rw [if_neg (by omega), if_pos (by omega), ofNat_eq (b := b) (by omega), ofNat_eq (b := c) (by omega)]

theorem encodeChar_three (hb : lead b = .three low high) (hc : (low ≤ c && c ≤ high) = true) (hd : isTail d = true) :
    String.utf8EncodeChar (Char.ofNat (b.toNat % 16 * 4096 + bits c * 64 + bits d)) = [b, c, d] := by
  obtain ⟨hfirst, hlast, hlow, hhigh, hleast, hmost⟩ := lead_eq_three hb
  have hd := isTail_iff.mp hd
  simp only [Bool.and_eq_true, decide_eq_true_eq, UInt8.le_iff_toNat_le] at hc
  unfold String.utf8EncodeChar bits
  rw [val_ofNat (by omega)]
  dsimp only
  rw [if_neg (by omega), if_neg (by omega), if_pos (by omega), ofNat_eq (b := b) (by omega),
    ofNat_eq (b := c) (by omega), ofNat_eq (b := d) (by omega)]

theorem encodeChar_four (hb : lead b = .four low high) (hc : (low ≤ c && c ≤ high) = true) (hd : isTail d = true)
    (he : isTail e = true) :
    String.utf8EncodeChar (Char.ofNat (b.toNat % 8 * 262144 + bits c * 4096 + bits d * 64 + bits e)) =
      [b, c, d, e] := by
  obtain ⟨hfirst, hlast, hlow, hhigh, hleast, hmost⟩ := lead_eq_four hb
  have hd := isTail_iff.mp hd
  have he := isTail_iff.mp he
  simp only [Bool.and_eq_true, decide_eq_true_eq, UInt8.le_iff_toNat_le] at hc
  unfold String.utf8EncodeChar bits
  rw [val_ofNat (by omega)]
  dsimp only
  rw [if_neg (by omega), if_neg (by omega), if_neg (by omega), ofNat_eq (b := b) (by omega),
    ofNat_eq (b := c) (by omega), ofNat_eq (b := d) (by omega), ofNat_eq (b := e) (by omega)]

/-- A piece that is a character consists of its bytes. -/
theorem encodeChar_of_piece {x : Char} {width : Nat} (h : piece b rest = .char x width) :
    ∃ tail more, rest = tail ++ more ∧ String.utf8EncodeChar x = b :: tail ∧ width = tail.length + 1 := by
  unfold piece at h
  split at h
  · cases h
  · next hlead =>
    cases h
    exact ⟨[], rest, rfl, encodeChar_one hlead, rfl⟩
  · next hlead =>
    split at h
    · split at h
      · next hc =>
        cases h
        exact ⟨[_], _, rfl, encodeChar_two hlead hc, rfl⟩
      · cases h
    · cases h
  · next hlead =>
    split at h
    · split at h
      · next hc =>
        split at h
        · split at h
          · next hd =>
            cases h
            exact ⟨[_, _], _, rfl, encodeChar_three hlead hc hd, rfl⟩
          · cases h
        · cases h
      · cases h
    · cases h
  · next hlead =>
    split at h
    · split at h
      · next hc =>
        split at h
        · split at h
          · next hd =>
            split at h
            · split at h
              · next he =>
                cases h
                exact ⟨[_, _, _], _, rfl, encodeChar_four hlead hc hd he, rfl⟩
              · cases h
            · cases h
          · cases h
        · cases h
      · cases h
    · cases h

end

theorem pieces_skip (tail rest : List UInt8) : pieces tail.length (tail ++ rest) = pieces 0 rest := by
  induction tail with
  | nil => rfl
  | cons b tail ih => exact ih

/-- Bytes whose pieces are all characters are the bytes of these. -/
theorem flatMap_of_charsOf {bytes : List UInt8} {cs : List Char} (h : charsOf (pieces 0 bytes) = some cs) :
    bytes = cs.flatMap String.utf8EncodeChar := by
  induction cs generalizing bytes with
  | nil =>
    cases bytes with
    | nil => rfl
    | cons b rest =>
      rw [pieces] at h
      split at h
      · rw [charsOf, Option.map_eq_some_iff] at h
        obtain ⟨cs, -, hnil⟩ := h
        cases hnil
      · cases h
  | cons c cs ih =>
    cases bytes with
    | nil => cases h
    | cons b rest =>
      rw [pieces] at h
      split at h
      · next x width hpiece =>
        obtain ⟨tail, more, rfl, hx, rfl⟩ := encodeChar_of_piece hpiece
        rw [Nat.add_sub_cancel, pieces_skip, charsOf, Option.map_eq_some_iff] at h
        obtain ⟨ds, hds, hcons⟩ := h
        cases hcons
        rw [List.flatMap_cons, hx, List.cons_append, ← ih hds]
      · cases h

/-- The bytes that are read as a text are those of the text. -/
theorem decode_eq_some_iff {bytes : List UInt8} {s : String} : decode bytes = some s ↔ bytes = encode s := by
  constructor
  · intro h
    rw [decode, Option.map_eq_some_iff] at h
    obtain ⟨cs, hcs, rfl⟩ := h
    rw [encode, String.toList_ofList]
    exact flatMap_of_charsOf hcs
  · rintro rfl
    exact decode_encode s

/-- No character's bytes begin those of another. -/
theorem encodeChar_append_inj {c d : Char} {xs ys : List UInt8}
    (h : String.utf8EncodeChar c ++ xs = String.utf8EncodeChar d ++ ys) : c = d ∧ xs = ys := by
  have hpieces := congrArg (pieces 0) h
  rw [pieces_encodeChar, pieces_encodeChar] at hpieces
  obtain rfl : c = d := by
    injection hpieces with hpiece
    injection hpiece
  exact ⟨rfl, List.append_cancel_left h⟩

/-- All bytes of a character but its first follow another. -/
theorem isTail_encodeChar {c : Char} {b : UInt8} {bs : List UInt8} (h : String.utf8EncodeChar c = b :: bs) :
    isTail b = false ∧ ∀ d ∈ bs, isTail d = true := by
  have hsize : c.val.toNat < 0x110000 := by
    rcases c.valid with h | h <;> omega
  have hfirst {n : Nat} (hn : n < 256) (h : ¬(128 ≤ n ∧ n < 192)) : isTail (UInt8.ofNat n) = false := by
    rw [Bool.eq_false_iff, ne_eq, isTail_iff, toNat_ofNat hn]
    exact h
  have hafter (n : Nat) : isTail (UInt8.ofNat (n % 64 + 128)) = true := isTail_ofNat (Nat.mod_lt n (by decide))
  unfold String.utf8EncodeChar at h
  generalize c.val.toNat = v at h hsize
  dsimp only at h
  split_ifs at h <;> cases h
  · exact ⟨hfirst (by omega) (by omega), by simp⟩
  · exact ⟨hfirst (by omega) (by omega), by simp only [List.forall_mem_cons, hafter]; simp⟩
  · exact ⟨hfirst (by omega) (by omega), by simp only [List.forall_mem_cons, hafter]; simp⟩
  · exact ⟨hfirst (by omega) (by omega), by simp only [List.forall_mem_cons, hafter]; simp⟩

/-- Bytes that differ decide; equal bytes leave it to what follows. -/
private theorem ofNat_cons_lt {m n : Nat} {xs ys : List UInt8} (hm : m < 256) (hn : n < 256)
    (hle : m ≤ n) (h : m = n → xs < ys) : UInt8.ofNat m :: xs < UInt8.ofNat n :: ys := by
  rw [List.cons_lt_cons_iff, UInt8.lt_iff_toNat_lt, toNat_ofNat hm, toNat_ofNat hn]
  rcases Nat.lt_or_eq_of_le hle with hlt | rfl
  · exact .inl hlt
  · exact .inr ⟨rfl, h rfl⟩

/-- The bytes of a lower character come first, whatever follows the two. -/
theorem encodeChar_append_lt {c d : Char} (h : c < d) (xs ys : List UInt8) :
    String.utf8EncodeChar c ++ xs < String.utf8EncodeChar d ++ ys := by
  have hcd : c.val.toNat < d.val.toNat := UInt32.lt_iff_toNat_lt.mp (Char.lt_def.mp h)
  have hd : d.val.toNat < 0x110000 := by rcases d.valid with h | h <;> omega
  unfold String.utf8EncodeChar
  generalize c.val.toNat = v at hcd
  generalize d.val.toNat = w at hcd hd
  dsimp only
  split_ifs <;> simp only [List.cons_append, List.nil_append]
  -- A character that is lower has no more bytes, and fewer make a lower first byte.
  all_goals try omega
  all_goals refine ofNat_cons_lt (by omega) (by omega) (by omega) fun _ => ?_
  all_goals try omega
  -- With as many bytes, the first byte that differs decides.
  · exact ofNat_cons_lt (by omega) (by omega) (by omega) fun _ => by omega
  · refine ofNat_cons_lt (by omega) (by omega) (by omega) fun _ => ?_
    exact ofNat_cons_lt (by omega) (by omega) (by omega) fun _ => by omega
  · refine ofNat_cons_lt (by omega) (by omega) (by omega) fun _ => ?_
    refine ofNat_cons_lt (by omega) (by omega) (by omega) fun _ => ?_
    exact ofNat_cons_lt (by omega) (by omega) (by omega) fun _ => by omega

theorem encodeChar_ne_nil (c : Char) : String.utf8EncodeChar c ≠ [] := by
  intro h
  have := congrArg List.length h
  rw [String.length_utf8EncodeChar] at this
  exact absurd this (Nat.pos_iff_ne_zero.mp c.utf8Size_pos)

theorem flatMap_encodeChar_lt {cs ds : List Char} (h : cs < ds) :
    cs.flatMap String.utf8EncodeChar < ds.flatMap String.utf8EncodeChar := by
  induction cs generalizing ds with
  | nil =>
    cases ds with
    | nil => exact absurd h (List.lt_irrefl _)
    | cons d ds =>
      rw [List.flatMap_nil, List.flatMap_cons]
      obtain ⟨b, bs, hb⟩ := List.exists_cons_of_ne_nil (encodeChar_ne_nil d)
      rw [hb]
      exact List.nil_lt_cons _ _
  | cons c cs ih =>
    cases ds with
    | nil => exact absurd h (List.not_lt_nil _)
    | cons d ds =>
      rw [List.flatMap_cons, List.flatMap_cons]
      rcases List.cons_lt_cons_iff.mp h with hlt | ⟨rfl, hlt⟩
      · exact encodeChar_append_lt hlt _ _
      · exact List.append_left_lt (ih hlt)

/-- Texts are in the order of their bytes. -/
theorem encode_lt_encode_iff {s t : String} : encode s < encode t ↔ s < t := by
  have hmono {s t : String} (h : s < t) : encode s < encode t := flatMap_encodeChar_lt (String.lt_iff.mp h)
  refine ⟨fun h => ?_, hmono⟩
  rcases lt_trichotomy s t with hlt | rfl | hgt
  · exact hlt
  · exact absurd h (List.lt_irrefl _)
  · exact absurd (hmono hgt) (List.lt_asymm h)

end FleetLocator.Text.Utf8
