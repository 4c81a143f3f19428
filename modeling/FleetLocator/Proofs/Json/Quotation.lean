import FleetLocator.Proofs.Json.Grammar

/-!
# What the texts of documents are

Between quotes a character stands for itself or is escaped: by a letter, by its code, or by the two halves of its
code. The reader takes the bytes up to the closing quote for the characters that stand there, and nothing else.
-/
namespace FleetLocator.Json

namespace Grammar

/-- The letters that stand behind a backslash, and the characters that they stand for there. -/
def named : List (Char × Char) :=
  [('"', '"'), ('\\', '\\'), ('/', '/'), ('b', Char.ofNat 8), ('f', Char.ofNat 12), ('n', '\n'), ('r', '\r'),
    ('t', '\t')]

def hexDigit (c : Char) : ℕ :=
  if c.isDigit then c.toNat - 48 else if 'a' ≤ c ∧ c ≤ 'f' then c.toNat - 87 else c.toNat - 55

/-- Four hexadecimal digits of a code. -/
inductive IsCode : List Char → ℕ → Prop
  | digits {w x y z : Char} (hex : ∀ c ∈ [w, x, y, z], isHexDigit c = true) :
    IsCode [w, x, y, z] (((hexDigit w * 16 + hexDigit x) * 16 + hexDigit y) * 16 + hexDigit z)

/-- One character of a text. A code that is half of another stands for a character only beside the other half. -/
inductive IsUnitOf : List Char → Char → Prop
  | plain {c : Char} (printable : 0x20 ≤ c.toNat) (quote : c ≠ '"') (backslash : c ≠ '\\') : IsUnitOf [c] c
  | letter {m c : Char} (known : (m, c) ∈ named) : IsUnitOf ['\\', m] c
  | code {cs : List Char} {n : ℕ} (code : IsCode cs n) (alone : n < 0xD800 ∨ 0xDFFF < n) :
    IsUnitOf ('\\' :: 'u' :: cs) (Char.ofNat n)
  | pair {cs ds : List Char} {m n : ℕ} (first : IsCode cs m) (second : IsCode ds n)
    (leading : 0xD800 ≤ m ∧ m ≤ 0xDBFF) (trailing : 0xDC00 ≤ n ∧ n ≤ 0xDFFF) :
    IsUnitOf ('\\' :: 'u' :: (cs ++ '\\' :: 'u' :: ds)) (Char.ofNat ((m - 0xD800) * 1024 + (n - 0xDC00) + 0x10000))

/-- The characters of a text, one after the other. -/
inductive IsUnitsOf : List Char → List Char → Prop
  | nil : IsUnitsOf [] []
  | cons {cs ds s : List Char} {c : Char} (first : IsUnitOf cs c) (rest : IsUnitsOf ds s) :
    IsUnitsOf (cs ++ ds) (c :: s)

end Grammar

open Grammar

variable {b : UInt8} {c : Char} {cs s : List Char} {n width : ℕ} {out input rest bytes : List UInt8}

theorem hexValue_of_isHexDigit (h : isHexDigit c = true) :
    String.utf8EncodeChar c = [UInt8.ofNat c.toNat] ∧
      Text.Percent.hexValue (UInt8.ofNat c.toNat) = some (hexDigit c) := by
  have hall : ∀ k < 128, isHexDigit (Char.ofNat k) = true →
      Text.Percent.hexValue (UInt8.ofNat k) = some (hexDigit (Char.ofNat k)) := by decide
  have hlt : c.toNat < 128 := by
    simp only [isHexDigit, Bool.or_eq_true, Bool.and_eq_true, decide_eq_true_eq] at h
    rcases h with (h | ⟨-, h⟩) | ⟨-, h⟩
    · have := toNat_of_isDigit h
      omega
    · have : c.toNat ≤ 'f'.toNat := h
      exact this.trans_lt (by decide)
    · have : c.toNat ≤ 'F'.toNat := h
      exact this.trans_lt (by decide)
  have hc := hall c.toNat hlt
  rw [Char.ofNat_toNat] at hc
  exact ⟨Text.Percent.encodeChar_of_lt hlt, hc h⟩

theorem exists_hexDigit (h : Text.Percent.hexValue b = some n) :
    ∃ c : Char, isHexDigit c = true ∧ String.utf8EncodeChar c = [b] ∧ hexDigit c = n := by
  have hall : ∀ k < 256, ∀ v ∈ Text.Percent.hexValue (UInt8.ofNat k),
      isHexDigit (Char.ofNat k) = true ∧ (Char.ofNat k).toNat = k ∧ hexDigit (Char.ofNat k) = v := by decide +kernel
  have hb := hall b.toNat b.toNat_lt n
  rw [UInt8.ofNat_toNat] at hb
  obtain ⟨hhex, hnat, hvalue⟩ := hb h
  refine ⟨_, hhex, ?_, hvalue⟩
  rw [(hexValue_of_isHexDigit hhex).1, hnat, UInt8.ofNat_toNat]

/-- Four digits are read as their code. -/
theorem codeUnit_of_isCode (h : IsCode cs n) (rest : List UInt8) : codeUnit (bytesOf cs ++ rest) = .ok (n, rest) := by
  cases h with
  | @digits w x y z hex =>
    obtain ⟨hw, hw'⟩ := hexValue_of_isHexDigit (hex w (by simp))
    obtain ⟨hx, hx'⟩ := hexValue_of_isHexDigit (hex x (by simp))
    obtain ⟨hy, hy'⟩ := hexValue_of_isHexDigit (hex y (by simp))
    obtain ⟨hz, hz'⟩ := hexValue_of_isHexDigit (hex z (by simp))
    simp only [bytesOf, List.flatMap_cons, List.flatMap_nil, hw, hx, hy, hz, List.cons_append, List.nil_append,
      codeUnit, fourHex, hw', hx', hy', hz']
    rfl

theorem length_of_isCode (h : IsCode cs n) : (bytesOf cs).length = 4 := by
  cases h with
  | @digits w x y z hex =>
    simp only [bytesOf, List.flatMap_cons, List.flatMap_nil, (hexValue_of_isHexDigit (hex w (by simp))).1,
      (hexValue_of_isHexDigit (hex x (by simp))).1, (hexValue_of_isHexDigit (hex y (by simp))).1,
      (hexValue_of_isHexDigit (hex z (by simp))).1]
    rfl

theorem exists_code (h : codeUnit input = .ok (n, rest)) : ∃ cs, IsCode cs n ∧ input = bytesOf cs ++ rest := by
  unfold codeUnit at h
  split at h
  · next w x y z tail =>
    split at h
    · next v hv =>
      cases h
      simp only [fourHex, Option.bind_eq_bind, Option.bind_eq_some_iff, Option.pure_def, Option.some.injEq] at hv
      obtain ⟨a, ha, b, hb, c, hc, d, hd, rfl⟩ := hv
      obtain ⟨w', hw, hw', rfl⟩ := exists_hexDigit ha
      obtain ⟨x', hx, hx', rfl⟩ := exists_hexDigit hb
      obtain ⟨y', hy, hy', rfl⟩ := exists_hexDigit hc
      obtain ⟨z', hz, hz', rfl⟩ := exists_hexDigit hd
      refine ⟨[w', x', y', z'], .digits (by simp [hw, hx, hy, hz]), ?_⟩
      simp only [bytesOf, List.flatMap_cons, List.flatMap_nil, hw', hx', hy', hz']
      rfl
    · cases h
  · cases h

theorem isTrailing_iff : isTrailing n = true ↔ 0xDC00 ≤ n ∧ n ≤ 0xDFFF := by
  simp [isTrailing]

theorem isLeading_iff : isLeading n = true ↔ 0xD800 ≤ n ∧ n ≤ 0xDBFF := by
  simp [isLeading]

/-- A code outside the surrogates is a character of its own. -/
theorem byCode_alone (h : IsCode cs n) (halone : n < 0xD800 ∨ 0xDFFF < n) (rest : List UInt8) :
    byCode (bytesOf cs ++ rest) = .ok (Char.ofNat n, 5) := by
  have htrailing : isTrailing n = false := Bool.eq_false_iff.mpr fun h => by
    have := isTrailing_iff.mp h
    omega
  have hleading : isLeading n = false := Bool.eq_false_iff.mpr fun h => by
    have := isLeading_iff.mp h
    omega
  rw [byCode, codeUnit_of_isCode h]
  dsimp only
  rw [htrailing, hleading]
  rfl

/-- Two halves are one character. -/
theorem byCode_pair {ds : List Char} {m : ℕ} (h : IsCode cs m) (h' : IsCode ds n)
    (hleading : 0xD800 ≤ m ∧ m ≤ 0xDBFF) (htrailing : 0xDC00 ≤ n ∧ n ≤ 0xDFFF) (rest : List UInt8) :
    byCode (bytesOf cs ++ backslash :: letterU :: (bytesOf ds ++ rest)) =
      .ok (Char.ofNat ((m - 0xD800) * 1024 + (n - 0xDC00) + 0x10000), 11) := by
  have hfirst : isTrailing m = false := Bool.eq_false_iff.mpr fun h => by
    have := isTrailing_iff.mp h
    omega
  have hsecond : secondUnit (backslash :: letterU :: (bytesOf ds ++ rest)) = .ok (n, rest) :=
    codeUnit_of_isCode h' rest
  rw [byCode, codeUnit_of_isCode h]
  dsimp only
  rw [hfirst, isLeading_iff.mpr hleading, hsecond]
  dsimp only
  rw [isTrailing_iff.mpr htrailing]
  rfl

theorem exists_secondUnit (h : secondUnit input = .ok (n, rest)) :
    ∃ ds, IsCode ds n ∧ input = backslash :: letterU :: (bytesOf ds ++ rest) := by
  unfold secondUnit at h
  split at h
  · cases h
  · next b tail =>
    split_ifs at h with hb
    split at h
    · cases h
    · next c tail =>
      split_ifs at h with hc
      obtain ⟨ds, hds, rfl⟩ := exists_code h
      exact ⟨ds, hds, by rw [hb, hc]⟩

theorem exists_byCode (h : byCode input = .ok (c, width)) :
    ∃ cs rest, IsUnitOf ('\\' :: 'u' :: cs) c ∧ width = (bytesOf cs).length + 1 ∧ input = bytesOf cs ++ rest := by
  unfold byCode at h
  split at h
  · cases h
  · next m after hm =>
    obtain ⟨cs, hcs, rfl⟩ := exists_code hm
    split_ifs at h with htrailing hleading
    · cases h
      have halone : m < 0xD800 ∨ 0xDFFF < m := by
        have hnot : ¬(0xDC00 ≤ m ∧ m ≤ 0xDFFF) := fun hm => htrailing (isTrailing_iff.mpr hm)
        have hnot' : ¬(0xD800 ≤ m ∧ m ≤ 0xDBFF) := fun hm => by simp [isLeading_iff.mpr hm] at hleading
        omega
      exact ⟨cs, after, .code hcs halone, by rw [length_of_isCode hcs], rfl⟩
    · split at h
      · cases h
      · next k after' hk =>
        obtain ⟨ds, hds, rfl⟩ := exists_secondUnit hk
        split_ifs at h with hsecond
        simp only [Except.ok.injEq, Prod.mk.injEq] at h
        obtain ⟨rfl, rfl⟩ := h
        have hleading' : isLeading m = true := by simpa using hleading
        refine ⟨cs ++ '\\' :: 'u' :: ds, after', .pair hcs hds (isLeading_iff.mp hleading') (isTrailing_iff.mp hsecond),
          ?_, ?_⟩
        · have hlength : (bytesOf ('\\' :: 'u' :: ds)).length = (bytesOf ds).length + 2 := rfl
          rw [bytesOf_append, List.length_append, hlength, length_of_isCode hcs, length_of_isCode hds]
        · rw [bytesOf_append, List.append_assoc]
          rfl

theorem escape_named {m : Char} (h : (m, c) ∈ named) (rest : List UInt8) :
    escape (bytesOf [m] ++ rest) = .ok (String.utf8EncodeChar c, 1) := by
  simp only [named, List.mem_cons, Prod.mk.injEq, List.not_mem_nil, or_false] at h
  rcases h with ⟨rfl, rfl⟩ | ⟨rfl, rfl⟩ | ⟨rfl, rfl⟩ | ⟨rfl, rfl⟩ | ⟨rfl, rfl⟩ | ⟨rfl, rfl⟩ | ⟨rfl, rfl⟩ | ⟨rfl, rfl⟩
  all_goals rfl

theorem exists_named {d : UInt8} (h : plainEscape b = some d) :
    ∃ p ∈ named, String.utf8EncodeChar p.1 = [b] ∧ String.utf8EncodeChar p.2 = [d] := by
  unfold plainEscape at h
  split_ifs at h with hself hb hf hn hr ht
  · rcases hself with rfl | rfl | rfl <;> cases h
    · exact ⟨('"', '"'), by decide, rfl, rfl⟩
    · exact ⟨('\\', '\\'), by decide, rfl, rfl⟩
    · exact ⟨('/', '/'), by decide, rfl, rfl⟩
  · cases h
    exact ⟨('b', Char.ofNat 8), by decide, hb ▸ rfl, rfl⟩
  · cases h
    exact ⟨('f', Char.ofNat 12), by decide, hf ▸ rfl, rfl⟩
  · cases h
    exact ⟨('n', '\n'), by decide, hn ▸ rfl, rfl⟩
  · cases h
    exact ⟨('r', '\r'), by decide, hr ▸ rfl, rfl⟩
  · cases h
    exact ⟨('t', '\t'), by decide, ht ▸ rfl, rfl⟩

theorem escape_letterU (input : List UInt8) :
    escape (letterU :: input) = (byCode input).map fun found => (String.utf8EncodeChar found.1, found.2) := rfl

theorem escape_of_byCode (h : byCode (bytesOf cs ++ rest) = .ok (c, (bytesOf cs).length + 1)) :
    escape (bytesOf ('u' :: cs) ++ rest) = .ok (String.utf8EncodeChar c, (bytesOf ('u' :: cs)).length) := by
  change escape (letterU :: (bytesOf cs ++ rest)) = .ok (_, (bytesOf cs).length + 1)
  rw [escape_letterU, h]
  rfl

theorem exists_escape (h : escape input = .ok (out, width)) :
    ∃ cs c rest, IsUnitOf ('\\' :: cs) c ∧ out = String.utf8EncodeChar c ∧ width = (bytesOf cs).length ∧
      input = bytesOf cs ++ rest := by
  cases input with
  | nil => cases h
  | cons b input =>
    rw [escape] at h
    split at h
    · next d hd =>
      cases h
      obtain ⟨⟨m, c⟩, hmem, hm, hc⟩ := exists_named hd
      have hbytes : bytesOf [m] = [b] := by rw [bytesOf, List.flatMap_singleton, hm]
      exact ⟨[m], c, input, .letter hmem, hc.symm, by rw [hbytes]; rfl, by rw [hbytes]; rfl⟩
    · split_ifs at h with hb
      cases hcode : byCode input with
      | error flaw => rw [hcode] at h; cases h
      | ok found =>
        obtain ⟨c, width⟩ := found
        rw [hcode] at h
        cases h
        obtain ⟨cs, rest, hcs, rfl, rfl⟩ := exists_byCode hcode
        exact ⟨'u' :: cs, c, rest, hcs, rfl, rfl, by rw [hb]; rfl⟩

/-- A character is read as its own bytes, however it is spelled. -/
theorem textBytes_isUnitOf (h : IsUnitOf cs c) (rest : List UInt8) :
    textBytes 0 (bytesOf cs ++ rest) =
      (textBytes 0 rest).map fun found => (String.utf8EncodeChar c ++ found.1, found.2) := by
  cases h with
  | plain printable quote backslash =>
    have hmem : ∀ b ∈ String.utf8EncodeChar c, Unescaped b := fun b hb =>
      unescaped_of_mem_encodeChar quote backslash printable hb
    rw [bytesOf, List.flatMap_singleton]
    exact textBytes_unescaped hmem rest
  | @letter m c known =>
    have hlength : ∀ p ∈ named, (bytesOf [p.1]).length = 1 := by decide
    have hread : escape (bytesOf [m] ++ rest) = .ok (String.utf8EncodeChar c, (bytesOf [m]).length) := by
      rw [hlength _ known]
      exact escape_named known rest
    exact textBytes_escape hread
  | @code cs n code alone =>
    have hread : byCode (bytesOf cs ++ rest) = .ok (Char.ofNat n, (bytesOf cs).length + 1) := by
      rw [length_of_isCode code]
      exact byCode_alone code alone rest
    exact textBytes_escape (escape_of_byCode hread)
  | @pair cs ds m n first second leading trailing =>
    have hafter : (bytesOf ('\\' :: 'u' :: ds)).length = (bytesOf ds).length + 2 := rfl
    have hinput : bytesOf (cs ++ '\\' :: 'u' :: ds) ++ rest =
        bytesOf cs ++ backslash :: letterU :: (bytesOf ds ++ rest) := by
      rw [bytesOf_append, List.append_assoc]
      rfl
    refine textBytes_escape (escape_of_byCode ?_)
    rw [hinput, byCode_pair first second leading trailing, bytesOf_append, List.length_append, hafter,
      length_of_isCode first, length_of_isCode second]

theorem textBytes_isUnitsOf (h : IsUnitsOf cs s) (rest : List UInt8) :
    textBytes 0 (bytesOf cs ++ quote :: rest) = .ok (bytesOf s, rest) := by
  induction h with
  | nil => rfl
  | cons first _ ih =>
    rw [bytesOf_append, List.append_assoc, textBytes_isUnitOf first, ih]
    rfl

theorem isUnitOf_of_unescaped (hc : String.utf8EncodeChar c = b :: bytes) (h : Unescaped b) : IsUnitOf [c] c := by
  obtain ⟨hquote, hback, hcontrol⟩ := h
  refine .plain (not_lt.mp fun hlt => hcontrol ?_) ?_ ?_
  · rw [Text.Percent.encodeChar_of_lt (by omega)] at hc
    cases hc
    rw [UInt8.lt_iff_toNat_lt, UInt8.toNat_ofNat_of_lt' (show c.toNat < 256 by omega)]
    exact hlt
  · rintro rfl
    cases hc
    exact hquote rfl
  · rintro rfl
    cases hc
    exact hback rfl

/-- What is read comes of the closing quote, of an escape, or of a byte that stands for itself. -/
theorem textBytes_cons_cases (h : textBytes 0 (b :: input) = .ok (bytes, rest)) :
    (b = quote ∧ bytes = [] ∧ input = rest) ∨
    (∃ cs c after tail, IsUnitOf ('\\' :: cs) c ∧ b :: input = bytesOf ('\\' :: cs) ++ after ∧
      bytes = String.utf8EncodeChar c ++ tail ∧ textBytes 0 after = .ok (tail, rest)) ∨
    (Unescaped b ∧ ∃ tail, bytes = b :: tail ∧ textBytes 0 input = .ok (tail, rest)) := by
  have hmap {read : Except Flaw (List UInt8 × List UInt8)} {start : List UInt8}
      (h : read.map (fun found => (start ++ found.1, found.2)) = .ok (bytes, rest)) :
      ∃ tail, bytes = start ++ tail ∧ read = .ok (tail, rest) := by
    cases read with
    | error flaw => cases h
    | ok found =>
      cases h
      exact ⟨_, rfl, rfl⟩
  rw [textBytes] at h
  split_ifs at h with hquote hback hcontrol
  · cases h
    exact .inl ⟨hquote, rfl, rfl⟩
  · split at h
    · cases h
    · next unit width hescape =>
      obtain ⟨cs, c, after, hcs, rfl, rfl, rfl⟩ := exists_escape hescape
      rw [textBytes_skip] at h
      obtain ⟨tail, rfl, htail⟩ := hmap h
      exact .inr (.inl ⟨cs, c, after, tail, hcs, by rw [hback]; rfl, rfl, htail⟩)
  · obtain ⟨tail, rfl, htail⟩ := @hmap _ [b] h
    exact .inr (.inr ⟨⟨hquote, hback, hcontrol⟩, tail, rfl, htail⟩)

/-- Bytes that cannot begin a character are read from themselves. -/
theorem textBytes_of_tails (ht : ∀ b ∈ bytes, Text.Utf8.isTail b = true)
    (h : textBytes 0 input = .ok (bytes ++ out, rest)) :
    ∃ after, input = bytes ++ after ∧ textBytes 0 after = .ok (out, rest) := by
  induction bytes generalizing input with
  | nil => exact ⟨input, rfl, h⟩
  | cons t bytes ih =>
    obtain ⟨htail, hbytes⟩ := List.forall_mem_cons.mp ht
    cases input with
    | nil => cases h
    | cons b input =>
      obtain ⟨-, hnil, -⟩ | ⟨cs, c, after, tail, -, -, hout, -⟩ | ⟨-, tail, hout, hread⟩ := textBytes_cons_cases h
      · cases hnil
      · obtain ⟨d, ds, hd⟩ := List.exists_cons_of_ne_nil (Text.Utf8.encodeChar_ne_nil c)
        rw [hd] at hout
        obtain rfl : t = d := (List.cons.inj hout).1
        rw [(Text.Utf8.isTail_encodeChar hd).1] at htail
        cases htail
      · obtain ⟨rfl, rfl⟩ := List.cons.inj hout
        obtain ⟨after, rfl, hafter⟩ := ih hbytes hread
        exact ⟨after, rfl, hafter⟩

/-- What is read as the bytes of characters spells these, up to the closing quote. -/
theorem exists_isUnitsOf (h : textBytes 0 input = .ok (bytesOf s, rest)) :
    ∃ cs, IsUnitsOf cs s ∧ input = bytesOf cs ++ quote :: rest := by
  -- The induction is on the characters: a byte that stands for itself is followed by the others of its character.
  induction s generalizing input with
  | nil =>
    cases input with
    | nil => cases h
    | cons b input =>
      obtain ⟨rfl, -, rfl⟩ | ⟨cs, c, after, tail, -, -, hout, -⟩ | ⟨-, tail, hout, -⟩ := textBytes_cons_cases h
      · exact ⟨[], .nil, rfl⟩
      · exact absurd (List.append_eq_nil_iff.mp hout.symm).1 (Text.Utf8.encodeChar_ne_nil c)
      · cases hout
  | cons c s ih =>
    have hbytes : bytesOf (c :: s) = String.utf8EncodeChar c ++ bytesOf s := rfl
    obtain ⟨d, ds, hd⟩ := List.exists_cons_of_ne_nil (Text.Utf8.encodeChar_ne_nil c)
    rw [hbytes] at h
    cases input with
    | nil => cases h
    | cons b input =>
      obtain ⟨-, hnil, -⟩ | ⟨cs, c', after, tail, hcs, hinput, hout, hread⟩ | ⟨hb, tail, hout, hread⟩ :=
        textBytes_cons_cases h
      · exact absurd (List.append_eq_nil_iff.mp hnil).1 (Text.Utf8.encodeChar_ne_nil c)
      · obtain ⟨rfl, rfl⟩ := Text.Utf8.encodeChar_append_inj hout
        obtain ⟨ds, hds, rfl⟩ := ih hread
        refine ⟨_, .cons hcs hds, ?_⟩
        rw [hinput, bytesOf_append, List.append_assoc]
      · rw [hd] at hout
        obtain ⟨rfl, rfl⟩ := List.cons.inj hout
        obtain ⟨after, rfl, hafter⟩ := textBytes_of_tails (Text.Utf8.isTail_encodeChar hd).2 hread
        obtain ⟨cs, hcs, rfl⟩ := ih hafter
        refine ⟨_, .cons (isUnitOf_of_unescaped hd hb) hcs, ?_⟩
        have hsingle : bytesOf [c] = d :: ds := by rw [bytesOf, List.flatMap_singleton, hd]
        rw [bytesOf_append, List.append_assoc, hsingle, List.cons_append]

/-- A text is read up to its closing quote if and only if its characters are spelled there. -/
theorem readText_eq_ok_iff {t : String} :
    readText input = .ok (t, rest) ↔ ∃ cs, IsUnitsOf cs t.toList ∧ input = bytesOf cs ++ quote :: rest := by
  constructor
  · intro h
    unfold readText at h
    split at h
    · cases h
    · next bytes after hbytes =>
      split at h
      · next s hs =>
        cases h
        rw [Text.Utf8.decode_eq_some_iff.mp hs] at hbytes
        exact exists_isUnitsOf hbytes
      · cases h
  · rintro ⟨cs, hcs, rfl⟩
    have hdecode : Text.Utf8.decode (bytesOf t.toList) = some t := Text.Utf8.decode_encode t
    rw [readText, textBytes_isUnitsOf hcs]
    dsimp only
    rw [hdecode]

end FleetLocator.Json
