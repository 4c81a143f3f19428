import FleetLocator.Proofs.Json.Reread
import FleetLocator.Proofs.Json.Text

/-!
# Numbers are read up to the next byte that belongs to none

A whole number is read as it was written. Of a double the reader takes the digits as significand and power of
ten, in whichever of its layouts the text is.
-/
namespace FleetLocator.Json

open Decimal

/-- What may follow a number: nothing, or a byte that is no part of one. -/
def Stops (rest : List UInt8) : Prop :=
  ∀ b ∈ rest.head?, isDigit b = false ∧ b ≠ 0x2E ∧ isExponentMark b = false

variable {c : Char} {cs ds : List Char} {rest : List UInt8} {v n : ℕ}

theorem toNat_of_isDigit (h : c.isDigit = true) : 48 ≤ c.toNat ∧ c.toNat ≤ 57 := by
  simp only [Char.isDigit, Bool.and_eq_true, decide_eq_true_eq] at h
  exact ⟨UInt32.le_iff_toNat_le.mp h.1, UInt32.le_iff_toNat_le.mp h.2⟩

theorem bytesOf_cons_of_isDigit (h : c.isDigit = true) (cs : List Char) :
    bytesOf (c :: cs) = UInt8.ofNat c.toNat :: bytesOf cs := by
  have hc := toNat_of_isDigit h
  rw [bytesOf, List.flatMap_cons, Text.Percent.encodeChar_of_lt (by omega)]
  rfl

theorem digit?_of_isDigit (h : c.isDigit = true) : digit? (UInt8.ofNat c.toNat) = some (c.toNat - 48) := by
  obtain ⟨hlow, hhigh⟩ := toNat_of_isDigit h
  have hnat : (UInt8.ofNat c.toNat).toNat = c.toNat := UInt8.toNat_ofNat_of_lt' (show c.toNat < 256 by omega)
  have hwithin : 0x30 ≤ UInt8.ofNat c.toNat ∧ UInt8.ofNat c.toNat ≤ 0x39 := by
    rw [UInt8.le_iff_toNat_le, UInt8.le_iff_toNat_le, hnat]
    exact ⟨hlow, hhigh⟩
  rw [digit?, if_pos hwithin, hnat]

theorem isDigit_iff_digit? (b : UInt8) : isDigit b = (digit? b).isSome := by
  unfold isDigit digit?
  split
  · next h => simp [h.1, h.2]
  · next h =>
    rw [Option.isSome_none, ← Bool.not_eq_true, Bool.and_eq_true, decide_eq_true_eq, decide_eq_true_eq]
    exact h

theorem isDigit_of_isDigit (h : c.isDigit = true) : isDigit (UInt8.ofNat c.toNat) = true := by
  rw [isDigit_iff_digit?, digit?_of_isDigit h]
  rfl

/-- The value of further digits after a value. -/
def digitsFrom (v : ℕ) (cs : List Char) : ℕ := cs.foldl (fun value c => value * 10 + (c.toNat - 48)) v

theorem digitsFrom_append (v : ℕ) (cs ds : List Char) : digitsFrom v (cs ++ ds) = digitsFrom (digitsFrom v cs) ds :=
  List.foldl_append

theorem le_digitsFrom (v : ℕ) (cs : List Char) : v ≤ digitsFrom v cs := by
  induction cs generalizing v with
  | nil => exact le_rfl
  | cons c cs ih => exact le_trans (by omega) (ih (v * 10 + (c.toNat - 48)))

theorem digitsFrom_zeros (v k : ℕ) : digitsFrom v (zeros k) = v * 10 ^ k := by
  induction k generalizing v with
  | zero => exact (mul_one v).symm
  | succ k ih =>
    change digitsFrom (v * 10 + 0) (zeros k) = _
    rw [ih, add_zero, pow_succ, mul_assoc, mul_comm 10]

theorem takeDigits_stop (v : ℕ) (h : startsWithDigit rest = false) : takeDigits v rest = (v, 0, rest) := by
  cases rest with
  | nil => rfl
  | cons b rest =>
    have hb : digit? b = none := by
      rw [← Option.not_isSome_iff_eq_none, ← isDigit_iff_digit?]
      exact Bool.eq_false_iff.mp h
    simp only [takeDigits, hb]

/-- The digits that stand before something else are all taken while their value fits. -/
theorem takeDigits_bytesOf (hd : ∀ c ∈ cs, c.isDigit = true) (hlt : digitsFrom v cs < UInt64.size)
    (hrest : startsWithDigit rest = false) :
    takeDigits v (bytesOf cs ++ rest) = (digitsFrom v cs, cs.length, rest) := by
  induction cs generalizing v with
  | nil => exact takeDigits_stop v hrest
  | cons c cs ih =>
    have hc := hd c List.mem_cons_self
    have hfit : v * 10 + (c.toNat - 48) < UInt64.size := lt_of_le_of_lt (le_digitsFrom _ cs) hlt
    rw [bytesOf_cons_of_isDigit hc, List.cons_append, takeDigits]
    simp only [digit?_of_isDigit hc, if_pos hfit, ih (fun c h => hd c (List.mem_cons_of_mem _ h)) hlt]
    rfl

theorem exponentDigits_stop (v : ℕ) (h : startsWithDigit rest = false) : exponentDigits v rest = (some v, rest) := by
  cases rest with
  | nil => rfl
  | cons b rest =>
    have hb : digit? b = none := by
      rw [← Option.not_isSome_iff_eq_none, ← isDigit_iff_digit?]
      exact Bool.eq_false_iff.mp h
    simp only [exponentDigits, hb]

theorem exponentDigits_bytesOf (hd : ∀ c ∈ cs, c.isDigit = true) (hlt : digitsFrom v cs < 0x80000000)
    (hrest : startsWithDigit rest = false) :
    exponentDigits v (bytesOf cs ++ rest) = (some (digitsFrom v cs), rest) := by
  induction cs generalizing v with
  | nil => exact exponentDigits_stop v hrest
  | cons c cs ih =>
    have hc := hd c List.mem_cons_self
    have hfit : v * 10 + (c.toNat - 48) < 0x80000000 := lt_of_le_of_lt (le_digitsFrom _ cs) hlt
    rw [bytesOf_cons_of_isDigit hc, List.cons_append, exponentDigits]
    simp only [digit?_of_isDigit hc, if_pos hfit, ih (fun c h => hd c (List.mem_cons_of_mem _ h)) hlt]
    rfl

theorem isDigit_of_mem_toDigits (h : c ∈ Nat.toDigits 10 n) : c.isDigit = true :=
  Nat.isDigit_of_mem_toDigits (by norm_num) le_rfl h

theorem digitsFrom_toDigits (n : ℕ) : digitsFrom 0 (Nat.toDigits 10 n) = n := digitsValue_toDigits n

/-- No number but zero begins with a zero. -/
theorem head?_toDigits_ne (hn : 0 < n) : (Nat.toDigits 10 n).head? ≠ some '0' := by
  induction n using Nat.strong_induction_on with
  | _ n ih =>
    rcases Nat.lt_or_ge n 10 with hlt | hge
    · rw [Nat.toDigits_of_lt_base hlt, List.head?_cons]
      have hne : ∀ d < 10, d ≠ 0 → some (Nat.digitChar d) ≠ some '0' := by decide
      exact hne n hlt hn.ne'
    · rw [Nat.toDigits_of_base_le (by norm_num) hge, List.head?_append_of_ne_nil _ Nat.toDigits_ne_nil]
      exact ih (n / 10) (by omega) (by omega)

theorem Stops.startsWithDigit (h : Stops rest) : startsWithDigit rest = false := by
  cases rest with
  | nil => rfl
  | cons b rest => exact (h b rfl).1

theorem afterWhole_of_stops (h : Stops rest) (positive : Bool) (v : ℕ) :
    afterWhole positive v 0 rest = .ok (wholeNumber positive v, rest) := by
  cases rest with
  | nil => rfl
  | cons b rest =>
    obtain ⟨-, hpoint, hmark⟩ := h b rfl
    rw [afterWhole, if_neg hpoint, hmark, if_neg Bool.false_ne_true, if_pos rfl]

/-- Whole digits that do not begin with a zero are read up to what follows them. -/
theorem readNumber_bytesOf (hne : cs ≠ []) (hfirst : cs.head? ≠ some '0') (hd : ∀ c ∈ cs, c.isDigit = true)
    (hlt : digitsFrom 0 cs < UInt64.size) (hrest : startsWithDigit rest = false) (positive : Bool) :
    readNumber positive (bytesOf cs ++ rest) = afterWhole positive (digitsFrom 0 cs) 0 rest := by
  have htake := takeDigits_bytesOf hd hlt hrest
  have hnone : rest.takeWhile isDigit = [] ∧ rest.dropWhile isDigit = rest := by
    cases rest with
    | nil => exact ⟨rfl, rfl⟩
    | cons b rest =>
      have hb : isDigit b = false := hrest
      simp [hb]
  obtain ⟨c, ds, rfl⟩ := List.exists_cons_of_ne_nil hne
  have hc := hd c List.mem_cons_self
  have hzero : UInt8.ofNat c.toNat ≠ 0x30 := fun h => by
    have hnat : c.toNat = '0'.toNat := by
      have := toNat_of_isDigit hc
      rw [← UInt8.toNat_ofNat_of_lt' (show c.toNat < 256 by omega), h]
      rfl
    exact hfirst (by rw [List.head?_cons, Char.toNat_inj.mp hnat])
  rw [bytesOf_cons_of_isDigit hc, List.cons_append] at htake ⊢
  rw [readNumber, if_neg hzero, if_pos (isDigit_of_isDigit hc), htake]
  dsimp only
  rw [hnone.1, hnone.2]
  rfl

theorem readNumber_zero (hrest : startsWithDigit rest = false) (positive : Bool) :
    readNumber positive (0x30 :: rest) = afterWhole positive 0 0 rest := by
  rw [readNumber, if_pos rfl, hrest, if_neg Bool.false_ne_true]

/-- The digits of a whole number are read as the number. -/
theorem readNumber_toDigits (hn : n < UInt64.size) (hrest : Stops rest) (positive : Bool) :
    readNumber positive (bytesOf (Nat.toDigits 10 n) ++ rest) = .ok (wholeNumber positive n, rest) := by
  rcases Nat.eq_zero_or_pos n with rfl | hpos
  · exact (readNumber_zero hrest.startsWithDigit positive).trans (afterWhole_of_stops hrest positive 0)
  · rw [readNumber_bytesOf Nat.toDigits_ne_nil (head?_toDigits_ne hpos) (fun _ h => isDigit_of_mem_toDigits h)
      (by rw [digitsFrom_toDigits]; exact hn) hrest.startsWithDigit, digitsFrom_toDigits,
      afterWhole_of_stops hrest]

section Parts

variable {positive : Bool} {p : ℤ} {s : Scientific}

theorem perhapsExponent_of_stops (h : Stops rest) :
    perhapsExponent positive v p rest = ofParts positive v p rest := by
  cases rest with
  | nil => rfl
  | cons b rest => rw [perhapsExponent, (h b rfl).2.2, if_neg Bool.false_ne_true]

theorem afterPoint_bytesOf (hne : cs ≠ []) (hd : ∀ c ∈ cs, c.isDigit = true) (hlt : digitsFrom v cs < UInt64.size)
    (hrest : startsWithDigit rest = false) :
    afterPoint positive v p (bytesOf cs ++ rest) =
      perhapsExponent positive (digitsFrom v cs) (p - cs.length) rest := by
  have hlength : cs.length ≠ 0 := fun h => hne (List.eq_nil_of_length_eq_zero h)
  rw [afterPoint, takeDigits_bytesOf hd hlt hrest]
  dsimp only
  rw [hrest, if_neg Bool.false_ne_true, if_neg hlength]

theorem afterExponentSign_bytesOf (upward : Bool) (hn : n < 0x80000000) (hrest : startsWithDigit rest = false) :
    afterExponentSign positive v p upward (bytesOf (Nat.toDigits 10 n) ++ rest) =
      ofParts positive v (if upward then p + n else p - n) rest := by
  have hdigits := @exponentDigits_bytesOf (Nat.toDigits 10 n) rest 0 (fun _ h => isDigit_of_mem_toDigits h)
    (by rw [digitsFrom_toDigits]; exact hn) hrest
  rw [digitsFrom_toDigits] at hdigits
  obtain ⟨c, ds, hcs⟩ := List.exists_cons_of_ne_nil (Nat.toDigits_ne_nil (n := n) (b := 10))
  have hc : c.isDigit = true := isDigit_of_mem_toDigits (n := n) (by rw [hcs]; exact List.mem_cons_self)
  rw [hcs, bytesOf_cons_of_isDigit hc, List.cons_append] at hdigits ⊢
  rw [afterExponentSign, if_pos (isDigit_of_isDigit hc), hdigits]

/-- The exponent of a text: the mark, the sign and the digits of its magnitude. -/
theorem afterExponentMark_bytesOf {e : ℤ} (he : e.natAbs < 0x80000000) (hrest : startsWithDigit rest = false) :
    afterExponentMark positive v p
      ((if e < 0 then 0x2D else 0x2B) :: (bytesOf (Nat.toDigits 10 e.natAbs) ++ rest)) =
      ofParts positive v (p + e) rest := by
  by_cases hneg : e < 0
  · have hsum : p - (e.natAbs : ℤ) = p + e := by omega
    rw [if_pos hneg, afterExponentMark, if_neg (by decide), if_pos rfl, afterExponentSign_bytesOf false he hrest,
      if_neg Bool.false_ne_true, hsum]
  · have hsum : p + (e.natAbs : ℤ) = p + e := by omega
    rw [if_neg hneg, afterExponentMark, if_pos rfl, afterExponentSign_bytesOf true he hrest, if_pos rfl, hsum]

theorem isDigit_of_spells (h : s.Spells n) (hc : c ∈ s.digits) : c.isDigit = true := by
  rw [h.digits] at hc
  exact isDigit_of_mem_toDigits hc

theorem digitsFrom_of_spells (h : s.Spells n) : digitsFrom 0 s.digits = n := by
  rw [h.digits, digitsFrom_toDigits]

theorem isDigit_of_mem_zeros {k : ℕ} (hc : c ∈ zeros k) : c.isDigit = true := by
  rw [List.eq_of_mem_replicate hc]
  rfl

/-- The first digit alone, and what stands behind it. -/
theorem exists_first_of_spells (h : s.Spells n) : ∃ c ds, s.digits = c :: ds ∧ c ≠ '0' := by
  obtain ⟨c, ds, hcs⟩ := List.exists_cons_of_ne_nil (Nat.toDigits_ne_nil (n := n) (b := 10))
  refine ⟨c, ds, h.digits.trans hcs, fun hc => head?_toDigits_ne h.pos ?_⟩
  rw [hcs, hc]
  rfl

theorem lt_size_of_le {k : ℕ} (hk : k ≤ 10 ^ 17) : k < UInt64.size := hk.trans_lt (by decide)

/-- Below one the digits stand behind zeros. -/
theorem readNumber_below (h : s.Spells n) {below : ℕ} (hexp : s.exponent = .negSucc below) (hrest : Stops rest) :
    readNumber positive (bytesOf ('0' :: '.' :: zeros below ++ s.digits) ++ rest) =
      ofParts positive n s.place rest := by
  have hvalue : digitsFrom 0 (zeros below ++ s.digits) = n := by
    rw [digitsFrom_append, digitsFrom_zeros, zero_mul, digitsFrom_of_spells h]
  have hplace : (0 : ℤ) - (zeros below ++ s.digits).length = s.place := by
    have hlength : (zeros below).length = below := List.length_replicate
    rw [List.length_append, hlength, Scientific.place, hexp]
    omega
  have hd : ∀ c ∈ zeros below ++ s.digits, c.isDigit = true := fun c hc =>
    (List.mem_append.mp hc).elim isDigit_of_mem_zeros (isDigit_of_spells h)
  have hbytes : bytesOf ('0' :: '.' :: zeros below ++ s.digits) ++ rest =
      0x30 :: 0x2E :: (bytesOf (zeros below ++ s.digits) ++ rest) := rfl
  have hne : zeros below ++ s.digits ≠ [] := by
    rw [h.digits]
    exact List.append_ne_nil_of_right_ne_nil _ Nat.toDigits_ne_nil
  rw [hbytes, readNumber_zero rfl, afterWhole, if_pos rfl,
    afterPoint_bytesOf hne hd (by rw [hvalue]; exact lt_size_of_le h.lt.le) hrest.startsWithDigit, hvalue,
    Nat.cast_zero, hplace, perhapsExponent_of_stops hrest]

/-- A whole number has zeros for the places without digits, and one behind its point. -/
theorem readNumber_whole (h : s.Spells n) {k : ℕ} (hlt : n * 10 ^ (k + 1) ≤ 10 ^ 17) (hrest : Stops rest) :
    readNumber positive (bytesOf (s.digits ++ zeros k ++ ['.', '0']) ++ rest) =
      ofParts positive (n * 10 ^ (k + 1)) (-1) rest := by
  obtain ⟨c, ds, hcs, hc⟩ := exists_first_of_spells h
  have hvalue : digitsFrom 0 (s.digits ++ zeros k) = n * 10 ^ k := by
    rw [digitsFrom_append, digitsFrom_of_spells h, digitsFrom_zeros]
  have hpow : n * 10 ^ (k + 1) = n * 10 ^ k * 10 := by rw [pow_succ, mul_assoc]
  have hless : n * 10 ^ k ≤ 10 ^ 17 :=
    (Nat.le_mul_of_pos_right _ (Nat.succ_pos 9)).trans (by rw [← hpow]; exact hlt)
  have hmore : digitsFrom (n * 10 ^ k) ['0'] = n * 10 ^ (k + 1) := by
    rw [hpow]
    rfl
  have hd : ∀ c ∈ s.digits ++ zeros k, c.isDigit = true := fun c hc =>
    (List.mem_append.mp hc).elim (isDigit_of_spells h) isDigit_of_mem_zeros
  have hbytes : bytesOf (s.digits ++ zeros k ++ ['.', '0']) ++ rest =
      bytesOf (s.digits ++ zeros k) ++ 0x2E :: (bytesOf ['0'] ++ rest) := by
    rw [bytesOf_append, List.append_assoc]
    rfl
  have hfirst : (s.digits ++ zeros k).head? ≠ some '0' := by
    rw [hcs]
    exact fun heq => hc (Option.some.inj heq)
  have hzero : ∀ c ∈ ['0'], c.isDigit = true := fun c hc => by
    rw [List.mem_singleton.mp hc]
    rfl
  have hone : ((0 : ℕ) : ℤ) - (['0'].length : ℕ) = -1 := rfl
  rw [hbytes, readNumber_bytesOf (by rw [hcs]; exact List.cons_ne_nil _ _) hfirst hd
    (by rw [hvalue]; exact lt_size_of_le hless) rfl, hvalue, afterWhole, if_pos rfl,
    afterPoint_bytesOf (List.cons_ne_nil _ _) hzero (by rw [hmore]; exact lt_size_of_le hlt)
      hrest.startsWithDigit, hmore, hone, perhapsExponent_of_stops hrest]

/-- Digits on both sides of the point. -/
theorem readNumber_split (h : s.Spells n) {k : ℕ} (hk : 0 < k) (hlt : k < s.digits.length)
    {e : ℤ} (he : e = -((s.digits.length - k : ℕ) : ℤ)) (hrest : startsWithDigit rest = false) :
    readNumber positive (bytesOf (s.digits.take k ++ '.' :: s.digits.drop k) ++ rest) =
      perhapsExponent positive n e rest := by
  obtain ⟨c, ds, hcs, hc⟩ := exists_first_of_spells h
  have hvalue : digitsFrom (digitsFrom 0 (s.digits.take k)) (s.digits.drop k) = n := by
    rw [← digitsFrom_append, List.take_append_drop, digitsFrom_of_spells h]
  have hless : digitsFrom 0 (s.digits.take k) ≤ 10 ^ 17 := by
    have := le_digitsFrom (digitsFrom 0 (s.digits.take k)) (s.digits.drop k)
    rw [hvalue] at this
    exact this.trans h.lt.le
  have hbytes : bytesOf (s.digits.take k ++ '.' :: s.digits.drop k) ++ rest =
      bytesOf (s.digits.take k) ++ 0x2E :: (bytesOf (s.digits.drop k) ++ rest) := by
    rw [bytesOf_append, List.append_assoc]
    rfl
  have htake : s.digits.take k = c :: ds.take (k - 1) := by
    rw [hcs, List.take_cons hk]
  have hdrop : s.digits.drop k ≠ [] := by
    rw [Ne, List.drop_eq_nil_iff, not_le]
    exact hlt
  rw [hbytes, readNumber_bytesOf (by rw [htake]; exact List.cons_ne_nil _ _)
    (by rw [htake]; exact fun heq => hc (Option.some.inj heq))
    (fun c hc => isDigit_of_spells h (List.mem_of_mem_take hc)) (lt_size_of_le hless) rfl, afterWhole, if_pos rfl,
    afterPoint_bytesOf hdrop (fun c hc => isDigit_of_spells h (List.mem_of_mem_drop hc))
      (by rw [hvalue]; exact lt_size_of_le h.lt.le) hrest, hvalue, List.length_drop, he]
  congr 1
  omega

theorem toList_exponential (s : Scientific) :
    (numberStyle.exponential s).toList =
      s.digits.take 1 ++ (if s.digits.length ≤ 1 then [] else '.' :: s.digits.drop 1) ++ 'e' ::
        (if s.exponent < 0 then '-' else '+') :: Nat.toDigits 10 s.exponent.natAbs := by
  have hlength : 1 - (Nat.toDigits 10 s.exponent.natAbs).length = 0 := by
    have : 0 < (Nat.toDigits 10 s.exponent.natAbs).length := Nat.length_toDigits_pos
    omega
  unfold Style.exponential
  dsimp only [numberStyle]
  rw [hlength]
  simp only [String.toList_append, String.toList_ofList]
  split_ifs <;> simp [zeros]

theorem bytesOf_sign (e : ℤ) (cs : List Char) :
    bytesOf ((if e < 0 then '-' else '+') :: cs) = (if e < 0 then 0x2D else 0x2B) :: bytesOf cs := by
  split <;> rfl

/-- With an exponent one digit stands before the point. -/
theorem readNumber_exponential (h : s.Spells n) (he : s.exponent.natAbs < 0x80000000) (hrest : Stops rest) :
    readNumber positive (bytesOf (numberStyle.exponential s).toList ++ rest) =
      ofParts positive n s.place rest := by
  obtain ⟨c, ds, hcs, hc⟩ := exists_first_of_spells h
  have hmark (cs : List Char) : bytesOf ('e' :: (if s.exponent < 0 then '-' else '+') :: cs) =
      0x65 :: (if s.exponent < 0 then 0x2D else 0x2B) :: bytesOf cs := congrArg _ (bytesOf_sign _ _)
  rw [toList_exponential, bytesOf_append, hmark, List.append_assoc, List.cons_append, List.cons_append]
  by_cases hsingle : s.digits.length ≤ 1
  · have hone : s.digits.length = 1 := by
      rw [hcs, List.length_cons] at hsingle ⊢
      omega
    have htake : s.digits.take 1 = s.digits := List.take_of_length_le hsingle
    have hplace : ((0 : ℕ) : ℤ) + s.exponent = s.place := by
      rw [Scientific.place, hone]
      omega
    rw [if_pos hsingle, List.append_nil, htake,
      readNumber_bytesOf (by rw [hcs]; exact List.cons_ne_nil _ _)
        (by rw [hcs]; exact fun heq => hc (Option.some.inj heq)) (fun _ hc => isDigit_of_spells h hc)
        (by rw [digitsFrom_of_spells h]; exact lt_size_of_le h.lt.le) rfl,
      digitsFrom_of_spells h, afterWhole, if_neg (show (0x65 : UInt8) ≠ 0x2E by decide),
      if_pos (show isExponentMark 0x65 = true from rfl), afterExponentMark_bytesOf he hrest.startsWithDigit, hplace]
  · have hplace : -((s.digits.length - 1 : ℕ) : ℤ) + s.exponent = s.place := by
      unfold Scientific.place
      omega
    rw [if_neg hsingle, readNumber_split h one_pos (not_le.mp hsingle) rfl rfl, perhapsExponent,
      if_pos (show isExponentMark 0x65 = true from rfl), afterExponentMark_bytesOf he hrest.startsWithDigit, hplace]

/-- Digits that do not all stand before the point are themselves the significand. -/
theorem parts_of_not_wholeDigits (h : s.Spells n) (hnot : ¬WholeDigits s) : significand s = n ∧ power s = s.place :=
  ⟨(if_neg hnot).trans (digitsFrom_of_spells h), if_neg hnot⟩

theorem readNumber_positionally (h : s.Spells n) (hsmall : s.exponent ≤ 15) (hrest : Stops rest) :
    readNumber positive (bytesOf (numberStyle.positionally s).toList ++ rest) =
      ofParts positive (significand s) (power s) rest := by
  have hlength : 0 < s.digits.length := by
    obtain ⟨c, ds, hcs, -⟩ := exists_first_of_spells h
    rw [hcs]
    exact Nat.succ_pos _
  unfold Style.positionally
  cases hexp : s.exponent with
  | negSucc below =>
    obtain ⟨hsig, hpow⟩ := parts_of_not_wholeDigits h fun hwhole => by
      have := hwhole.1.1
      omega
    dsimp only
    rw [hsig, hpow, String.toList_ofList]
    exact readNumber_below h hexp hrest
  | ofNat place =>
    have hplace : s.exponent = (place : ℤ) := hexp
    dsimp only
    by_cases hwhole : s.digits.length ≤ place + 1
    · have hw : WholeDigits s := ⟨⟨by omega, hsmall⟩, by omega⟩
      have hshift : (s.exponent + 2 - s.digits.length).toNat = place + 1 - s.digits.length + 1 := by omega
      have hvalue : digitsValue s.digits = n := digitsFrom_of_spells h
      have hsig : significand s = n * 10 ^ (place + 1 - s.digits.length + 1) := by
        rw [significand, if_pos hw, hvalue, hshift]
      have hpow : power s = -1 := if_pos hw
      obtain ⟨k, -, -, -, hlt, -⟩ := significand_spec h hsmall
      rw [hsig] at hlt
      rw [if_pos hwhole, String.toList_append, String.toList_ofList, hsig, hpow]
      exact readNumber_whole h hlt.le hrest
    · obtain ⟨hsig, hpow⟩ := parts_of_not_wholeDigits h fun hw => by
        have := hw.2
        omega
      have hdigits : s.place = -((s.digits.length - (place + 1) : ℕ) : ℤ) := by
        unfold Scientific.place
        omega
      rw [if_neg hwhole, String.toList_ofList, hsig, hpow,
        readNumber_split h (Nat.succ_pos place) (not_le.mp hwhole) hdigits hrest.startsWithDigit,
        perhapsExponent_of_stops hrest]

/-- The text of a magnitude is read as its significand and its power of ten, in each of the layouts. -/
theorem readNumber_magnitude (h : s.Spells n) (he : s.exponent.natAbs < 0x80000000) (hrest : Stops rest) :
    readNumber positive (bytesOf (numberStyle.magnitude s).toList ++ rest) =
      ofParts positive (significand s) (power s) rest := by
  by_cases hpositional : -5 ≤ s.exponent ∧ s.exponent ≤ 15
  · have htext : numberStyle.magnitude s = numberStyle.positionally s := if_pos hpositional
    rw [htext]
    exact readNumber_positionally h hpositional.2 hrest
  · have htext : numberStyle.magnitude s = numberStyle.exponential s := if_neg hpositional
    obtain ⟨hsig, hpow⟩ := parts_of_not_wholeDigits h fun hw => hpositional ⟨by have := hw.1.1; omega, hw.1.2⟩
    rw [htext, hsig, hpow]
    exact readNumber_exponential h he hrest

end Parts

theorem ofParts_down {k : ℕ} (hpos : 0 < k) (positive : Bool) (n : ℕ) (rest : List UInt8) :
    ofParts positive n (-k) rest =
      .ok (.real (signed positive ((scale 2 (UInt64.ofNat n).toFloat (-k)).getD 0)), rest) := by
  obtain ⟨y, hy⟩ := exists_scale 2 (UInt64.ofNat n).toFloat hpos
  rw [ofParts, hy]
  rfl

theorem readNumber_shortest {m : ℕ} {e : ℤ} (hc : Dyadic.Canonical m e) (hlt : (m : ℚ) * 2 ^ e < 10 ^ 15)
    (hrest : Stops rest) (positive : Bool) :
    readNumber positive (bytesOf (numberStyle.magnitude (Dyadic.shortest ⟨false, m, e⟩)).toList ++ rest) =
      .ok (.real (signed positive (rereadMagnitude m e)), rest) := by
  rcases Nat.eq_zero_or_pos m with rfl | hm
  · obtain rfl := exponent_of_mantissa_eq_zero hc
    have hzero : ∀ c ∈ ['0'], c.isDigit = true := fun c hc => by
      rw [List.mem_singleton.mp hc]
      rfl
    have hbytes : bytesOf (numberStyle.magnitude (Dyadic.shortest ⟨false, 0, -1074⟩)).toList ++ rest =
        0x30 :: 0x2E :: (bytesOf ['0'] ++ rest) := rfl
    have hvalue : digitsFrom 0 ['0'] = 0 := rfl
    have hplace : ((0 : ℕ) : ℤ) - (['0'].length : ℕ) = -(1 : ℕ) := rfl
    rw [hbytes, readNumber_zero rfl, afterWhole, if_pos rfl,
      afterPoint_bytesOf (List.cons_ne_nil _ _) hzero (by rw [hvalue]; decide) hrest.startsWithDigit, hvalue, hplace,
      perhapsExponent_of_stops hrest, ofParts_down one_pos]
    rfl
  · obtain ⟨n, hn, hround⟩ := exists_spells hc hm
    have hexp := exponent_lt_of_roundsTo hn hround hlt
    have hexp' := lt_exponent_of_roundsTo hn hround hm
    obtain ⟨k, hk, hpow, -⟩ := significand_spec hn (by omega)
    rw [readNumber_magnitude hn (by omega) hrest, hpow, ofParts_down hk, ← hpow]
    rfl

namespace Number

/-- What is read from the text of a number. -/
def reread : Number → Number
  | .real x => .real (Json.reread x)
  | n => n

/-- Negative numbers are below zero and real numbers are moderate. -/
def Legible : Number → Prop
  | .natural _ => True
  | .negative n => n < 0
  | .real x => Moderate x

/-- The digits of a negative number stand behind its sign. -/
theorem exists_digits_negative {n : Int64} (hn : n < 0) :
    ∃ k : ℕ, k < UInt64.size ∧ (write (.negative n)).toList = '-' :: Nat.toDigits 10 k ∧
      wholeNumber false k = .negative n := by
  have hneg : n.toInt < 0 := Int64.lt_iff_toInt_lt.mp hn
  have hleast := n.le_toInt
  obtain ⟨k, hk⟩ : ∃ k : ℕ, n.toInt = .negSucc k := Int.eq_negSucc_of_lt_zero hneg
  have hsize : k + 1 ≤ 0x8000000000000000 := by omega
  have hvalue : Int64.ofInt (-((k + 1 : ℕ) : ℤ)) = n := by
    rw [Nat.cast_succ, ← Int.negSucc_eq, ← hk, Int64.ofInt_toInt]
  refine ⟨k + 1, hsize.trans_lt (by decide), ?_, ?_⟩
  · change (Int.repr n.toInt).toList = _
    rw [hk]
    exact String.toList_append.trans (congrArg _ String.toList_ofList)
  · rw [wholeNumber, if_neg Bool.false_ne_true, if_pos ⟨k.succ_pos, hsize⟩, hvalue]

/-- A number is read from its text, behind the sign if it has one. -/
theorem readNumber_write {n : Number} (hn : n.Legible) (hrest : Stops rest) :
    readNumber true (bytesOf n.write.toList ++ rest) = .ok (n.reread, rest) ∨
    ∃ cs, bytesOf n.write.toList = 0x2D :: bytesOf cs ∧
      readNumber false (bytesOf cs ++ rest) = .ok (n.reread, rest) := by
  cases n with
  | natural n =>
    have htext : (write (.natural n)).toList = Nat.toDigits 10 n.toNat := String.toList_ofList
    have hwhole : wholeNumber true n.toNat = .natural n := congrArg Number.natural UInt64.ofNat_toNat
    rw [htext, readNumber_toDigits n.toNat_lt hrest, hwhole]
    exact .inl rfl
  | negative n =>
    obtain ⟨k, hsize, htext, hwhole⟩ := exists_digits_negative hn
    refine .inr ⟨Nat.toDigits 10 k, by rw [htext]; rfl, ?_⟩
    rw [readNumber_toDigits hsize hrest, hwhole]
    rfl
  | real x =>
    obtain ⟨⟨negative, m, e⟩, hx, hlt⟩ := hn
    have htext : write (.real x) = numberStyle.finite ⟨negative, m, e⟩ := by
      change numberStyle.text x = _
      rw [Style.text, hx]
    have hread := readNumber_shortest (canonical_of_ofFloat hx).1 hlt hrest (!negative)
    have hvalue : reread (.real x) = .real (signed (!negative) (rereadMagnitude m e)) := by
      change Number.real (Json.reread x) = _
      rw [Json.reread, hx]
    rw [htext, hvalue]
    cases negative with
    | false => exact .inl hread
    | true =>
      refine .inr ⟨_, ?_, hread⟩
      rw [Style.finite, if_pos rfl, String.toList_append]
      rfl

end Number

end FleetLocator.Json
