import FleetLocator.Proofs.Decimal.Exact
import FleetLocator.Proofs.Json.Grammar

/-!
# What the numbers of documents are

A number is a sign, whole digits, perhaps digits behind a point and perhaps an exponent. The reader gives it the
value that its parts have, if they have one: the doubles end before the numbers do.
-/
namespace FleetLocator.Json

open Grammar

/-- The exponent of a number in its parts. -/
structure Exponent where
  letter : Char
  sign : List Char
  digits : List Char
  marks : letter = 'e' ∨ letter = 'E'
  signs : sign ∈ [[], ['+'], ['-']]
  isDigits : IsDigits digits

/-- A number in its parts. Without digits behind it there is no point. -/
structure Numeral where
  negative : Bool
  whole : List Char
  fraction : List Char
  exponent : Option Exponent
  isWhole : IsWhole whole
  isDigits : ∀ c ∈ fraction, c.isDigit = true

/-- The value of further digits after a value as far as it fits 64 bits, and how many digits that takes. -/
def fitting : ℕ → List Char → ℕ × ℕ
  | v, [] => (v, 0)
  | v, c :: cs =>
    let next := v * 10 + (c.toNat - 48)
    if next < 2 ^ 64 then ((fitting next cs).1, (fitting next cs).2 + 1) else (v, 0)

/-- A significand times a power of ten whose exponent has two parts, the second of which has a sign of its own.
One of 32 bits is taken to lead out of the doubles, or to zero. -/
def raised (significand : ℕ) (place : ℤ) (upward : Bool) (size : ℕ) : Option Float :=
  if size < 2 ^ 31 then
    scale 2 (UInt64.ofNat significand).toFloat (if upward then place + size else place - size)
  else if significand ≠ 0 ∧ upward then none
  else some 0

namespace Exponent

def text (e : Exponent) : List Char := e.letter :: (e.sign ++ e.digits)

def upward (e : Exponent) : Bool := e.sign != ['-']

def size (e : Exponent) : ℕ := digitsFrom 0 e.digits

end Exponent

namespace Numeral

def magnitude (n : Numeral) : List Char :=
  n.whole ++ (if n.fraction = [] then [] else '.' :: n.fraction) ++ (n.exponent.elim [] Exponent.text)

def text (n : Numeral) : List Char := (if n.negative then ['-'] else []) ++ n.magnitude

def significand (n : Numeral) : ℕ := (fitting (fitting 0 n.whole).1 n.fraction).1

/-- How many whole digits do not fit the significand. -/
def dropped (n : Numeral) : ℕ := n.whole.length - (fitting 0 n.whole).2

/-- The power of ten that belongs to the significand but for the exponent. -/
def place (n : Numeral) : ℤ := n.dropped - (fitting (fitting 0 n.whole).1 n.fraction).2

/-- The double that stands for the magnitude, if it is not beyond the doubles. -/
def double (n : Numeral) : Option Float :=
  raised n.significand n.place (n.exponent.elim true Exponent.upward) (n.exponent.elim 0 Exponent.size)

/-- A number that consists of whole digits that fit 64 bits is an integer if it can be. -/
def value (n : Numeral) : Option Number :=
  if n.fraction = [] ∧ n.exponent.isNone ∧ n.dropped = 0 then some (wholeNumber (!n.negative) n.significand)
  else n.double.map fun x => .real (signed (!n.negative) x)

/-- What may follow a number: nothing that its last part goes on with. -/
structure Ends (n : Numeral) (rest : List UInt8) : Prop where
  digit : startsWithDigit rest = false
  mark : n.exponent = none → ∀ b ∈ rest.head?, isExponentMark b = false
  point : n.exponent = none → n.fraction = [] → ∀ b ∈ rest.head?, b ≠ 0x2E

theorem ends_of_stops {rest : List UInt8} (h : Stops rest) (n : Numeral) : n.Ends rest where
  digit := h.startsWithDigit
  mark _ b hb := (h b hb).2.2
  point _ _ b hb := (h b hb).2.1

theorem ends_of_exponent {n : Numeral} {e : Exponent} {rest : List UInt8} (he : n.exponent = some e)
    (h : startsWithDigit rest = false) : n.Ends rest := by
  have hsome : n.exponent ≠ none := by simp [he]
  exact ⟨h, fun hnone => absurd hnone hsome, fun hnone => absurd hnone hsome⟩

end Numeral

variable {c : Char} {cs ds : List Char} {b : UInt8} {rest input : List UInt8} {v k : ℕ} {p : ℤ} {positive upward : Bool}
  {found : Number × List UInt8}

theorem exists_digit (h : isDigit b = true) : ∃ c : Char, c.isDigit = true ∧ UInt8.ofNat c.toNat = b := by
  have hall : ∀ n < 10, (Char.ofNat (n + 48)).isDigit = true ∧
      UInt8.ofNat (Char.ofNat (n + 48)).toNat = UInt8.ofNat (n + 48) := by decide
  simp only [isDigit, Bool.and_eq_true, decide_eq_true_eq, UInt8.le_iff_toNat_le] at h
  obtain ⟨hlow, hhigh⟩ : 48 ≤ b.toNat ∧ b.toNat ≤ 57 := h
  obtain ⟨hc, hb⟩ := hall (b.toNat - 48) (by omega)
  rw [Nat.sub_add_cancel hlow, UInt8.ofNat_toNat] at hb
  rw [Nat.sub_add_cancel hlow] at hc
  exact ⟨_, hc, hb⟩

/-- Every input begins with its digits, which may be none. -/
theorem exists_digits (input : List UInt8) :
    ∃ cs rest, (∀ c ∈ cs, c.isDigit = true) ∧ startsWithDigit rest = false ∧ input = bytesOf cs ++ rest := by
  induction input with
  | nil => exact ⟨[], [], by simp, rfl, rfl⟩
  | cons b input ih =>
    by_cases hb : isDigit b = true
    · obtain ⟨c, hc, rfl⟩ := exists_digit hb
      obtain ⟨cs, rest, hcs, hrest, rfl⟩ := ih
      refine ⟨c :: cs, rest, List.forall_mem_cons.mpr ⟨hc, hcs⟩, hrest, ?_⟩
      rw [bytesOf_cons_of_isDigit hc, List.cons_append]
    · exact ⟨[], b :: input, by simp, Bool.eq_false_iff.mpr hb, rfl⟩

theorem takeWhile_digits (h : ∀ c ∈ cs, c.isDigit = true) (hrest : startsWithDigit rest = false) :
    (bytesOf cs ++ rest).takeWhile isDigit = bytesOf cs ∧ (bytesOf cs ++ rest).dropWhile isDigit = rest := by
  induction cs with
  | nil =>
    cases rest with
    | nil => exact ⟨rfl, rfl⟩
    | cons b rest =>
      have hb : isDigit b = false := hrest
      simp [bytesOf, hb]
  | cons c cs ih =>
    obtain ⟨hc, hcs⟩ := List.forall_mem_cons.mp h
    obtain ⟨htake, hdrop⟩ := ih hcs
    rw [bytesOf_cons_of_isDigit hc, List.cons_append, List.takeWhile_cons, List.dropWhile_cons,
      isDigit_of_isDigit hc, if_pos rfl, if_pos rfl, htake, hdrop]
    exact ⟨rfl, rfl⟩

theorem length_bytesOf_digits (h : ∀ c ∈ cs, c.isDigit = true) : (bytesOf cs).length = cs.length := by
  induction cs with
  | nil => rfl
  | cons c cs ih =>
    obtain ⟨hc, hcs⟩ := List.forall_mem_cons.mp h
    rw [bytesOf_cons_of_isDigit hc, List.length_cons, ih hcs, List.length_cons]

theorem startsWithDigit_bytesOf (h : ∀ c ∈ cs, c.isDigit = true) (hne : cs ≠ []) (rest : List UInt8) :
    startsWithDigit (bytesOf cs ++ rest) = true := by
  obtain ⟨c, cs, rfl⟩ := List.exists_cons_of_ne_nil hne
  have hc := h c List.mem_cons_self
  rw [bytesOf_cons_of_isDigit hc]
  exact isDigit_of_isDigit hc

theorem fitting_le (v : ℕ) (cs : List Char) : (fitting v cs).2 ≤ cs.length := by
  induction cs generalizing v with
  | nil => exact le_rfl
  | cons c cs ih =>
    rw [fitting]
    split
    · exact Nat.succ_le_succ (ih _)
    · exact Nat.zero_le _

/-- Of the digits those are taken that fit. -/
theorem takeDigits_fitting (h : ∀ c ∈ cs, c.isDigit = true) (hrest : startsWithDigit rest = false) (v : ℕ) :
    takeDigits v (bytesOf cs ++ rest) =
      ((fitting v cs).1, (fitting v cs).2, bytesOf (cs.drop (fitting v cs).2) ++ rest) := by
  induction cs generalizing v with
  | nil => exact takeDigits_stop v hrest
  | cons c cs ih =>
    obtain ⟨hc, hcs⟩ := List.forall_mem_cons.mp h
    have hsize : UInt64.size = 2 ^ 64 := rfl
    rw [fitting, bytesOf_cons_of_isDigit hc, List.cons_append, takeDigits]
    simp only [digit?_of_isDigit hc, hsize]
    split
    · rw [ih hcs, List.drop_succ_cons]
    · rw [List.drop_zero, bytesOf_cons_of_isDigit hc, List.cons_append]

theorem isDigit_of_isWhole (h : IsWhole cs) : ∀ c ∈ cs, c.isDigit = true := by
  cases h with
  | zero => exact fun c hc => by rw [List.mem_singleton.mp hc]; rfl
  | digits _ all => exact all

theorem ne_nil_of_isWhole (h : IsWhole cs) : cs ≠ [] := by
  cases h <;> exact List.cons_ne_nil _ _

/-- Whole digits are read as their value as far as it fits, and those beyond it are counted. -/
theorem readNumber_isWhole (h : IsWhole cs) (hrest : startsWithDigit rest = false) :
    readNumber positive (bytesOf cs ++ rest) =
      afterWhole positive (fitting 0 cs).1 (cs.length - (fitting 0 cs).2) rest := by
  cases h with
  | zero => exact readNumber_zero hrest positive
  | @digits c cs first all =>
    have hc := all c List.mem_cons_self
    have hbytes := takeDigits_fitting all hrest 0
    have hzero : UInt8.ofNat c.toNat ≠ 0x30 := fun heq => by
      have hnat : c.toNat = '0'.toNat := by
        have := toNat_of_isDigit hc
        rw [← UInt8.toNat_ofNat_of_lt' (show c.toNat < 256 by omega), heq]
        rfl
      exact first (Char.toNat_inj.mp hnat)
    have hdrop : ∀ d ∈ (c :: cs).drop (fitting 0 (c :: cs)).2, d.isDigit = true := fun d hd =>
      all d (List.mem_of_mem_drop hd)
    obtain ⟨htake, hafter⟩ := takeWhile_digits hdrop hrest
    rw [bytesOf_cons_of_isDigit hc, List.cons_append] at hbytes ⊢
    rw [readNumber, if_neg hzero, if_pos (isDigit_of_isDigit hc), hbytes]
    dsimp only
    rw [htake, hafter, length_bytesOf_digits hdrop, List.length_drop]

/-- Of the digits behind a point those are taken that fit. -/
theorem afterPoint_isDigits (h : IsDigits ds) (hrest : startsWithDigit rest = false) :
    afterPoint positive v p (bytesOf ds ++ rest) =
      perhapsExponent positive (fitting v ds).1 (p - (fitting v ds).2) rest := by
  have hdrop : ∀ d ∈ ds.drop (fitting v ds).2, d.isDigit = true := fun d hd => h.2 d (List.mem_of_mem_drop hd)
  rw [afterPoint, takeDigits_fitting h.2 hrest]
  dsimp only
  by_cases hall : ds.drop (fitting v ds).2 = []
  · have htaken : (fitting v ds).2 ≠ 0 := fun hzero => by
      rw [hzero, List.drop_zero] at hall
      exact h.1 hall
    have hbytes : bytesOf [] ++ rest = rest := rfl
    rw [hall, hbytes, hrest, if_neg Bool.false_ne_true, if_neg htaken]
  · rw [startsWithDigit_bytesOf hdrop hall, if_pos rfl, (takeWhile_digits hdrop hrest).2]

theorem exponentDigits_overflow (h : ∀ c ∈ cs, c.isDigit = true) (hv : v < 2 ^ 31) (hlarge : ¬digitsFrom v cs < 2 ^ 31)
    (hrest : startsWithDigit rest = false) :
    ∃ after, exponentDigits v (bytesOf cs ++ rest) = (none, after) ∧ after.dropWhile isDigit = rest := by
  induction cs generalizing v with
  | nil => exact absurd hv hlarge
  | cons c cs ih =>
    obtain ⟨hc, hcs⟩ := List.forall_mem_cons.mp h
    rw [bytesOf_cons_of_isDigit hc, List.cons_append, exponentDigits]
    simp only [digit?_of_isDigit hc]
    split
    · next hfit => exact ih hcs hfit hlarge
    · exact ⟨_, rfl, (takeWhile_digits hcs hrest).2⟩

theorem toOption_ofParts :
    (ofParts positive v p rest).toOption =
      (scale 2 (UInt64.ofNat v).toFloat p).map fun x => (Number.real (signed positive x), rest) := by
  unfold ofParts
  cases scale 2 (UInt64.ofNat v).toFloat p <;> rfl

/-- What is read of an exponent's digits is the significand raised by them. -/
theorem afterExponentSign_isDigits (h : IsDigits ds) (hrest : startsWithDigit rest = false) :
    (afterExponentSign positive v p upward (bytesOf ds ++ rest)).toOption =
      (raised v p upward (digitsFrom 0 ds)).map fun x => (.real (signed positive x), rest) := by
  obtain ⟨c, cs, rfl⟩ := List.exists_cons_of_ne_nil h.1
  have hc := h.2 c List.mem_cons_self
  have hdigit := isDigit_of_isDigit hc
  have hbytes : bytesOf (c :: cs) ++ rest = UInt8.ofNat c.toNat :: (bytesOf cs ++ rest) := by
    rw [bytesOf_cons_of_isDigit hc, List.cons_append]
  rw [hbytes, afterExponentSign, if_pos hdigit, ← hbytes]
  by_cases hfit : digitsFrom 0 (c :: cs) < 2 ^ 31
  · rw [exponentDigits_bytesOf h.2 hfit hrest, raised, if_pos hfit]
    exact toOption_ofParts
  · obtain ⟨after, hafter, hdrop⟩ := exponentDigits_overflow h.2 (by norm_num) hfit hrest
    rw [hafter, raised, if_neg hfit]
    dsimp only
    split
    · rfl
    · rw [hdrop]
      rfl

theorem bytesOf_exponent (e : Exponent) (rest : List UInt8) :
    ∃ b, isExponentMark b = true ∧ b ≠ 0x2E ∧
      bytesOf e.text ++ rest = b :: (bytesOf e.sign ++ (bytesOf e.digits ++ rest)) := by
  have htext : bytesOf e.text ++ rest = bytesOf [e.letter] ++ (bytesOf e.sign ++ (bytesOf e.digits ++ rest)) := by
    rw [← List.append_assoc (bytesOf e.sign), ← bytesOf_append, ← List.append_assoc, ← bytesOf_append]
    rfl
  rw [htext]
  rcases e.marks with h | h <;> rw [h]
  · exact ⟨0x65, rfl, by decide, rfl⟩
  · exact ⟨0x45, rfl, by decide, rfl⟩

theorem afterExponentMark_text (e : Exponent) (hrest : startsWithDigit rest = false) :
    (afterExponentMark positive v p (bytesOf e.sign ++ (bytesOf e.digits ++ rest))).toOption =
      (raised v p e.upward e.size).map fun x => (.real (signed positive x), rest) := by
  have hread := @afterExponentSign_isDigits _ rest v p positive e.upward e.isDigits hrest
  obtain ⟨c, cs, hcs⟩ := List.exists_cons_of_ne_nil e.isDigits.1
  have hc : c.isDigit = true := e.isDigits.2 c (by rw [hcs]; exact List.mem_cons_self)
  have hne {b : UInt8} (hb : isDigit b = false) : UInt8.ofNat c.toNat ≠ b := fun heq => by
    rw [← heq, isDigit_of_isDigit hc] at hb
    cases hb
  have hsigns := e.signs
  simp only [List.mem_cons, List.not_mem_nil, or_false] at hsigns
  rcases hsigns with h | h | h
  · have hupward : e.upward = true := by rw [Exponent.upward, h]; rfl
    have hbytes : bytesOf e.digits ++ rest = UInt8.ofNat c.toNat :: (bytesOf cs ++ rest) := by
      rw [hcs, bytesOf_cons_of_isDigit hc, List.cons_append]
    have hempty : bytesOf [] ++ (bytesOf e.digits ++ rest) = bytesOf e.digits ++ rest := rfl
    rw [hupward] at hread ⊢
    rw [h, hempty, hbytes, afterExponentMark, if_neg (hne rfl), if_neg (hne rfl), ← hbytes]
    exact hread
  · have hupward : e.upward = true := by rw [Exponent.upward, h]; rfl
    have hplus (input : List UInt8) : bytesOf ['+'] ++ input = 0x2B :: input := rfl
    rw [hupward] at hread ⊢
    rw [h, hplus, afterExponentMark, if_pos rfl]
    exact hread
  · have hupward : e.upward = false := by rw [Exponent.upward, h]; rfl
    have hminus (input : List UInt8) : bytesOf ['-'] ++ input = 0x2D :: input := rfl
    rw [hupward] at hread ⊢
    rw [h, hminus, afterExponentMark, if_neg (by decide), if_pos rfl]
    exact hread

theorem toOption_perhapsExponent (e : Option Exponent) (hrest : startsWithDigit rest = false)
    (hmark : e = none → ∀ b ∈ rest.head?, isExponentMark b = false) :
    (perhapsExponent positive v p (bytesOf (e.elim [] Exponent.text) ++ rest)).toOption =
      (raised v p (e.elim true Exponent.upward) (e.elim 0 Exponent.size)).map
        fun x => (.real (signed positive x), rest) := by
  cases e with
  | none =>
    have hsum : p + ((0 : ℕ) : ℤ) = p := add_zero p
    have hparts : perhapsExponent positive v p rest = ofParts positive v p rest := by
      cases rest with
      | nil => rfl
      | cons b rest => rw [perhapsExponent, hmark rfl b rfl, if_neg Bool.false_ne_true]
    change (perhapsExponent positive v p rest).toOption = (raised v p true 0).map _
    rw [hparts, raised, if_pos (by norm_num), if_pos rfl, hsum]
    exact toOption_ofParts
  | some e =>
    obtain ⟨b, hb, -, hbytes⟩ := bytesOf_exponent e rest
    change (perhapsExponent positive v p (bytesOf e.text ++ rest)).toOption = _
    rw [hbytes, perhapsExponent, if_pos hb]
    exact afterExponentMark_text e hrest

namespace Numeral

theorem Ends.startsWithDigit_exponent {n : Numeral} (h : n.Ends rest) :
    startsWithDigit (bytesOf (n.exponent.elim [] Exponent.text) ++ rest) = false := by
  cases hexponent : n.exponent with
  | none => exact h.digit
  | some e =>
    obtain ⟨b, hb, -, hbytes⟩ := bytesOf_exponent e rest
    have hdigit : isDigit b = false := by
      rcases Bool.or_eq_true_iff.mp hb with h | h <;> rw [beq_iff_eq.mp h] <;> rfl
    change startsWithDigit (bytesOf e.text ++ rest) = false
    rw [hbytes]
    exact hdigit

/-- A number is read up to its end, and what is read is its value, if it has one. -/
theorem toOption_readNumber {n : Numeral} (h : n.Ends rest) :
    (readNumber (!n.negative) (bytesOf n.magnitude ++ rest)).toOption = n.value.map fun v => (v, rest) := by
  have hmap : (n.double.map fun x => Number.real (signed (!n.negative) x)).map (fun v => (v, rest)) =
      n.double.map fun x => (Number.real (signed (!n.negative) x), rest) := Option.map_map ..
  have hexponent := h.startsWithDigit_exponent
  rw [magnitude, bytesOf_append, bytesOf_append, List.append_assoc, List.append_assoc]
  by_cases hfraction : n.fraction = []
  · have hsignificand : n.significand = (fitting 0 n.whole).1 := by rw [significand, hfraction]; rfl
    have hplace : n.place = n.dropped := by
      rw [place, hfraction]
      exact sub_zero _
    have hempty (input : List UInt8) : bytesOf [] ++ input = input := rfl
    rw [if_pos hfraction, hempty, readNumber_isWhole n.isWhole hexponent]
    change (afterWhole _ _ n.dropped _).toOption = _
    rw [← hsignificand]
    cases he : n.exponent with
    | none =>
      have hend : afterWhole (!n.negative) n.significand n.dropped rest =
          if n.dropped = 0 then .ok (wholeNumber (!n.negative) n.significand, rest)
          else ofParts (!n.negative) n.significand n.dropped rest := by
        cases rest with
        | nil => rfl
        | cons b rest =>
          rw [afterWhole, if_neg (h.point he hfraction b rfl), h.mark he b rfl, if_neg Bool.false_ne_true]
      change (afterWhole (!n.negative) n.significand n.dropped rest).toOption = _
      rw [hend, value]
      by_cases hdropped : n.dropped = 0
      · rw [if_pos hdropped, if_pos ⟨hfraction, by rw [he]; rfl, hdropped⟩]
        rfl
      · have hsum : n.place + ((0 : ℕ) : ℤ) = n.dropped := (add_zero _).trans hplace
        rw [if_neg hdropped, if_neg fun hwhole => hdropped hwhole.2.2, hmap, double, he]
        change _ = (raised n.significand n.place true 0).map _
        rw [raised, if_pos (by norm_num), if_pos rfl, hsum]
        exact toOption_ofParts
    | some e =>
      obtain ⟨b, hb, hpoint, hbytes⟩ := bytesOf_exponent e rest
      change (afterWhole (!n.negative) n.significand n.dropped (bytesOf e.text ++ rest)).toOption = _
      rw [hbytes, afterWhole, if_neg hpoint, if_pos hb, value, if_neg (by simp [he]), hmap, double, he, hplace]
      exact afterExponentMark_text e h.digit
  · have hpoint (cs : List Char) (input : List UInt8) : bytesOf ('.' :: cs) ++ input = 0x2E :: (bytesOf cs ++ input) :=
      rfl
    rw [if_neg hfraction, hpoint, readNumber_isWhole n.isWhole rfl, afterWhole, if_pos rfl,
      afterPoint_isDigits ⟨hfraction, n.isDigits⟩ hexponent, value, if_neg fun hwhole => hfraction hwhole.1, hmap]
    exact toOption_perhapsExponent n.exponent h.digit h.mark

end Numeral

theorem exists_exponent (hb : isExponentMark b = true) (h : afterExponentMark positive v p input = .ok found) :
    ∃ (e : Exponent) (rest : List UInt8), b :: input = bytesOf e.text ++ rest ∧ startsWithDigit rest = false := by
  have hletter : ∃ m : Char, (m = 'e' ∨ m = 'E') ∧ bytesOf [m] = [b] := by
    rcases Bool.or_eq_true_iff.mp hb with h | h <;> rw [beq_iff_eq.mp h]
    · exact ⟨'e', .inl rfl, rfl⟩
    · exact ⟨'E', .inr rfl, rfl⟩
  obtain ⟨m, hm, hbytes⟩ := hletter
  have hdigits {upward : Bool} {after : List UInt8} (h : afterExponentSign positive v p upward after = .ok found) :
      ∃ ds rest, IsDigits ds ∧ startsWithDigit rest = false ∧ after = bytesOf ds ++ rest := by
    obtain ⟨ds, rest, hds, hrest, rfl⟩ := exists_digits after
    refine ⟨ds, rest, ⟨?_, hds⟩, hrest, rfl⟩
    rintro rfl
    have hempty : bytesOf [] ++ rest = rest := rfl
    rw [hempty] at h
    cases rest with
    | nil => cases h
    | cons b rest =>
      have hb : isDigit b = false := hrest
      rw [afterExponentSign, hb, if_neg Bool.false_ne_true] at h
      cases h
  have hsign (sign : List Char) (hmem : sign ∈ [[], ['+'], ['-']]) {upward : Bool} {after : List UInt8}
      (hinput : input = bytesOf sign ++ after) (h : afterExponentSign positive v p upward after = .ok found) :
      ∃ (e : Exponent) (rest : List UInt8), b :: input = bytesOf e.text ++ rest ∧ startsWithDigit rest = false := by
    obtain ⟨ds, rest, hds, hrest, rfl⟩ := hdigits h
    refine ⟨⟨m, sign, ds, hm, hmem, hds⟩, rest, ?_, hrest⟩
    have htext : bytesOf (m :: (sign ++ ds)) = bytesOf [m] ++ (bytesOf sign ++ bytesOf ds) := by
      rw [← bytesOf_append, ← bytesOf_append]
      rfl
    rw [Exponent.text, htext, hbytes, hinput, List.append_assoc, List.append_assoc]
    rfl
  cases input with
  | nil => cases h
  | cons c after =>
    rw [afterExponentMark] at h
    split_ifs at h with hplus hminus
    · exact hsign ['+'] (by simp) (by rw [hplus]; rfl) h
    · exact hsign ['-'] (by simp) (by rw [hminus]; rfl) h
    · exact hsign [] (by simp) rfl h

theorem exists_fraction (h : afterPoint positive v p input = .ok found) :
    ∃ ds rest, IsDigits ds ∧ startsWithDigit rest = false ∧ input = bytesOf ds ++ rest := by
  obtain ⟨ds, rest, hds, hrest, rfl⟩ := exists_digits input
  refine ⟨ds, rest, ⟨?_, hds⟩, hrest, rfl⟩
  rintro rfl
  have hempty : bytesOf [] ++ rest = rest := rfl
  rw [hempty, afterPoint, takeDigits_stop v hrest] at h
  dsimp only at h
  rw [hrest, if_neg Bool.false_ne_true, if_pos rfl] at h
  cases rest <;> cases h

theorem exists_whole (h : readNumber positive input = .ok found) :
    ∃ cs rest, IsWhole cs ∧ startsWithDigit rest = false ∧ input = bytesOf cs ++ rest := by
  obtain ⟨cs, rest, hcs, hrest, rfl⟩ := exists_digits input
  refine ⟨cs, rest, ?_, hrest, rfl⟩
  cases cs with
  | nil =>
    obtain ⟨b, tail, htail, hb⟩ := exists_digit_of_readNumber h
    change rest = b :: tail at htail
    rw [htail] at hrest
    exact absurd hb (Bool.eq_false_iff.mp hrest)
  | cons c cs =>
    by_cases hzero : c = '0'
    · subst hzero
      cases cs with
      | nil => exact .zero
      | cons d ds =>
        have hmore := startsWithDigit_bytesOf (fun c hc => hcs c (List.mem_cons_of_mem _ hc))
          (List.cons_ne_nil d ds) rest
        have hbytes : bytesOf ('0' :: d :: ds) ++ rest = 0x30 :: (bytesOf (d :: ds) ++ rest) := rfl
        rw [hbytes, readNumber, if_pos rfl, hmore, if_pos rfl] at h
        cases h
    · exact .digits hzero hcs

/-- What is read as a number begins with one, which ends where the reader stops. -/
theorem exists_numeral (h : readNumber positive input = .ok found) :
    ∃ (n : Numeral) (rest : List UInt8), n.negative = !positive ∧ n.Ends rest ∧
      input = bytesOf n.magnitude ++ rest := by
  obtain ⟨cs, rest, hwhole, hrest, rfl⟩ := exists_whole h
  rw [readNumber_isWhole hwhole hrest] at h
  have hparts (fraction : List Char) (exponent : Option Exponent) (hd : ∀ c ∈ fraction, c.isDigit = true)
      {after : List UInt8} (hends : Numeral.Ends ⟨!positive, cs, fraction, exponent, hwhole, hd⟩ after)
      (hinput : rest = bytesOf (if fraction = [] then [] else '.' :: fraction) ++
        (bytesOf (exponent.elim [] Exponent.text) ++ after)) :
      ∃ (n : Numeral) (after : List UInt8), n.negative = !positive ∧ n.Ends after ∧
        bytesOf cs ++ rest = bytesOf n.magnitude ++ after := by
    refine ⟨_, after, rfl, hends, ?_⟩
    rw [Numeral.magnitude, bytesOf_append, bytesOf_append, List.append_assoc, List.append_assoc, hinput]
  have hnone (b : UInt8) (hb : isExponentMark b = false) (after : List UInt8) :
      ∀ c ∈ (b :: after).head?, isExponentMark c = false := fun c hc => Option.some.inj hc ▸ hb
  cases rest with
  | nil => exact hparts [] none (by simp) ⟨rfl, by simp, by simp⟩ rfl
  | cons b after =>
    rw [afterWhole] at h
    by_cases hpoint : b = 0x2E
    · rw [if_pos hpoint] at h
      obtain ⟨ds, tail, hds, htail, rfl⟩ := exists_fraction h
      have hinput (tail : List UInt8) : b :: (bytesOf ds ++ tail) =
          bytesOf (if ds = [] then [] else '.' :: ds) ++ tail := by
        rw [if_neg hds.1, hpoint]
        rfl
      rw [afterPoint_isDigits hds htail] at h
      cases tail with
      | nil =>
        exact hparts _ none hds.2 ⟨rfl, by simp, fun _ hnil => absurd hnil hds.1⟩ (hinput [])
      | cons c tail =>
        rw [perhapsExponent] at h
        by_cases hmark : isExponentMark c = true
        · rw [if_pos hmark] at h
          obtain ⟨e, end', hbytes, hend⟩ := exists_exponent hmark h
          exact hparts _ (some e) hds.2 (Numeral.ends_of_exponent rfl hend) (by rw [hinput, hbytes]; rfl)
        · exact hparts _ none hds.2
            ⟨htail, fun _ => hnone c (Bool.eq_false_iff.mpr hmark) tail, fun _ hnil => absurd hnil hds.1⟩ (hinput _)
    · rw [if_neg hpoint] at h
      by_cases hmark : isExponentMark b = true
      · rw [if_pos hmark] at h
        obtain ⟨e, tail, hbytes, htail⟩ := exists_exponent hmark h
        exact hparts [] (some e) (by simp) (Numeral.ends_of_exponent rfl htail) hbytes
      · exact hparts [] none (by simp)
          ⟨hrest, fun _ => hnone b (Bool.eq_false_iff.mpr hmark) after,
            fun _ _ c hc => Option.some.inj hc ▸ hpoint⟩ rfl

/-- What is read as a number is the value of the one that stands there. -/
theorem readNumber_sound {v : Number} (h : readNumber positive input = .ok (v, rest)) :
    ∃ n : Numeral, n.negative = !positive ∧ n.value = some v ∧ input = bytesOf n.magnitude ++ rest := by
  obtain ⟨n, after, hn, hends, rfl⟩ := exists_numeral h
  have hread := Numeral.toOption_readNumber hends
  rw [hn, Bool.not_not, h] at hread
  cases hvalue : n.value with
  | none => rw [hvalue] at hread; cases hread
  | some w =>
    rw [hvalue] at hread
    cases hread
    exact ⟨n, hn, hvalue, rfl⟩

theorem fitting_lt (h : ∀ c ∈ cs, c.isDigit = true) (v : ℕ) : (fitting v cs).1 < (v + 1) * 10 ^ (fitting v cs).2 := by
  induction cs generalizing v with
  | nil => simp [fitting]
  | cons c cs ih =>
    obtain ⟨hc, hcs⟩ := List.forall_mem_cons.mp h
    have hdigit := toNat_of_isDigit hc
    rw [fitting]
    split
    · refine (ih hcs _).trans_le ?_
      rw [pow_succ', ← mul_assoc]
      exact Nat.mul_le_mul_right _ (by omega)
    · simp

theorem fitting_lt_size (hv : v < 2 ^ 64) (cs : List Char) : (fitting v cs).1 < 2 ^ 64 := by
  induction cs generalizing v with
  | nil => exact hv
  | cons c cs ih =>
    rw [fitting]
    split
    · next hnext => exact ih hnext
    · exact hv

open Decimal in
/-- Scaling up stays within the doubles while the number has at most 308 digits. -/
theorem exists_scale_up {n m : ℕ} (more : ℕ) (hlt : n < 2 ^ 64) (hk : n * 10 ^ k < 10 ^ m) (hk' : k ≤ 308)
    (hm : m ≤ 308) :
    ∃ y, scale more (UInt64.ofNat n).toFloat k = some y := by
  have hscale : scale more (UInt64.ofNat n).toFloat k =
      if ((UInt64.ofNat n).toFloat * powerOfTen k).isInf then none
      else some ((UInt64.ofNat n).toFloat * powerOfTen k) := by
    unfold scale
    rw [if_pos (by omega)]
  suffices hfinite : ((UInt64.ofNat n).toFloat * powerOfTen k).isFinite = true by
    exact ⟨_, hscale.trans (if_neg (by rw [isInf_of_isFinite hfinite]; exact Bool.false_ne_true))⟩
  obtain ⟨_, _, _, _, hpower⟩ := nearestTo_powerOfTen hk'
  rcases Nat.eq_zero_or_pos n with rfl | hn
  · have hzero : ((UInt64.ofNat 0).toFloat == 0) = true := by decide +kernel
    refine isFinite_mul (by decide +kernel) (isFinite_of_ofFloat hpower) ?_
    rw [toRat_of_beq_zero hzero, zero_mul, abs_zero]
    exact_mod_cast natCast_le_greatest (n := 0) (k := 0) (by norm_num) (by norm_num)
  · have hnear := nearestTo_toFloat hn hlt
    obtain ⟨_, _, hx⟩ := hnear.unsigned
    refine isFinite_mul (isFinite_of_ofFloat hx) (isFinite_of_ofFloat hpower) ?_
    have hone : (1 : ℚ) ≤ n := by exact_mod_cast hn
    have hten : (1 : ℚ) ≤ 10 ^ k := one_le_pow₀ (by norm_num)
    have hn' := hnear.le_of_one_le hone
    have hk'' := (nearestTo_powerOfTen hk').le_of_one_le hten
    have hproduct : toRat (UInt64.ofNat n).toFloat * toRat (powerOfTen k) ≤ n * 10 ^ k * (11 / 10) := by
      calc toRat (UInt64.ofNat n).toFloat * toRat (powerOfTen k)
          ≤ (n * (1 + 1 / 2 ^ 53)) * (10 ^ k * (1 + 1 / 2 ^ 53)) :=
            mul_le_mul hn' hk'' (toRat_powerOfTen_pos hk').le (by positivity)
        _ = n * 10 ^ k * ((1 + 1 / 2 ^ 53) * (1 + 1 / 2 ^ 53)) := by ring
        _ ≤ n * 10 ^ k * (11 / 10) := mul_le_mul_of_nonneg_left (by norm_num) (by positivity)
    have hpos : 0 ≤ toRat (UInt64.ofNat n).toFloat * toRat (powerOfTen k) :=
      mul_nonneg (toRat_nonneg_of_unsigned hnear.unsigned) (toRat_powerOfTen_pos hk').le
    have hbound : (n : ℚ) * 10 ^ k ≤ 10 ^ m := by exact_mod_cast hk.le
    rw [abs_of_nonneg hpos]
    calc toRat (UInt64.ofNat n).toFloat * toRat (powerOfTen k) ≤ n * 10 ^ k * (11 / 10) := hproduct
      _ ≤ 10 ^ m * (11 / 10) := by gcongr
      _ ≤ 10 ^ 308 * (11 / 10) := by
        gcongr
        norm_num
      _ ≤ greatest := ten_pow_le_greatest
/-- An exponent that leaves at most 308 digits before the point does not lead out of the doubles. -/
theorem exists_raised {significand digits size : ℕ} {place : ℤ} (hlt : significand < 2 ^ 64)
    (hdigits : significand < 10 ^ digits) (hsize : upward = true → size ≤ 308)
    (h : digits + place + (if upward then size else 0 : ℕ) ≤ 308) :
    ∃ x, raised significand place upward size = some x := by
  unfold raised
  split
  · obtain ⟨p, hp⟩ : ∃ p : ℤ, p = if upward then place + size else place - size := ⟨_, rfl⟩
    have hbound : digits + p ≤ 308 := by
      cases upward with
      | true =>
        rw [if_pos rfl] at h hp
        omega
      | false =>
        rw [if_neg Bool.false_ne_true] at h hp
        omega
    rw [← hp]
    rcases lt_or_ge p 0 with hneg | hpos
    · obtain ⟨k, rfl⟩ : ∃ k : ℕ, p = -k := ⟨p.natAbs, by omega⟩
      exact exists_scale 2 _ (by omega)
    · obtain ⟨k, rfl⟩ := Int.eq_ofNat_of_zero_le hpos
      refine exists_scale_up (m := digits + k) 2 hlt ?_ (by omega) (by omega)
      rw [pow_add]
      exact Nat.mul_lt_mul_of_pos_right hdigits (Nat.pow_pos (by norm_num))
  · next hlarge =>
    refine ⟨0, if_neg fun hup => ?_⟩
    have := hsize hup.2
    omega

namespace Numeral

/-- How many places an exponent moves the point to the right. -/
def lift (n : Numeral) : ℕ := n.exponent.elim 0 fun e => if e.upward then e.size else 0

/-- A number of at most 308 digits before the point, when its exponent is carried out, is not beyond the doubles. -/
theorem exists_value (n : Numeral) (h : n.whole.length + n.lift ≤ 308) : ∃ v, n.value = some v := by
  have hfirst := fitting_lt (isDigit_of_isWhole n.isWhole) 0
  have hsecond := fitting_lt n.isDigits (fitting 0 n.whole).1
  have hdigits : n.significand < 10 ^ ((fitting 0 n.whole).2 + (fitting (fitting 0 n.whole).1 n.fraction).2) := by
    rw [pow_add]
    exact hsecond.trans_le (Nat.mul_le_mul_right _ (by omega))
  have hlt : n.significand < 2 ^ 64 := fitting_lt_size (fitting_lt_size (by norm_num) _) _
  have hplace :
      ((fitting 0 n.whole).2 + (fitting (fitting 0 n.whole).1 n.fraction).2 : ℕ) + n.place = n.whole.length := by
    have := fitting_le 0 n.whole
    unfold place dropped
    omega
  have hlift : n.lift = if n.exponent.elim true Exponent.upward then n.exponent.elim 0 Exponent.size else 0 := by
    unfold lift
    cases n.exponent <;> rfl
  obtain ⟨x, hx⟩ : ∃ x, n.double = some x := by
    refine exists_raised hlt hdigits (fun hup => ?_) ?_
    · rw [hlift, if_pos hup] at h
      omega
    · rw [hplace, ← hlift]
      exact_mod_cast h
  unfold value
  split
  · exact ⟨_, rfl⟩
  · rw [hx]
    exact ⟨_, rfl⟩

end Numeral

end FleetLocator.Json
