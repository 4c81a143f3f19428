import FleetLocator.Proofs.Json.Reader

/-!
# The grammar of written documents

The grammar of JSON texts without blanks, as predicates on characters. The text of a document is in it if its
values are of the kinds that are put into documents: a double that is not finite has no number there.
-/
namespace FleetLocator.Json

open Decimal (Dyadic Scientific Style zeros)

namespace Grammar

def IsDigits (cs : List Char) : Prop := cs ≠ [] ∧ ∀ c ∈ cs, c.isDigit = true

/-- Digits before a point. A zero stands alone. -/
inductive IsWhole : List Char → Prop
  | zero : IsWhole ['0']
  | digits {c : Char} {cs : List Char} (first : c ≠ '0') (all : ∀ d ∈ c :: cs, d.isDigit = true) : IsWhole (c :: cs)

inductive IsFraction : List Char → Prop
  | absent : IsFraction []
  | point {cs : List Char} (digits : IsDigits cs) : IsFraction ('.' :: cs)

inductive IsExponent : List Char → Prop
  | absent : IsExponent []
  | mark {m : Char} {sign cs : List Char} (letter : m = 'e' ∨ m = 'E') (signed : sign ∈ [[], ['+'], ['-']])
    (digits : IsDigits cs) : IsExponent (m :: (sign ++ cs))

inductive IsMagnitude : List Char → Prop
  | parts {whole fraction exponent : List Char} (first : IsWhole whole) (second : IsFraction fraction)
    (third : IsExponent exponent) : IsMagnitude (whole ++ fraction ++ exponent)

inductive IsNumber : List Char → Prop
  | unsigned {cs : List Char} (magnitude : IsMagnitude cs) : IsNumber cs
  | minus {cs : List Char} (magnitude : IsMagnitude cs) : IsNumber ('-' :: cs)

def isHexDigit (c : Char) : Bool := c.isDigit || ('a' ≤ c && c ≤ 'f') || ('A' ≤ c && c ≤ 'F')

/-- One character of a text, as it stands or escaped. -/
inductive IsUnit : List Char → Prop
  | plain {c : Char} (printable : 0x20 ≤ c.toNat) (quote : c ≠ '"') (backslash : c ≠ '\\') : IsUnit [c]
  | letter {c : Char} (known : c ∈ ['"', '\\', '/', 'b', 'f', 'n', 'r', 't']) : IsUnit ['\\', c]
  | code {w x y z : Char} (hex : ∀ c ∈ [w, x, y, z], isHexDigit c = true) : IsUnit ['\\', 'u', w, x, y, z]

inductive IsUnits : List Char → Prop
  | nil : IsUnits []
  | cons {cs ds : List Char} (first : IsUnit cs) (rest : IsUnits ds) : IsUnits (cs ++ ds)

inductive IsText : List Char → Prop
  | quoted {cs : List Char} (units : IsUnits cs) : IsText ('"' :: cs ++ ['"'])

mutual

inductive IsValue : List Char → Prop
  | word {cs : List Char} (known : cs ∈ ["null".toList, "true".toList, "false".toList]) : IsValue cs
  | number {cs : List Char} (number : IsNumber cs) : IsValue cs
  | text {cs : List Char} (text : IsText cs) : IsValue cs
  | emptyList : IsValue ['[', ']']
  | list {cs : List Char} (items : IsItems cs) : IsValue ('[' :: cs ++ [']'])
  | emptyDocument : IsValue ['\x7b', '\x7d']
  | document {cs : List Char} (members : IsMembers cs) : IsValue ('\x7b' :: cs ++ ['\x7d'])

inductive IsItems : List Char → Prop
  | last {cs : List Char} (value : IsValue cs) : IsItems cs
  | more {cs ds : List Char} (value : IsValue cs) (rest : IsItems ds) : IsItems (cs ++ ',' :: ds)

inductive IsMembers : List Char → Prop
  | last {name cs : List Char} (text : IsText name) (value : IsValue cs) : IsMembers (name ++ ':' :: cs)
  | more {name cs ds : List Char} (text : IsText name) (value : IsValue cs) (rest : IsMembers ds) :
    IsMembers (name ++ ':' :: cs ++ ',' :: ds)

end

/-- A text of the grammar that stands for a document. -/
inductive IsDocument : List Char → Prop
  | empty : IsDocument ['\x7b', '\x7d']
  | members {cs : List Char} (members : IsMembers cs) : IsDocument ('\x7b' :: cs ++ ['\x7d'])

theorem IsDocument.isValue {cs : List Char} (h : IsDocument cs) : IsValue cs := by
  cases h with
  | empty => exact .emptyDocument
  | members h => exact .document h

theorem IsDocument.head? {cs : List Char} (h : IsDocument cs) : cs.head? = some '\x7b' := by
  cases h <;> rfl

section

variable {s : Scientific} {n : ℕ}

theorem isDigits_toDigits (n : ℕ) : IsDigits (Nat.toDigits 10 n) :=
  ⟨Nat.toDigits_ne_nil, fun _ hc => isDigit_of_mem_toDigits hc⟩

theorem isWhole_toDigits (n : ℕ) : IsWhole (Nat.toDigits 10 n) := by
  rcases Nat.eq_zero_or_pos n with rfl | hpos
  · exact .zero
  · obtain ⟨c, cs, hcs⟩ := List.exists_cons_of_ne_nil (Nat.toDigits_ne_nil (n := n) (b := 10))
    have hfirst := head?_toDigits_ne hpos
    have hall := (isDigits_toDigits n).2
    rw [hcs] at hfirst hall ⊢
    exact .digits (fun hc => hfirst (congrArg some hc)) hall

theorem IsWhole.isMagnitude {cs : List Char} (h : IsWhole cs) : IsMagnitude cs := by
  have hparts := IsMagnitude.parts h .absent .absent
  rwa [List.append_nil, List.append_nil] at hparts

theorem IsWhole.point {cs ds : List Char} (h : IsWhole cs) (hd : IsDigits ds) : IsMagnitude (cs ++ '.' :: ds) := by
  have hparts := IsMagnitude.parts h (.point hd) .absent
  rwa [List.append_nil] at hparts

theorem isDigits_zeros_append (h : s.Spells n) (k : ℕ) : IsDigits (zeros k ++ s.digits) := by
  obtain ⟨c, ds, hcs, -⟩ := exists_first_of_spells h
  refine ⟨by simp [hcs], fun d hd => ?_⟩
  rcases List.mem_append.mp hd with hd | hd
  · exact isDigit_of_mem_zeros hd
  · exact isDigit_of_spells h hd

theorem isWhole_append_zeros (h : s.Spells n) (k : ℕ) : IsWhole (s.digits ++ zeros k) := by
  obtain ⟨c, ds, hcs, hc⟩ := exists_first_of_spells h
  have hall : ∀ d ∈ s.digits ++ zeros k, d.isDigit = true := fun d hd => by
    rcases List.mem_append.mp hd with hd | hd
    · exact isDigit_of_spells h hd
    · exact isDigit_of_mem_zeros hd
  rw [hcs] at hall ⊢
  exact .digits hc hall

theorem isWhole_take (h : s.Spells n) (k : ℕ) : IsWhole (s.digits.take (k + 1)) := by
  obtain ⟨c, ds, hcs, hc⟩ := exists_first_of_spells h
  have hall : ∀ d ∈ s.digits.take (k + 1), d.isDigit = true := fun d hd =>
    isDigit_of_spells h (List.mem_of_mem_take hd)
  rw [hcs, List.take_succ_cons] at hall ⊢
  exact .digits hc hall

theorem isDigits_drop (h : s.Spells n) {k : ℕ} (hk : ¬s.digits.length ≤ k) : IsDigits (s.digits.drop k) :=
  ⟨fun hnil => hk (List.drop_eq_nil_iff.mp hnil), fun _ hd => isDigit_of_spells h (List.mem_of_mem_drop hd)⟩

/-- Without an exponent a first digit that is no zero stands before the point, or a zero does. -/
theorem isMagnitude_positionally (h : s.Spells n) : IsMagnitude (numberStyle.positionally s).toList := by
  unfold Style.positionally
  cases s.exponent with
  | negSucc below =>
    rw [String.toList_ofList]
    exact IsWhole.zero.point (isDigits_zeros_append h below)
  | ofNat place =>
    dsimp only
    split
    · have hpoint : numberStyle.whole.toList = ['.', '0'] := rfl
      rw [String.toList_append, String.toList_ofList, hpoint]
      exact (isWhole_append_zeros h _).point (isDigits_toDigits 0)
    · next hlong =>
      rw [String.toList_ofList]
      exact (isWhole_take h place).point (isDigits_drop h hlong)

theorem isMagnitude_exponential (h : s.Spells n) : IsMagnitude (numberStyle.exponential s).toList := by
  have hfraction : IsFraction (if s.digits.length ≤ 1 then [] else '.' :: s.digits.drop 1) := by
    split
    · exact .absent
    · next hlong => exact .point (isDigits_drop h hlong)
  have hexponent :
      IsExponent ('e' :: (if s.exponent < 0 then '-' else '+') :: Nat.toDigits 10 s.exponent.natAbs) := by
    split
    · exact .mark (.inl rfl) (by simp : ['-'] ∈ _) (isDigits_toDigits _)
    · exact .mark (.inl rfl) (by simp : ['+'] ∈ _) (isDigits_toDigits _)
  rw [toList_exponential]
  exact .parts (isWhole_take h 0) hfraction hexponent

theorem isMagnitude_shortest {m : ℕ} {e : ℤ} (hc : Dyadic.Canonical m e) :
    IsMagnitude (numberStyle.magnitude (Dyadic.shortest ⟨false, m, e⟩)).toList := by
  rcases Nat.eq_zero_or_pos m with rfl | hm
  · rw [Dyadic.shortest, if_pos rfl]
    exact IsWhole.zero.point (isDigits_toDigits 0)
  · obtain ⟨n, hn, -⟩ := exists_spells hc hm
    rw [Style.magnitude]
    dsimp only [numberStyle]
    split
    · exact isMagnitude_positionally hn
    · exact isMagnitude_exponential hn

end

theorem isNumber_toDigits (n : ℕ) : IsNumber (Nat.toDigits 10 n) := .unsigned (isWhole_toDigits n).isMagnitude

theorem isNumber_toString (n : ℤ) : IsNumber (toString n).toList := by
  cases n with
  | ofNat n =>
    have htext : (toString (Int.ofNat n)).toList = Nat.toDigits 10 n := String.toList_ofList
    rw [htext]
    exact isNumber_toDigits n
  | negSucc n =>
    have htext : (toString (Int.negSucc n)).toList = '-' :: Nat.toDigits 10 (n + 1) :=
      String.toList_append.trans (congrArg _ String.toList_ofList)
    rw [htext]
    exact .minus (isWhole_toDigits (n + 1)).isMagnitude

theorem isNumber_write_real {x : Float} (h : x.isFinite = true) : IsNumber (Number.write (.real x)).toList := by
  obtain ⟨⟨negative, m, e⟩, hx⟩ := Decimal.exists_ofFloat h
  have hmagnitude := isMagnitude_shortest (Decimal.canonical_of_ofFloat hx).1
  have htext : Number.write (.real x) = numberStyle.finite ⟨negative, m, e⟩ := by
    change numberStyle.text x = _
    rw [Style.text, hx]
  rw [htext]
  cases negative with
  | false => exact .unsigned hmagnitude
  | true =>
    rw [Style.finite, if_pos rfl, String.toList_append]
    exact .minus hmagnitude

theorem isUnit_code {n : ℕ} (h : n < 0x20) :
    IsUnit ['\\', 'u', '0', '0', Nat.digitChar (n / 16), Nat.digitChar (n % 16)] := by
  have hhex : ∀ k < 16, isHexDigit (Nat.digitChar k) = true := by decide
  refine .code fun c hc => ?_
  simp only [List.mem_cons, List.not_mem_nil, or_false] at hc
  rcases hc with rfl | rfl | rfl | rfl
  · rfl
  · rfl
  · exact hhex _ (by omega)
  · exact hhex _ (by omega)

theorem isUnit_writeChar (c : Char) : IsUnit (writeChar c) := by
  unfold writeChar
  split_ifs with hquote hback h8 h12 hn hr ht hcontrol
  · exact .letter (by decide)
  · exact .letter (by decide)
  · exact .letter (by decide)
  · exact .letter (by decide)
  · exact .letter (by decide)
  · exact .letter (by decide)
  · exact .letter (by decide)
  · exact isUnit_code hcontrol
  · exact .plain (not_lt.mp hcontrol) hquote hback

theorem isText_writeText (s : String) : IsText (writeText s) := by
  refine .quoted ?_
  induction s.toList with
  | nil => exact .nil
  | cons c cs ih => exact .cons (isUnit_writeChar c) ih

theorem isItems_writeItems {v : Value} {vs : List Value} (h : ∀ w ∈ v :: vs, IsValue (writeValue w)) :
    IsItems (writeItems (v :: vs)) := by
  induction vs generalizing v with
  | nil =>
    rw [writeItems]
    exact .last (h v List.mem_cons_self)
  | cons w vs ih =>
    rw [writeItems]
    · exact .more (h v List.mem_cons_self) (ih fun u hu => h u (List.mem_cons_of_mem _ hu))
    · exact List.cons_ne_nil _ _

theorem isMembers_writeFields {f : String × Value} {fs : List (String × Value)}
    (h : ∀ g ∈ f :: fs, IsValue (writeValue g.2)) : IsMembers (writeFields (f :: fs)) := by
  induction fs generalizing f with
  | nil =>
    rw [writeFields]
    exact .last (isText_writeText f.1) (h f List.mem_cons_self)
  | cons g fs ih =>
    rw [writeFields]
    · exact .more (isText_writeText f.1) (h f List.mem_cons_self) (ih fun u hu => h u (List.mem_cons_of_mem _ hu))
    · exact List.cons_ne_nil _ _

theorem isValue_list {vs : List Value} (h : ∀ v ∈ vs, IsValue (writeValue v)) : IsValue (writeValue (.list vs)) := by
  rw [writeValue]
  cases vs with
  | nil => exact .emptyList
  | cons v vs => exact .list (isItems_writeItems h)

end Grammar

open Grammar

/-- What is written for a value is in the grammar. -/
def Value.Writable (v : Value) : Prop := IsValue (writeValue v)

/-- What is written for each of the values is in the grammar. -/
def Document.Writable (d : Document) : Prop := ∀ f ∈ d.fields, f.2.Writable

theorem writable_null : Value.null.Writable := .word (by decide)

theorem writable_string (s : String) : (FieldValue.toValue s).Writable := .text (isText_writeText s)

theorem writable_bool (b : Bool) : (FieldValue.toValue b).Writable := by
  cases b <;> exact .word (by decide)

theorem writable_int64 (n : Int64) : (FieldValue.toValue n).Writable := by
  refine .number ?_
  change IsNumber (Number.ofInt64 n).write.toList
  unfold Number.ofInt64
  split
  · exact isNumber_toString n.toInt
  · exact isNumber_toString (UInt64.ofNat n.toInt.toNat).toNat

/-- A double that is not finite is written as null. -/
theorem writable_float (x : Float) : (FieldValue.toValue x).Writable := by
  change (if x.isFinite then Value.number (.real x) else .null).Writable
  split
  · next h => exact .number (isNumber_write_real h)
  · exact writable_null

theorem writable_elim {α : Type} [FieldValue α] (h : ∀ a : α, (FieldValue.toValue a).Writable) (a : Option α) :
    (a.elim Value.null FieldValue.toValue).Writable := by
  cases a with
  | none => exact writable_null
  | some a => exact h a

namespace Document

variable {d : Document}

theorem writable_empty : empty.Writable := fun _ hf => absurd hf List.not_mem_nil

theorem Writable.insert (h : d.Writable) {v : Value} (hv : v.Writable) (name : String) :
    (d.insert name v).Writable := fun f hf => by
  rcases mem_insertField hf with rfl | hmem
  · exact hv
  · exact h f hmem

theorem Writable.put {α : Type} [FieldValue α] (h : d.Writable) {a : α} (ha : (FieldValue.toValue a).Writable)
    (name : String) : (d.put name a).Writable := h.insert ha name

theorem Writable.putOptional {α : Type} [FieldValue α] (h : d.Writable)
    (hvalue : ∀ a : α, (FieldValue.toValue a).Writable) (name : String) (a : Option α) :
    (d.putOptional name a).Writable := h.insert (writable_elim hvalue a) name

theorem Writable.isDocument (h : d.Writable) : IsDocument d.render.toList := by
  obtain ⟨fields⟩ := d
  rw [render, Value.render, String.toList_ofList, writeValue]
  cases fields with
  | nil => exact .empty
  | cons f fs => exact .members (isMembers_writeFields h)

theorem Writable.value (h : d.Writable) : (FieldValue.toValue d).Writable := by
  have hdocument := h.isDocument
  rw [render, Value.render, String.toList_ofList] at hdocument
  exact hdocument.isValue

theorem writable_list {ds : List Document} (h : ∀ d ∈ ds, d.Writable) : (FieldValue.toValue ds).Writable := by
  refine isValue_list fun v hv => ?_
  obtain ⟨d, hd, rfl⟩ := List.mem_map.mp hv
  exact (h d hd).value

end Document

end FleetLocator.Json
