import FleetLocator.Proofs.Json.Numeral
import FleetLocator.Proofs.Json.Quotation

/-!
# Which bytes are documents

The values that texts stand for, as relations between characters and values: blanks may stand around every part,
of fields of one name the last counts, brackets are nested only so deep, and numbers are in the range of the doubles.
The reader gives exactly these values, to exactly these texts.
-/
namespace FleetLocator.Json

namespace Grammar

def IsBlanks (cs : List Char) : Prop := ∀ c ∈ cs, c ∈ [' ', '\n', '\t', '\r']

/-- What stands before a part inside brackets: blanks, and a comma among them unless the part is the first. -/
inductive IsLead : Bool → List Char → Prop
  | first {cs : List Char} (blank : IsBlanks cs) : IsLead true cs
  | further {cs ds : List Char} (before : IsBlanks cs) (after : IsBlanks ds) : IsLead false (cs ++ ',' :: ds)

/-- What stands between brackets, or behind a part of it: the parts, with commas between them and blanks around. -/
inductive IsListed : Bool → List (List Char) → List Char → Prop
  | done {first : Bool} {cs : List Char} (blank : IsBlanks cs) : IsListed first [] cs
  | more {first : Bool} {lead part cs : List Char} {parts : List (List Char)} (before : IsLead first lead)
    (rest : IsListed false parts cs) : IsListed first (part :: parts) (lead ++ (part ++ cs))

/-- A field as it stands in a document: its name between quotes, a colon among blanks, and its value. -/
structure Member where
  name : String
  spelling : List Char
  gap : List Char
  space : List Char
  text : List Char
  value : Value
  isUnitsOf : IsUnitsOf spelling name.toList
  before : IsBlanks gap
  after : IsBlanks space

def Member.whole (m : Member) : List Char :=
  '"' :: (m.spelling ++ '"' :: (m.gap ++ ':' :: (m.space ++ m.text)))

/-- The fields with one that stands behind them. -/
def Member.add (fields : List (String × Value)) (m : Member) : List (String × Value) :=
  insertField m.name m.value fields

/-- A text that stands for a value, with brackets nested at most so deep. -/
inductive IsValueOf : ℕ → List Char → Value → Prop
  | null {k : ℕ} : IsValueOf k "null".toList .null
  | bool {k : ℕ} (b : Bool) : IsValueOf k (if b then "true" else "false").toList (.bool b)
  | number {k : ℕ} {n : Numeral} {v : Number} (value : n.value = some v) : IsValueOf k n.text (.number v)
  | text {k : ℕ} {cs : List Char} {s : String} (units : IsUnitsOf cs s.toList) :
    IsValueOf k ('"' :: (cs ++ ['"'])) (.text s)
  | list {k : ℕ} {cs : List Char} {items : List (List Char × Value)} (each : ∀ i ∈ items, IsValueOf k i.1 i.2)
    (listed : IsListed true (items.map Prod.fst) cs) :
    IsValueOf (k + 1) ('[' :: (cs ++ [']'])) (.list (items.map Prod.snd))
  | document {k : ℕ} {cs : List Char} {members : List Member} (each : ∀ m ∈ members, IsValueOf k m.text m.value)
    (listed : IsListed true (members.map Member.whole) cs) :
    IsValueOf (k + 1) ('\x7b' :: (cs ++ ['\x7d'])) (.document (members.foldl Member.add []))

/-- A text that stands for a value among blanks, with brackets nested at most 127 deep. -/
inductive IsTextOf : List Char → Value → Prop
  | among {before cs after : List Char} {v : Value} (blank : IsBlanks before) (value : IsValueOf 127 cs v)
    (blank' : IsBlanks after) : IsTextOf (before ++ (cs ++ after)) v

/-- A text that stands for a document. -/
def IsDocumentOf (cs : List Char) (d : Document) : Prop := IsTextOf cs (.document d.fields)

theorem IsBlanks.nil : IsBlanks [] := fun _ h => absurd h List.not_mem_nil

theorem IsBlanks.append {cs ds : List Char} (h : IsBlanks cs) (h' : IsBlanks ds) : IsBlanks (cs ++ ds) := fun c hc =>
  (List.mem_append.mp hc).elim (h c) (h' c)

theorem IsLead.append {first : Bool} {cs ds : List Char} (h : IsLead first cs) (h' : IsBlanks ds) :
    IsLead first (cs ++ ds) := by
  cases h with
  | first blank => exact .first (blank.append h')
  | further before after =>
    rw [List.append_assoc]
    exact .further before (after.append h')

end Grammar

open Grammar

variable {first : Bool} {k fuel depth : ℕ} {b close : UInt8} {v : Value} {cs lead part : List Char}
  {parts : List (List Char)} {input rest : List UInt8}

theorem skipBlank_blanks (h : IsBlanks cs) (rest : List UInt8) : skipBlank (bytesOf cs ++ rest) = skipBlank rest := by
  induction cs with
  | nil => rfl
  | cons c cs ih =>
    obtain ⟨hc, hcs⟩ := List.forall_mem_cons.mp h
    have hskip : skipBlank (bytesOf (c :: cs) ++ rest) = skipBlank (bytesOf cs ++ rest) := by
      simp only [List.mem_cons, List.not_mem_nil, or_false] at hc
      rcases hc with rfl | rfl | rfl | rfl <;> rfl
    rw [hskip, ih hcs]

theorem skipBlank_bytesOf_blanks (h : IsBlanks cs) : skipBlank (bytesOf cs) = [] := by
  have hskip := skipBlank_blanks h []
  rwa [List.append_nil] at hskip

theorem exists_blanks (input : List UInt8) : ∃ cs, IsBlanks cs ∧ input = bytesOf cs ++ skipBlank input := by
  induction input with
  | nil => exact ⟨[], .nil, rfl⟩
  | cons b input ih =>
    by_cases hb : isBlankByte b = true
    · obtain ⟨cs, hcs, hinput⟩ := ih
      have hskip : skipBlank (b :: input) = skipBlank input := by
        rw [skipBlank, List.dropWhile_cons, if_pos hb]
        rfl
      obtain ⟨c, hc, hbytes⟩ : ∃ c ∈ [' ', '\n', '\t', '\r'], bytesOf [c] = [b] := by
        simp only [isBlankByte, Bool.or_eq_true, beq_iff_eq] at hb
        rcases hb with ((rfl | rfl) | rfl) | rfl
        · exact ⟨' ', by simp, rfl⟩
        · exact ⟨'\n', by simp, rfl⟩
        · exact ⟨'\t', by simp, rfl⟩
        · exact ⟨'\r', by simp, rfl⟩
      refine ⟨[c] ++ cs, List.forall_mem_cons.mpr ⟨hc, hcs⟩, ?_⟩
      rw [bytesOf_append, hbytes, hskip, List.append_assoc, ← hinput]
      rfl
    · exact ⟨[], .nil, (skipBlank_cons (Bool.eq_false_iff.mpr hb) input).symm⟩

theorem exists_blanks_of_skipBlank (h : skipBlank input = rest) : ∃ cs, IsBlanks cs ∧ input = bytesOf cs ++ rest := by
  obtain ⟨cs, hcs, hinput⟩ := exists_blanks input
  exact ⟨cs, hcs, by rwa [h] at hinput⟩

theorem exists_of_map_eq_ok {ε α β : Type} {read : Except ε α} {f : α → β} {b : β} (h : read.map f = .ok b) :
    ∃ a, read = .ok a ∧ f a = b := by
  cases read with
  | error e => cases h
  | ok a =>
    cases h
    exact ⟨a, rfl, rfl⟩

theorem readWord_eq_ok_iff {word : List UInt8} : readWord word input = .ok rest ↔ input = word ++ rest := by
  induction word generalizing input with
  | nil => simp [readWord]
  | cons letter letters ih =>
    cases input with
    | nil => simp [readWord]
    | cons b input =>
      rw [readWord, List.cons_append, List.cons.injEq]
      split_ifs with hb
      · rw [ih, and_iff_right hb]
      · simp [hb]

theorem nextItem_done (h : nextItem first input = .ok (.done rest)) :
    ∃ cs, IsBlanks cs ∧ input = bytesOf cs ++ 0x5D :: rest := by
  unfold nextItem at h
  split at h
  · cases h
  · next b tail hskip =>
    split_ifs at h with hb hfirst hcomma
    · cases h
      rw [← hb]
      exact exists_blanks_of_skipBlank hskip
    · cases h
    · split at h
      · cases h
      · split_ifs at h
        cases h

theorem nextItem_more (h : nextItem first input = .ok (.more rest)) :
    ∃ lead, IsLead first lead ∧ input = bytesOf lead ++ rest := by
  unfold nextItem at h
  split at h
  · cases h
  · next b tail hskip =>
    split_ifs at h with hb hfirst hcomma
    · cases h
    · cases h
      obtain ⟨cs, hcs, hinput⟩ := exists_blanks_of_skipBlank hskip
      rw [hfirst]
      exact ⟨cs, .first hcs, hinput⟩
    · split at h
      · cases h
      · next c tail' hskip' =>
        split_ifs at h
        cases h
        obtain ⟨cs, hcs, rfl⟩ := exists_blanks_of_skipBlank hskip
        obtain ⟨ds, hds, rfl⟩ := exists_blanks_of_skipBlank hskip'
        rw [Bool.eq_false_iff.mpr hfirst]
        refine ⟨cs ++ ',' :: ds, .further hcs hds, ?_⟩
        rw [bytesOf_append, List.append_assoc, hcomma]
        rfl

theorem nextName_done (h : nextName first input = .ok (.done rest)) :
    ∃ cs, IsBlanks cs ∧ input = bytesOf cs ++ 0x7D :: rest := by
  unfold nextName at h
  split at h
  · cases h
  · next b tail hskip =>
    split_ifs at h with hb hfirst hquote hcomma
    · cases h
      rw [← hb]
      exact exists_blanks_of_skipBlank hskip
    · cases h
    · split at h
      · cases h
      · split_ifs at h
        cases h

theorem nextName_more (h : nextName first input = .ok (.more rest)) :
    ∃ lead, IsLead first lead ∧ input = bytesOf lead ++ quote :: rest := by
  unfold nextName at h
  split at h
  · cases h
  · next b tail hskip =>
    split_ifs at h with hb hfirst hquote hcomma
    · cases h
    · cases h
      obtain ⟨cs, hcs, hinput⟩ := exists_blanks_of_skipBlank hskip
      rw [hfirst, ← hquote]
      exact ⟨cs, .first hcs, hinput⟩
    · split at h
      · cases h
      · next c tail' hskip' =>
        split_ifs at h with hquote
        cases h
        obtain ⟨cs, hcs, rfl⟩ := exists_blanks_of_skipBlank hskip
        obtain ⟨ds, hds, rfl⟩ := exists_blanks_of_skipBlank hskip'
        rw [Bool.eq_false_iff.mpr hfirst, ← hquote]
        refine ⟨cs ++ ',' :: ds, .further hcs hds, ?_⟩
        rw [bytesOf_append, List.append_assoc, hcomma]
        rfl

theorem exists_colon (h : readColon input = .ok rest) : ∃ cs, IsBlanks cs ∧ input = bytesOf cs ++ 0x3A :: rest := by
  unfold readColon at h
  split at h
  · cases h
  · next b tail hskip =>
    split_ifs at h with hb
    cases h
    rw [← hb]
    exact exists_blanks_of_skipBlank hskip

/-- What is read with so much fuel stands there. -/
structure Sound (fuel : ℕ) : Prop where
  value : ∀ {depth : ℕ} {input rest : List UInt8} {v : Value}, readValue fuel depth input = .ok (v, rest) →
    ∃ before cs, IsBlanks before ∧ IsValueOf (depth - 1) cs v ∧ input = bytesOf before ++ (bytesOf cs ++ rest)
  items : ∀ {depth : ℕ} {first : Bool} {input rest : List UInt8} {vs : List Value},
    readItems fuel depth first input = .ok (vs, rest) →
      ∃ (items : List (List Char × Value)) (cs : List Char), (∀ i ∈ items, IsValueOf (depth - 1) i.1 i.2) ∧
        items.map Prod.snd = vs ∧ IsListed first (items.map Prod.fst) cs ∧ input = bytesOf cs ++ 0x5D :: rest
  fields : ∀ {depth : ℕ} {first : Bool} {input rest : List UInt8} {fields found : List (String × Value)},
    readFields fuel depth first fields input = .ok (found, rest) →
      ∃ (members : List Member) (cs : List Char), (∀ m ∈ members, IsValueOf (depth - 1) m.text m.value) ∧
        members.foldl Member.add fields = found ∧ IsListed first (members.map Member.whole) cs ∧
        input = bytesOf cs ++ 0x7D :: rest

theorem bytesOf_between {c d : Char} {b e : UInt8} (hc : bytesOf [c] = [b]) (hd : bytesOf [d] = [e]) (cs : List Char)
    (rest : List UInt8) : bytesOf (c :: (cs ++ [d])) ++ rest = b :: (bytesOf cs ++ e :: rest) := by
  have hsplit : c :: (cs ++ [d]) = [c] ++ (cs ++ [d]) := rfl
  rw [hsplit, bytesOf_append, bytesOf_append, hc, hd, List.append_assoc, List.append_assoc]
  rfl

theorem bytesOf_numeral (n : Numeral) (rest : List UInt8) :
    bytesOf n.text ++ rest = (if n.negative then [0x2D] else []) ++ (bytesOf n.magnitude ++ rest) := by
  rw [Numeral.text, bytesOf_append, List.append_assoc]
  split <;> rfl

theorem bytesOf_whole (m : Member) (rest : List UInt8) :
    bytesOf m.whole ++ rest = quote :: (bytesOf m.spelling ++
      quote :: (bytesOf m.gap ++ 0x3A :: (bytesOf m.space ++ (bytesOf m.text ++ rest)))) := by
  have hquote (cs : List Char) : bytesOf ('"' :: cs) = quote :: bytesOf cs := rfl
  have hcolon (cs : List Char) : bytesOf (':' :: cs) = 0x3A :: bytesOf cs := rfl
  simp only [Member.whole, hquote, hcolon, bytesOf_append, List.append_assoc, List.cons_append]

namespace Sound

theorem value_succ (h : Sound fuel) (hread : readValue (fuel + 1) depth input = .ok (v, rest)) :
    ∃ before cs, IsBlanks before ∧ IsValueOf (depth - 1) cs v ∧ input = bytesOf before ++ (bytesOf cs ++ rest) := by
  rw [readValue] at hread
  split at hread
  · cases hread
  · next b tail hskip =>
    obtain ⟨before, hbefore, rfl⟩ := exists_blanks_of_skipBlank hskip
    suffices hvalue : ∃ cs, IsValueOf (depth - 1) cs v ∧ b :: tail = bytesOf cs ++ rest by
      obtain ⟨cs, hcs, hbytes⟩ := hvalue
      exact ⟨before, cs, hbefore, hcs, by rw [hbytes]⟩
    have hword {word : List UInt8} {w : Value} {cs : List Char} (hcs : IsValueOf (depth - 1) cs w)
        (hbytes : bytesOf cs = b :: word) (hread : (readWord word tail).map (fun rest => (w, rest)) = .ok (v, rest)) :
        ∃ cs, IsValueOf (depth - 1) cs v ∧ b :: tail = bytesOf cs ++ rest := by
      obtain ⟨_, hword, heq⟩ := exists_of_map_eq_ok hread
      cases heq
      exact ⟨cs, hcs, by rw [hbytes, readWord_eq_ok_iff.mp hword, List.cons_append]⟩
    split_ifs at hread with hnull htrue hfalse hminus hdigit hquote hlist hdeep hdocument hdeep
    · exact hword .null (by rw [hnull]; rfl) hread
    · exact hword (.bool true) (by rw [htrue]; rfl) hread
    · exact hword (.bool false) (by rw [hfalse]; rfl) hread
    · obtain ⟨⟨number, _⟩, hnumber, heq⟩ := exists_of_map_eq_ok hread
      cases heq
      obtain ⟨n, hn, hvalue, rfl⟩ := readNumber_sound hnumber
      refine ⟨n.text, .number hvalue, ?_⟩
      rw [bytesOf_numeral, hn, hminus]
      rfl
    · obtain ⟨⟨number, _⟩, hnumber, heq⟩ := exists_of_map_eq_ok hread
      cases heq
      obtain ⟨n, hn, hvalue, hinput⟩ := readNumber_sound hnumber
      refine ⟨n.text, .number hvalue, ?_⟩
      rw [bytesOf_numeral, hn, hinput]
      rfl
    · obtain ⟨⟨text, _⟩, htext, heq⟩ := exists_of_map_eq_ok hread
      cases heq
      obtain ⟨cs, hcs, rfl⟩ := readText_eq_ok_iff.mp htext
      exact ⟨_, .text hcs, by rw [hquote, bytesOf_between (b := quote) (e := quote) rfl rfl]⟩
    · obtain ⟨⟨vs, _⟩, hitems, heq⟩ := exists_of_map_eq_ok hread
      cases heq
      obtain ⟨items, cs, heach, rfl, hlisted, rfl⟩ := h.items hitems
      obtain ⟨k, rfl⟩ : ∃ k, depth = k + 2 := ⟨depth - 2, by omega⟩
      exact ⟨_, .list heach hlisted, by rw [hlist, bytesOf_between (b := 0x5B) (e := 0x5D) rfl rfl]⟩
    · obtain ⟨⟨found, _⟩, hfields, heq⟩ := exists_of_map_eq_ok hread
      cases heq
      obtain ⟨members, cs, heach, rfl, hlisted, rfl⟩ := h.fields hfields
      obtain ⟨k, rfl⟩ : ∃ k, depth = k + 2 := ⟨depth - 2, by omega⟩
      exact ⟨_, .document heach hlisted, by rw [hdocument, bytesOf_between (b := 0x7B) (e := 0x7D) rfl rfl]⟩

theorem items_succ (h : Sound fuel) {vs : List Value}
    (hread : readItems (fuel + 1) depth first input = .ok (vs, rest)) :
    ∃ (items : List (List Char × Value)) (cs : List Char), (∀ i ∈ items, IsValueOf (depth - 1) i.1 i.2) ∧
      items.map Prod.snd = vs ∧ IsListed first (items.map Prod.fst) cs ∧ input = bytesOf cs ++ 0x5D :: rest := by
  rw [readItems] at hread
  split at hread
  · cases hread
  · next hnext =>
    cases hread
    obtain ⟨cs, hcs, rfl⟩ := nextItem_done hnext
    exact ⟨[], cs, by simp, rfl, .done hcs, rfl⟩
  · next hnext =>
    obtain ⟨lead, hlead, rfl⟩ := nextItem_more hnext
    split at hread
    · cases hread
    · next v tail hvalue =>
      obtain ⟨⟨vs', _⟩, hitems, heq⟩ := exists_of_map_eq_ok hread
      cases heq
      obtain ⟨before, part, hbefore, hpart, rfl⟩ := h.value hvalue
      obtain ⟨items, cs, heach, rfl, hlisted, rfl⟩ := h.items hitems
      refine ⟨(part, v) :: items, _, List.forall_mem_cons.mpr ⟨hpart, heach⟩, rfl,
        .more (hlead.append hbefore) hlisted, ?_⟩
      simp only [bytesOf_append, List.append_assoc]

theorem fields_succ (h : Sound fuel) {fields found : List (String × Value)}
    (hread : readFields (fuel + 1) depth first fields input = .ok (found, rest)) :
    ∃ (members : List Member) (cs : List Char), (∀ m ∈ members, IsValueOf (depth - 1) m.text m.value) ∧
      members.foldl Member.add fields = found ∧ IsListed first (members.map Member.whole) cs ∧
      input = bytesOf cs ++ 0x7D :: rest := by
  rw [readFields] at hread
  split at hread
  · cases hread
  · next hnext =>
    cases hread
    obtain ⟨cs, hcs, rfl⟩ := nextName_done hnext
    exact ⟨[], cs, by simp, rfl, .done hcs, rfl⟩
  · next hnext =>
    obtain ⟨lead, hlead, rfl⟩ := nextName_more hnext
    split at hread
    · cases hread
    · next name tail htext =>
      obtain ⟨spelling, hspelling, rfl⟩ := readText_eq_ok_iff.mp htext
      split at hread
      · cases hread
      · next tail' hcolon =>
        obtain ⟨gap, hgap, rfl⟩ := exists_colon hcolon
        split at hread
        · cases hread
        · next v tail'' hvalue =>
          obtain ⟨space, part, hspace, hpart, rfl⟩ := h.value hvalue
          obtain ⟨members, cs, heach, rfl, hlisted, rfl⟩ := h.fields hread
          refine ⟨⟨name, spelling, gap, space, part, v, hspelling, hgap, hspace⟩ :: members, _,
            List.forall_mem_cons.mpr ⟨hpart, heach⟩, rfl, .more hlead hlisted, ?_⟩
          rw [bytesOf_append, bytesOf_append, List.append_assoc, List.append_assoc, bytesOf_whole]

end Sound

theorem sound (fuel : ℕ) : Sound fuel := by
  induction fuel with
  | zero => exact ⟨nofun, nofun, nofun⟩
  | succ fuel ih => exact ⟨ih.value_succ, ih.items_succ, ih.fields_succ⟩

/-- The byte is none that is passed over before a part of a list, and does not close the list. -/
def Begins (b : UInt8) : Prop := isBlankByte b = false ∧ b ≠ 0x5D

theorem begins_of_isDigit (h : isDigit b = true) : Begins b := by
  have hne {c : UInt8} (hc : isDigit c = false) : b ≠ c := fun heq => by
    rw [heq, hc] at h
    exact Bool.false_ne_true h
  exact ⟨by simp [isBlankByte, hne (c := 0x20) rfl, hne (c := 0x0A) rfl, hne (c := 0x09) rfl, hne (c := 0x0D) rfl],
    hne rfl⟩

theorem exists_digit_of_magnitude (n : Numeral) (rest : List UInt8) :
    ∃ b tail, bytesOf n.magnitude ++ rest = b :: tail ∧ isDigit b = true := by
  obtain ⟨c, cs, hcs⟩ := List.exists_cons_of_ne_nil (ne_nil_of_isWhole n.isWhole)
  have hc : c.isDigit = true := isDigit_of_isWhole n.isWhole c (by rw [hcs]; exact List.mem_cons_self)
  rw [Numeral.magnitude, hcs, bytesOf_append, bytesOf_append, bytesOf_cons_of_isDigit hc]
  exact ⟨_, _, rfl, isDigit_of_isDigit hc⟩

/-- The first byte of a value. -/
theorem exists_first_of_isValueOf (h : IsValueOf k cs v) : ∃ b bs, bytesOf cs = b :: bs ∧ Begins b := by
  cases h with
  | null => exact ⟨0x6E, wordNull, rfl, by unfold Begins; decide⟩
  | bool b =>
    cases b with
    | false => exact ⟨0x66, wordFalse, rfl, by unfold Begins; decide⟩
    | true => exact ⟨0x74, wordTrue, rfl, by unfold Begins; decide⟩
  | @number _ n _ _ =>
    have hbytes := bytesOf_numeral n []
    obtain ⟨b, tail, hmagnitude, hb⟩ := exists_digit_of_magnitude n []
    rw [hmagnitude, List.append_nil] at hbytes
    cases hn : n.negative with
    | false =>
      rw [hn] at hbytes
      exact ⟨b, tail, hbytes, begins_of_isDigit hb⟩
    | true =>
      rw [hn] at hbytes
      exact ⟨0x2D, b :: tail, hbytes, by unfold Begins; decide⟩
  | text units => exact ⟨quote, _, rfl, by unfold Begins; decide⟩
  | list each listed => exact ⟨0x5B, _, rfl, by unfold Begins; decide⟩
  | document each listed => exact ⟨0x7B, _, rfl, by unfold Begins; decide⟩

theorem stops_nil : Stops [] := fun _ h => by cases h

theorem stops_cons (hdigit : isDigit b = false) (hpoint : b ≠ 0x2E) (hmark : isExponentMark b = false)
    (rest : List UInt8) : Stops (b :: rest) := fun c hc => by
  obtain rfl : b = c := Option.some.inj hc
  exact ⟨hdigit, hpoint, hmark⟩

theorem stops_bracket (rest : List UInt8) : Stops (0x5D :: rest) := stops_cons rfl (by decide) rfl rest

theorem stops_blanks (h : IsBlanks cs) (hrest : Stops rest) : Stops (bytesOf cs ++ rest) := by
  cases cs with
  | nil => exact hrest
  | cons c cs =>
    have hc := h c List.mem_cons_self
    simp only [List.mem_cons, List.not_mem_nil, or_false] at hc
    rcases hc with rfl | rfl | rfl | rfl <;> exact stops_cons rfl (by decide) rfl _

/-- What follows a part inside brackets is no part of a number. -/
theorem stops_of_isListed (h : IsListed false parts cs) (hclose : Stops (close :: rest)) :
    Stops (bytesOf cs ++ close :: rest) := by
  cases h with
  | done blank => exact stops_blanks blank hclose
  | more before rest' =>
    cases before with
    | further before after =>
      simp only [bytesOf_append, List.append_assoc]
      exact stops_blanks before (stops_comma _)

theorem readValue_blanks (h : IsBlanks cs) (input : List UInt8) :
    readValue fuel depth (bytesOf cs ++ input) = readValue fuel depth input := by
  cases fuel with
  | zero => rfl
  | succ fuel => rw [readValue, readValue, skipBlank_blanks h]

theorem nextItem_blanks (h : IsBlanks cs) (rest : List UInt8) :
    nextItem first (bytesOf cs ++ 0x5D :: rest) = .ok (.done rest) := by
  rw [nextItem, skipBlank_blanks h]
  rfl

theorem nextItem_lead (h : IsLead first lead) (hb : Begins b) (rest : List UInt8) :
    nextItem first (bytesOf lead ++ b :: rest) = .ok (.more (b :: rest)) := by
  have hskip := skipBlank_cons hb.1 rest
  cases h with
  | first blank =>
    rw [nextItem, skipBlank_blanks blank, hskip]
    dsimp only
    rw [if_neg hb.2, if_pos rfl]
  | @further cs ds before after =>
    have hcomma : bytesOf (',' :: ds) ++ b :: rest = 0x2C :: (bytesOf ds ++ b :: rest) := rfl
    have hstop : skipBlank (0x2C :: (bytesOf ds ++ b :: rest)) = 0x2C :: (bytesOf ds ++ b :: rest) :=
      skipBlank_cons rfl _
    rw [nextItem, bytesOf_append, List.append_assoc, skipBlank_blanks before, hcomma, hstop]
    dsimp only
    rw [if_neg (by decide), if_neg Bool.false_ne_true, if_pos rfl, skipBlank_blanks after, hskip]
    dsimp only
    rw [if_neg hb.2]

theorem nextName_blanks (h : IsBlanks cs) (rest : List UInt8) :
    nextName first (bytesOf cs ++ 0x7D :: rest) = .ok (.done rest) := by
  rw [nextName, skipBlank_blanks h]
  rfl

theorem nextName_lead (h : IsLead first lead) (rest : List UInt8) :
    nextName first (bytesOf lead ++ quote :: rest) = .ok (.more rest) := by
  have hskip : skipBlank (quote :: rest) = quote :: rest := skipBlank_cons rfl rest
  cases h with
  | first blank =>
    rw [nextName, skipBlank_blanks blank, hskip]
    rfl
  | @further cs ds before after =>
    have hcomma : bytesOf (',' :: ds) ++ quote :: rest = 0x2C :: (bytesOf ds ++ quote :: rest) := rfl
    have hstop : skipBlank (0x2C :: (bytesOf ds ++ quote :: rest)) = 0x2C :: (bytesOf ds ++ quote :: rest) :=
      skipBlank_cons rfl _
    rw [nextName, bytesOf_append, List.append_assoc, skipBlank_blanks before, hcomma, hstop]
    dsimp only
    rw [if_neg (by decide), if_neg Bool.false_ne_true, if_pos rfl, skipBlank_blanks after, hskip]
    rfl

theorem readColon_blanks (h : IsBlanks cs) (rest : List UInt8) : readColon (bytesOf cs ++ 0x3A :: rest) = .ok rest := by
  rw [readColon, skipBlank_blanks h]
  rfl

/-- With two steps for every byte the text is read as the value, whatever follows that is no part of a number. -/
def Complete (k : ℕ) (cs : List Char) (v : Value) : Prop :=
  ∀ ⦃fuel : ℕ⦄ ⦃rest : List UInt8⦄, 2 * (bytesOf cs).length ≤ fuel → Stops rest →
    readValue fuel (k + 1) (bytesOf cs ++ rest) = .ok (v, rest)

theorem readNumber_numeral {n : Numeral} {v : Number} (h : n.value = some v) (hrest : Stops rest) :
    readNumber (!n.negative) (bytesOf n.magnitude ++ rest) = .ok (v, rest) := by
  have hread := Numeral.toOption_readNumber (Numeral.ends_of_stops hrest n)
  rw [h] at hread
  cases hfound : readNumber (!n.negative) (bytesOf n.magnitude ++ rest) with
  | error flaw => rw [hfound] at hread; cases hread
  | ok found =>
    rw [hfound] at hread
    cases hread
    rfl

theorem readValue_numeral {n : Numeral} {v : Number} (h : n.value = some v) (hrest : Stops rest) :
    readValue (fuel + 1) depth (bytesOf n.text ++ rest) = .ok (.number v, rest) := by
  have hread := readNumber_numeral h hrest
  rw [bytesOf_numeral]
  cases hn : n.negative with
  | false =>
    rw [hn] at hread
    obtain ⟨b, tail, hbytes, hb⟩ := exists_digit_of_magnitude n rest
    change readValue (fuel + 1) depth (bytesOf n.magnitude ++ rest) = _
    rw [hbytes] at hread ⊢
    rw [readValue_digit hb]
    exact congrArg _ hread
  | true =>
    rw [hn] at hread
    exact (readValue_minus _).trans (congrArg _ hread)

theorem readItems_listed {items : List (List Char × Value)} (heach : ∀ i ∈ items, Complete k i.1 i.2)
    (hfirst : ∀ i ∈ items, ∃ b bs, bytesOf i.1 = b :: bs ∧ Begins b)
    (h : IsListed first (items.map Prod.fst) cs) (hfuel : 2 * (bytesOf cs).length + 1 ≤ fuel) (rest : List UInt8) :
    readItems fuel (k + 1) first (bytesOf cs ++ 0x5D :: rest) = .ok (items.map Prod.snd, rest) := by
  obtain ⟨fuel, rfl⟩ : ∃ n, fuel = n + 1 := ⟨fuel - 1, by omega⟩
  induction items generalizing fuel first cs with
  | nil =>
    cases h with
    | done blank =>
      rw [readItems, nextItem_blanks blank]
      rfl
  | cons item items ih =>
    obtain ⟨part, v⟩ := item
    obtain ⟨hpart, heach⟩ := List.forall_mem_cons.mp heach
    obtain ⟨⟨b, bs, hbytes, hb⟩, hfirst⟩ := List.forall_mem_cons.mp hfirst
    cases h with
    | @more _ lead _ cs _ before rest' =>
      dsimp only at hpart hbytes hfuel ⊢
      have hlength : 0 < (bytesOf part).length := by rw [hbytes]; exact Nat.succ_pos _
      rw [bytesOf_append, bytesOf_append, List.length_append, List.length_append] at hfuel
      have hread := @hpart fuel _ (by omega) (stops_of_isListed rest' (stops_bracket rest))
      obtain ⟨fuel, rfl⟩ : ∃ n, fuel = n + 1 := ⟨fuel - 1, by omega⟩
      have hmore := ih heach hfirst rest' fuel (by omega)
      have hnext := nextItem_lead before hb (bs ++ (bytesOf cs ++ 0x5D :: rest))
      rw [← List.cons_append, ← hbytes] at hnext
      rw [bytesOf_append, bytesOf_append, List.append_assoc, List.append_assoc, readItems, hnext]
      dsimp only
      rw [hread]
      dsimp only
      rw [hmore]
      rfl

theorem readFields_listed {members : List Member} (heach : ∀ m ∈ members, Complete k m.text m.value)
    (h : IsListed first (members.map Member.whole) cs) (hfuel : 2 * (bytesOf cs).length + 1 ≤ fuel)
    (fields : List (String × Value)) (rest : List UInt8) :
    readFields fuel (k + 1) first fields (bytesOf cs ++ 0x7D :: rest) =
      .ok (members.foldl Member.add fields, rest) := by
  obtain ⟨fuel, rfl⟩ : ∃ n, fuel = n + 1 := ⟨fuel - 1, by omega⟩
  induction members generalizing fuel first cs fields with
  | nil =>
    cases h with
    | done blank =>
      rw [readFields, nextName_blanks blank]
      rfl
  | cons m members ih =>
    obtain ⟨hm, heach⟩ := List.forall_mem_cons.mp heach
    cases h with
    | @more _ lead _ cs _ before rest' =>
      have hlength : (bytesOf m.text).length < (bytesOf m.whole).length := by
        have hbytes := congrArg List.length (bytesOf_whole m [])
        simp only [List.length_append, List.length_cons, List.length_nil] at hbytes
        omega
      rw [bytesOf_append, bytesOf_append, List.length_append, List.length_append] at hfuel
      have hread := @hm fuel _ (by omega) (stops_of_isListed rest' (stops_brace rest))
      obtain ⟨fuel, rfl⟩ : ∃ n, fuel = n + 1 := ⟨fuel - 1, by omega⟩
      have hmore := ih heach rest' (Member.add fields m) fuel (by omega)
      have hname (tail : List UInt8) : readText (bytesOf m.spelling ++ quote :: tail) = .ok (m.name, tail) :=
        readText_eq_ok_iff.mpr ⟨m.spelling, m.isUnitsOf, rfl⟩
      rw [bytesOf_append, bytesOf_append, List.append_assoc, List.append_assoc, bytesOf_whole, readFields,
        nextName_lead before]
      dsimp only
      rw [hname]
      dsimp only
      rw [readColon_blanks m.before]
      dsimp only
      rw [readValue_blanks m.after, hread]
      exact hmore

theorem complete (h : IsValueOf k cs v) : Complete k cs v := by
  induction h with
  | null =>
    intro fuel rest hfuel _
    obtain ⟨fuel, rfl⟩ : ∃ n, fuel = n + 1 := ⟨fuel - 1, by change 2 * 4 ≤ fuel at hfuel; omega⟩
    rw [readValue]
    rfl
  | bool b =>
    intro fuel rest hfuel _
    obtain ⟨fuel, rfl⟩ : ∃ n, fuel = n + 1 := by
      refine ⟨fuel - 1, ?_⟩
      cases b
      · change 2 * 5 ≤ fuel at hfuel; omega
      · change 2 * 4 ≤ fuel at hfuel; omega
    cases b <;> rw [readValue] <;> rfl
  | @number k n v value =>
    intro fuel rest hfuel hrest
    obtain ⟨b, bs, hbytes, -⟩ := exists_first_of_isValueOf (IsValueOf.number (k := k) value)
    rw [hbytes, List.length_cons] at hfuel
    obtain ⟨fuel, rfl⟩ : ∃ n, fuel = n + 1 := ⟨fuel - 1, by omega⟩
    exact readValue_numeral value hrest
  | @text k cs s units =>
    intro fuel rest hfuel _
    obtain ⟨fuel, rfl⟩ : ∃ n, fuel = n + 1 := ⟨fuel - 1, by
      change 2 * ((bytesOf (cs ++ ['"'])).length + 1) ≤ fuel at hfuel
      omega⟩
    rw [bytesOf_between (b := quote) (e := quote) rfl rfl, readValue_quote, readText_eq_ok_iff.mpr ⟨cs, units, rfl⟩]
    rfl
  | @list k cs items each listed ih =>
    intro fuel rest hfuel _
    have hbytes := bytesOf_between (c := '[') (d := ']') (b := 0x5B) (e := 0x5D) rfl rfl cs
    have hlength := congrArg List.length (hbytes [])
    simp only [List.length_append, List.length_cons, List.length_nil] at hlength
    obtain ⟨fuel, rfl⟩ : ∃ n, fuel = n + 1 := ⟨fuel - 1, by omega⟩
    have hopen (input : List UInt8) : readValue (fuel + 1) (k + 2) (0x5B :: input) =
        (readItems fuel (k + 1) true input).map fun found => (.list found.1, found.2) := by
      rw [readValue]
      rfl
    rw [hbytes, hopen, readItems_listed ih (fun i hi => exists_first_of_isValueOf (each i hi)) listed (by omega)]
    rfl
  | @document k cs members each listed ih =>
    intro fuel rest hfuel _
    have hbytes := bytesOf_between (c := '\x7b') (d := '\x7d') (b := 0x7B) (e := 0x7D) rfl rfl cs
    have hlength := congrArg List.length (hbytes [])
    simp only [List.length_append, List.length_cons, List.length_nil] at hlength
    obtain ⟨fuel, rfl⟩ : ∃ n, fuel = n + 1 := ⟨fuel - 1, by omega⟩
    have hopen (input : List UInt8) : readValue (fuel + 1) (k + 2) (0x7B :: input) =
        (readFields fuel (k + 1) true [] input).map fun found => (.document found.1, found.2) := by
      rw [readValue]
      rfl
    rw [hbytes, hopen, readFields_listed ih listed (by omega)]
    rfl

/-- The bytes that are read as a value are those of the texts that stand for it. -/
theorem read_eq_ok_iff : read input = .ok v ↔ ∃ cs, input = bytesOf cs ∧ IsTextOf cs v := by
  constructor
  · intro h
    unfold read at h
    split at h
    · cases h
    · next w rest hread =>
      split at h
      · next hskip =>
        cases h
        obtain ⟨before, cs, hbefore, hcs, rfl⟩ := (sound _).value hread
        obtain ⟨after, hafter, rfl⟩ := exists_blanks_of_skipBlank hskip
        refine ⟨_, ?_, .among hbefore hcs hafter⟩
        rw [bytesOf_append, bytesOf_append, List.append_nil]
      · cases h
  · rintro ⟨_, rfl, h⟩
    cases h with
    | @among before cs after v blank value blank' =>
      have hfuel : 2 * (bytesOf cs).length ≤ 2 * (bytesOf (before ++ (cs ++ after))).length + 2 := by
        rw [bytesOf_append, bytesOf_append, List.length_append, List.length_append]
        omega
      have hstops : Stops (bytesOf after) := by
        rw [← List.append_nil (bytesOf after)]
        exact stops_blanks blank' stops_nil
      have hread := complete value hfuel hstops
      have hinput : bytesOf (before ++ (cs ++ after)) = bytesOf before ++ (bytesOf cs ++ bytesOf after) := by
        rw [bytesOf_append, bytesOf_append]
      have hdepth : depthLimit = 127 + 1 := rfl
      rw [read, hdepth]
      rw [hinput] at hread ⊢
      rw [readValue_blanks blank, hread]
      dsimp only
      rw [skipBlank_bytesOf_blanks blank']

/-- A document is read of the bytes of the texts that stand for it, and of no others. -/
theorem Document.parse_eq_ok_iff {d : Document} :
    parse input = .ok d ↔ ∃ cs, input = bytesOf cs ∧ IsDocumentOf cs d := by
  have hread : parse input = .ok d ↔ read input = .ok (.document d.fields) := by
    unfold parse
    cases read input with
    | error flaw => simp
    | ok v =>
      obtain ⟨fields⟩ := d
      cases v <;> simp
  exact hread.trans read_eq_ok_iff

end FleetLocator.Json
