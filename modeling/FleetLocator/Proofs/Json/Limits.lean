import FleetLocator.Proofs.Json.Recognition

/-!
# What keeps a document from being read

A text of the grammar stands for a value unless a number in it is beyond the doubles, or half of a character is in
one of its texts. It is read unless its brackets are nested too deep besides. There are no other limits.
-/
namespace FleetLocator.Json.Grammar

/-- A part that stands for nothing: a number beyond the doubles, or a text with half of a character in it. -/
inductive IsVoid : List Char → Prop
  | number {n : Numeral} (beyond : n.value = none) : IsVoid n.text
  | text {cs : List Char} (units : IsUnits cs) (broken : ∀ s, ¬IsUnitsOf cs s) : IsVoid ('"' :: cs ++ ['"'])

/-- The text has such a part. -/
def HasVoid (cs : List Char) : Prop := ∃ part, IsVoid part ∧ part <:+: cs

/-- The text stands for a value at some depth, or has a part that stands for nothing. -/
def Decided (cs : List Char) : Prop := HasVoid cs ∨ ∃ k v, IsValueOf k cs v

section

variable {α : Type} (whole : α → List Char) (p : ℕ → α → Prop)

/-- The same of a part between brackets, which is an item or a member. -/
def DecidedPart (cs : List Char) : Prop := HasVoid cs ∨ ∃ k a, whole a = cs ∧ p k a

/-- The same of parts with commas between them, behind whatever may stand before the first of them. -/
def DecidedParts (cs : List Char) : Prop :=
  HasVoid cs ∨ ∃ (k : ℕ) (parts : List α), (∀ a ∈ parts, p k a) ∧
    ∀ first lead, IsLead first lead → IsListed first (parts.map whole) (lead ++ cs)

end

def DecidedItems : List Char → Prop := DecidedParts (fun i : List Char × Value => i.1) fun k i => IsValueOf k i.1 i.2

def DecidedMembers : List Char → Prop := DecidedParts Member.whole fun k m => IsValueOf k m.text m.value

variable {cs ds name : List Char} {k m : ℕ} {v : Value}

theorem HasVoid.mono (h : HasVoid cs) (hpart : cs <:+: ds) : HasVoid ds := by
  obtain ⟨part, hvoid, hinfix⟩ := h
  exact ⟨part, hvoid, hinfix.trans hpart⟩

theorem IsValueOf.mono (h : IsValueOf k cs v) (hk : k ≤ m) : IsValueOf m cs v := by
  induction h generalizing m with
  | null => exact .null
  | bool b => exact .bool b
  | number value => exact .number value
  | text units => exact .text units
  | list _ listed ih =>
    obtain ⟨m, rfl⟩ := Nat.exists_eq_add_of_lt (Nat.lt_of_succ_le hk)
    exact .list (fun i hi => ih i hi (by omega)) listed
  | document _ listed ih =>
    obtain ⟨m, rfl⟩ := Nat.exists_eq_add_of_lt (Nat.lt_of_succ_le hk)
    exact .document (fun i hi => ih i hi (by omega)) listed

theorem IsMagnitude.exists_numeral (h : IsMagnitude cs) (negative : Bool) :
    ∃ n : Numeral, n.negative = negative ∧ n.magnitude = cs := by
  obtain ⟨first, second, third⟩ := h
  have hfraction : ∀ {ds}, IsFraction ds → ∃ fraction : List Char, (∀ c ∈ fraction, c.isDigit = true) ∧
      (if fraction = [] then [] else '.' :: fraction) = ds := by
    rintro _ (_ | ⟨hne, hall⟩)
    · exact ⟨[], by simp, rfl⟩
    · exact ⟨_, hall, if_neg hne⟩
  have hexponent : ∀ {ds}, IsExponent ds → ∃ exponent : Option Exponent, exponent.elim [] Exponent.text = ds := by
    rintro _ (_ | ⟨letter, signed, digits⟩)
    · exact ⟨none, rfl⟩
    · exact ⟨some ⟨_, _, _, letter, signed, digits⟩, rfl⟩
  obtain ⟨fraction, hall, hfraction⟩ := hfraction second
  obtain ⟨exponent, hexponent⟩ := hexponent third
  exact ⟨⟨negative, _, fraction, exponent, first, hall⟩, rfl, by rw [Numeral.magnitude, hfraction, hexponent]⟩

theorem IsNumber.exists_numeral (h : IsNumber cs) : ∃ n : Numeral, n.text = cs := by
  cases h with
  | unsigned magnitude =>
    obtain ⟨n, hn, rfl⟩ := magnitude.exists_numeral false
    exact ⟨n, by rw [Numeral.text, hn]; rfl⟩
  | minus magnitude =>
    obtain ⟨n, hn, rfl⟩ := magnitude.exists_numeral true
    exact ⟨n, by rw [Numeral.text, hn]; rfl⟩

theorem IsNumber.decided (h : IsNumber cs) : Decided cs := by
  obtain ⟨n, rfl⟩ := h.exists_numeral
  cases hn : n.value with
  | none => exact .inl ⟨n.text, .number hn, List.infix_refl _⟩
  | some v => exact .inr ⟨0, _, .number hn⟩

/-- A quoted text stands for a text or for nothing. -/
theorem IsText.hasVoid_or (h : IsText cs) :
    HasVoid cs ∨ ∃ (ds : List Char) (s : String), cs = '"' :: ds ++ ['"'] ∧ IsUnitsOf ds s.toList := by
  cases h with
  | @quoted ds units =>
    by_cases hs : ∃ s, IsUnitsOf ds s
    · obtain ⟨s, hs⟩ := hs
      exact .inr ⟨ds, String.ofList s, rfl, by rwa [String.toList_ofList]⟩
    · exact .inl ⟨_, .text units (not_exists.mp hs), List.infix_refl _⟩

theorem IsText.decided (h : IsText cs) : Decided cs := by
  obtain hvoid | ⟨ds, s, rfl, units⟩ := h.hasVoid_or
  · exact .inl hvoid
  · exact .inr ⟨0, .text s, .text units⟩

theorem decided_word (h : cs ∈ ["null".toList, "true".toList, "false".toList]) : Decided cs := by
  simp only [List.mem_cons, List.not_mem_nil, or_false] at h
  obtain rfl | rfl | rfl := h
  · exact .inr ⟨0, _, .null⟩
  · exact .inr ⟨0, _, .bool true⟩
  · exact .inr ⟨0, _, .bool false⟩

theorem Decided.part (h : Decided cs) :
    DecidedPart (fun i : List Char × Value => i.1) (fun k i => IsValueOf k i.1 i.2) cs :=
  h.imp_right fun ⟨k, v, hv⟩ => ⟨k, (cs, v), rfl, hv⟩

theorem Decided.member (hname : IsText name) (h : Decided cs) :
    DecidedPart Member.whole (fun k m => IsValueOf k m.text m.value) (name ++ ':' :: cs) := by
  obtain hvoid | ⟨spelling, s, rfl, units⟩ := hname.hasVoid_or
  · exact .inl (hvoid.mono (List.prefix_append _ _).isInfix)
  obtain hvoid | ⟨k, v, hv⟩ := h
  · exact .inl (hvoid.mono ((List.suffix_cons _ _).trans (List.suffix_append _ _)).isInfix)
  · exact .inr ⟨k, ⟨s, spelling, [], [], cs, v, units, .nil, .nil⟩, by simp [Member.whole], hv⟩

section

variable {α : Type} {whole : α → List Char} {p : ℕ → α → Prop}

theorem DecidedPart.last (h : DecidedPart whole p cs) : DecidedParts whole p cs := by
  refine h.imp_right fun ⟨k, a, ha, hp⟩ => ⟨k, [a], List.forall_mem_singleton.mpr hp, fun first lead hlead => ?_⟩
  have hlisted := @IsListed.more first lead (whole a) [] [] hlead (.done .nil)
  rw [List.append_nil] at hlisted
  exact ha ▸ hlisted

theorem DecidedPart.more (hmono : ∀ k m a, p k a → k ≤ m → p m a) (h : DecidedPart whole p cs)
    (hrest : DecidedParts whole p ds) : DecidedParts whole p (cs ++ ',' :: ds) := by
  obtain hvoid | ⟨k, a, rfl, hp⟩ := h
  · exact .inl (hvoid.mono (List.prefix_append _ _).isInfix)
  obtain hvoid | ⟨m, parts, heach, hlisted⟩ := hrest
  · exact .inl (hvoid.mono ((List.suffix_cons _ _).trans (List.suffix_append _ _)).isInfix)
  refine .inr ⟨max k m, a :: parts, ?_, fun first lead hlead => ?_⟩
  · exact List.forall_mem_cons.mpr
      ⟨hmono _ _ _ hp (le_max_left k m), fun b hb => hmono _ _ _ (heach b hb) (le_max_right k m)⟩
  · exact .more hlead (hlisted false [','] (.further IsBlanks.nil IsBlanks.nil))

end

theorem infix_between (c d : Char) (cs : List Char) : cs <:+: c :: cs ++ [d] := ⟨[c], [d], rfl⟩

theorem DecidedItems.list (h : DecidedItems cs) : Decided ('[' :: cs ++ [']']) := by
  obtain hvoid | ⟨k, items, heach, hlisted⟩ := h
  · exact .inl (hvoid.mono (infix_between _ _ cs))
  · exact .inr ⟨k + 1, _, .list heach (hlisted true [] (.first .nil))⟩

theorem DecidedMembers.document (h : DecidedMembers cs) : Decided ('\x7b' :: cs ++ ['\x7d']) := by
  obtain hvoid | ⟨k, members, heach, hlisted⟩ := h
  · exact .inl (hvoid.mono (infix_between _ _ cs))
  · exact .inr ⟨k + 1, _, .document heach (hlisted true [] (.first .nil))⟩

theorem decided_emptyList : Decided ['[', ']'] :=
  .inr ⟨1, _, @IsValueOf.list 0 [] [] (by simp) (.done .nil)⟩

theorem decided_emptyDocument : Decided ['\x7b', '\x7d'] :=
  .inr ⟨1, _, @IsValueOf.document 0 [] [] (by simp) (.done .nil)⟩

/-- A text of the grammar stands for a value, or has a part that stands for nothing. -/
theorem IsValue.decided (h : IsValue cs) : Decided cs := by
  -- the induction is on the three kinds of parts at once, with what is decided of each as its motive
  refine @IsValue.rec (fun cs _ => Decided cs) (fun cs _ => DecidedItems cs) (fun cs _ => DecidedMembers cs)
    ?word ?number ?text ?emptyList ?list ?emptyDocument ?document ?lastItem ?moreItems ?lastMember ?moreMembers cs h
  case word => exact fun known => decided_word known
  case number => exact fun number => number.decided
  case text => exact fun text => text.decided
  case emptyList => exact decided_emptyList
  case list => exact fun _ items => items.list
  case emptyDocument => exact decided_emptyDocument
  case document => exact fun _ members => members.document
  case lastItem => exact fun _ value => value.part.last
  case moreItems => exact fun _ _ value rest => value.part.more (fun _ _ _ => IsValueOf.mono) rest
  case lastMember => exact fun name _ value => (value.member name).last
  case moreMembers => exact fun name _ _ value rest => (value.member name).more (fun _ _ _ => IsValueOf.mono) rest

end FleetLocator.Json.Grammar
