import FleetLocator.Proofs.Text.Percent
import FleetLocator.Web.Url

/-!
# Segments that are added to a path

A segment that is added spells the text it is made of, except for characters of no account; only dots
are no segments.
-/
namespace FleetLocator.Web

open Text (Utf8.encode)

@[simp] theorem Url.spelled_escape {reserved : Char → Bool} (h : reserved '%' = true) (cs : List Char) :
    Url.spelled (Reserved.escape reserved cs) = some (String.ofList cs) := by
  have hcs : cs.flatMap String.utf8EncodeChar = Utf8.encode (String.ofList cs) := by
    rw [Utf8.encode, String.toList_ofList]
  rw [spelled, Reserved.escape, Utf8.encode, String.toList_ofList, Text.Percent.decode_encode h, hcs,
    Text.Utf8.decode_encode]

theorem inSegment_percent (special : Bool) : Reserved.inSegment special '%' = true := by
  cases special <;> decide

namespace UrlPath

theorem toLower_eq_or (c : Char) : c.toLower = c ∨ 0x41 ≤ c.toNat ∧ c.toLower.toNat = c.toNat + 32 := by
  unfold Char.toLower
  split
  · next h =>
    have hlow : 0x41 ≤ c.val.toNat := UInt32.le_iff_toNat_le.mp h.1
    have hhigh : c.val.toNat ≤ 0x5A := UInt32.le_iff_toNat_le.mp h.2
    refine .inr ⟨hlow, ?_⟩
    change (c.val + ('a'.val - 'A'.val)).toNat = c.val.toNat + 32
    rw [UInt32.toNat_add]
    change (c.val.toNat + 32) % 2 ^ 32 = _
    omega
  · exact .inl rfl

theorem eq_of_toLower_eq {c d : Char} (hd : d.toNat < 0x41) (h : c.toLower = d) : c = d := by
  rcases toLower_eq_or c with heq | ⟨hlow, hnat⟩
  · rw [← heq, h]
  · rw [h] at hnat
    omega

theorem eq_or_of_toLower_eq_e {c : Char} (h : c.toLower = 'e') : c = 'e' ∨ c = 'E' := by
  rcases toLower_eq_or c with heq | ⟨-, hnat⟩
  · exact .inl (heq.symm.trans h)
  · have hc : c.toNat = 'E'.toNat := by
      rw [h] at hnat
      exact Nat.add_right_cancel hnat.symm
    exact .inr (Char.toNat_inj.mp hc)

/-- The bytes that characters spell in percent signs. -/
def spelledBytes (cs : List Char) : List UInt8 := Text.Percent.decode (cs.flatMap String.utf8EncodeChar)

/-- The ways to write one dot in small letters. -/
def dots : List (List Char) := [['.'], ['%', '2', 'e']]

theorem spelledBytes_of_dot {cs dot ys : List Char} (hdot : dot ∈ dots) (h : cs.map Char.toLower = dot ++ ys) :
    ∃ rest, rest.map Char.toLower = ys ∧ spelledBytes cs = 0x2E :: spelledBytes rest := by
  rcases List.mem_pair.mp hdot with rfl | rfl
  · obtain ⟨c, rest, rfl, hc, hrest⟩ := List.map_eq_cons_iff.mp h
    obtain rfl := eq_of_toLower_eq (by decide) hc
    exact ⟨rest, hrest, Text.Percent.decode_cons_of_ne (by decide) _⟩
  · obtain ⟨c, cs, rfl, hc, h⟩ := List.map_eq_cons_iff.mp h
    obtain ⟨d, cs, rfl, hd, h⟩ := List.map_eq_cons_iff.mp h
    obtain ⟨e, rest, rfl, he, hrest⟩ := List.map_eq_cons_iff.mp h
    obtain rfl := eq_of_toLower_eq (by decide) hc
    obtain rfl := eq_of_toLower_eq (by decide) hd
    refine ⟨rest, hrest, ?_⟩
    rcases eq_or_of_toLower_eq_e he with rfl | rfl <;> rfl

theorem spelled_eq (segment : String) :
    Url.spelled segment = Text.Utf8.decode (spelledBytes segment.toList) := rfl

theorem map_toLower_of_eq {segment lower : String} (h : String.ofList (segment.toList.map Char.toLower) = lower) :
    segment.toList.map Char.toLower = lower.toList := by
  rw [← h, String.toList_ofList]

/-- A segment that stands for one dot spells it. -/
theorem spelled_of_isDot {segment : String} (h : isDot segment = true) : Url.spelled segment = some "." := by
  have hlower : ∃ dot ∈ dots, segment.toList.map Char.toLower = dot ++ [] := by
    simp only [isDot, List.contains_cons, List.contains_nil, Bool.or_eq_true, beq_iff_eq, Bool.or_false] at h
    rcases h with h | h
    · exact ⟨['.'], by decide, map_toLower_of_eq h⟩
    · exact ⟨['%', '2', 'e'], by decide, map_toLower_of_eq h⟩
  obtain ⟨dot, hdot, hlower⟩ := hlower
  obtain ⟨rest, hrest, hbytes⟩ := spelledBytes_of_dot hdot hlower
  rw [spelled_eq, hbytes, List.map_eq_nil_iff.mp hrest]
  decide

/-- A segment that stands for two dots spells them. -/
theorem spelled_of_isDoubleDot {segment : String} (h : isDoubleDot segment = true) :
    Url.spelled segment = some ".." := by
  have hlower : ∃ dot ∈ dots, ∃ other ∈ dots, segment.toList.map Char.toLower = dot ++ (other ++ []) := by
    simp only [isDoubleDot, List.contains_cons, List.contains_nil, Bool.or_eq_true, beq_iff_eq, Bool.or_false] at h
    rcases h with h | h | h | h
    · exact ⟨['.'], by decide, ['.'], by decide, map_toLower_of_eq h⟩
    · exact ⟨['.'], by decide, ['%', '2', 'e'], by decide, map_toLower_of_eq h⟩
    · exact ⟨['%', '2', 'e'], by decide, ['.'], by decide, map_toLower_of_eq h⟩
    · exact ⟨['%', '2', 'e'], by decide, ['%', '2', 'e'], by decide, map_toLower_of_eq h⟩
  obtain ⟨dot, hdot, other, hother, hlower⟩ := hlower
  obtain ⟨rest, hrest, hbytes⟩ := spelledBytes_of_dot hdot hlower
  obtain ⟨rest, hnil, hmore⟩ := spelledBytes_of_dot hother hrest
  rw [spelled_eq, hbytes, hmore, List.map_eq_nil_iff.mp hnil]
  decide

/-- What is left of a text when characters of no account are left out. -/
def kept (text : String) : String := String.ofList (withoutIgnored text.toList)

/-- The segment that spells a text. -/
def written (scheme : Scheme) (text : String) : String :=
  Reserved.escape (Reserved.inSegment scheme.isSpecial) text.toList

variable {scheme : Scheme} {before : List String} {text : String}

@[simp] theorem toList_kept (text : String) : (kept text).toList = withoutIgnored text.toList :=
  String.toList_ofList

theorem kept_eq_self_iff : kept text = text ↔ ∀ c ∈ text.toList, isIgnored c = false := by
  rw [← String.toList_inj, toList_kept, withoutIgnored, List.filter_eq_self]
  simp

@[simp] theorem spelled_written (scheme : Scheme) (text : String) :
    Url.spelled (written scheme text) = some text := by
  rw [written, Url.spelled_escape (inSegment_percent scheme.isSpecial), String.ofList_toList]

theorem written_injective (scheme : Scheme) : Function.Injective (written scheme) := fun text other h =>
  Option.some.inj (by rw [← spelled_written scheme text, h, spelled_written])

theorem isDot_written_iff : isDot (written scheme text) = true ↔ text = "." := by
  constructor
  · intro h
    have hspelled := spelled_of_isDot h
    rw [spelled_written] at hspelled
    exact Option.some.inj hspelled
  · rintro rfl
    unfold written
    cases scheme.isSpecial <;> decide

theorem isDoubleDot_written_iff : isDoubleDot (written scheme text) = true ↔ text = ".." := by
  constructor
  · intro h
    have hspelled := spelled_of_isDoubleDot h
    rw [spelled_written] at hspelled
    exact Option.some.inj hspelled
  · rintro rfl
    unfold written
    cases scheme.isSpecial <;> decide

theorem enter_written :
    enter true before (written scheme text) =
      if text = ".." then leave before ++ [""]
      else if text = "." then before ++ [""]
      else before ++ [written scheme text] := by
  simp only [enter, isDoubleDot_written_iff, isDot_written_iff, if_true]

/-- What becomes of a path that has a segment when one more is added. -/
theorem appendSegment_eq (hnil : before ≠ []) (hroot : before ≠ [""]) :
    appendSegment scheme before text =
      if text = "." ∨ text = ".." then before
      else if kept text = ".." then leave before ++ [""]
      else if kept text = "." then before ++ [""]
      else before ++ [written scheme (kept text)] := by
  have hfile : (scheme == Scheme.file && before.isEmpty) = false := by simp [hnil]
  rw [← enter_written, written, toList_kept]
  simp only [appendSegment, if_neg hroot, hfile, Bool.false_eq_true, if_false]

/-- The words that requests add to a path. -/
def words : List String := ["drivers", "nearby", "location", "status"]

/-- A single slash has no segments for what is added. -/
def unrooted (list : List String) : List String := if list = [""] then [] else list

theorem unrooted_eq_iff {list other : List String} (hnil : other ≠ []) (hroot : other ≠ [""]) :
    unrooted list = other ↔ list = other := by
  unfold unrooted
  split
  · next h => exact iff_of_false hnil.symm fun heq => hroot (heq.symm.trans h)
  · rfl

theorem unrooted_inj {list other : List String} (h : list ≠ []) (hother : other ≠ []) :
    unrooted list = unrooted other ↔ list = other := by
  by_cases hroot : other = [""]
  · subst hroot
    by_cases hlist : list = [""]
    · subst hlist
      exact iff_of_true rfl rfl
    · rw [unrooted, if_neg hlist, unrooted, if_pos rfl]
      exact iff_of_false h hlist
  · have hsame : unrooted other = other := if_neg hroot
    rw [hsame, unrooted_eq_iff hother hroot]

/-- A word is a segment as it stands. -/
theorem appendSegment_word {word : String} (h : word ∈ words) :
    appendSegment scheme before word = unrooted before ++ [word] := by
  have hword : (word ≠ "." ∧ word ≠ "..") ∧ withColon word = word ∧ isDot word = false ∧
      isDoubleDot word = false := by
    have hall : ∀ word ∈ words, (word ≠ "." ∧ word ≠ "..") ∧ withColon word = word ∧ isDot word = false ∧
        isDoubleDot word = false := by decide
    exact hall word h
  obtain ⟨hdots, hcolon, hdot, hdouble⟩ := hword
  have hwritten : Reserved.escape (Reserved.inSegment scheme.isSpecial) (withoutIgnored word.toList) = word := by
    have hall : ∀ special, ∀ word ∈ words,
        Reserved.escape (Reserved.inSegment special) (withoutIgnored word.toList) = word := by decide
    exact hall scheme.isSpecial word h
  simp only [appendSegment, hdots, or_self, if_false, hwritten, hcolon, ite_self, enter, hdot, hdouble,
    Bool.false_eq_true]
  rfl

end UrlPath

end FleetLocator.Web
