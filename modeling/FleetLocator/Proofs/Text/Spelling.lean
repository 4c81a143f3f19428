import FleetLocator.Text.Spelling
import Mathlib.Data.List.Forall2
import Mathlib.Data.List.TakeWhile

/-!
# Texts that differ only in letter case and in blanks at their ends

Two texts are spellings of one word if their letters are the same apart from the case of ASCII letters, once the
blanks before and after them are left aside.
-/
namespace FleetLocator.Text

/-- The same character, or one letter of ASCII in both cases. -/
def SameLetter (c d : Char) : Prop :=
  c = d ∨ (c.isUpper = true ∧ d.toNat = c.toNat + 32) ∨ (d.isUpper = true ∧ c.toNat = d.toNat + 32)

instance (c d : Char) : Decidable (SameLetter c d) := by unfold SameLetter; infer_instance

section

variable {c d : Char}

theorem isUpper_iff : c.isUpper = true ↔ 65 ≤ c.toNat ∧ c.toNat ≤ 90 := decide_eq_true_iff

theorem toNat_toUpper (c : Char) :
    c.toUpper.toNat = if 97 ≤ c.toNat ∧ c.toNat ≤ 122 then c.toNat - 32 else c.toNat := by
  unfold Char.toUpper
  split
  · next h =>
    have hrange : 97 ≤ c.toNat ∧ c.toNat ≤ 122 := h
    rw [if_pos hrange]
    change (c.val + 0xFFFFFFE0).toNat = c.val.toNat - 32
    have hval : c.val.toNat = c.toNat := rfl
    rw [UInt32.toNat_add]
    change (c.val.toNat + 4294967264) % 4294967296 = _
    omega
  · next h => exact (if_neg h).symm

theorem toUpper_toUpper (c : Char) : c.toUpper.toUpper = c.toUpper := by
  rw [← Char.toNat_inj, toNat_toUpper, toNat_toUpper]
  split_ifs <;> omega

/-- Capitals are the same for the same letters, and only for them. -/
theorem toUpper_eq_toUpper_iff : c.toUpper = d.toUpper ↔ SameLetter c d := by
  rw [← Char.toNat_inj, toNat_toUpper, toNat_toUpper, SameLetter, isUpper_iff, isUpper_iff, ← Char.toNat_inj]
  split_ifs <;> omega

theorem isBlank_toUpper (c : Char) : isBlank c.toUpper = isBlank c := by
  simp only [isBlank, toNat_toUpper]
  split
  · next h =>
    rw [Bool.eq_iff_iff]
    simp only [Bool.or_eq_true, Bool.and_eq_true, decide_eq_true_eq, beq_iff_eq]
    omega
  · rfl

end

section

variable {cs before after : List Char}

theorem trimEnd_append (h : ∀ c ∈ after, isBlank c = true) (cs : List Char) :
    trimEnd (cs ++ after) = trimEnd cs := by
  have hreverse : ∀ c ∈ after.reverse, isBlank c = true := fun c hc => h c (List.mem_reverse.mp hc)
  rw [trimEnd, List.reverse_append, List.dropWhile_append_of_pos hreverse, trimEnd]

/-- Blanks at the ends are of no account. -/
theorem trimChars_append (hbefore : ∀ c ∈ before, isBlank c = true) (hafter : ∀ c ∈ after, isBlank c = true)
    (cs : List Char) : trimChars (before ++ cs ++ after) = trimChars cs := by
  rw [trimChars, trimStart, List.append_assoc, List.dropWhile_append_of_pos hbefore, List.dropWhile_append]
  -- If the text is blank itself, all that is after it goes at the start already.
  split
  · next h =>
    rw [List.dropWhile_eq_nil_iff.mpr hafter, trimChars, trimStart, List.isEmpty_iff.mp h]
  · rw [trimEnd_append hafter, trimChars, trimStart]

/-- What is trimmed off is blank. -/
theorem exists_trimChars (cs : List Char) : ∃ before after, cs = before ++ trimChars cs ++ after ∧
    (∀ c ∈ before, isBlank c = true) ∧ ∀ c ∈ after, isBlank c = true := by
  have hstart : cs = cs.takeWhile isBlank ++ trimStart cs := List.takeWhile_append_dropWhile.symm
  have hend : trimStart cs = trimChars cs ++ ((trimStart cs).reverse.takeWhile isBlank).reverse := by
    rw [trimChars, trimEnd, ← List.reverse_append, List.takeWhile_append_dropWhile, List.reverse_reverse]
  refine ⟨cs.takeWhile isBlank, ((trimStart cs).reverse.takeWhile isBlank).reverse, ?_, ?_, ?_⟩
  · rw [List.append_assoc, ← hend, ← hstart]
  · exact fun c hc => List.mem_takeWhile_imp hc
  · exact fun c hc => List.mem_takeWhile_imp (List.mem_reverse.mp hc)

theorem trimChars_map_toUpper (cs : List Char) : trimChars (cs.map Char.toUpper) = (trimChars cs).map Char.toUpper := by
  have hblank : isBlank ∘ Char.toUpper = isBlank := funext isBlank_toUpper
  rw [trimChars, trimEnd, trimStart, List.dropWhile_map, hblank, ← List.map_reverse, List.dropWhile_map, hblank,
    ← List.map_reverse, trimChars, trimEnd, trimStart]

end

@[simp] theorem toList_upper (s : String) : (upper s).toList = s.toList.map Char.toUpper := String.toList_ofList

theorem upper_upper (s : String) : upper (upper s) = upper s := by
  rw [← String.toList_inj, toList_upper, toList_upper, List.map_map]
  exact List.map_congr_left fun c _ => toUpper_toUpper c

@[simp] theorem toList_trim (s : String) : (trim s).toList = trimChars s.toList := String.toList_ofList

/-- The other text is this one with letters in any case and with any blanks around it. -/
def IsVariant (text other : String) : Prop :=
  ∃ before cs after, other.toList = before ++ cs ++ after ∧ (∀ c ∈ before, isBlank c = true) ∧
    (∀ c ∈ after, isBlank c = true) ∧ List.Forall₂ SameLetter cs text.toList

theorem forall₂_sameLetter_iff {cs ds : List Char} :
    List.Forall₂ SameLetter cs ds ↔ cs.map Char.toUpper = ds.map Char.toUpper := by
  rw [← List.forall₂_eq_eq_eq, List.forall₂_map_left_iff, List.forall₂_map_right_iff]
  simp only [toUpper_eq_toUpper_iff]

variable {text other : String}

/-- All variants of a text are the same in capitals and without the blanks at their ends. -/
theorem IsVariant.upper_trim_eq (h : IsVariant text other) : upper (trim other) = upper (trim text) := by
  obtain ⟨before, cs, after, hother, hbefore, hafter, hletters⟩ := h
  rw [← String.toList_inj, toList_upper, toList_upper, toList_trim, toList_trim, hother,
    trimChars_append hbefore hafter, ← trimChars_map_toUpper, ← trimChars_map_toUpper,
    forall₂_sameLetter_iff.mp hletters]

/-- A text in capitals and without blanks at its ends is the same for its variants, and only for them. -/
theorem upper_trim_eq_iff (htext : upper (trim text) = text) : upper (trim other) = text ↔ IsVariant text other := by
  constructor
  · intro h
    obtain ⟨before, after, hother, hbefore, hafter⟩ := exists_trimChars other.toList
    refine ⟨before, trimChars other.toList, after, hother, hbefore, hafter, forall₂_sameLetter_iff.mpr ?_⟩
    have hupper : upper text = text := by rw [← htext, upper_upper]
    rw [← toList_upper, hupper, ← h, toList_upper, toList_trim]
  · intro h
    rw [h.upper_trim_eq, htext]

end FleetLocator.Text
