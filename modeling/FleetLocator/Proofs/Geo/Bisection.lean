import FleetLocator.Geo.Point
import Mathlib.Algebra.Group.Nat.Defs
import Mathlib.Logic.Function.Iterate

/-!
# Bisections, and geohashes written letter by letter

Two spans are halved in turn, so that the digits of each are every second of all, and each letter says what five
digits in a row are. An encoder halves one of the spans in each turn and looks up a letter after every fifth, as
long as letters are missing. Each letter is in the alphabet, whatever the numbers are: no middle needs to lie
between the ends of its span, and no comparison needs to hold.
-/
namespace FleetLocator.Geo

section

variable {α : Type} [Add α] [Div α] [OfNat α 2] [LE α] [DecidableLE α] {s t : Span α} {x y : α}

/-- What is left of a span after so many steps toward a value. -/
def Span.narrowed (s : Span α) (x : α) (n : ℕ) : Span α := (fun t => t.narrow x)^[n] s

theorem Span.narrowed_succ (s : Span α) (x : α) (n : ℕ) : s.narrowed x (n + 1) = (s.narrowed x n).narrow x :=
  Function.iterate_succ_apply' _ n s

theorem Span.narrowed_narrow (s : Span α) (x : α) (n : ℕ) : (s.narrow x).narrowed x n = s.narrowed x (n + 1) :=
  (Function.iterate_succ_apply _ n s).symm

/-- The half that is chosen at a step: the first axis has the even steps. -/
def digit (s : Span α) (x : α) (t : Span α) (y : α) (j : ℕ) : Bool :=
  if j % 2 = 0 then (s.narrowed x (j / 2)).upper x else (t.narrowed y (j / 2)).upper y

theorem digit_succ (s : Span α) (x : α) (t : Span α) (y : α) (j : ℕ) :
    digit s x t y (j + 1) = digit t y (s.narrow x) x j := by
  unfold digit
  rcases Nat.mod_two_eq_zero_or_one j with hj | hj
  · have hhalf : (j + 1) / 2 = j / 2 := by omega
    rw [if_neg (by omega), if_pos hj, hhalf]
  · have hhalf : (j + 1) / 2 = j / 2 + 1 := by omega
    rw [if_pos (by omega), if_neg (by omega), hhalf, Span.narrowed_narrow]

theorem halves_eq (n : ℕ) (s : Span α) (x : α) (t : Span α) (y : α) :
    halves n s x t y = (List.range n).map (digit s x t y) := by
  induction n generalizing s x t y with
  | zero => rfl
  | succ n ih =>
    rw [halves, ih, List.range_succ_eq_map, List.map_cons, List.map_map]
    congr 2
    funext j
    exact (digit_succ s x t y j).symm

end

/-- The number that five digits in a row stand for, the highest first. -/
def group (d : ℕ → Bool) (i : ℕ) : ℕ := (List.range 5).foldl (fun v j => 2 * v + (d (5 * i + j)).toNat) 0

theorem group_eq (d : ℕ → Bool) (i : ℕ) :
    group d i = (fiveBits (d (5 * i)) (d (5 * i + 1)) (d (5 * i + 2)) (d (5 * i + 3)) (d (5 * i + 4))).val := by
  simp only [group, List.range, List.range.loop, List.foldl_cons, List.foldl_nil, Nat.add_zero, fiveBits]
  omega

theorem group_lt_length (d : ℕ → Bool) (i : ℕ) : group d i < alphabet.length := by
  rw [group_eq, length_alphabet]
  exact Fin.isLt _

/-- The letter for five digits in a row. -/
def letter (d : ℕ → Bool) (i : ℕ) : Char := alphabet.get ⟨group d i, group_lt_length d i⟩

theorem letters_eq (p : ℕ) (d : ℕ → Bool) : letters ((List.range (5 * p)).map d) = (List.range p).map (letter d) := by
  induction p generalizing d with
  | zero => rfl
  | succ p ih =>
    have hsplit : (List.range (5 * (p + 1))).map d =
        d 0 :: d 1 :: d 2 :: d 3 :: d 4 :: (List.range (5 * p)).map fun j => d (5 + j) := by
      rw [show 5 * (p + 1) = 5 + 5 * p by omega, List.range_add, List.map_append, List.map_map]
      rfl
    have hletter (i : ℕ) : letter (fun j => d (5 + j)) i = letter d (i + 1) := by
      have hindex (j : ℕ) : 5 + (5 * i + j) = 5 * (i + 1) + j := by omega
      simp only [letter, group, hindex]
    rw [hsplit, letters, ih, List.range_succ_eq_map, List.map_cons, List.map_map]
    congr 1
    · exact congrArg alphabet.get (Fin.ext (group_eq d 0).symm)
    · exact List.map_congr_left fun i _ => hletter i

/-- An encoder with its letters, and with the digits that are not yet a letter. -/
structure Encoder (α : Type) where
  lng : Span α
  lat : Span α
  lngIsNext : Bool
  pending : ℕ
  index : ℕ
  letters : List Char

namespace Encoder

variable {α : Type}

def start (lng lat : Span α) : Encoder α := ⟨lng, lat, true, 0, 0, []⟩

/-- Looks up the letter for five digits, which is none beyond the end of the alphabet. -/
def emit (e : Encoder α) : Option (Encoder α) :=
  if e.pending = 5 then
    alphabet[e.index]?.map fun c => { e with pending := 0, index := 0, letters := e.letters ++ [c] }
  else some e

variable [Add α] [Div α] [OfNat α 2] [LE α] [DecidableLE α]

/-- Halves the span whose turn it is. -/
def bisect (x y : α) (e : Encoder α) : Encoder α :=
  if e.lngIsNext then
    { e with
      lng := e.lng.narrow x
      lngIsNext := false
      pending := e.pending + 1
      index := 2 * e.index + (e.lng.upper x).toNat }
  else
    { e with
      lat := e.lat.narrow y
      lngIsNext := true
      pending := e.pending + 1
      index := 2 * e.index + (e.lat.upper y).toNat }

def turn (x y : α) (e : Encoder α) : Option (Encoder α) := (e.bisect x y).emit

/-- The turns that are taken while letters are missing, with their number. -/
inductive Turns (precision : ℕ) (x y : α) (first : Encoder α) : ℕ → Encoder α → Prop
  | none : Turns precision x y first 0 first
  | more {n : ℕ} {e f : Encoder α} (before : Turns precision x y first n e)
      (missing : e.letters.length < precision) (taken : e.turn x y = some f) :
      Turns precision x y first (n + 1) f

/-- The encoder stops after so many turns, with these letters. -/
def Stops (precision : ℕ) (x y : α) (first : Encoder α) (n : ℕ) (letters : List Char) : Prop :=
  ∃ e, Turns precision x y first n e ∧ ¬e.letters.length < precision ∧ e.letters = letters

/-- The number that the first digits of a group stand for. -/
def firstOf (d : ℕ → Bool) (i k : ℕ) : ℕ := (List.range k).foldl (fun v j => 2 * v + (d (5 * i + j)).toNat) 0

@[simp] theorem firstOf_zero (d : ℕ → Bool) (i : ℕ) : firstOf d i 0 = 0 := rfl

theorem firstOf_succ (d : ℕ → Bool) (i k : ℕ) : firstOf d i (k + 1) = 2 * firstOf d i k + (d (5 * i + k)).toNat := by
  simp [firstOf, List.range_succ]

theorem firstOf_lt (d : ℕ → Bool) (i k : ℕ) : firstOf d i k < 2 ^ k := by
  induction k with
  | zero => simp
  | succ k ih =>
    have hdigit := (d (5 * i + k)).toNat_le
    rw [firstOf_succ, Nat.pow_succ]
    omega

variable (s : Span α) (x : α) (t : Span α) (y : α)

/-- The spans are narrowed in turn, and each group of five digits has become a letter. -/
def after (n : ℕ) : Encoder α where
  lng := s.narrowed x ((n + 1) / 2)
  lat := t.narrowed y (n / 2)
  lngIsNext := n % 2 = 0
  pending := n % 5
  index := firstOf (digit s x t y) (n / 5) (n % 5)
  letters := (List.range (n / 5)).map (letter (digit s x t y))

theorem after_zero : after s x t y 0 = start s t := rfl

theorem bisect_after (n : ℕ) : (after s x t y n).bisect x y =
    { after s x t y (n + 1) with
      pending := n % 5 + 1
      index := firstOf (digit s x t y) (n / 5) (n % 5 + 1)
      letters := (List.range (n / 5)).map (letter (digit s x t y)) } := by
  have hplace : 5 * (n / 5) + n % 5 = n := Nat.div_add_mod n 5
  -- longitudes have the even turns
  rcases Nat.mod_two_eq_zero_or_one n with hn | hn
  · have hlng : (n + 1) / 2 = n / 2 := by omega
    have hnext : (n + 1 + 1) / 2 = n / 2 + 1 := by omega
    have hodd : ¬(n + 1) % 2 = 0 := by omega
    simp [bisect, after, firstOf_succ, hplace, digit, hn, hlng, hnext, hodd, Span.narrowed_succ]
  · have hnext : (n + 1) / 2 = n / 2 + 1 := by omega
    have hlng : (n + 1 + 1) / 2 = n / 2 + 1 := by omega
    have heven : (n + 1) % 2 = 0 := by omega
    simp [bisect, after, firstOf_succ, hplace, digit, hn, hlng, hnext, heven, Span.narrowed_succ]

/-- No turn fails: five digits in a row are the place of a letter. -/
theorem turn_after (n : ℕ) : (after s x t y n).turn x y = some (after s x t y (n + 1)) := by
  rw [turn, bisect_after]
  by_cases hfull : n % 5 = 4
  · have hrest : (n + 1) % 5 = 0 := by omega
    have hgroups : (n + 1) / 5 = n / 5 + 1 := by omega
    have hletter : alphabet[firstOf (digit s x t y) (n / 5) 5]? = some (letter (digit s x t y) (n / 5)) :=
      List.getElem?_eq_getElem (group_lt_length (digit s x t y) (n / 5))
    simp [emit, after, hfull, hrest, hgroups, hletter, List.range_succ]
  · have hrest : (n + 1) % 5 = n % 5 + 1 := by omega
    have hgroups : (n + 1) / 5 = n / 5 := by omega
    have hpending : n % 5 + 1 ≠ 5 := by omega
    simp [emit, after, hpending, hrest, hgroups]

theorem length_letters_after (n : ℕ) : (after s x t y n).letters.length = n / 5 := by simp [after]

variable {s x t y}

/-- The encoder takes its turns one after the other as long as less than five for each letter are taken. -/
theorem turns_iff {precision n : ℕ} {e : Encoder α} :
    Turns precision x y (start s t) n e ↔ n ≤ 5 * precision ∧ e = after s x t y n := by
  constructor
  · intro h
    -- a turn needs a missing letter, and there are as many letters as there are groups of five turns
    induction h with
    | none => exact ⟨Nat.zero_le _, (after_zero s x t y).symm⟩
    | more before missing taken ih =>
      obtain ⟨-, rfl⟩ := ih
      rw [length_letters_after] at missing
      rw [turn_after] at taken
      exact ⟨by omega, (Option.some.inj taken).symm⟩
  · rintro ⟨hn, rfl⟩
    induction n with
    | zero => exact .none
    | succ n ih =>
      have hmissing : (after s x t y n).letters.length < precision := by
        rw [length_letters_after]
        omega
      exact .more (ih (by omega)) hmissing (turn_after s x t y n)

theorem stops_iff {precision n : ℕ} {found : List Char} :
    Stops precision x y (start s t) n found ↔
      n = 5 * precision ∧ found = (List.range precision).map (letter (digit s x t y)) := by
  constructor
  · rintro ⟨e, hturns, hstop, rfl⟩
    obtain ⟨hn, rfl⟩ := turns_iff.mp hturns
    rw [length_letters_after] at hstop
    obtain rfl : n = 5 * precision := by omega
    simp [after]
  · rintro ⟨rfl, rfl⟩
    exact ⟨_, turns_iff.mpr ⟨Nat.le_refl _, rfl⟩, by simp [after], by simp [after]⟩

end Encoder

namespace Point

theorem toList_geohash (precision : ℕ) (p : Point) :
    (p.geohash precision).toList = (List.range precision).map (letter (digit lngSpan p.lng latSpan p.lat)) := by
  rw [geohash, String.toList_ofList, halves_eq, letters_eq]

/-- An encoder of any two doubles never fails, looks up its letters within the alphabet, stops after exactly five
turns for each letter and has then written the geohash, of which it would have written the first letters alone had
fewer been wanted. -/
theorem geohash_written (p : Point) (precision : ℕ) :
    (∀ n found, Encoder.Stops precision p.lng p.lat (.start lngSpan latSpan) n found ↔
      n = 5 * precision ∧ found = (p.geohash precision).toList) ∧
    (∀ n e, Encoder.Turns precision p.lng p.lat (.start lngSpan latSpan) n e →
      (e.bisect p.lng p.lat).index < 32 ∧ (e.turn p.lng p.lat).isSome = true) ∧
    (p.geohash precision).length = precision ∧
    (∀ c ∈ (p.geohash precision).toList, c ∈ alphabet) ∧
    ∀ higher, precision ≤ higher → (p.geohash precision).toList = (p.geohash higher).toList.take precision := by
  refine ⟨fun n found => ?_, fun n e hturns => ?_, ?_, fun c hc => ?_, fun higher hle => ?_⟩
  · rw [toList_geohash]
    exact Encoder.stops_iff
  · obtain ⟨-, rfl⟩ := Encoder.turns_iff.mp hturns
    refine ⟨?_, by rw [Encoder.turn_after, Option.isSome_some]⟩
    rw [Encoder.bisect_after]
    calc Encoder.firstOf _ (n / 5) (n % 5 + 1) < 2 ^ (n % 5 + 1) := Encoder.firstOf_lt _ _ _
      _ ≤ 2 ^ 5 := Nat.pow_le_pow_right Nat.two_pos (Nat.mod_lt n (by decide))
  · rw [← String.length_toList, toList_geohash, List.length_map, List.length_range]
  · rw [toList_geohash] at hc
    obtain ⟨i, -, rfl⟩ := List.mem_map.mp hc
    exact List.get_mem _ _
  · rw [toList_geohash, toList_geohash, ← List.map_take, List.take_range, Nat.min_eq_left hle]

end Point

end FleetLocator.Geo
