import FleetLocator.Proofs.Decimal.Order
import FleetLocator.Proofs.Text.Utf8
import FleetLocator.Search.Ranking
import Mathlib.Data.List.Sort

/-!
# The order of a ranking

Things that have a key are sorted by it, and stay as they were where keys are the same. To sort two lists together
is to merge them sorted, and the first of a merge come from the first of its parts. Of candidates with different
identifiers the matches are ranked strictly, by distance and then by the bytes of the identifier, and no other list
of these matches is in this order.
-/
namespace FleetLocator.Search

open Decimal (place)
open Text (Utf8.encode)

section

variable {α κ : Type} [LinearOrder κ]

/-- The order of keys, in which different things can be as high. -/
def byKey (key : α → κ) (a b : α) : Bool := decide (key a ≤ key b)

theorem byKey_iff {key : α → κ} {a b : α} : byKey key a b = true ↔ key a ≤ key b := decide_eq_true_iff

theorem byKey_trans (key : α → κ) (a b c : α) (hab : byKey key a b = true) (hbc : byKey key b c = true) :
    byKey key a c = true := byKey_iff.mpr ((byKey_iff.mp hab).trans (byKey_iff.mp hbc))

theorem byKey_total (key : α → κ) (a b : α) : (byKey key a b || byKey key b a) = true := by
  rw [Bool.or_eq_true, byKey_iff, byKey_iff]
  exact le_total (key a) (key b)

theorem pairwise_byKey (key : α → κ) (xs : List α) :
    (xs.mergeSort (byKey key)).Pairwise fun a b => byKey key a b = true :=
  List.pairwise_mergeSort (byKey_trans key) (byKey_total key) xs

variable {key : α → κ}

theorem orderedInsert_append {a : α} {xs ys : List α} (hxs : ∀ x ∈ xs, key x < key a) (hys : ∀ y ∈ ys, key a ≤ key y) :
    (xs ++ ys).orderedInsert (key · ≤ key ·) a = xs ++ a :: ys := by
  induction xs with
  | nil =>
    cases ys with
    | nil => rfl
    | cons y ys => rw [List.nil_append, List.orderedInsert_cons, if_pos (hys y List.mem_cons_self), List.nil_append]
  | cons x xs ih =>
    have hx : ¬key a ≤ key x := (hxs x List.mem_cons_self).not_ge
    rw [List.cons_append, List.orderedInsert_cons, if_neg hx, ih fun b hb => hxs b (List.mem_cons_of_mem x hb),
      List.cons_append]

/-- The first of a list is sorted into the others before all that are as high. -/
theorem exists_mergeSort_cons (key : α → κ) (a : α) (xs : List α) :
    ∃ before after, (a :: xs).mergeSort (byKey key) = before ++ a :: after ∧
      xs.mergeSort (byKey key) = before ++ after ∧ (∀ b ∈ before, key b < key a) ∧ ∀ c ∈ after, key a ≤ key c := by
  obtain ⟨before, after, hcons, hrest, hbefore⟩ := List.mergeSort_cons (byKey_trans key) (byKey_total key) a xs
  have hsorted := pairwise_byKey key (a :: xs)
  rw [hcons] at hsorted
  have hafter := (List.pairwise_cons.mp (List.pairwise_append.mp hsorted).2.1).1
  refine ⟨before, after, hcons, hrest, fun b hb => ?_, fun c hc => byKey_iff.mp (hafter c hc)⟩
  have hab := hbefore b hb
  rw [Bool.not_eq_true', ← Bool.not_eq_true, byKey_iff] at hab
  exact not_le.mp hab

/-- Sorting is stable: what comes first in a list stays before all that is as high. -/
theorem mergeSort_cons_eq (a : α) (xs : List α) :
    (a :: xs).mergeSort (byKey key) = (xs.mergeSort (byKey key)).orderedInsert (key · ≤ key ·) a := by
  obtain ⟨before, after, hcons, hrest, hbefore, hafter⟩ := exists_mergeSort_cons key a xs
  rw [hcons, hrest, orderedInsert_append hbefore hafter]

/-- Where positions go up along a list, the list sorted by keys is in the order of keys and then of positions. -/
theorem pairwise_mergeSort_position {position : α → ℕ} {xs : List α}
    (h : xs.Pairwise fun a b => position a < position b) :
    (xs.mergeSort (byKey key)).Pairwise fun a b => key a < key b ∨ key a = key b ∧ position a < position b := by
  induction xs with
  | nil => simp
  | cons a xs ih =>
    obtain ⟨hfirst, hlater⟩ := List.pairwise_cons.mp h
    obtain ⟨before, after, hcons, hrest, hbefore, hafter⟩ := exists_mergeSort_cons key a xs
    have hsorted := ih hlater
    rw [hrest] at hsorted
    obtain ⟨hlow, hhigh, hacross⟩ := List.pairwise_append.mp hsorted
    rw [hcons]
    refine List.pairwise_append.mpr ⟨hlow, List.pairwise_cons.mpr ⟨fun c hc => ?_, hhigh⟩, fun b hb c hc => ?_⟩
    · have hmem : c ∈ xs := List.mem_mergeSort.mp (hrest ▸ List.mem_append_right before hc)
      exact (hafter c hc).lt_or_eq.imp_right fun heq => ⟨heq, hfirst c hmem⟩
    · rcases List.mem_cons.mp hc with rfl | hc
      · exact .inl (hbefore b hb)
      · exact hacross b hb c hc

/-- What is left out of a list is left out of the sorted list. -/
theorem filter_mergeSort (p : α → Bool) (xs : List α) :
    (xs.mergeSort (byKey key)).filter p = (xs.filter p).mergeSort (byKey key) := by
  induction xs with
  | nil => simp
  | cons a xs ih =>
    obtain ⟨before, after, hcons, hrest, hbefore, hafter⟩ := exists_mergeSort_cons key a xs
    rw [hrest, List.filter_append] at ih
    rw [hcons, List.filter_append]
    by_cases ha : p a = true
    · rw [List.filter_cons_of_pos ha, List.filter_cons_of_pos ha, mergeSort_cons_eq, ← ih,
        orderedInsert_append (fun b hb => hbefore b (List.mem_of_mem_filter hb))
          fun c hc => hafter c (List.mem_of_mem_filter hc)]
    · rw [List.filter_cons_of_neg ha, List.filter_cons_of_neg ha, ih]

/-- What is kept of a list comes first in it, if nothing that is kept comes after something that is not. -/
theorem filter_prefix {p : α → Bool} {xs : List α} (h : xs.Pairwise fun a b => p b = true → p a = true) :
    xs.filter p <+: xs := by
  induction xs with
  | nil => exact List.nil_prefix
  | cons a xs ih =>
    obtain ⟨hfirst, hlater⟩ := List.pairwise_cons.mp h
    by_cases ha : p a = true
    · rw [List.filter_cons_of_pos ha]
      exact List.cons_prefix_cons.mpr ⟨rfl, ih hlater⟩
    · have hnone : ∀ b ∈ xs, ¬p b = true := fun b hb hpb => ha (hfirst b hb hpb)
      rw [List.filter_cons_of_neg ha, List.filter_eq_nil_iff.mpr hnone]
      exact List.nil_prefix

/-- What is inserted into one part of a merge is inserted into the merge. -/
theorem merge_orderedInsert (a : α) (xs ys : List α) :
    List.merge (xs.orderedInsert (key · ≤ key ·) a) ys (byKey key) =
      (List.merge xs ys (byKey key)).orderedInsert (key · ≤ key ·) a := by
  induction xs generalizing ys with
  | nil =>
    rw [List.nil_merge, List.orderedInsert_nil]
    induction ys with
    | nil => rw [List.merge_right, List.orderedInsert_nil]
    | cons y ys ih => simp [List.cons_merge_cons, byKey_iff, ih]
  | cons x xs ihx =>
    induction ys with
    | nil => simp
    | cons y ys ihy =>
      by_cases hax : key a ≤ key x
      · rw [List.orderedInsert_cons, if_pos hax] at ihy ⊢
        by_cases hay : key a ≤ key y
        · have hhead : byKey key a y = true := byKey_iff.mpr hay
          rw [List.cons_merge_cons_pos _ _ _ hhead, List.cons_merge_cons]
          split
          · rw [List.orderedInsert_cons, if_pos hax]
          · rw [List.orderedInsert_cons, if_pos hay]
        · have hxy : ¬key x ≤ key y := fun h => hay (hax.trans h)
          rw [List.cons_merge_cons_neg _ _ _ (byKey_iff.not.mpr hay),
            List.cons_merge_cons_neg _ _ _ (byKey_iff.not.mpr hxy), List.orderedInsert_cons, if_neg hay, ihy]
      · rw [List.orderedInsert_cons, if_neg hax] at ihy ⊢
        by_cases hxy : key x ≤ key y
        · have hhead : byKey key x y = true := byKey_iff.mpr hxy
          rw [List.cons_merge_cons_pos _ _ _ hhead, List.cons_merge_cons_pos _ _ _ hhead,
            List.orderedInsert_cons, if_neg hax, ihx]
        · have hay : ¬key a ≤ key y := fun h => hax (h.trans (le_of_not_ge hxy))
          rw [List.cons_merge_cons_neg _ _ _ (byKey_iff.not.mpr hxy),
            List.cons_merge_cons_neg _ _ _ (byKey_iff.not.mpr hxy), List.orderedInsert_cons, if_neg hay, ihy]

theorem mergeSort_append (xs ys : List α) :
    (xs ++ ys).mergeSort (byKey key) =
      List.merge (xs.mergeSort (byKey key)) (ys.mergeSort (byKey key)) (byKey key) := by
  induction xs with
  | nil => rw [List.nil_append, List.mergeSort_nil, List.nil_merge]
  | cons x xs ih => rw [List.cons_append, mergeSort_cons_eq, mergeSort_cons_eq, merge_orderedInsert, ih]

/-- Of each list only the first count for the first of a merge. -/
theorem take_merge_take {le : α → α → Bool} {n i j : Nat} (hi : n ≤ i) (hj : n ≤ j) (xs ys : List α) :
    (List.merge (xs.take i) (ys.take j) le).take n = (List.merge xs ys le).take n := by
  induction n generalizing i j xs ys with
  | zero => rw [List.take_zero, List.take_zero]
  | succ n ih =>
    obtain ⟨i, rfl⟩ := Nat.exists_eq_add_of_le' hi
    obtain ⟨j, rfl⟩ := Nat.exists_eq_add_of_le' hj
    cases xs with
    | nil => simp [List.take_take]
    | cons x xs =>
      cases ys with
      | nil => simp [List.take_take]
      | cons y ys =>
        rw [← Nat.add_assoc, ← Nat.add_assoc, List.take_succ_cons, List.take_succ_cons,
          List.cons_merge_cons, List.cons_merge_cons]
        split
        · have hrest := ih (i := i + n) (j := j + n + 1) (by omega) (by omega) xs (y :: ys)
          rw [List.take_succ_cons] at hrest
          rw [List.take_succ_cons, List.take_succ_cons, hrest]
        · have hrest := ih (i := i + n + 1) (j := j + n) (by omega) (by omega) (x :: xs) ys
          rw [List.take_succ_cons] at hrest
          rw [List.take_succ_cons, List.take_succ_cons, hrest]

end

namespace Match

/-- Whether a match comes before another: it is nearer, or as near with lower bytes. -/
def Before (a b : Match) : Prop :=
  a.distance < b.distance ∨
    (a.distance == b.distance) = true ∧ Utf8.encode a.driver.id < Utf8.encode b.driver.id

/-- What matches are ordered by. -/
def key (m : Match) : (ℤ ×ₗ ℤ ×ₗ ℤ) ×ₗ String := toLex (place m.distance, m.driver.id)

variable {a b : Match}

theorem before_iff_key (ha : a.distance.isNaN = false) (hb : b.distance.isNaN = false) :
    a.Before b ↔ a.key < b.key := by
  rw [Before, Decimal.lt_iff_place ha hb, Decimal.beq_iff_place ha hb, Text.Utf8.encode_lt_encode_iff, key, key,
    Prod.Lex.toLex_lt_toLex]

theorem le_iff_key (ha : a.distance.isNaN = false) (hb : b.distance.isNaN = false) :
    a.le b = true ↔ a.key ≤ b.key := by
  rw [le, Bool.or_eq_true, Bool.and_eq_true, Bool.not_eq_true', decide_eq_true_eq, decide_eq_false_iff_not,
    decide_eq_true_eq, Decimal.lt_iff_place ha hb, Decimal.not_lt_iff hb ha, Decimal.le_iff_place ha hb, key, key,
    Prod.Lex.toLex_le_toLex]
  constructor
  · rintro (hlt | ⟨hle, hid⟩)
    · exact .inl hlt
    · exact hle.lt_or_eq.imp_right fun heq => ⟨heq, hid⟩
  · rintro (hlt | ⟨heq, hid⟩)
    · exact .inl hlt
    · exact .inr ⟨heq.le, hid⟩

theorem Before.isNaN (h : a.Before b) : a.distance.isNaN = false ∧ b.distance.isNaN = false := by
  rcases h with hlt | ⟨heq, -⟩
  · exact Decimal.isNaN_of_lt hlt
  · exact Decimal.isNaN_of_beq heq

theorem Before.asymm (h : a.Before b) : ¬b.Before a := by
  obtain ⟨ha, hb⟩ := h.isNaN
  rw [before_iff_key hb ha]
  exact ((before_iff_key ha hb).mp h).not_gt

end Match

/-- Two lists of the same matches in this order are one. -/
theorem eq_of_pairwise_before {ms ns : List Match} (hms : ms.Pairwise Match.Before)
    (hns : ns.Pairwise Match.Before) (hmem : ∀ m, m ∈ ms ↔ m ∈ ns) : ms = ns := by
  have hne {a b : Match} (h : a.Before b) : a ≠ b := fun heq => h.asymm (heq ▸ h)
  have hperm : ms.Perm ns := (List.perm_ext_iff_of_nodup (hms.imp hne) (hns.imp hne)).mpr hmem
  exact List.Perm.eq_of_pairwise (fun _ _ _ _ hab hba => absurd hba hab.asymm) hms hns hperm

namespace Query

variable {q : Query} {candidates : List Driver.Record} {m : Match}

theorem match?_eq_some_iff {r : Driver.Record} :
    q.match? r = some m ↔ m.driver = r ∧
      ∃ p, r.location = some p ∧ p.isValid = true ∧ m.distance = q.origin.distance p ∧ m.distance ≤ q.radius := by
  obtain ⟨driver, distance⟩ := m
  unfold match?
  cases hloc : r.location with
  | none => simp
  | some p =>
    rw [Option.bind_eq_bind, Option.bind_some]
    constructor
    · intro h
      split at h
      · next hvalid =>
        dsimp only at h
        split at h
        · next hle =>
          cases h
          exact ⟨rfl, p, rfl, hvalid, rfl, hle⟩
        · exact absurd h (by simp)
      · exact absurd h (by simp)
    · rintro ⟨hr, p', hp, hvalid, hdistance, hle⟩
      obtain rfl := Option.some.inj hp
      dsimp only at hr hdistance hle
      subst hr hdistance
      rw [if_pos hvalid, if_pos hle]

theorem mem_ranking_iff :
    m ∈ q.ranking candidates ↔ m.driver ∈ candidates ∧
      ∃ p, m.driver.location = some p ∧ p.isValid = true ∧ m.distance = q.origin.distance p ∧
        m.distance ≤ q.radius := by
  rw [ranking, List.mem_mergeSort, List.mem_filterMap]
  constructor
  · rintro ⟨r, hr, hm⟩
    obtain ⟨rfl, hm⟩ := match?_eq_some_iff.mp hm
    exact ⟨hr, hm⟩
  · rintro ⟨hr, hm⟩
    exact ⟨m.driver, hr, match?_eq_some_iff.mpr ⟨rfl, hm⟩⟩

theorem isNaN_of_mem_ranking (h : m ∈ q.ranking candidates) : m.distance.isNaN = false := by
  obtain ⟨-, p, -, -, -, hle⟩ := mem_ranking_iff.mp h
  exact (Decimal.isNaN_of_le hle).1

/-- The matches are sorted by their keys, since none of them is at a distance that is no number. -/
theorem ranking_eq (q : Query) (candidates : List Driver.Record) :
    q.ranking candidates = (candidates.filterMap q.match?).mergeSort (byKey Match.key) := by
  rw [ranking, ← List.map_id ((candidates.filterMap q.match?).mergeSort Match.le), List.map_mergeSort, List.map_id]
  intro a ha b hb
  rw [Bool.eq_iff_iff, id, id, byKey_iff]
  exact Match.le_iff_key (isNaN_of_mem_ranking (List.mem_mergeSort.mpr ha))
    (isNaN_of_mem_ranking (List.mem_mergeSort.mpr hb))

theorem pairwise_key_ranking (q : Query) (candidates : List Driver.Record) :
    (q.ranking candidates).Pairwise fun a b => a.key ≤ b.key := by
  rw [ranking_eq]
  exact (pairwise_byKey Match.key _).imp byKey_iff.mp

/-- What is ranked lower is not nearer. -/
theorem pairwise_distance_ranking (q : Query) (candidates : List Driver.Record) :
    (q.ranking candidates).Pairwise fun a b => a.distance ≤ b.distance := by
  refine (pairwise_key_ranking q candidates).imp_of_mem fun ha hb hkey => ?_
  rw [Decimal.le_iff_place (isNaN_of_mem_ranking ha) (isNaN_of_mem_ranking hb)]
  rcases Prod.Lex.le_iff.mp hkey with hlt | ⟨heq, -⟩
  · exact hlt.le
  · exact heq.le

/-- A single candidate within the radius is all that is found. -/
theorem rank_singleton {r : Driver.Record} {p : Geo.Point} (hp : r.location = some p) (hvalid : p.isValid = true)
    (hle : q.origin.distance p ≤ q.radius) (hlimit : q.limit ≠ 0) : q.rank [r] = [⟨r, q.origin.distance p⟩] := by
  have hmatch : q.match? r = some ⟨r, q.origin.distance p⟩ :=
    match?_eq_some_iff.mpr ⟨rfl, p, hp, hvalid, rfl, hle⟩
  have hpos : q.limit.toNat ≠ 0 := fun h => hlimit (UInt32.toNat_inj.mp h)
  obtain ⟨n, hn⟩ := Nat.exists_eq_succ_of_ne_zero hpos
  simp [rank, ranking, hmatch, hn]

/-- Each candidate is found at most once. -/
theorem nodup_ranking (h : (candidates.map Driver.Record.id).Nodup) :
    ((q.ranking candidates).map fun m => m.driver.id).Nodup := by
  have hperm := List.mergeSort_perm (candidates.filterMap q.match?) Match.le
  rw [ranking, (hperm.map _).nodup_iff, List.Nodup, List.pairwise_map]
  rw [List.Nodup, List.pairwise_map] at h
  refine h.filterMap _ fun r s hne m hm n hn => ?_
  obtain ⟨rfl, -⟩ := match?_eq_some_iff.mp hm
  obtain ⟨rfl, -⟩ := match?_eq_some_iff.mp hn
  exact hne

/-- Nearer drivers come first, and of those as near the one with lower bytes. -/
theorem pairwise_ranking (h : (candidates.map Driver.Record.id).Nodup) :
    (q.ranking candidates).Pairwise Match.Before := by
  have hids : (q.ranking candidates).Pairwise fun a b => a.driver.id ≠ b.driver.id :=
    List.pairwise_map.mp (nodup_ranking h)
  refine ((pairwise_key_ranking q candidates).and hids).imp_of_mem fun ha hb hab => ?_
  obtain ⟨hle, hne⟩ := hab
  rw [Match.before_iff_key (isNaN_of_mem_ranking ha) (isNaN_of_mem_ranking hb)]
  exact hle.lt_of_ne fun heq => hne (congrArg (fun k => (ofLex k).2) heq)

end Query

end FleetLocator.Search
