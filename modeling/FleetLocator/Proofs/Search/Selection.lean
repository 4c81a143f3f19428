import FleetLocator.Proofs.Search.Order

/-!
# What a search picks of its candidates

A search picks as many eligible candidates as are wanted, each from a position of its own, and none that is
left out belongs before one that was picked. Matches with the same key stay in the order of their candidates.
No distance that is sorted by is no number, so the comparator of matches is an order of them. A wider radius or a
higher limit adds drivers only behind those that were found.
-/
namespace FleetLocator.Search

open Driver (Record)

/-- How two doubles compare, if both are numbers. -/
def compare? (x y : Float) : Option Ordering :=
  match decide (x ≤ y), decide (y ≤ x) with
  | true, true => some .eq
  | true, false => some .lt
  | false, true => some .gt
  | false, false => none

section Compare

variable {x y : Float}

private theorem isLE_compare_iff {κ : Type} [LinearOrder κ] {a b : κ} : (compare a b).isLE = true ↔ a ≤ b := by
  rw [Ordering.isLE_iff_ne_gt, ← compare_le_iff_le]

theorem compare?_eq_compare (hx : x.isNaN = false) (hy : y.isNaN = false) :
    compare? x y = some (compare (Decimal.place x) (Decimal.place y)) := by
  rcases lt_trichotomy (Decimal.place x) (Decimal.place y) with h | h | h
  · simp [compare?, Decimal.le_iff_place hx hy, Decimal.le_iff_place hy hx, h.le, h.not_ge, compare_lt_iff_lt.mpr h]
  · simp [compare?, Decimal.le_iff_place hx hy, Decimal.le_iff_place hy hx, h]
  · simp [compare?, Decimal.le_iff_place hx hy, Decimal.le_iff_place hy hx, h.le, h.not_ge, compare_gt_iff_gt.mpr h]

theorem compare?_eq_none (h : ¬(x.isNaN = false ∧ y.isNaN = false)) : compare? x y = none := by
  have hle : ¬x ≤ y := fun hle => h (Decimal.isNaN_of_le hle)
  have hge : ¬y ≤ x := fun hge => h (Decimal.isNaN_of_le hge).symm
  simp [compare?, hle, hge]

end Compare

namespace Match

/-- The comparator of matches: distances that do not compare count as equal. -/
def ordering (a b : Match) : Ordering :=
  ((compare? a.distance b.distance).getD .eq).then (compare a.driver.id b.driver.id)

/-- Neither match comes before the other: they are as near, with the same identifier. -/
def Ties (a b : Match) : Prop := (a.distance == b.distance) = true ∧ a.driver.id = b.driver.id

variable {a b : Match}

theorem ordering_eq_compare (ha : a.distance.isNaN = false) (hb : b.distance.isNaN = false) :
    a.ordering b = compare a.key b.key := by
  rw [ordering, compare?_eq_compare ha hb, Option.getD_some]
  rfl

theorem ties_iff_key (ha : a.distance.isNaN = false) (hb : b.distance.isNaN = false) :
    a.Ties b ↔ a.key = b.key := by
  rw [Ties, Decimal.beq_iff_place ha hb, key, key, toLex_inj, Prod.mk.injEq]

/-- Matches are sorted by what the comparator says, whatever their distances are. -/
theorem le_eq_isLE (a b : Match) : a.le b = (a.ordering b).isLE := by
  rw [Bool.eq_iff_iff]
  by_cases h : a.distance.isNaN = false ∧ b.distance.isNaN = false
  · rw [le_iff_key h.1 h.2, ordering_eq_compare h.1 h.2, isLE_compare_iff]
  · have hlt : ¬a.distance < b.distance := fun hlt => h (Decimal.isNaN_of_lt hlt)
    have hgt : ¬b.distance < a.distance := fun hgt => h (Decimal.isNaN_of_lt hgt).symm
    simp [le, ordering, compare?_eq_none h, hlt, hgt, isLE_compare_iff]

end Match

/-- Distances that are sorted by are numbers that compare, and the comparator orders what is sorted. -/
structure Comparable (ms : List Match) : Prop where
  isNaN : ∀ a ∈ ms, a.distance.isNaN = false
  compares : ∀ a ∈ ms, ∀ b ∈ ms, (compare? a.distance b.distance).isSome = true
  swap : ∀ a ∈ ms, ∀ b ∈ ms, b.ordering a = (a.ordering b).swap
  trans : ∀ a ∈ ms, ∀ b ∈ ms, ∀ c ∈ ms, (a.ordering b).isLE = true → (b.ordering c).isLE = true →
    (a.ordering c).isLE = true

theorem comparable_of_isNaN {ms : List Match} (h : ∀ a ∈ ms, a.distance.isNaN = false) : Comparable ms where
  isNaN := h
  compares a ha b hb := by rw [compare?_eq_compare (h a ha) (h b hb), Option.isSome_some]
  swap a ha b hb := by
    rw [Match.ordering_eq_compare (h b hb) (h a ha), Match.ordering_eq_compare (h a ha) (h b hb)]
    exact Std.OrientedOrd.eq_swap
  trans a ha b hb c hc := by
    rw [Match.ordering_eq_compare (h a ha) (h b hb), Match.ordering_eq_compare (h b hb) (h c hc),
      Match.ordering_eq_compare (h a ha) (h c hc), isLE_compare_iff, isLE_compare_iff, isLE_compare_iff]
    exact le_trans

/-- A match, and where its driver is among the candidates. -/
structure Pick where
  found : Match
  position : ℕ

namespace Pick

/-- A pick comes before another if its match does, or if it has the earlier candidate and neither does. -/
def Precedes (a b : Pick) : Prop :=
  a.found.Before b.found ∨ a.found.Ties b.found ∧ a.position < b.position

variable {a b : Pick}

theorem precedes_iff_key (ha : a.found.distance.isNaN = false) (hb : b.found.distance.isNaN = false) :
    a.Precedes b ↔ a.found.key < b.found.key ∨ a.found.key = b.found.key ∧ a.position < b.position := by
  rw [Precedes, Match.before_iff_key ha hb, Match.ties_iff_key ha hb]

theorem Precedes.not_before (h : a.Precedes b) : ¬b.found.Before a.found := by
  rcases h with hbefore | ⟨⟨hdistance, hid⟩, -⟩
  · exact hbefore.asymm
  · intro hbefore
    obtain ⟨ha, hb⟩ := Decimal.isNaN_of_beq hdistance
    rw [Match.before_iff_key hb ha, (Match.ties_iff_key ha hb).mp ⟨hdistance, hid⟩] at hbefore
    exact lt_irrefl _ hbefore

end Pick

namespace Query

/-- The place of a driver is known, valid and within the radius. -/
def isEligible (q : Query) (r : Record) : Bool :=
  r.location.any fun p => p.isValid && decide (q.origin.distance p ≤ q.radius)

/-- The driver of a pick is the candidate at its position, eligible, and at the distance of the match. -/
def Finds (q : Query) (candidates : List Record) (a : Pick) : Prop :=
  ∃ r p, candidates[a.position]? = some r ∧ r.location = some p ∧ q.isEligible r = true ∧
    a.found = ⟨r, q.origin.distance p⟩

/-- The picks are as many eligible candidates as are wanted, in order, and no other belongs before them. -/
structure Selects (q : Query) (candidates : List Record) (picks : List Pick) : Prop where
  length : picks.length = min q.limit.toNat (candidates.countP q.isEligible)
  finds : ∀ a ∈ picks, q.Finds candidates a
  nodup : (picks.map Pick.position).Nodup
  ordered : picks.Pairwise Pick.Precedes
  first : ∀ a, q.Finds candidates a → a.position ∉ picks.map Pick.position →
    ∀ b ∈ picks, b.Precedes a ∧ ¬a.found.Before b.found

variable {q : Query} {candidates : List Record}

theorem isEligible_iff {r : Record} :
    q.isEligible r = true ↔ ∃ p, r.location = some p ∧ p.isValid = true ∧ q.origin.distance p ≤ q.radius := by
  simp [isEligible, Option.any_eq_true]

theorem isSome_match? (q : Query) (r : Record) : (q.match? r).isSome = q.isEligible r := by
  rw [Bool.eq_iff_iff, Option.isSome_iff_exists, isEligible_iff]
  constructor
  · rintro ⟨m, hm⟩
    obtain ⟨-, p, hp, hvalid, hdistance, hle⟩ := match?_eq_some_iff.mp hm
    exact ⟨p, hp, hvalid, hdistance ▸ hle⟩
  · rintro ⟨p, hp, hvalid, hle⟩
    exact ⟨⟨r, q.origin.distance p⟩, match?_eq_some_iff.mpr ⟨rfl, p, hp, hvalid, rfl, hle⟩⟩

/-- The matches of the candidates with their positions. -/
def found (q : Query) (candidates : List Record) : List Pick :=
  candidates.zipIdx.filterMap fun c => (q.match? c.1).map (Pick.mk · c.2)

theorem map_found (q : Query) (candidates : List Record) :
    (q.found candidates).map Pick.found = candidates.filterMap q.match? := by
  conv_rhs => rw [← List.zipIdx_map_fst 0 candidates]
  rw [found, List.map_filterMap, List.filterMap_map]
  congr
  funext c
  rw [Option.map_map, Function.comp_apply]
  exact Option.map_id'

theorem pairwise_position_found (q : Query) (candidates : List Record) :
    (q.found candidates).Pairwise fun a b => a.position < b.position := by
  have hpositions : candidates.zipIdx.Pairwise fun c d => c.2 < d.2 := by
    rw [← List.pairwise_map (f := Prod.snd) (R := (· < ·)), List.zipIdx_map_snd]
    exact List.pairwise_lt_range' 1
  refine hpositions.filterMap _ fun c d hlt a ha b hb => ?_
  obtain ⟨m, -, rfl⟩ := Option.map_eq_some_iff.mp ha
  obtain ⟨n, -, rfl⟩ := Option.map_eq_some_iff.mp hb
  exact hlt

theorem mem_found_iff {a : Pick} : a ∈ q.found candidates ↔ q.Finds candidates a := by
  rw [found, List.mem_filterMap]
  constructor
  · rintro ⟨⟨r, i⟩, hc, ha⟩
    obtain ⟨m, hm, rfl⟩ := Option.map_eq_some_iff.mp ha
    obtain ⟨rfl, p, hp, hvalid, hdistance, hle⟩ := match?_eq_some_iff.mp hm
    refine ⟨m.driver, p, List.mem_zipIdx_iff_getElem?.mp hc, hp, isEligible_iff.mpr ⟨p, hp, hvalid, ?_⟩, ?_⟩
    · exact hdistance ▸ hle
    · rw [← hdistance]
  · rintro ⟨r, p, hr, hp, heligible, hfound⟩
    obtain ⟨p', hp', hvalid, hle⟩ := isEligible_iff.mp heligible
    obtain rfl : p = p' := Option.some.inj (hp.symm.trans hp')
    have hmatch : q.match? r = some a.found :=
      match?_eq_some_iff.mpr (by rw [hfound]; exact ⟨rfl, p, hp, hvalid, rfl, hle⟩)
    exact ⟨(r, a.position), List.mem_zipIdx_iff_getElem?.mpr hr, by rw [hmatch]; rfl⟩

theorem length_found (q : Query) (candidates : List Record) :
    (q.found candidates).length = candidates.countP q.isEligible := by
  rw [← List.length_map Pick.found, map_found, List.length_filterMap_eq_countP]
  simp only [isSome_match?]

theorem isNaN_of_mem_found {a : Pick} (h : a ∈ q.found candidates) : a.found.distance.isNaN = false := by
  have hmem : a.found ∈ candidates.filterMap q.match? := map_found q candidates ▸ List.mem_map_of_mem h
  exact isNaN_of_mem_ranking (List.mem_mergeSort.mpr hmem)

/-- All that a search may pick, in order. -/
def picks (q : Query) (candidates : List Record) : List Pick :=
  (q.found candidates).mergeSort (byKey fun a => a.found.key)

theorem map_picks (q : Query) (candidates : List Record) :
    (q.picks candidates).map Pick.found = q.ranking candidates := by
  rw [ranking_eq, ← map_found, picks]
  exact List.map_mergeSort fun _ _ _ _ => rfl

theorem pairwise_picks (q : Query) (candidates : List Record) : (q.picks candidates).Pairwise Pick.Precedes := by
  refine (pairwise_mergeSort_position (pairwise_position_found q candidates)).imp_of_mem fun ha hb hab => ?_
  rw [Pick.precedes_iff_key (isNaN_of_mem_found (List.mem_mergeSort.mp ha))
    (isNaN_of_mem_found (List.mem_mergeSort.mp hb))]
  exact hab

theorem nodup_position_picks (q : Query) (candidates : List Record) :
    ((q.picks candidates).map Pick.position).Nodup := by
  have hperm := List.mergeSort_perm (q.found candidates) (byKey fun a => a.found.key)
  rw [picks, (hperm.map _).nodup_iff, List.Nodup, List.pairwise_map]
  exact (pairwise_position_found q candidates).imp ne_of_lt

/-- The first of them are what the search picks. -/
theorem selects_take (q : Query) (candidates : List Record) :
    q.Selects candidates ((q.picks candidates).take q.limit.toNat) where
  length := by rw [List.length_take, picks, List.length_mergeSort, length_found]
  finds a ha := mem_found_iff.mp (List.mem_mergeSort.mp (List.mem_of_mem_take ha))
  nodup := (nodup_position_picks q candidates).sublist ((List.take_sublist _ _).map _)
  ordered := (pairwise_picks q candidates).sublist (List.take_sublist _ _)
  first a ha hout b hb := by
    have hmem : a ∈ q.picks candidates := List.mem_mergeSort.mpr (mem_found_iff.mpr ha)
    have hall := pairwise_picks q candidates
    rw [← List.take_append_drop q.limit.toNat (q.picks candidates)] at hmem hall
    have hrest : a ∈ (q.picks candidates).drop q.limit.toNat :=
      (List.mem_append.mp hmem).resolve_left fun hin => hout (List.mem_map_of_mem hin)
    have hprecedes := (List.pairwise_append.mp hall).2.2 b hb a hrest
    exact ⟨hprecedes, hprecedes.not_before⟩

/-- A search sorts the matches by the comparator, which is an order of them, and picks the first. -/
theorem rank_selects (q : Query) (candidates : List Record) :
    (∃ chosen, q.rank candidates = chosen.map Pick.found ∧ q.Selects candidates chosen) ∧
    q.rank candidates =
      ((candidates.filterMap q.match?).mergeSort fun a b => (a.ordering b).isLE).take q.limit.toNat ∧
    Comparable (candidates.filterMap q.match?) := by
  refine ⟨⟨_, ?_, selects_take q candidates⟩, ?_, ?_⟩
  · rw [List.map_take, map_picks, rank]
  · simp only [rank, ranking, ← Match.le_eq_isLE]
  · exact comparable_of_isNaN fun a ha => isNaN_of_mem_ranking (List.mem_mergeSort.mpr ha)

end Query

namespace Query

variable {q w : Query} {candidates others : List Record}

/-- Candidates with different identifiers are ranked alike in any order. -/
theorem ranking_perm (h : (candidates.map Record.id).Nodup) (hperm : others.Perm candidates) :
    q.ranking others = q.ranking candidates := by
  have hothers : (others.map Record.id).Nodup := (hperm.map Record.id).nodup_iff.mpr h
  apply eq_of_pairwise_before (pairwise_ranking hothers) (pairwise_ranking h)
  intro m
  rw [mem_ranking_iff, mem_ranking_iff, hperm.mem_iff]

/-- Whether a match lies within the radius of a search. -/
def reaches (q : Query) (m : Match) : Bool := decide (m.distance ≤ q.radius)

/-- The matches within a radius are those within a wider one that it reaches. -/
theorem filterMap_match? (horigin : q.origin = w.origin) (hradius : q.radius ≤ w.radius) (candidates : List Record) :
    candidates.filterMap q.match? = (candidates.filterMap w.match?).filter q.reaches := by
  rw [List.filter_filterMap]
  congr
  funext r
  ext m
  rw [Option.filter_eq_some_iff, match?_eq_some_iff, match?_eq_some_iff, reaches, decide_eq_true_iff, horigin]
  constructor
  · rintro ⟨hr, p, hp, hvalid, hdistance, hle⟩
    exact ⟨⟨hr, p, hp, hvalid, hdistance, Decimal.le_of_le_of_le hle hradius⟩, hle⟩
  · rintro ⟨⟨hr, p, hp, hvalid, hdistance, -⟩, hle⟩
    exact ⟨hr, p, hp, hvalid, hdistance, hle⟩

/-- What a wider radius adds comes last. -/
theorem ranking_prefix (horigin : q.origin = w.origin) (hradius : q.radius ≤ w.radius) (candidates : List Record) :
    q.ranking candidates <+: w.ranking candidates := by
  have hfilter : q.ranking candidates = (w.ranking candidates).filter q.reaches := by
    rw [ranking_eq, ranking_eq, filterMap_match? horigin hradius, filter_mergeSort]
  rw [hfilter]
  apply filter_prefix
  refine (pairwise_distance_ranking w candidates).imp fun hnearer hreaches => ?_
  rw [reaches, decide_eq_true_iff] at hreaches ⊢
  exact Decimal.le_of_le_of_le hnearer hreaches

/-- A search finds the same in any order of candidates with different identifiers, and a search with a wider
radius and a higher limit first finds what the search without them does. -/
theorem rank_monotone (origin : Geo.Point) (candidates : List Record) :
    ((candidates.map Record.id).Nodup → ∀ (radius : Float) (limit : UInt32) (others : List Record),
      others.Perm candidates → rank ⟨origin, radius, limit⟩ others = rank ⟨origin, radius, limit⟩ candidates) ∧
    ∀ (radius wider : Float) (limit higher : UInt32), radius ≤ wider → limit ≤ higher →
      rank ⟨origin, radius, limit⟩ candidates <+: rank ⟨origin, wider, higher⟩ candidates := by
  constructor
  · intro hids radius limit others hperm
    rw [rank, rank, ranking_perm hids hperm]
  · intro radius wider limit higher hradius hlimit
    have hfirst := ranking_prefix (q := ⟨origin, radius, limit⟩) (w := ⟨origin, wider, higher⟩) rfl hradius candidates
    have hlimits : limit.toNat ≤ higher.toNat := hlimit
    exact (hfirst.take _).trans (List.take_prefix_take_left hlimits)

/-- Two drivers at one place and one at the other end of the earth in another order, and then within a radius
that only the former can be in and within one around the earth. -/
theorem rank_monotone_of_three :
    let near : Record := { id := "a", location := some ⟨1, 2⟩ }
    let same : Record := { id := "b", location := some ⟨1, 2⟩ }
    let far : Record := { id := "c", location := some ⟨-1, -178⟩ }
    rank ⟨⟨1, 2⟩, 5, 2⟩ [far, same, near] = rank ⟨⟨1, 2⟩, 5, 2⟩ [near, same, far] ∧
      rank ⟨⟨1, 2⟩, 5, 2⟩ [near, same, far] <+: rank ⟨⟨1, 2⟩, 50000, 3⟩ [near, same, far] :=
  ⟨(rank_monotone ⟨1, 2⟩ _).1 (by decide) 5 2 _ (by decide),
    (rank_monotone ⟨1, 2⟩ _).2 5 50000 2 3 (by decide) (by decide)⟩

end Query

end FleetLocator.Search
