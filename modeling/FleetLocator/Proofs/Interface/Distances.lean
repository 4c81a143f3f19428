import FleetLocator.Proofs.Interface.Search
import FleetLocator.Proofs.Service.Identity

/-!
# The distances that are reported

A distance of zero is reported as a metre. The distances of a search that are reported are in order, and within
the radius, but for this metre: it may stand before shorter distances, and beyond a radius that is shorter.
-/
namespace FleetLocator.Service

open Decimal (place isNaN_of_le le_iff_place lt_iff_place beq_iff_place)

variable {x y radius : Float}

theorem reportedDistance_of_beq (h : (x == 0) = true) : reportedDistance x = 0.001 := if_pos h

theorem reportedDistance_of_ne (h : ¬(x == 0) = true) : reportedDistance x = x := if_neg h

theorem isNaN_zero : (0 : Float).isNaN = false := by decide

theorem isNaN_metre : (0.001 : Float).isNaN = false := by decide

theorem place_zero_lt_metre : place 0 < place 0.001 :=
  (lt_iff_place isNaN_zero isNaN_metre).mp (by decide)

/-- The order of two distances is kept, unless the first one is zero and the second less than a metre. -/
theorem reportedDistance_le_iff (h : x ≤ y) :
    reportedDistance x ≤ reportedDistance y ↔ ((x == 0) = true → 0 < y → 0.001 ≤ y) := by
  obtain ⟨hx, hy⟩ := isNaN_of_le h
  have hle := (le_iff_place hx hy).mp h
  by_cases hx0 : (x == 0) = true
  · have hxplace := (beq_iff_place hx isNaN_zero).mp hx0
    by_cases hy0 : (y == 0) = true
    · have hyplace := (beq_iff_place hy isNaN_zero).mp hy0
      rw [reportedDistance_of_beq hx0, reportedDistance_of_beq hy0]
      refine iff_of_true (by decide) fun _ hpos => ?_
      rw [lt_iff_place isNaN_zero hy, hyplace] at hpos
      exact absurd hpos (lt_irrefl _)
    · have hpos : 0 < y := by
        rw [lt_iff_place isNaN_zero hy, ← hxplace]
        refine hle.lt_of_ne fun heq => hy0 ?_
        rw [beq_iff_place hy isNaN_zero, ← heq, hxplace]
      rw [reportedDistance_of_beq hx0, reportedDistance_of_ne hy0]
      exact ⟨fun hmetre _ _ => hmetre, fun himp => himp hx0 hpos⟩
  · refine iff_of_true ?_ fun hzero => absurd hzero hx0
    rw [reportedDistance_of_ne hx0]
    by_cases hy0 : (y == 0) = true
    · have hyplace := (beq_iff_place hy isNaN_zero).mp hy0
      rw [reportedDistance_of_beq hy0, le_iff_place hx isNaN_metre]
      exact (hyplace ▸ hle).trans place_zero_lt_metre.le
    · rw [reportedDistance_of_ne hy0]
      exact h

/-- Only the metre may come before a shorter distance. -/
theorem reportedDistance_le_or (h : x ≤ y) :
    reportedDistance x ≤ reportedDistance y ∨ reportedDistance x = 0.001 ∧ reportedDistance y < 0.001 := by
  obtain ⟨hx, hy⟩ := isNaN_of_le h
  by_cases hx0 : (x == 0) = true
  · have hreported : (reportedDistance y).isNaN = false := by
      unfold reportedDistance
      split
      · exact isNaN_metre
      · exact hy
    rw [reportedDistance_of_beq hx0, ← Decimal.not_lt_iff hreported isNaN_metre]
    by_cases hlt : reportedDistance y < 0.001
    · exact .inr ⟨rfl, hlt⟩
    · exact .inl hlt
  · exact .inl ((reportedDistance_le_iff h).mpr fun hzero => absurd hzero hx0)

/-- A distance within a radius is reported within it, unless it is zero and the radius less than a metre. -/
theorem reportedDistance_within_iff (h : x ≤ radius) :
    reportedDistance x ≤ radius ↔ ((x == 0) = true → 0.001 ≤ radius) := by
  by_cases hx0 : (x == 0) = true
  · rw [reportedDistance_of_beq hx0]
    exact ⟨fun hmetre _ => hmetre, fun himp => himp hx0⟩
  · rw [reportedDistance_of_ne hx0]
    exact iff_of_true h fun hzero => absurd hzero hx0

theorem reportedDistance_pos (hnan : x.isNaN = false) (h : ¬x < 0) : 0 < reportedDistance x := by
  by_cases hx0 : (x == 0) = true
  · rw [reportedDistance_of_beq hx0]
    decide
  · rw [Decimal.not_lt_iff hnan isNaN_zero, le_iff_place isNaN_zero hnan] at h
    rw [reportedDistance_of_ne hx0, lt_iff_place isNaN_zero hnan]
    exact h.lt_of_ne fun heq => hx0 ((beq_iff_place hnan isNaN_zero).mpr heq.symm)

end FleetLocator.Service

namespace FleetLocator.Search.Query

variable {q : Query} {candidates : List Driver.Record}

/-- A driver that is found is at a distance from the origin that is within the radius. -/
theorem distance_of_mem_rank {m : Match} (h : m ∈ q.rank candidates) :
    (∃ p, m.distance = q.origin.distance p) ∧ m.distance ≤ q.radius := by
  obtain ⟨-, p, -, -, hdistance, hle⟩ := mem_ranking_iff.mp (List.mem_of_mem_take h)
  exact ⟨⟨p, hdistance⟩, hle⟩

theorem pairwise_distance_rank (q : Query) (candidates : List Driver.Record) :
    (q.rank candidates).Pairwise fun m n => m.distance ≤ n.distance :=
  (pairwise_distance_ranking q candidates).sublist (List.take_sublist _ _)

end FleetLocator.Search.Query

namespace FleetLocator.Interface

open Json (Document Faithful FieldValue)
open Rpc (DriverInfo NearbyResponse)
open Search (Match Query Result)
open Service (nearbyDocument reportedDistance reportedDistance_le_iff reportedDistance_le_or reportedDistance_pos
  reportedDistance_within_iff searchDocument)

section

variable {found : List Match}

theorem pairwise_reported_iff (h : found.Pairwise fun m n => m.distance ≤ n.distance) :
    found.Pairwise (fun m n => reportedDistance m.distance ≤ reportedDistance n.distance) ↔
      ((∃ m ∈ found, (m.distance == 0) = true) → ∀ n ∈ found, 0 < n.distance → 0.001 ≤ n.distance) := by
  -- No zero comes after a positive distance, so the condition holds of each pair in the other order too.
  have hflip {m n : Match} (hle : m.distance ≤ n.distance) (hzero : (n.distance == 0) = true)
      (hpos : 0 < m.distance) : False := by
    obtain ⟨hm, hn⟩ := Decimal.isNaN_of_le hle
    rw [Decimal.beq_iff_place hn Service.isNaN_zero] at hzero
    rw [Decimal.lt_iff_place Service.isNaN_zero hm, ← hzero] at hpos
    exact absurd ((Decimal.le_iff_place hm hn).mp hle) hpos.not_ge
  constructor
  · rintro hreported ⟨m, hm, hzero⟩ n hn
    have hall := List.Pairwise.forall_of_forall_of_flip
      (R := fun m n : Match => (m.distance == 0) = true → 0 < n.distance → 0.001 ≤ n.distance)
      (fun k hk hzero hpos => ?_)
      (h.imp₂ (fun _ _ hle hkept => (reportedDistance_le_iff hle).mp hkept) hreported)
      (h.imp fun hle hzero hpos => (hflip hle hzero hpos).elim)
    · exact hall hm hn hzero
    · rw [Decimal.lt_iff_place Service.isNaN_zero (Decimal.isNaN_of_lt hpos).2] at hpos
      rw [Decimal.beq_iff_place (Decimal.isNaN_of_beq hzero).1 Service.isNaN_zero] at hzero
      exact absurd hzero hpos.ne'
  · intro hall
    refine h.imp_of_mem fun hm hn hle => (reportedDistance_le_iff hle).mpr fun hzero hpos => ?_
    exact hall ⟨_, hm, hzero⟩ _ hn hpos

end

section

variable {q : Query} {candidates : List Driver.Record} {driver : DriverInfo}

theorem exists_match (h : driver ∈ (NearbyResponse.ofResult (.found q (q.rank candidates))).drivers) :
    ∃ m ∈ q.rank candidates, driver.distance = reportedDistance m.distance := by
  obtain ⟨m, hm, rfl⟩ := List.mem_map.mp h
  exact ⟨m, hm, rfl⟩

theorem forall₂_distance (found : List Match) : List.Forall₂
    (fun entry driver => entry.get? "distance" = some (FieldValue.toValue driver.distance))
    (found.map nearbyDocument) (found.map DriverInfo.ofMatch) := by
  rw [List.forall₂_map_left_iff, List.forall₂_map_right_iff, List.forall₂_same]
  exact fun m _ => get?_distance m

theorem faithful_distance (hsign : Geo.Point.ArcsineKeepsSign) (hradius : q.radius.isFinite = true)
    (h : driver ∈ (NearbyResponse.ofResult (.found q (q.rank candidates))).drivers) : Faithful driver.distance := by
  obtain ⟨m, hm, hdistance⟩ := exists_match h
  obtain ⟨⟨p, hp⟩, hle⟩ := Query.distance_of_mem_rank hm
  rw [hp] at hle
  rw [hdistance, hp]
  exact Json.faithful_float (isFinite_reportedDistance (Geo.Point.isFinite_distance hsign hle hradius))

theorem distance_pos (hsign : Geo.Point.ArcsineKeepsSign)
    (h : driver ∈ (NearbyResponse.ofResult (.found q (q.rank candidates))).drivers) : 0 < driver.distance := by
  obtain ⟨m, hm, hdistance⟩ := exists_match h
  obtain ⟨⟨p, hp⟩, hle⟩ := Query.distance_of_mem_rank hm
  rw [hdistance]
  exact reportedDistance_pos (Decimal.isNaN_of_le hle).1 (hp ▸ Geo.Point.not_distance_lt_zero hsign _ p)

theorem distance_within (h : driver ∈ (NearbyResponse.ofResult (.found q (q.rank candidates))).drivers) :
    driver.distance ≤ q.radius ∨ driver.distance = 0.001 := by
  obtain ⟨m, hm, hdistance⟩ := exists_match h
  obtain ⟨-, hle⟩ := Query.distance_of_mem_rank hm
  rw [hdistance]
  by_cases hzero : (m.distance == 0) = true
  · exact .inr (Service.reportedDistance_of_beq hzero)
  · exact .inl ((reportedDistance_within_iff hle).mpr fun h => absurd h hzero)

theorem distances_within_iff (q : Query) (candidates : List Driver.Record) :
    (∀ driver ∈ (NearbyResponse.ofResult (.found q (q.rank candidates))).drivers, driver.distance ≤ q.radius) ↔
      ((∃ m ∈ q.rank candidates, (m.distance == 0) = true) → 0.001 ≤ q.radius) := by
  constructor
  · rintro hall ⟨m, hm, hzero⟩
    have hwithin : reportedDistance m.distance ≤ q.radius := hall (.ofMatch m) (List.mem_map_of_mem hm)
    exact (reportedDistance_within_iff (Query.distance_of_mem_rank hm).2).mp hwithin hzero
  · intro hmetre driver hdriver
    obtain ⟨m, hm, hdistance⟩ := exists_match hdriver
    rw [hdistance]
    exact (reportedDistance_within_iff (Query.distance_of_mem_rank hm).2).mpr fun hzero => hmetre ⟨m, hm, hzero⟩

end

/-- What a document and a message report of the distances of the drivers that were found. -/
structure Reported (q : Query) (found : List Match) (d : Document) (a : NearbyResponse) : Prop where
  message : a.drivers.map DriverInfo.distance = found.map fun m => reportedDistance m.distance
  document : ∃ entries : List Document, Says d "drivers" entries ∧ List.Forall₂
    (fun entry driver => entry.get? "distance" = some (FieldValue.toValue driver.distance)) entries a.drivers
  radius : a.searchRadius = q.radius ∧ d.get? "searchRadius" = some (FieldValue.toValue q.radius)
  numbers : Geo.Point.ArcsineKeepsSign → q.radius.isFinite = true → Faithful q.radius ∧
    ∀ driver ∈ a.drivers, Faithful driver.distance
  nonzero : ∀ driver ∈ a.drivers, (driver.distance == 0) = false
  positive : Geo.Point.ArcsineKeepsSign → ∀ driver ∈ a.drivers, 0 < driver.distance
  order : a.drivers.Pairwise fun driver next =>
    driver.distance ≤ next.distance ∨ driver.distance = 0.001 ∧ next.distance < 0.001
  ordered_iff : a.drivers.Pairwise (fun driver next => driver.distance ≤ next.distance) ↔
    ((∃ m ∈ found, (m.distance == 0) = true) → ∀ n ∈ found, 0 < n.distance → 0.001 ≤ n.distance)
  within : ∀ driver ∈ a.drivers, driver.distance ≤ a.searchRadius ∨ driver.distance = 0.001
  within_iff : (∀ driver ∈ a.drivers, driver.distance ≤ a.searchRadius) ↔
    ((∃ m ∈ found, (m.distance == 0) = true) → 0.001 ≤ q.radius)

/-- The distances are those of the ranking, with a metre for each zero. They are positive. They are in order just if
no driver at a distance less than a metre comes after one at the origin, and within the radius just if it is not
less than a metre or no driver is at the origin. -/
theorem distances_reported (q : Query) (candidates : List Driver.Record) :
    Reported q (q.rank candidates) (searchDocument (.found q (q.rank candidates)))
      (.ofResult (.found q (q.rank candidates))) := by
  have hpairwise := Query.pairwise_distance_rank q candidates
  constructor
  case message => simp [NearbyResponse.ofResult, Result.found, DriverInfo.ofMatch]
  case document =>
    refine ⟨(q.rank candidates).map nearbyDocument, ⟨?_, Json.faithful_documents _⟩, forall₂_distance _⟩
    simp [searchDocument, Document.put, Result.found]
  case radius => exact ⟨rfl, by simp [searchDocument, Document.put, Result.found]⟩
  case numbers =>
    exact fun hsign hradius => ⟨Json.faithful_float hradius, fun _ hdriver => faithful_distance hsign hradius hdriver⟩
  case nonzero =>
    intro driver hdriver
    obtain ⟨m, -, hdistance⟩ := exists_match hdriver
    exact hdistance ▸ reportedDistance_ne_zero m.distance
  case positive => exact fun hsign _ hdriver => distance_pos hsign hdriver
  case order => exact List.pairwise_map.mpr (hpairwise.imp reportedDistance_le_or)
  case ordered_iff => exact List.pairwise_map.trans (pairwise_reported_iff hpairwise)
  case within => exact fun _ hdriver => distance_within hdriver
  case within_iff => exact distances_within_iff q candidates

/-- With a sine, a cosine and an arc sine that are right at zero, a driver at the origin is reported beyond a radius
of half a metre. -/
theorem distance_beyond_radius :
    let q : Query := ⟨⟨0, 0⟩, 0.0005, 3⟩
    let r : Driver.Record := { id := "a", location := some ⟨0, 0⟩, status := .available }
    Service.IsValidQuery q ∧ (Float.sin 0 = 0 → Float.cos 0 = 1 → Float.asin 0 = 0 →
      q.rank [r] = [⟨r, 0⟩] ∧
      (NearbyResponse.ofResult (.found q (q.rank [r]))).drivers.map DriverInfo.distance = [0.001] ∧
      (NearbyResponse.ofResult (.found q (q.rank [r]))).searchRadius = 0.0005 ∧
      ¬(0.001 : Float) ≤ 0.0005) := by
  intro q r
  refine ⟨by decide, fun hsin hcos harcsin => ?_⟩
  have hdistance := Geo.Point.distance_origin hsin hcos harcsin
  have hrank := Query.rank_singleton (q := q) (r := r) rfl (by decide) (by rw [hdistance]; decide) (by decide)
  rw [hdistance] at hrank
  rw [hrank]
  exact ⟨rfl, by decide, rfl, by decide⟩

end FleetLocator.Interface
