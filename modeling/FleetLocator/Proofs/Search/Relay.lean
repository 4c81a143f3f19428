import FleetLocator.Proofs.Peer.RoundTrip
import FleetLocator.Proofs.Search.Order

/-!
# Searches that are handed on

A search ranks what other searches found as it would have ranked their candidates, if each of them passes
on as many drivers as are wanted in the end. The distances that are passed on do not matter, since they
are measured again.
-/
namespace FleetLocator.Search

open Driver (Record)
open Peer (Findings)
open Service (searchDocument)

namespace Query

variable {q : Query} {candidates : List Record} {m : Match}

theorem mem_rank (h : m ∈ q.rank candidates) : m ∈ q.ranking candidates := List.mem_of_mem_take h

/-- A driver that was found matches again, at the same distance. -/
theorem match?_driver (h : m ∈ q.rank candidates) : q.match? m.driver = some m :=
  match?_eq_some_iff.mpr ⟨rfl, (mem_ranking_iff.mp (mem_rank h)).2⟩

/-- Of the drivers that were found the matches are those that were found. -/
theorem filterMap_rank (q : Query) (candidates : List Record) :
    ((q.rank candidates).map Match.driver).filterMap q.match? = q.rank candidates := by
  rw [List.filterMap_map]
  calc (q.rank candidates).filterMap (q.match? ∘ Match.driver)
      = (q.rank candidates).filterMap some := List.filterMap_congr fun m hm => match?_driver hm
    _ = q.rank candidates := List.filterMap_some

/-- What was found is in order. -/
theorem mergeSort_rank (q : Query) (candidates : List Record) :
    (q.rank candidates).mergeSort (byKey Match.key) = q.rank candidates := by
  apply List.mergeSort_of_pairwise
  have hsorted := (pairwise_key_ranking q candidates).sublist (List.take_sublist q.limit.toNat _)
  exact hsorted.imp byKey_iff.mpr

theorem ranking_append (q : Query) (as bs : List Record) :
    q.ranking (as ++ bs) = List.merge (q.ranking as) (q.ranking bs) (byKey Match.key) := by
  rw [ranking_eq, ranking_eq, ranking_eq, List.filterMap_append, mergeSort_append]

/-- The first of the candidates from two sources are the first of what is found in each. -/
theorem rank_append (q : Query) (as bs : List Record) :
    q.rank (as ++ bs) = q.rank ((q.rank as).map Match.driver ++ (q.rank bs).map Match.driver) := by
  have hparts : q.ranking ((q.rank as).map Match.driver ++ (q.rank bs).map Match.driver) =
      List.merge (q.rank as) (q.rank bs) (byKey Match.key) := by
    rw [ranking_eq, List.filterMap_append, filterMap_rank, filterMap_rank, mergeSort_append, mergeSort_rank,
      mergeSort_rank]
  rw [rank, rank, hparts, ranking_append, rank, rank, take_merge_take le_rfl le_rfl]

/-- To rank again what was found changes nothing. -/
theorem rank_rank (q : Query) (candidates : List Record) :
    q.rank ((q.rank candidates).map Match.driver) = q.rank candidates := by
  have hnil : q.rank [] = [] := by simp [rank, ranking]
  have h := rank_append q candidates []
  rw [hnil, List.map_nil, List.append_nil, List.append_nil] at h
  exact h.symm

theorem inDomain_of_mem_rank (h : ∀ r ∈ candidates, r.InDomain) (hm : m ∈ q.rank candidates) :
    m.driver.InDomain := h m.driver (mem_ranking_iff.mp (mem_rank hm)).1

end Query

/-- A search that asks a peer finds what the peer found, and a search over several sources that each find
as many drivers as are wanted finds what it would have found in all their candidates. -/
theorem rank_relayed (q : Query) :
    (∀ candidates : List Record, (∀ r ∈ candidates, r.InDomain) →
      q.rank (Findings.decode (searchDocument (.found q (q.rank candidates)))).drivers =
        (Result.found q (q.rank candidates)).drivers) ∧
    ∀ as bs : List Record,
      q.rank (as ++ bs) = q.rank ((q.rank as).map Match.driver ++ (q.rank bs).map Match.driver) := by
  refine ⟨fun candidates h => ?_, q.rank_append⟩
  have hfound : ∀ m ∈ q.rank candidates, m.driver.InDomain := fun m hm => Query.inDomain_of_mem_rank h hm
  rw [Peer.decode_searchDocument _ hfound]
  exact q.rank_rank candidates

/-- Two drivers with one identifier at one place, one of them at the other end of the earth, and one at no
place, of which two are wanted. -/
theorem rank_relayed_of_four :
    Query.rank ⟨⟨1, 2⟩, 5, 2⟩ (Findings.decode (searchDocument (.found ⟨⟨1, 2⟩, 5, 2⟩ (Query.rank ⟨⟨1, 2⟩, 5, 2⟩
        [{ id := "a", location := some ⟨1, 2⟩, trips := 1 }, { id := "a", location := some ⟨1, 2⟩, trips := 2 },
          { id := "b", location := some ⟨-90, 180⟩ }, { id := "c" }])))).drivers =
      Query.rank ⟨⟨1, 2⟩, 5, 2⟩
        [{ id := "a", location := some ⟨1, 2⟩, trips := 1 }, { id := "a", location := some ⟨1, 2⟩, trips := 2 },
          { id := "b", location := some ⟨-90, 180⟩ }, { id := "c" }] :=
  (rank_relayed ⟨⟨1, 2⟩, 5, 2⟩).1 _ (by decide)

end FleetLocator.Search
