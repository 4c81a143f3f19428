import FleetLocator.Proofs.Geo.Symmetry
import FleetLocator.Proofs.RowStore.Fleet
import FleetLocator.Proofs.Search.Order
import FleetLocator.Proofs.Service.Operations

/-!
# A search after any history of calls

The calls of a service over a database leave a fleet of the drivers last written. A search then finds
the first drivers of the ranking of this fleet.
-/
namespace FleetLocator.Service

open Driver (Record)
open RowStore (Database Fleet Mirrors Write)
open Search (Match Query Result)

/-- A driver comes in, or the service is asked to do something. -/
inductive Call
  | insert (record : Record)
  | operation (o : Operation)

/-- A service over a database. -/
def rowDesk (timeout : Nat) (maxLimit : UInt32) : Desk Database := ⟨RowStore.backend, timeout, maxLimit⟩

namespace Call

/-- The drivers that come in are legal. All else is for the service to check. -/
def Legal : Call → Prop
  | insert record => record.InDomain
  | operation _ => True

instance (c : Call) : Decidable c.Legal := by unfold Legal; cases c <;> infer_instance

def perform (desk : Desk Database) (s : State Database) : Call → Except Fault (State Database)
  | insert record => (s.store.insert record).map fun store => { s with store := store }
  | operation o => .ok (o.perform desk s).2

/-- What a call writes, unless it is refused: a place with its geohash, or a status, for the driver whose
identifier is the given one without blanks at its ends. -/
def write? : Call → Option Write
  | insert record => some (.insert record)
  | operation (.updateLocation now id point) =>
    if Text.trim id ≠ "" ∧ point.isValid = true then
      some (.update (Text.trim id) ⟨.location point (point.geohash Geo.defaultPrecision), now⟩)
    else none
  | operation (.updateStatus now id status) =>
    if Text.trim id ≠ "" then some (.update (Text.trim id) ⟨.status status, now⟩) else none
  | operation _ => none

end Call

/-- The service after calls to one over an empty database, if the drivers can come in. -/
def afterCalls (desk : Desk Database) (calls : List Call) : Except Fault (State Database) :=
  calls.foldlM (fun s c => c.perform desk s) ⟨.empty, {}⟩

/-- The drivers that calls wrote last. -/
def fleetAfterCalls (calls : List Call) : Fleet := .afterWrites (calls.filterMap Call.write?)

/-- The matches are the available drivers of a fleet within the radius, each once and in order. -/
structure Ranks (ms : List Match) (f : Fleet) (q : Query) : Prop where
  mem_iff : ∀ m, m ∈ ms ↔ ∃ r p, f m.driver.id = some r ∧ m.driver = r.unsignZeros ∧
    r.status = .available ∧ r.location = some p ∧
    m.distance = q.origin.distance p.unsignZeros ∧ m.distance ≤ q.radius
  once : (ms.map fun m => m.driver.id).Nodup
  ordered : ms.Pairwise Match.Before

theorem Ranks.unique {ms ns : List Match} {f : Fleet} {q : Query} (hms : Ranks ms f q) (hns : Ranks ns f q) :
    ms = ns :=
  Search.eq_of_pairwise_before hms.ordered hns.ordered fun m => (hms.mem_iff m).trans (hns.mem_iff m).symm

/-- The one available driver of a fleet is all its ranking, if it is within the radius. -/
theorem ranks_singleton {f : Fleet} {q : Query} {r : Record} {p : Geo.Point} {distance : Float}
    (hr : f r.id = some r) (hstatus : r.status = .available) (hp : r.location = some p)
    (hdistance : distance = q.origin.distance p.unsignZeros) (hle : distance ≤ q.radius)
    (honly : ∀ id s, f id = some s → s.status = .available → s = r) : Ranks [⟨r.unsignZeros, distance⟩] f q where
  mem_iff m := by
    rw [List.mem_singleton]
    constructor
    · rintro rfl
      exact ⟨r, p, hr, rfl, hstatus, hp, hdistance, hle⟩
    · rintro ⟨s, p', hs, hdriver, hfree, hp', hm, -⟩
      obtain rfl := honly _ s hs hfree
      obtain rfl := Option.some.inj (hp.symm.trans hp')
      obtain ⟨driver, d⟩ := m
      exact congrArg₂ Match.mk hdriver (hm.trans hdistance.symm)
  once := List.nodup_singleton _
  ordered := List.pairwise_singleton _ _

section

variable {timeout : Nat} {maxLimit : UInt32} {s : State Database} {f : Fleet}

theorem write?_of_not_isValid {o : Operation} (ho : ¬o.IsValid) : (Call.operation o).write? = none := by
  cases o with
  | findNearby q => rfl
  | driverStatus id => rfl
  | updateLocation now id point => exact if_neg ho
  | updateStatus now id status => exact if_neg ho

theorem after_apply (db : Database) (id : String) (u : Driver.Update) :
    RowStore.backend.after db (.apply id u) = (db.apply id u).2 := rfl

theorem mirrors_after {db : Database} (h : Mirrors db f) {o : Operation} (ho : o.IsValid) :
    Mirrors (RowStore.backend.after db (o.question maxLimit))
      ((Call.operation o).write?.elim f fun w => w.record f) := by
  cases o with
  | findNearby q => exact h
  | driverStatus id => exact h
  | updateLocation now id point =>
    have hvalid : Text.trim id ≠ "" ∧ point.isValid = true := ho
    rw [Call.write?, if_pos hvalid, Option.elim_some, Operation.question, after_apply]
    exact h.apply (Text.trim id) hvalid.2
  | updateStatus now id status =>
    have hvalid : Text.trim id ≠ "" := ho
    rw [Call.write?, if_pos hvalid, Option.elim_some, Operation.question, after_apply]
    exact h.apply (Text.trim id) trivial

/-- A legal call succeeds, and the rows stay those of the fleet. -/
theorem mirrors_perform (h : Mirrors s.store f) {c : Call} (hc : c.Legal) :
    ∃ next, c.perform (rowDesk timeout maxLimit) s = .ok next ∧
      Mirrors next.store (c.write?.elim f fun w => w.record f) := by
  cases c with
  | insert record =>
    obtain ⟨store, hstore, h⟩ := h.insert hc
    refine ⟨{ s with store := store }, ?_, h⟩
    rw [Call.perform, hstore]
    rfl
  | operation o =>
    refine ⟨_, rfl, ?_⟩
    by_cases ho : o.IsValid
    · rw [Operation.store_perform ho]
      exact mirrors_after h ho
    · obtain ⟨reason, hreason⟩ := Operation.perform_of_not_isValid (s := s) ho
      rw [hreason, write?_of_not_isValid ho]
      exact h

/-- After legal calls the rows are those of the drivers that were written last. -/
theorem mirrors_afterCalls {calls : List Call} (hcalls : ∀ c ∈ calls, c.Legal) :
    ∃ s, afterCalls (rowDesk timeout maxLimit) calls = .ok s ∧ Mirrors s.store (fleetAfterCalls calls) := by
  have hfleet : fleetAfterCalls calls =
      calls.foldl (fun f c => c.write?.elim f fun w => w.record f) .empty := by
    rw [fleetAfterCalls, Fleet.afterWrites, List.foldl_filterMap]
    congr 1
    funext f c
    cases c.write? <;> rfl
  rw [hfleet]
  have hstep : ∀ c ∈ calls, ∀ (s : State Database) f, Mirrors s.store f →
      ∃ next, c.perform (rowDesk timeout maxLimit) s = .ok next ∧
        Mirrors next.store (c.write?.elim f fun w => w.record f) :=
    fun c hc _ _ h => mirrors_perform h (hcalls c hc)
  have hstart : Mirrors (State.mk Database.empty {}).store .empty := RowStore.mirrors_empty
  exact RowStore.foldlM_related (R := fun (s : State Database) f => Mirrors s.store f) calls hstep hstart

/-- The matches among the candidates are those of the fleet. -/
theorem ranks_ranking (h : Mirrors s.store f) (q : Query) :
    ∃ found, s.store.candidates = .ok found ∧ Ranks (q.ranking found) f q := by
  obtain ⟨found, hfound, hids, hmem⟩ := h.candidates
  refine ⟨found, hfound, fun m => ?_, Query.nodup_ranking hids, Query.pairwise_ranking hids⟩
  rw [Query.mem_ranking_iff, hmem]
  constructor
  · rintro ⟨⟨r, hr, hdriver, hstatus, -⟩, p, hp, -, hdistance⟩
    rw [hdriver] at hp
    obtain ⟨p, hlocation, rfl⟩ := Option.map_eq_some_iff.mp hp
    exact ⟨r, p, hr, hdriver, hstatus, hlocation, hdistance⟩
  · rintro ⟨r, p, hr, hdriver, hstatus, hlocation, hdistance⟩
    refine ⟨⟨r, hr, hdriver, hstatus, by rw [hlocation]; rfl⟩, p.unsignZeros, ?_, ?_, hdistance⟩
    · rw [hdriver, Record.unsignZeros, hlocation]
      rfl
    · rw [Geo.Point.isValid_unsignZeros]
      exact (h.inDomain hr).1 p hlocation

end

/-- After any history a valid search succeeds with the first drivers of the ranking of those last written. -/
theorem findNearby_afterCalls (timeout : Nat) (maxLimit : UInt32) (calls : List Call)
    (hcalls : ∀ c ∈ calls, c.Legal) (q : Query) (hq : IsValidQuery q) :
    ∃ s ms answer, afterCalls (rowDesk timeout maxLimit) calls = .ok s ∧ Ranks ms (fleetAfterCalls calls) q ∧
      (∀ ns, Ranks ns (fleetAfterCalls calls) q → ns = ms) ∧
      ((rowDesk timeout maxLimit).findNearby q s).1 = .ok answer ∧ answer.success = true ∧
      answer.drivers = ms.take (min q.limit maxLimit).toNat ∧ answer = .found q answer.drivers := by
  obtain ⟨s, hs, h⟩ : ∃ s, afterCalls (rowDesk timeout maxLimit) calls = .ok s ∧ _ := mirrors_afterCalls hcalls
  obtain ⟨found, hfound, hranks⟩ := ranks_ranking h q
  refine ⟨s, q.ranking found, .found q ((q.ranking found).take (min q.limit maxLimit).toNat), hs, hranks,
    fun ns hns => hns.unique hranks, ?_, rfl, rfl, rfl⟩
  have hreply : ((rowDesk timeout maxLimit).backend.candidates
      { q with limit := min q.limit maxLimit } s.store).1 = .done found := by
    change Reply.ofExcept s.store.candidates = .done found
    rw [hfound]
    rfl
  exact findNearby_of_done hq hreply

/-- Of two drivers that came in available at one place, the one that was then reported busy is found no more, and
the other one is, if sine, cosine and arc sine are right at zero. -/
theorem findNearby_afterCalls_of_busy :
    let free : Record := { id := "b", location := some ⟨0, 0⟩, status := .available }
    ∃ s answer, afterCalls (rowDesk 100 10)
        [.insert { free with id := "a" }, .insert free, .operation (.updateStatus 7 " a " .busy)] = .ok s ∧
      ((rowDesk 100 10).findNearby ⟨⟨0, 0⟩, 5, 3⟩ s).1 = .ok answer ∧ answer.success = true ∧
      (∀ m ∈ answer.drivers, m.driver = free) ∧
      (Float.sin 0 = 0 → Float.cos 0 = 1 → Float.asin 0 = 0 →
        answer = .found ⟨⟨0, 0⟩, 5, 3⟩ [⟨free, 0⟩]) := by
  intro free
  obtain ⟨s, ms, answer, hs, hms, hunique, hanswer, hsuccess, hdrivers, hfound⟩ := findNearby_afterCalls 100 10
    [.insert { free with id := "a" }, .insert free, .operation (.updateStatus 7 " a " .busy)] (by decide)
    ⟨⟨0, 0⟩, 5, 3⟩ (by decide)
  have hfree : ∀ id r, fleetAfterCalls
      [.insert { free with id := "a" }, .insert free, .operation (.updateStatus 7 " a " .busy)] id = some r →
        r.status = .available → r = free := by
    intro id r hr hstatus
    change ((Fleet.empty.insert { free with id := "a" }).insert free).update "a" _ id = some r at hr
    by_cases ha : id = "a"
    · subst ha
      obtain rfl := Option.some.inj hr
      exact absurd hstatus (by decide)
    · rw [Fleet.update, Function.update_of_ne ha, Fleet.insert] at hr
      by_cases hb : id = "b"
      · subst hb
        exact (Option.some.inj hr).symm
      · rw [Function.update_of_ne hb, Fleet.insert, Function.update_of_ne ha] at hr
        cases hr
  refine ⟨s, answer, hs, hanswer, hsuccess, fun m hm => ?_, fun hsin hcos harcsin => ?_⟩
  · rw [hdrivers] at hm
    obtain ⟨r, p, hr, hdriver, hstatus, -⟩ := (hms.mem_iff m).mp (List.mem_of_mem_take hm)
    rw [hdriver, hfree _ r hr hstatus]
    decide
  · have hdistance := Geo.Point.distance_origin hsin hcos harcsin
    have hranks : Ranks [⟨free.unsignZeros, 0⟩] _ ⟨⟨0, 0⟩, 5, 3⟩ :=
      ranks_singleton rfl rfl (p := ⟨0, 0⟩) rfl hdistance.symm (by decide) hfree
    rw [hfound, hdrivers, ← hunique _ hranks]
    decide

end FleetLocator.Service
