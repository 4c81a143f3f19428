import FleetLocator.Proofs.RowStore.Keys
import FleetLocator.Proofs.Service.History

/-!
# Drivers answer to their identifiers

A driver that a search over a database reports is found again under its identifier, and an update there
changes its row and no other. The identifier must be one that a request can name: it is not empty, and no
blanks are at its ends, since these are cut off before the database is asked.
-/
namespace FleetLocator.Service

open Driver (Record)
open RowStore (Alone Database Row)
open Search (Query Result)

/-- The identifiers that a request can name: what is left of one without blanks at its ends is all of it. -/
structure IsClean (id : String) : Prop where
  trim : Text.trim id = id
  nonempty : id ≠ ""

theorem isClean_iff {id : String} : IsClean id ↔ Text.trim id = id ∧ id ≠ "" :=
  ⟨fun h => ⟨h.trim, h.nonempty⟩, fun h => ⟨h.1, h.2⟩⟩

instance (id : String) : Decidable (IsClean id) := decidable_of_iff _ isClean_iff.symm

/-- An update succeeds and leaves these rows. -/
def Leaves (outcome : Except Rejection Mutation × State Database) (rows : List Row) : Prop :=
  ∃ m, outcome.1 = .ok m ∧ m.success = true ∧ outcome.2.store.rows = some rows

/-- A driver is found under its identifier, and an update there changes the one row that is read as this
driver and keeps the rows before and after it. -/
structure Answers (desk : Desk Database) (db : Database) (r : Record) : Prop where
  lookup : ∀ metrics, ∃ l, (desk.driverStatus r.id ⟨db, metrics⟩).1 = .ok l ∧ l.success = true ∧
    l.driver = some r
  update : ∃ rows before row after, db.rows = some rows ∧ Alone rows before row after r.id ∧ row.record = r ∧
    ∀ metrics now,
      (∀ point : Geo.Point, point.isValid = true →
        Leaves (desk.updateLocation now r.id point ⟨db, metrics⟩)
          (before ++ row.change ⟨.location point (point.geohash Geo.defaultPrecision), now⟩ :: after)) ∧
      ∀ status, Leaves (desk.updateStatus now r.id status ⟨db, metrics⟩)
        (before ++ row.change ⟨.status status, now⟩ :: after)

theorem checkId_of_isClean {id : String} (h : IsClean id) : checkId id = .ok id := by
  have hne : Text.trim id ≠ "" := h.trim.symm ▸ h.nonempty
  rw [checkId_of_ne hne, h.trim]

section

variable (timeout : Nat) (maxLimit : UInt32)

/-- A call leaves every row with an identifier of its own, whatever comes in. -/
theorem keyed_perform {s : State Database} (h : s.store.Keyed) (c : Call) :
    ∃ next, c.perform (rowDesk timeout maxLimit) s = .ok next ∧ next.store.Keyed := by
  cases c with
  | insert record =>
    obtain ⟨store, hstore, h⟩ := h.insert record
    refine ⟨{ s with store := store }, ?_, h⟩
    rw [Call.perform, hstore]
    rfl
  | operation o =>
    refine ⟨_, rfl, ?_⟩
    by_cases ho : o.IsValid
    · rw [Operation.store_perform ho]
      cases o with
      | findNearby q => exact h
      | driverStatus id => exact h
      | updateLocation now id point => exact h.apply (Text.trim id) _
      | updateStatus now id status => exact h.apply (Text.trim id) _
    · obtain ⟨reason, hreason⟩ : ∃ reason, o.perform (rowDesk timeout maxLimit) s = (.error reason, s) :=
        Operation.perform_of_not_isValid ho
      rw [hreason]
      exact h

theorem keyed_afterCalls (calls : List Call) :
    ∃ s, afterCalls (rowDesk timeout maxLimit) calls = .ok s ∧ s.store.Keyed :=
  RowStore.foldlM_keeps (P := fun s : State Database => s.store.Keyed) calls
    (fun c _ _ h => keyed_perform timeout maxLimit h c) Database.Keyed.empty

variable {rows before after : List Row} {row : Row} {id : String} (h : Alone rows before row after id)

include h

theorem driverStatus_of_alone (hid : IsClean id) (metrics : Metrics) :
    ∃ l, ((rowDesk timeout maxLimit).driverStatus id ⟨⟨some rows⟩, metrics⟩).1 = .ok l ∧ l.success = true ∧
      l.driver = some row.record := by
  have hfetch : (Database.mk (some rows)).fetch id = .ok (some row.record) := by
    simp only [Database.fetch, h.find?_eq, Option.map_some]
  have hreply : ((rowDesk timeout maxLimit).backend.fetch id ⟨some rows⟩).1 = .done (some row.record) := by
    change Reply.ofExcept ((Database.mk (some rows)).fetch id) = _
    rw [hfetch]
    rfl
  rw [Desk.driverStatus, checkId_of_isClean hid]
  simp [hreply, Reply.outcome]

theorem change_of_alone (u : Driver.Update) (metrics : Metrics) :
    ((rowDesk timeout maxLimit).change id u ⟨⟨some rows⟩, metrics⟩).1 = true ∧
      ((rowDesk timeout maxLimit).change id u ⟨⟨some rows⟩, metrics⟩).2.2.store.rows =
        some (before ++ row.change u :: after) := by
  have happly : (Database.mk (some rows)).apply id u = (.ok 1, ⟨some (before ++ row.change u :: after)⟩) := by
    simp only [Database.apply, h.changeRows_eq]
  constructor
  · rw [success_change]
    change Reply.ofExcept ((Database.mk (some rows)).apply id u).1 = _
    rw [happly]
    rfl
  · change ((Database.mk (some rows)).apply id u).2.rows = _
    rw [happly]

theorem answers_of_alone (hid : IsClean id) : Answers (rowDesk timeout maxLimit) ⟨some rows⟩ row.record := by
  have hrecord : row.record.id = id := Row.id_record h.hasId
  constructor
  · rw [hrecord]
    exact driverStatus_of_alone timeout maxLimit h hid
  · rw [hrecord]
    refine ⟨rows, before, row, after, rfl, h, rfl, fun metrics now => ⟨?_, ?_⟩⟩
    · intro point hpoint
      obtain ⟨hsuccess, hrows⟩ := change_of_alone timeout maxLimit h
        ⟨.location point (point.geohash Geo.defaultPrecision), now⟩ metrics
      rw [Leaves, Desk.updateLocation, checkId_of_isClean hid, Geo.Point.error?_eq_none_iff.mpr hpoint]
      exact ⟨_, rfl, hsuccess, hrows⟩
    · intro status
      obtain ⟨hsuccess, hrows⟩ := change_of_alone timeout maxLimit h ⟨.status status, now⟩ metrics
      rw [Leaves, Desk.updateStatus, checkId_of_isClean hid]
      exact ⟨_, rfl, hsuccess, hrows⟩

end

/-- Whatever came into a database and was changed there, the drivers that a search reports, and all others
that it has to choose from, answer to their identifiers if these can be named. -/
theorem findNearby_answers (timeout : Nat) (maxLimit : UInt32) (calls : List Call) (q : Query)
    (hq : IsValidQuery q) :
    ∃ s found ms, afterCalls (rowDesk timeout maxLimit) calls = .ok s ∧ s.store.candidates = .ok found ∧
      ((rowDesk timeout maxLimit).findNearby q s).1 = .ok (.found q ms) ∧
      ((rowDesk timeout maxLimit).findNearby q s).2.store = s.store ∧
      (∀ m ∈ ms, m.driver ∈ found ∧
        (IsClean m.driver.id → Answers (rowDesk timeout maxLimit) s.store m.driver)) ∧
      ∀ r ∈ found, IsClean r.id → Answers (rowDesk timeout maxLimit) s.store r := by
  obtain ⟨s, hs, rows, hrows, hkeyed⟩ := keyed_afterCalls timeout maxLimit calls
  have hstore : s.store = ⟨some rows⟩ := congrArg Database.mk hrows
  have hfound : s.store.candidates = .ok ((rows.filter Row.isCandidate).map Row.record) := by
    rw [hstore]
    rfl
  have hanswers : ∀ r ∈ (rows.filter Row.isCandidate).map Row.record, IsClean r.id →
      Answers (rowDesk timeout maxLimit) s.store r := by
    intro r hr hid
    obtain ⟨row, hrow, rfl⟩ := List.mem_map.mp hr
    obtain ⟨before, after, id, halone⟩ := hkeyed.alone (List.mem_filter.mp hrow).1
    rw [Row.id_record halone.hasId] at hid
    rw [hstore]
    exact answers_of_alone timeout maxLimit halone hid
  have hreply : ((rowDesk timeout maxLimit).backend.candidates
      { q with limit := min q.limit maxLimit } s.store).1 =
        .done ((rows.filter Row.isCandidate).map Row.record) := by
    change Reply.ofExcept s.store.candidates = _
    rw [hfound]
    rfl
  refine ⟨s, _, _, hs, hfound, findNearby_of_done hq hreply, store_findNearby hq, ?_, hanswers⟩
  intro m hm
  have hmem := (Query.mem_ranking_iff.mp (List.mem_of_mem_take hm)).1
  exact ⟨hmem, hanswers m.driver hmem⟩

/-- A driver with a rating that is none answers, beside one whose identifier cannot be named. -/
theorem findNearby_answers_of_two :
    ∃ s, afterCalls (rowDesk 100 10)
        [.insert { id := "a", location := some ⟨1, 2⟩, status := .available, rating := 9 },
          .insert { id := " b ", location := some ⟨1, 2⟩, status := .available }] = .ok s ∧
      IsValidQuery ⟨⟨1, 2⟩, 5, 3⟩ ∧
      Answers (rowDesk 100 10) s.store { id := "a", location := some ⟨1, 2⟩, status := .available } := by
  obtain ⟨s, found, ms, hs, hfound, -, -, -, hanswers⟩ := findNearby_answers 100 10
    [.insert { id := "a", location := some ⟨1, 2⟩, status := .available, rating := 9 },
      .insert { id := " b ", location := some ⟨1, 2⟩, status := .available }] ⟨⟨1, 2⟩, 5, 3⟩ (by decide)
  refine ⟨s, hs, by decide, hanswers _ ?_ (by decide)⟩
  cases hs
  cases hfound
  exact List.mem_cons_self

/-- With a sine, a cosine and an arc sine that are right at zero, a search reports a driver under an
identifier with blanks at its ends. Under this identifier another driver is looked up and changed, the one
whose identifier has no blanks. -/
theorem findNearby_of_padded :
    ∃ s, afterCalls (rowDesk 100 10)
        [.insert { id := " a ", location := some ⟨0, 0⟩, status := .available }, .insert { id := "a" }] = .ok s ∧
      (Float.sin 0 = 0 → Float.cos 0 = 1 → Float.asin 0 = 0 →
        ((rowDesk 100 10).findNearby ⟨⟨0, 0⟩, 5, 3⟩ s).1 = .ok (.found ⟨⟨0, 0⟩, 5, 3⟩
          [⟨{ id := " a ", location := some ⟨0, 0⟩, status := .available }, 0⟩])) ∧
      ((rowDesk 100 10).driverStatus " a " s).1 =
        .ok ⟨"a", some { id := "a" }, true, "driver status retrieved"⟩ ∧
      ((rowDesk 100 10).updateStatus 7 " a " .busy s).2.store.rows =
        some [.ofRecord { id := " a ", location := some ⟨0, 0⟩, status := .available },
          .ofRecord { id := "a", status := .busy, updatedAt := 7 }] := by
  refine ⟨_, rfl, ?_, rfl, rfl⟩
  intro hsin hcos harcsin
  have hdistance := Geo.Point.distance_origin hsin hcos harcsin
  have hrank := Query.rank_singleton (q := ⟨⟨0, 0⟩, 5, min 3 10⟩)
    (r := { id := " a ", location := some ⟨0, 0⟩, status := .available }) rfl (by decide)
    (by rw [hdistance]; decide) (by decide)
  rw [hdistance] at hrank
  rw [findNearby_of_done (by decide) rfl]
  exact congrArg (fun ms => Except.ok (Result.found ⟨⟨0, 0⟩, 5, 3⟩ ms)) hrank

end FleetLocator.Service
