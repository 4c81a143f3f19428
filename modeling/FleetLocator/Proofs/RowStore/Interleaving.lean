import FleetLocator.Proofs.RowStore.Keys
import Mathlib.Data.List.Perm.Basic

/-!
# Updates of many clients in any order

Clients update the drivers of one table, and each update is carried out as a whole. However they are
interleaved, an update concerns as many rows, and of two interleavings that order the updates of one kind
of one driver alike the tables differ in nothing but the times of the last changes. A row holds what the
last update of each kind wrote, and otherwise what it held before.
-/
namespace FleetLocator.Driver

/-- The place that an update gives a driver, with its geohash. -/
def Update.place? (u : Update) : Option (Geo.Point × String) :=
  match u.change with
  | .location point geohash => some (point, geohash)
  | .status _ => none

def Update.status? (u : Update) : Option Status :=
  match u.change with
  | .location _ _ => none
  | .status status => some status

theorem Update.place?_eq_none (u : Update) (h : u.change.kind ≠ .location) : u.place? = none := by
  obtain ⟨change, timestamp⟩ := u
  cases change with
  | location point geohash => exact absurd rfl h
  | status status => rfl

theorem Update.status?_eq_none (u : Update) (h : u.change.kind ≠ .status) : u.status? = none := by
  obtain ⟨change, timestamp⟩ := u
  cases change with
  | location point geohash => rfl
  | status status => exact absurd rfl h

end FleetLocator.Driver

namespace FleetLocator.RowStore

open Decimal (unsignZero)
open Driver (ChangeKind Update)
open Service (Fault)

/-- What each client asks for, one thing after the other: updates of drivers by their identifiers. -/
abbrev Clients := List (List (String × Update))

/-- An update as it arrives: from which client, and as which of the client's updates. -/
structure Request where
  client : Nat
  place : Nat
  id : String
  update : Update
  deriving DecidableEq

/-- All that the client with a number asks for. -/
def Clients.requests (clients : Clients) (k : Nat) : List Request :=
  (clients.getD k []).zipIdx.map fun step => ⟨k, step.2, step.1.1, step.1.2⟩

/-- The requests of all clients, those of each client in the client's order. -/
def Clients.Interleaved (clients : Clients) (es : List Request) : Prop :=
  ∀ k, es.filter (fun e => e.client = k) = clients.requests k

/-- The requests for updates of one kind of one driver come in the same order. -/
def Alike (es fs : List Request) : Prop :=
  ∀ id kind, es.filter (fun e => e.id = id ∧ e.update.change.kind = kind) =
    fs.filter fun e => e.id = id ∧ e.update.change.kind = kind

/-- Carries out requests one after the other, and says what each was answered. -/
def Database.serve : Database → List Request → List (Request × Except Fault Nat) × Database
  | db, [] => ([], db)
  | db, e :: es =>
    let (reply, next) := db.apply e.id e.update
    let (replies, last) := next.serve es
    ((e, reply) :: replies, last)

namespace Clients.Interleaved

variable {clients : Clients} {es fs : List Request}

/-- Two interleavings are of the same requests. -/
theorem perm (hes : clients.Interleaved es) (hfs : clients.Interleaved fs) : es.Perm fs := by
  rw [List.perm_iff_count]
  intro e
  have hcount : ∀ gs : List Request, clients.Interleaved gs →
      gs.count e = (clients.requests e.client).count e := by
    intro gs hgs
    rw [← hgs e.client, List.count_filter (by simp)]
  rw [hcount es hes, hcount fs hfs]

theorem exists_step (hes : clients.Interleaved es) {e : Request} (he : e ∈ es) :
    ∃ steps ∈ clients, (e.id, e.update) ∈ steps := by
  have hmem : e ∈ clients.requests e.client := by
    rw [← hes e.client, List.mem_filter]
    exact ⟨he, by simp⟩
  obtain ⟨⟨step, place⟩, hstep, heq⟩ := List.mem_map.mp hmem
  have hsteps : step ∈ clients.getD e.client [] := List.fst_mem_of_mem_zipIdx hstep
  have hstep : step = (e.id, e.update) := by rw [← heq]
  rw [hstep, List.getD_eq_getElem?_getD] at hsteps
  cases hget : clients[e.client]? with
  | none => simp [hget] at hsteps
  | some steps => exact ⟨steps, List.mem_of_getElem? hget, by simpa [hget] using hsteps⟩

end Clients.Interleaved

namespace Row

/-- The updates among the requests that concern a row. -/
def updates (r : Row) (es : List Request) : List Update :=
  (es.filter fun e => r.hasId e.id).map Request.update

/-- What a row holds after updates: what the last of each kind wrote and when the last was made, and all
else as before. The three cells of a place come from one update. -/
structure Settles (us : List Update) (r after : Row) : Prop where
  status : after.status = ((us.filterMap Update.status?).getLast?.map fun s => Cell.ofString s.label).getD r.status
  latitude : after.latitude =
    ((us.filterMap Update.place?).getLast?.map fun p => Cell.real (unsignZero p.1.lat)).getD r.latitude
  longitude : after.longitude =
    ((us.filterMap Update.place?).getLast?.map fun p => Cell.real (unsignZero p.1.lng)).getD r.longitude
  geohash : after.geohash = ((us.filterMap Update.place?).getLast?.map fun p => Cell.ofString p.2).getD r.geohash
  updatedAt : after.updatedAt = (us.getLast?.map fun u => Cell.integer u.timestamp).getD r.updatedAt
  others : ∀ c ∉ [Column.status, .latitude, .longitude, .geohash, .updatedAt], after.get c = r.get c

variable {us vs : List Update} {r after other : Row}

theorem settles_nil (r : Row) : Settles [] r r := ⟨rfl, rfl, rfl, rfl, rfl, fun _ _ => rfl⟩

theorem store_ofFloat {c : Column} (hreal : c.affinity = .real) (hreq : c.required = false) {x : Float}
    (hx : x.isFinite = true) : c.store (.ofFloat x) = .real (unsignZero x) :=
  (Column.fresh_of_not_required hreq _).symm.trans (Column.fresh_ofFloat hreal hx)

/-- One update more. -/
theorem Settles.change (h : Settles us r after) {u : Update} (hu : u.change.Legal) :
    Settles (us ++ [u]) r (after.change u) := by
  have hothers : ∀ c ∉ [Column.status, .latitude, .longitude, .geohash, .updatedAt],
      (after.change u).get c = r.get c := by
    intro c hc
    rw [← h.others c hc]
    simp only [List.mem_cons, List.not_mem_nil, or_false, not_or] at hc
    obtain ⟨hstatus, hlatitude, hlongitude, hgeohash, hupdated⟩ := hc
    obtain ⟨change, timestamp⟩ := u
    cases change with
    | location point geohash => simp [Row.change, store, hlatitude, hlongitude, hgeohash, hupdated]
    | status status => simp [Row.change, store, hstatus, hupdated]
  obtain ⟨change, timestamp⟩ := u
  cases change with
  | location point geohash =>
    obtain ⟨⟨hlat, hlng⟩, -⟩ := Geo.Point.isValid_iff.mp hu
    have hplaces : (us ++ [Update.mk (.location point geohash) timestamp]).filterMap Update.place? =
        us.filterMap Update.place? ++ [(point, geohash)] := List.filterMap_append
    have hstatuses : (us ++ [Update.mk (.location point geohash) timestamp]).filterMap Update.status? =
        us.filterMap Update.status? := List.filterMap_append.trans (List.append_nil _)
    constructor
    · rw [hstatuses]
      exact h.status
    · rw [hplaces, List.getLast?_concat]
      exact store_ofFloat (c := .latitude) rfl rfl hlat
    · rw [hplaces, List.getLast?_concat]
      exact store_ofFloat (c := .longitude) rfl rfl hlng
    · rw [hplaces, List.getLast?_concat]
      rfl
    · rw [List.getLast?_concat]
      rfl
    · exact hothers
  | status status =>
    have hplaces : (us ++ [Update.mk (.status status) timestamp]).filterMap Update.place? =
        us.filterMap Update.place? := List.filterMap_append.trans (List.append_nil _)
    have hstatuses : (us ++ [Update.mk (.status status) timestamp]).filterMap Update.status? =
        us.filterMap Update.status? ++ [status] := List.filterMap_append
    constructor
    · rw [hstatuses, List.getLast?_concat]
      rfl
    · rw [hplaces]
      exact h.latitude
    · rw [hplaces]
      exact h.longitude
    · rw [hplaces]
      exact h.geohash
    · rw [List.getLast?_concat]
      rfl
    · exact hothers

/-- All updates, one after the other. -/
theorem settles_foldl (us : List Update) (hus : ∀ u ∈ us, u.change.Legal) (r : Row) :
    Settles us r (us.foldl (fun r u => r.change u) r) := by
  induction us using List.reverseRecOn with
  | nil => exact settles_nil r
  | append_singleton us u ih =>
    rw [List.foldl_append]
    exact (ih fun v hv => hus v (List.mem_append_left _ hv)).change (hus u (by simp))

/-- Two rows that agree on the last update of each kind agree on everything but the time of the last. -/
theorem Settles.get_eq (h : Settles us r after) (h' : Settles vs r other)
    (hplaces : us.filterMap Update.place? = vs.filterMap Update.place?)
    (hstatuses : us.filterMap Update.status? = vs.filterMap Update.status?) {c : Column} (hc : c ≠ .updatedAt) :
    after.get c = other.get c := by
  by_cases hwritten : c ∈ [Column.status, .latitude, .longitude, .geohash, .updatedAt]
  · cases c with
    | status => exact h.status.trans (hstatuses ▸ h'.status.symm)
    | latitude => exact h.latitude.trans (hplaces ▸ h'.latitude.symm)
    | longitude => exact h.longitude.trans (hplaces ▸ h'.longitude.symm)
    | geohash => exact h.geohash.trans (hplaces ▸ h'.geohash.symm)
    | updatedAt => exact absurd rfl hc
    | _ => exact absurd hwritten (by decide)
  · rw [h.others c hwritten, h'.others c hwritten]

/-- The row after requests, of which those with its identifier concern it. -/
def serve (r : Row) (es : List Request) : Row :=
  es.foldl (fun r e => if r.hasId e.id then r.change e.update else r) r

theorem serve_eq (r : Row) (es : List Request) : r.serve es = (r.updates es).foldl (fun r u => r.change u) r := by
  induction es generalizing r with
  | nil => rfl
  | cons e es ih =>
    by_cases he : r.hasId e.id
    · have hupdates : (r.change e.update).updates es = r.updates es := by simp [updates]
      have hcons : r.updates (e :: es) = e.update :: r.updates es := by simp [updates, he]
      rw [hcons, List.foldl_cons, ← hupdates, ← ih]
      simp [serve, he]
    · have hcons : r.updates (e :: es) = r.updates es := by simp [updates, he]
      rw [hcons, ← ih]
      simp [serve, he]

end Row

/-- Of orders that are alike, the updates of a row that are of one kind are the same. -/
theorem Alike.filterMap_updates {es fs : List Request} (h : Alike es fs) {kind : ChangeKind} {α : Type}
    {f : Update → Option α} (hf : ∀ u, u.change.kind ≠ kind → f u = none) (r : Row) :
    (r.updates es).filterMap f = (r.updates fs).filterMap f := by
  by_cases hid : ∃ id, r.hasId id = true
  · obtain ⟨id, hid⟩ := hid
    have hsame : (fun e : Request => r.hasId e.id) = fun e => decide (e.id = id) := by
      funext e
      exact Row.hasId_eq hid e.id
    have hupdates : ∀ gs : List Request, (r.updates gs).filterMap f =
        ((gs.filter fun e => e.id = id ∧ e.update.change.kind = kind).map Request.update).filterMap f := by
      intro gs
      rw [Row.updates, hsame, List.filterMap_map, List.filterMap_map, List.filterMap_filter,
        List.filterMap_filter]
      refine List.filterMap_congr fun e _ => ?_
      by_cases hkind : e.update.change.kind = kind
      · simp [hkind]
      · simp [hkind, hf e.update hkind]
    rw [hupdates es, hupdates fs, h id kind]
  · have hnone : ∀ gs : List Request, r.updates gs = [] := by
      intro gs
      simp only [Row.updates, List.map_eq_nil_iff, List.filter_eq_nil_iff]
      exact fun e _ he => hid ⟨e.id, he⟩
    rw [hnone es, hnone fs]

namespace Database

/-- How many rows an update concerns does not depend on the updates before it. -/
theorem fst_apply_apply (db : Database) (id other : String) (u v : Update) :
    ((db.apply id u).2.apply other v).1 = (db.apply other v).1 := by
  obtain ⟨_ | rows⟩ := db
  · rfl
  · have hsame : Row.hasId other ∘ (fun r => if r.hasId id then r.change u else r) = Row.hasId other := by
      funext r
      rw [Function.comp_apply]
      split <;> simp
    simp [apply, changeRows, List.countP_map, hsame]

theorem replies_serve (es : List Request) (db : Database) :
    (db.serve es).1 = es.map fun e => (e, (db.apply e.id e.update).1) := by
  induction es generalizing db with
  | nil => rfl
  | cons e es ih => simp [serve, ih, fst_apply_apply]

/-- Each row is served for itself. A table that is gone stays away. -/
theorem rows_serve (es : List Request) (db : Database) :
    (db.serve es).2.rows = db.rows.map (List.map fun r => r.serve es) := by
  induction es generalizing db with
  | nil =>
    obtain ⟨_ | rows⟩ := db
    · rfl
    · simp [serve, Row.serve]
  | cons e es ih =>
    have happly : (db.apply e.id e.update).2.rows =
        db.rows.map (List.map fun r => if r.hasId e.id then r.change e.update else r) := by
      obtain ⟨_ | rows⟩ := db
      · rfl
      · rfl
    change ((db.apply e.id e.update).2.serve es).2.rows = _
    rw [ih, happly, Option.map_map, List.map_comp_map]
    rfl

end Database

/-- Whatever the table holds, two interleavings that order the updates of one kind of one driver alike give
each update the same answer and leave rows that differ at most in the times of their last changes. After
each of them, every row holds what the last updates of it wrote. -/
theorem serve_interleaved (clients : Clients) (hlegal : ∀ steps ∈ clients, ∀ step ∈ steps, step.2.change.Legal)
    (es fs : List Request) (hes : clients.Interleaved es) (hfs : clients.Interleaved fs) (h : Alike es fs)
    (db : Database) :
    (db.serve es).1.Perm (db.serve fs).1 ∧
    ∃ after other : Row → Row,
      (db.serve es).2.rows = db.rows.map (List.map after) ∧
      (db.serve fs).2.rows = db.rows.map (List.map other) ∧
      ∀ r, Row.Settles (r.updates es) r (after r) ∧ Row.Settles (r.updates fs) r (other r) ∧
        ∀ c ≠ .updatedAt, (after r).get c = (other r).get c := by
  have hsettles : ∀ gs, clients.Interleaved gs → ∀ r : Row, Row.Settles (r.updates gs) r (r.serve gs) := by
    intro gs hgs r
    rw [Row.serve_eq]
    refine Row.settles_foldl _ (fun u hu => ?_) r
    obtain ⟨e, he, rfl⟩ := List.mem_map.mp hu
    obtain ⟨steps, hsteps, hstep⟩ := hgs.exists_step (List.mem_of_mem_filter he)
    exact hlegal steps hsteps _ hstep
  constructor
  · rw [Database.replies_serve, Database.replies_serve]
    exact (hes.perm hfs).map _
  · refine ⟨fun r => r.serve es, fun r => r.serve fs, Database.rows_serve es db, Database.rows_serve fs db,
      fun r => ⟨hsettles es hes r, hsettles fs hfs r, fun c hc => ?_⟩⟩
    have hplaces : (r.updates es).filterMap Update.place? = (r.updates fs).filterMap Update.place? :=
      h.filterMap_updates Update.place?_eq_none r
    have hstatuses : (r.updates es).filterMap Update.status? = (r.updates fs).filterMap Update.status? :=
      h.filterMap_updates Update.status?_eq_none r
    exact (hsettles es hes r).get_eq (hsettles fs hfs r) hplaces hstatuses hc

/-- One client places a driver, another makes it busy before or after that, and then frees a second one. -/
theorem serve_interleaved_of_two :
    ∃ place busy free : Request,
      Clients.Interleaved [[("a", ⟨.location ⟨-0.0, 2⟩ "s0", 5⟩)],
        [("a", ⟨.status .busy, 7⟩), ("b", ⟨.status .available, 8⟩)]] [place, busy, free] ∧
      Clients.Interleaved [[("a", ⟨.location ⟨-0.0, 2⟩ "s0", 5⟩)],
        [("a", ⟨.status .busy, 7⟩), ("b", ⟨.status .available, 8⟩)]] [busy, place, free] ∧
      Alike [place, busy, free] [busy, place, free] ∧
      ((Database.mk (some [.ofRecord { id := "a" }, .ofRecord { id := "b" }])).serve [place, busy, free]).1.Perm
        ((Database.mk (some [.ofRecord { id := "a" }, .ofRecord { id := "b" }])).serve [busy, place, free]).1 ∧
      ((Database.mk (some [.ofRecord { id := "a" }, .ofRecord { id := "b" }])).serve [place, busy, free]).2.rows =
        some [.ofRecord { id := "a", location := some ⟨0, 2⟩, status := .busy, updatedAt := 7, geohash := some "s0" },
          .ofRecord { id := "b", status := .available, updatedAt := 8 }] ∧
      ((Database.mk (some [.ofRecord { id := "a" }, .ofRecord { id := "b" }])).serve [busy, place, free]).2.rows =
        some [.ofRecord { id := "a", location := some ⟨0, 2⟩, status := .busy, updatedAt := 5, geohash := some "s0" },
          .ofRecord { id := "b", status := .available, updatedAt := 8 }] := by
  have hfirst : Clients.Interleaved [[("a", ⟨.location ⟨-0.0, 2⟩ "s0", 5⟩)],
      [("a", ⟨.status .busy, 7⟩), ("b", ⟨.status .available, 8⟩)]]
      [⟨0, 0, "a", ⟨.location ⟨-0.0, 2⟩ "s0", 5⟩⟩, ⟨1, 0, "a", ⟨.status .busy, 7⟩⟩,
        ⟨1, 1, "b", ⟨.status .available, 8⟩⟩] := by
    intro k
    rcases k with _ | _ | k
    · rfl
    · rfl
    · rfl
  have hsecond : Clients.Interleaved [[("a", ⟨.location ⟨-0.0, 2⟩ "s0", 5⟩)],
      [("a", ⟨.status .busy, 7⟩), ("b", ⟨.status .available, 8⟩)]]
      [⟨1, 0, "a", ⟨.status .busy, 7⟩⟩, ⟨0, 0, "a", ⟨.location ⟨-0.0, 2⟩ "s0", 5⟩⟩,
        ⟨1, 1, "b", ⟨.status .available, 8⟩⟩] := by
    intro k
    rcases k with _ | _ | k
    · rfl
    · rfl
    · rfl
  have halike : Alike [⟨0, 0, "a", ⟨.location ⟨-0.0, 2⟩ "s0", 5⟩⟩, ⟨1, 0, "a", ⟨.status .busy, 7⟩⟩,
      ⟨1, 1, "b", ⟨.status .available, 8⟩⟩] [⟨1, 0, "a", ⟨.status .busy, 7⟩⟩,
      ⟨0, 0, "a", ⟨.location ⟨-0.0, 2⟩ "s0", 5⟩⟩, ⟨1, 1, "b", ⟨.status .available, 8⟩⟩] := by
    intro id kind
    cases kind with
    | location => simp [List.filter_cons, Driver.Change.kind]
    | status => simp [List.filter_cons, Driver.Change.kind]
  obtain ⟨hperm, -⟩ := serve_interleaved _ (by decide) _ _ hfirst hsecond halike
    ⟨some [.ofRecord { id := "a" }, .ofRecord { id := "b" }]⟩
  exact ⟨_, _, _, hfirst, hsecond, halike, hperm, rfl, rfl⟩

end FleetLocator.RowStore
