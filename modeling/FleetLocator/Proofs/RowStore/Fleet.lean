import FleetLocator.Proofs.RowStore.Row
import FleetLocator.RowStore.Database
import Mathlib.Data.List.Nodup

/-!
# The table is a map from identifiers to drivers

A fleet says which driver was last written under each identifier. Whatever is written, the rows of the
table are those of the drivers of the fleet, each once.
-/
namespace FleetLocator.RowStore

open Driver (Record Update)
open Service (Fault)

/-- A run succeeds and stays related to another run if each step does. -/
theorem foldlM_related {ε σ τ α : Type} {R : σ → τ → Prop} {step : σ → α → Except ε σ} {other : τ → α → τ}
    (as : List α) (hstep : ∀ a ∈ as, ∀ s t, R s t → ∃ next, step s a = .ok next ∧ R next (other t a)) {s : σ}
    {t : τ} (h : R s t) : ∃ next, as.foldlM step s = .ok next ∧ R next (as.foldl other t) := by
  induction as generalizing s t with
  | nil => exact ⟨s, rfl, h⟩
  | cons a as ih =>
    obtain ⟨middle, hmiddle, h⟩ := hstep a List.mem_cons_self s t h
    obtain ⟨next, hnext, h⟩ := ih (fun b hb => hstep b (List.mem_cons_of_mem a hb)) h
    refine ⟨next, ?_, h⟩
    rw [List.foldlM_cons, hmiddle]
    exact hnext

/-- A run succeeds and keeps what each step keeps. -/
theorem foldlM_keeps {ε σ α : Type} {P : σ → Prop} {step : σ → α → Except ε σ} (as : List α)
    (hstep : ∀ a ∈ as, ∀ s, P s → ∃ next, step s a = .ok next ∧ P next) {s : σ} (h : P s) :
    ∃ next, as.foldlM step s = .ok next ∧ P next :=
  @foldlM_related ε σ Unit α (fun s _ => P s) step (fun _ _ => ()) as (fun a ha s _ h => hstep a ha s h) s () h

/-- The driver that was last written under each identifier. -/
abbrev Fleet := String → Option Record

namespace Fleet

def empty : Fleet := fun _ => none

def insert (r : Record) (f : Fleet) : Fleet := Function.update f r.id (some r)

def update (id : String) (u : Update) (f : Fleet) : Fleet := Function.update f id ((f id).map u.apply)

end Fleet

/-- A driver comes in whole, or the driver with an identifier is changed. -/
inductive Write
  | insert (record : Record)
  | update (id : String) (u : Update)

namespace Write

def Legal : Write → Prop
  | insert record => record.InDomain
  | update _ u => u.change.Legal

instance (w : Write) : Decidable w.Legal := by unfold Legal; cases w <;> infer_instance

def perform : Write → Database → Except Fault Database
  | insert record, db => db.insert record
  | update id u, db => (db.apply id u).1.map fun _ => (db.apply id u).2

def record : Write → Fleet → Fleet
  | insert record, f => f.insert record
  | update id u, f => f.update id u

end Write

/-- The database after writes to an empty one, if none of them fails. -/
def Database.afterWrites (ws : List Write) : Except Fault Database :=
  ws.foldlM (fun db w => w.perform db) .empty

def Fleet.afterWrites (ws : List Write) : Fleet := ws.foldl (fun f w => w.record f) .empty

/-- The records are those of the fleet, each once, and legal. -/
structure Lists (rs : List Record) (f : Fleet) : Prop where
  nodup : (rs.map Record.id).Nodup
  inDomain : ∀ r ∈ rs, r.InDomain
  mem_iff : ∀ id r, f id = some r ↔ r ∈ rs ∧ r.id = id

/-- The rows are those of the records of the fleet. -/
def Mirrors (db : Database) (f : Fleet) : Prop := ∃ rs, Lists rs f ∧ db.rows = some (rs.map Row.ofRecord)

namespace Lists

variable {rs : List Record} {f : Fleet} (h : Lists rs f)

include h

theorem find?_eq (id : String) : rs.find? (fun r => decide (r.id = id)) = f id := by
  cases hf : f id with
  | none =>
    rw [List.find?_eq_none]
    intro r hr
    rw [decide_eq_true_eq]
    intro hid
    rw [(h.mem_iff id r).mpr ⟨hr, hid⟩] at hf
    exact absurd hf (by simp)
  | some r =>
    obtain ⟨hr, hid⟩ := (h.mem_iff id r).mp hf
    cases hfind : rs.find? fun r => decide (r.id = id) with
    | none => exact absurd (List.find?_eq_none.mp hfind r hr) (by simp [hid])
    | some s =>
      have hs := (h.mem_iff id s).mpr ⟨List.mem_of_find?_eq_some hfind, by simpa using List.find?_some hfind⟩
      rw [← hs, hf]

/-- There is one record with an identifier of the fleet, and none with another. -/
theorem countP_eq (id : String) :
    rs.countP (fun r => decide (r.id = id)) = if (f id).isSome then 1 else 0 := by
  have hcount : rs.countP (fun r => decide (r.id = id)) = (rs.map Record.id).count id := by
    rw [List.count, List.countP_map]
    exact List.countP_congr fun r _ => by simp
  have hmem : id ∈ rs.map Record.id ↔ (f id).isSome := by
    rw [List.mem_map, Option.isSome_iff_exists]
    exact exists_congr fun r => (h.mem_iff id r).symm
  rw [hcount, h.nodup.count]
  exact if_congr hmem rfl rfl

theorem insert {record : Record} (hrecord : record.InDomain) :
    Lists (rs.filter (fun r => !decide (r.id = record.id)) ++ [record]) (f.insert record) where
  nodup := by
    have hrest : ((rs.filter fun r => !decide (r.id = record.id)).map Record.id).Nodup :=
      h.nodup.sublist (List.filter_sublist.map _)
    rw [List.map_append, List.map_singleton, List.nodup_append]
    refine ⟨hrest, List.nodup_singleton _, fun id hid other hother => ?_⟩
    obtain ⟨r, hr, rfl⟩ := List.mem_map.mp hid
    obtain rfl := List.mem_singleton.mp hother
    simpa using (List.mem_filter.mp hr).2
  inDomain r hr := by
    rcases List.mem_append.mp hr with hr | hr
    · exact h.inDomain r (List.mem_filter.mp hr).1
    · rw [List.mem_singleton.mp hr]
      exact hrecord
  mem_iff id r := by
    rw [List.mem_append, List.mem_filter, List.mem_singleton, Fleet.insert, Function.update_apply]
    split
    · next hid =>
      subst hid
      rw [Option.some_inj]
      constructor
      · rintro rfl
        exact ⟨.inr rfl, rfl⟩
      · rintro ⟨⟨-, hne⟩ | rfl, hid⟩
        · simp [hid] at hne
        · rfl
    · next hid =>
      rw [h.mem_iff id r]
      constructor
      · rintro ⟨hr, rfl⟩
        exact ⟨.inl ⟨hr, by simpa using hid⟩, rfl⟩
      · rintro ⟨⟨hr, -⟩ | rfl, hid'⟩
        · exact ⟨hr, hid'⟩
        · exact absurd hid'.symm hid

theorem update (id : String) {u : Update} (hu : u.change.Legal) :
    Lists (rs.map fun r => if r.id = id then u.apply r else r) (f.update id u) where
  nodup := by
    have hids : (Record.id ∘ fun r => if r.id = id then u.apply r else r) = Record.id := by
      funext r
      rw [Function.comp_apply]
      split
      · exact Update.id_apply u r
      · rfl
    rw [List.map_map, hids]
    exact h.nodup
  inDomain r hr := by
    obtain ⟨s, hs, rfl⟩ := List.mem_map.mp hr
    split
    · exact Update.inDomain_apply hu (h.inDomain s hs)
    · exact h.inDomain s hs
  mem_iff other r := by
    rw [List.mem_map, Fleet.update, Function.update_apply]
    split
    · next hid =>
      subst hid
      rw [Option.map_eq_some_iff]
      constructor
      · rintro ⟨s, hs, rfl⟩
        obtain ⟨hs, hid⟩ := (h.mem_iff other s).mp hs
        exact ⟨⟨s, hs, if_pos hid⟩, by rw [Update.id_apply, hid]⟩
      · rintro ⟨⟨s, hs, rfl⟩, hid⟩
        split at hid
        · next heq => exact ⟨s, (h.mem_iff other s).mpr ⟨hs, heq⟩, (if_pos heq).symm⟩
        · next hne => exact absurd hid hne
    · next hid =>
      rw [h.mem_iff other r]
      constructor
      · rintro ⟨hr, rfl⟩
        exact ⟨⟨r, hr, if_neg hid⟩, rfl⟩
      · rintro ⟨⟨s, hs, rfl⟩, hother⟩
        split at hother
        · next heq => exact absurd (by rw [← hother, Update.id_apply, heq]) hid
        · next hne =>
          rw [if_neg hne]
          exact ⟨hs, hother⟩

end Lists

theorem filter_hasId_ofRecord (rs : List Record) (id : String) :
    (rs.map Row.ofRecord).filter (fun r => !r.hasId id) =
      (rs.filter fun r => !decide (r.id = id)).map Row.ofRecord := by
  rw [List.filter_map]
  congr 2
  funext r
  rw [Function.comp_apply, Row.hasId_ofRecord]

theorem changeRows_ofRecord (rs : List Record) (id : String) (u : Update) :
    changeRows id (Row.change u) (rs.map Row.ofRecord) =
      ((rs.map fun r => if r.id = id then u.apply r else r).map Row.ofRecord,
        rs.countP fun r => decide (r.id = id)) := by
  have hrow (r : Record) : (if (Row.ofRecord r).hasId id then (Row.ofRecord r).change u else Row.ofRecord r) =
      Row.ofRecord (if r.id = id then u.apply r else r) := by
    rw [Row.hasId_ofRecord, Row.change_ofRecord]
    by_cases hid : r.id = id <;> simp [hid]
  have hcount : Row.hasId id ∘ Row.ofRecord = fun r => decide (r.id = id) := by
    funext r
    exact Row.hasId_ofRecord id r
  rw [changeRows, List.map_map, List.map_map, List.countP_map, hcount]
  congr 2
  funext r
  exact hrow r

theorem mirrors_empty : Mirrors .empty .empty := by
  refine ⟨[], ⟨List.nodup_nil, fun _ hr => absurd hr List.not_mem_nil, fun id r => ?_⟩, rfl⟩
  simp [Fleet.empty]

namespace Mirrors

variable {db : Database} {f : Fleet}

theorem insert (h : Mirrors db f) {record : Record} (hrecord : record.InDomain) :
    ∃ next, db.insert record = .ok next ∧ Mirrors next (f.insert record) := by
  obtain ⟨rs, hrs, hrows⟩ := h
  refine ⟨⟨some ((rs.filter (fun r => !decide (r.id = record.id)) ++ [record]).map Row.ofRecord)⟩, ?_,
    _, hrs.insert hrecord, rfl⟩
  simp only [Database.insert, hrows, filter_hasId_ofRecord, List.map_append, List.map_singleton]

/-- The number of records changed is one if the fleet has the identifier, and none otherwise. -/
theorem apply_eq (h : Mirrors db f) (id : String) (u : Update) :
    (db.apply id u).1 = .ok (if (f id).isSome then 1 else 0) := by
  obtain ⟨rs, hrs, hrows⟩ := h
  simp only [Database.apply, hrows, changeRows_ofRecord, hrs.countP_eq]

theorem apply (h : Mirrors db f) (id : String) {u : Update} (hu : u.change.Legal) :
    Mirrors (db.apply id u).2 (f.update id u) := by
  obtain ⟨rs, hrs, hrows⟩ := h
  refine ⟨_, hrs.update id hu, ?_⟩
  simp only [Database.apply, hrows, changeRows_ofRecord]

/-- A legal write succeeds, and the rows stay those of the fleet. -/
theorem perform (h : Mirrors db f) {w : Write} (hw : w.Legal) :
    ∃ next, w.perform db = .ok next ∧ Mirrors next (w.record f) := by
  cases w with
  | insert record => exact h.insert hw
  | update id u =>
    refine ⟨(db.apply id u).2, ?_, h.apply id hw⟩
    rw [Write.perform, h.apply_eq]
    rfl

/-- After legal writes the rows are those of the fleet. -/
theorem afterWrites {ws : List Write} (hws : ∀ w ∈ ws, w.Legal) :
    ∃ db, Database.afterWrites ws = .ok db ∧ Mirrors db (Fleet.afterWrites ws) :=
  foldlM_related ws (fun w hw _ _ h => h.perform (hws w hw)) mirrors_empty

theorem inDomain (h : Mirrors db f) {id : String} {r : Record} (hr : f id = some r) : r.InDomain := by
  obtain ⟨rs, hrs, -⟩ := h
  exact hrs.inDomain r ((hrs.mem_iff id r).mp hr).1

theorem fetch_eq (h : Mirrors db f) (id : String) : db.fetch id = .ok ((f id).map Record.unsignZeros) := by
  obtain ⟨rs, hrs, hrows⟩ := h
  have hid : Row.hasId id ∘ Row.ofRecord = fun r => decide (r.id = id) := by
    funext r
    exact Row.hasId_ofRecord id r
  have hread : (f id).map (Row.record ∘ Row.ofRecord) = (f id).map Record.unsignZeros :=
    Option.map_congr fun r hr => Row.record_ofRecord (hrs.inDomain r ((hrs.mem_iff id r).mp hr).1)
  rw [Database.fetch, hrows]
  simp only [List.find?_map, hid, hrs.find?_eq id, Option.map_map, hread]

/-- A change under an identifier without a driver changes nothing. -/
theorem apply_of_none (h : Mirrors db f) {id : String} (hid : f id = none) (u : Update) :
    (db.apply id u).2 = db := by
  obtain ⟨rs, hrs, hrows⟩ := h
  have hne : ∀ r ∈ rs, r.id ≠ id := fun r hr heq => by
    rw [(hrs.mem_iff id r).mpr ⟨hr, heq⟩] at hid
    exact absurd hid (by simp)
  have hsame : (rs.map fun r => if r.id = id then u.apply r else r) = rs := by
    rw [List.map_congr_left fun r hr => if_neg (hne r hr), List.map_id']
  obtain ⟨rows⟩ := db
  obtain rfl : rows = _ := hrows
  simp only [Database.apply, changeRows_ofRecord, hsame]

/-- The candidates are the drivers of the fleet that are available somewhere, each once. -/
theorem candidates (h : Mirrors db f) :
    ∃ found, db.candidates = .ok found ∧ (found.map Record.id).Nodup ∧
      ∀ r, r ∈ found ↔ ∃ s, f r.id = some s ∧ r = s.unsignZeros ∧ s.status = .available ∧
        s.location.isSome = true := by
  obtain ⟨rs, hrs, hrows⟩ := h
  have hread : ∀ s ∈ rs, (Row.ofRecord s).record = s.unsignZeros := fun s hs =>
    Row.record_ofRecord (hrs.inDomain s hs)
  refine ⟨((rs.map Row.ofRecord).filter Row.isCandidate).map Row.record, ?_, ?_, fun r => ?_⟩
  · rw [Database.candidates, hrows]
  · have hids : ((rs.map Row.ofRecord).map Row.record).map Record.id = rs.map Record.id := by
      rw [List.map_map, List.map_map]
      refine List.map_congr_left fun s hs => ?_
      rw [Function.comp_apply, Function.comp_apply, hread s hs]
      rfl
    exact (hids ▸ hrs.nodup).sublist ((List.filter_sublist.map _).map _)
  · rw [List.mem_map]
    constructor
    · rintro ⟨row, hrow, rfl⟩
      obtain ⟨hrow, hcandidate⟩ := List.mem_filter.mp hrow
      obtain ⟨s, hs, rfl⟩ := List.mem_map.mp hrow
      rw [hread s hs]
      exact ⟨s, (hrs.mem_iff _ s).mpr ⟨hs, rfl⟩, rfl, (Row.isCandidate_ofRecord (hrs.inDomain s hs)).mp hcandidate⟩
    · rintro ⟨s, hs, rfl, hcandidate⟩
      obtain ⟨hs, -⟩ := (hrs.mem_iff _ s).mp hs
      exact ⟨Row.ofRecord s, List.mem_filter.mpr ⟨List.mem_map_of_mem hs,
        (Row.isCandidate_ofRecord (hrs.inDomain s hs)).mpr hcandidate⟩, hread s hs⟩

end Mirrors

/-- What a database answers when it keeps a fleet. -/
structure Database.Keeps (db : Database) (f : Fleet) : Prop where
  fetch : ∀ id, db.fetch id = .ok ((f id).map Record.unsignZeros)
  affected : ∀ id u, (db.apply id u).1 = .ok (if (f id).isSome then 1 else 0)
  unchanged : ∀ id u, f id = none → (db.apply id u).2 = db
  candidates : ∃ found, db.candidates = .ok found ∧ (found.map Record.id).Nodup ∧
    ∀ r, r ∈ found ↔ db.fetch r.id = .ok (some r) ∧ r.status = .available ∧ r.location.isSome = true

/-- Whatever is written, the table keeps the drivers that were last written. -/
theorem keeps_afterWrites (ws : List Write) (hws : ∀ w ∈ ws, w.Legal) :
    ∃ db, Database.afterWrites ws = .ok db ∧ db.Keeps (Fleet.afterWrites ws) := by
  obtain ⟨db, hdb, h⟩ := Mirrors.afterWrites hws
  refine ⟨db, hdb, h.fetch_eq, h.apply_eq, fun id u hid => h.apply_of_none hid u, ?_⟩
  obtain ⟨found, hfound, hids, hmem⟩ := h.candidates
  refine ⟨found, hfound, hids, fun r => ?_⟩
  rw [hmem, h.fetch_eq, Except.ok.injEq, Option.map_eq_some_iff]
  constructor
  · rintro ⟨s, hs, rfl, hstatus, hlocation⟩
    refine ⟨⟨s, hs, rfl⟩, ?_, ?_⟩
    · rw [Record.status_unsignZeros, hstatus]
    · rw [Record.isSome_location_unsignZeros, hlocation]
  · rintro ⟨⟨s, hs, rfl⟩, hstatus, hlocation⟩
    rw [Record.status_unsignZeros] at hstatus
    rw [Record.isSome_location_unsignZeros] at hlocation
    exact ⟨s, hs, rfl, hstatus, hlocation⟩

/-- The zero of a driver that comes in loses its sign, and a change of another driver is lost. -/
theorem keeps_afterWrites_of_three :
    ∃ db, Database.afterWrites
        [.insert { id := "a", location := some ⟨-0.0, 2.5⟩ }, .update "a" ⟨.status .available, 7⟩,
          .update "b" ⟨.status .busy, 9⟩] = .ok db ∧
      db.fetch "a" = .ok (some { id := "a", location := some ⟨0, 2.5⟩, status := .available, updatedAt := 7 }) ∧
      db.fetch "b" = .ok none := by
  obtain ⟨db, hdb, h⟩ := keeps_afterWrites [.insert { id := "a", location := some ⟨-0.0, 2.5⟩ },
    .update "a" ⟨.status .available, 7⟩, .update "b" ⟨.status .busy, 9⟩] (by decide)
  refine ⟨db, hdb, (h.fetch "a").trans ?_, (h.fetch "b").trans ?_⟩
  · rfl
  · rfl

end FleetLocator.RowStore
