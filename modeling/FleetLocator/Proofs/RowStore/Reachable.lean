import FleetLocator.Proofs.RowStore.Keys

/-!
# Databases that anyone writes to

Whatever services and other programs have written, no two rows have one identifier. So an update finds one row
or none. It changes cells of this row in the columns that it is about, and no other cell.
-/
namespace FleetLocator.RowStore

open Driver (Change Record Update)

/-- The columns that a change is about. -/
def concerned : Change → List Column
  | .location _ _ => [.latitude, .longitude, .geohash, .updatedAt]
  | .status _ => [.status, .updatedAt]

theorem Row.get_store_of_ne (r : Row) {c d : Column} (value : Cell) (h : d ≠ c) :
    (r.store c value).get d = r.get d := r.get_set_of_ne (c.store value) h

theorem Row.get_change_of_not_mem {u : Update} {c : Column} (h : c ∉ concerned u.change) (r : Row) :
    (r.change u).get c = r.get c := by
  obtain ⟨change, timestamp⟩ := u
  cases change with
  | location point geohash =>
    simp only [concerned, List.mem_cons, List.not_mem_nil, or_false, not_or] at h
    obtain ⟨hlat, hlng, hhash, htime⟩ := h
    rw [change, get_store_of_ne _ _ htime, get_store_of_ne _ _ hhash, get_store_of_ne _ _ hlng,
      get_store_of_ne _ _ hlat]
  | status status =>
    simp only [concerned, List.mem_cons, List.not_mem_nil, or_false, not_or] at h
    obtain ⟨hstatus, htime⟩ := h
    rw [change, get_store_of_ne _ _ htime, get_store_of_ne _ _ hstatus]

namespace Database

variable {rows others : List Row}

/-- Only the identifiers count. -/
theorem clash_congr (h : rows.map Row.id = others.map Row.id) : clash rows = clash others := by
  have hids (rs : List Row) :
      clash rs = false ↔ (rs.map Row.id).Pairwise fun x y => x.isNull = true ∨ y ≠ x := by
    rw [clash_eq_false_iff, List.pairwise_map]
  rw [Bool.eq_iff_iff, ← not_iff_not, Bool.not_eq_true, Bool.not_eq_true, hids, hids, h]

theorem clash_insert (h : clash rows = false) (record : Record) :
    clash (rows.filter (fun r => !r.hasId record.id) ++ [.ofRecord record]) = false := by
  rw [clash_eq_false_iff] at h ⊢
  refine List.pairwise_append.mpr ⟨h.sublist List.filter_sublist, List.pairwise_singleton _ _, ?_⟩
  intro r hr s hs
  obtain rfl := List.mem_singleton.mp hs
  have hid : (Row.ofRecord record).id = .ofString record.id := by
    rw [← Row.hasId_iff, Row.hasId_ofRecord, decide_eq_true rfl]
  have hother : r.hasId record.id = false := by simpa using (List.mem_filter.mp hr).2
  refine .inr fun heq => ?_
  rw [Row.hasId_iff.mpr (heq.symm.trans hid)] at hother
  cases hother

theorem clash_change (id : String) (u : Update) (rows : List Row) :
    clash (changeRows id (Row.change u) rows).1 = clash rows := by
  apply clash_congr
  rw [changeRows, List.map_map]
  refine List.map_congr_left fun r _ => ?_
  rw [Function.comp_apply]
  split <;> simp

end Database

/-- The databases that come about by what services and other programs write. Of the rows that others leave, if
they leave a table, nothing is known but that no identifiers clash. -/
inductive Reachable : Database → Prop
  | empty : Reachable .empty
  | insert {db next : Database} (h : Reachable db) (record : Record) (hnext : db.insert record = .ok next) :
    Reachable next
  | apply {db : Database} (h : Reachable db) (id : String) (u : Update) : Reachable (db.apply id u).2
  | others (rows : Option (List Row)) (h : ∀ rs ∈ rows, Database.clash rs = false) : Reachable ⟨rows⟩

namespace Reachable

variable {db next : Database}

/-- Whatever is written, identifiers do not clash. -/
theorem clash_eq_false (h : Reachable db) : ∀ rows ∈ db.rows, Database.clash rows = false := by
  induction h with
  | empty =>
    rintro rows hrows
    obtain rfl : [] = rows := Option.some.inj hrows
    rfl
  | @insert db next h record hnext ih =>
    obtain ⟨before⟩ := db
    cases before with
    | none => cases hnext
    | some before =>
      obtain rfl := Except.ok.inj hnext
      rintro rows hrows
      obtain rfl := Option.some.inj hrows
      exact Database.clash_insert (ih before rfl) record
  | @apply db h id u ih =>
    obtain ⟨before⟩ := db
    cases before with
    | none => exact ih
    | some before =>
      rintro rows hrows
      obtain rfl : (changeRows id (Row.change u) before).1 = rows := Option.some.inj hrows
      rw [Database.clash_change]
      exact ih before rfl
  | others rows h => exact h

/-- A cell that another program writes is one of the things that others do. -/
theorem overwrite (h : Reachable db) {id : String} {c : Column} {value : Cell} {affected : ℕ}
    (hnext : db.overwrite id c value = .ok (affected, next)) : Reachable next := by
  unfold Database.overwrite at hnext
  split at hnext
  · cases hnext
  · dsimp only at hnext
    split_ifs at hnext with hnone hnull hclash
    · cases hnext
      exact h
    · cases hnext
      refine .others _ fun rows hrows => ?_
      obtain rfl := Option.some.inj hrows
      exact Bool.not_eq_true _ ▸ hclash

theorem drop (hnext : db.drop = .ok next) : Reachable next := by
  unfold Database.drop at hnext
  split at hnext
  · cases hnext
  · cases hnext
    exact .others none fun rows hrows => nomatch hrows

/-- An update finds no table, no row, or one row, which it changes. -/
theorem apply_cases (h : Reachable db) (id : String) (u : Update) :
    (db.rows = none ∧ db.apply id u = (.error missingTable, db)) ∨
    (∃ rows, db.rows = some rows ∧ (∀ r ∈ rows, r.hasId id = false) ∧ db.apply id u = (.ok 0, db)) ∨
    ∃ rows before row after, db.rows = some rows ∧ Alone rows before row after id ∧
      db.apply id u = (.ok 1, ⟨some (before ++ row.change u :: after)⟩) := by
  have hclash := h.clash_eq_false
  obtain ⟨rows⟩ := db
  cases rows with
  | none => exact .inl ⟨rfl, rfl⟩
  | some rows =>
    by_cases hrow : ∃ r ∈ rows, r.hasId id = true
    · obtain ⟨row, hmem, hid⟩ := hrow
      obtain ⟨before, after, rfl⟩ := List.append_of_mem hmem
      have halone := Alone.of_clash (hclash _ rfl) hid
      refine .inr (.inr ⟨_, before, row, after, rfl, halone, ?_⟩)
      simp only [Database.apply, halone.changeRows_eq]
    · have hnone : ∀ r ∈ rows, r.hasId id = false := fun r hr => by
        rw [← Bool.not_eq_true]
        exact fun hid => hrow ⟨r, hr, hid⟩
      have hkeep : (rows.map fun r => if r.hasId id then r.change u else r) = rows := by
        refine (List.map_congr_left fun r hr => ?_).trans (List.map_id rows)
        simp [hnone r hr]
      have hcount : rows.countP (Row.hasId id) = 0 := List.countP_eq_zero.mpr fun r hr => by simp [hnone r hr]
      refine .inr (.inl ⟨rows, rfl, hnone, ?_⟩)
      simp only [Database.apply, changeRows, hkeep, hcount]

end Reachable

end FleetLocator.RowStore
