import FleetLocator.Proofs.RowStore.Row
import FleetLocator.RowStore.Database
import Mathlib.Data.List.Nodup

/-!
# One row for each identifier

Whatever comes into a table, legal or not, its rows have identifiers that are texts and that differ. So
each row stands alone under its identifier: it is the one that is found there, and the one that a change
there concerns. A search takes the rows whose status is spelled in one way, whereas a lookup reads the status in any
spelling; apart from this they agree on all that is known of a driver.
-/
namespace FleetLocator.RowStore

open Driver (Record Status Update)
open Service (Fault)

namespace Row

variable {r : Row} {id : String}

@[simp] theorem id_change (u : Update) (r : Row) : (r.change u).id = r.id := by
  obtain ⟨change, timestamp⟩ := u
  cases change <;> rfl

@[simp] theorem hasId_change (id : String) (u : Update) (r : Row) : (r.change u).hasId id = r.hasId id := by
  simp [hasId]

theorem hasId_iff : r.hasId id = true ↔ r.id = .ofString id := by simp [hasId]

/-- A row with one identifier has no other. -/
theorem hasId_eq (h : r.hasId id = true) (other : String) : r.hasId other = decide (other = id) := by
  rw [hasId, hasId_iff.mp h, Bool.eq_iff_iff, beq_iff_eq, decide_eq_true_eq, Cell.ofString_injective.eq_iff,
    eq_comm]

/-- The driver that is read from a row has the identifier of the row. -/
theorem id_record (h : r.hasId id = true) : r.record.id = id := by
  have hvalue : (r.get .id).value = Json.FieldValue.toValue id := by
    rw [← Cell.value_ofString, ← hasId_iff.mp h]
    rfl
  have hcell := r.get?_document .id
  rw [hvalue] at hcell
  rw [record, Record.id_decode]
  exact Json.Document.field_of_get? (Json.faithful_string id) hcell ""

end Row

/-- The identifiers of the rows are texts, and no two are the same. -/
structure Keyed (rows : List Row) : Prop where
  text : ∀ r ∈ rows, ∃ id, r.hasId id = true
  nodup : (rows.map Row.id).Nodup

/-- A row is the only one with its identifier, and stands between the others. -/
structure Alone (rows before : List Row) (r : Row) (after : List Row) (id : String) : Prop where
  split : rows = before ++ r :: after
  hasId : r.hasId id = true
  others : ∀ s ∈ before ++ after, s.hasId id = false

theorem Database.clash_eq_false_iff {rows : List Row} :
    clash rows = false ↔ rows.Pairwise fun r s => r.id.isNull = true ∨ s.id ≠ r.id := by
  induction rows with
  | nil => simp [clash]
  | cons r rows ih =>
    rw [clash, Bool.or_eq_false_iff, ih, List.pairwise_cons]
    refine and_congr_left fun _ => ?_
    cases r.id.isNull <;> simp

/-- Where no identifiers clash, a row whose identifier is a text is alone under it. -/
theorem Alone.of_clash {before after : List Row} {r : Row} {id : String}
    (h : Database.clash (before ++ r :: after) = false) (hid : r.hasId id = true) :
    Alone (before ++ r :: after) before r after id where
  split := rfl
  hasId := hid
  others s hs := by
    have hrid : r.id = .ofString id := Row.hasId_iff.mp hid
    have hnull : r.id.isNull = false := by
      rw [hrid]
      rfl
    obtain ⟨-, hafter, hbefore⟩ := List.pairwise_append.mp (Database.clash_eq_false_iff.mp h)
    rw [← Bool.not_eq_true]
    intro hsid
    have hsame : s.id = r.id := (Row.hasId_iff.mp hsid).trans hrid.symm
    rcases List.mem_append.mp hs with hs | hs
    · have hne := hbefore s hs r List.mem_cons_self
      simp [hsame, hnull] at hne
    · have hne := (List.pairwise_cons.mp hafter).1 s hs
      simp [hsame, hnull] at hne

namespace Alone

variable {rows before after : List Row} {r : Row} {id : String} (h : Alone rows before r after id)

include h

theorem find?_eq : rows.find? (Row.hasId id) = some r := by
  have hbefore : before.find? (Row.hasId id) = none := by
    rw [List.find?_eq_none]
    intro s hs
    simp [h.others s (List.mem_append_left after hs)]
  rw [h.split, List.find?_append, hbefore, List.find?_cons_of_pos h.hasId]
  rfl

theorem changeRows_eq (f : Row → Row) : changeRows id f rows = (before ++ f r :: after, 1) := by
  have hkeep : ∀ ss ⊆ before ++ after, (ss.map fun s => if s.hasId id then f s else s) = ss := by
    intro ss hss
    refine (List.map_congr_left fun s hs => ?_).trans (List.map_id ss)
    simp [h.others s (hss hs)]
  have hnone : ∀ ss ⊆ before ++ after, ss.countP (Row.hasId id) = 0 := by
    intro ss hss
    rw [List.countP_eq_zero]
    intro s hs
    simp [h.others s (hss hs)]
  have hleft := List.subset_append_left before after
  have hright := List.subset_append_right before after
  simp [changeRows, h.split, h.hasId, hkeep before hleft, hkeep after hright, hnone before hleft,
    hnone after hright]

end Alone

namespace Keyed

variable {rows : List Row} (h : Keyed rows)

include h

theorem insert (record : Record) :
    Keyed (rows.filter (fun r => !r.hasId record.id) ++ [.ofRecord record]) where
  text r hr := by
    rcases List.mem_append.mp hr with hr | hr
    · exact h.text r (List.mem_filter.mp hr).1
    · obtain rfl := List.mem_singleton.mp hr
      exact ⟨record.id, by simp [Row.hasId_ofRecord]⟩
  nodup := by
    have hrest : ((rows.filter fun r => !r.hasId record.id).map Row.id).Nodup :=
      h.nodup.sublist (List.filter_sublist.map _)
    have hid : (Row.ofRecord record).id = .ofString record.id := by
      rw [← Row.hasId_iff, Row.hasId_ofRecord, decide_eq_true rfl]
    rw [List.map_append, List.map_singleton, List.nodup_append]
    refine ⟨hrest, List.nodup_singleton _, ?_⟩
    intro cell hcell other hother heq
    obtain ⟨r, hr, rfl⟩ := List.mem_map.mp hcell
    obtain rfl := List.mem_singleton.mp hother
    have hne := (List.mem_filter.mp hr).2
    rw [Row.hasId_iff.mpr (heq.trans hid)] at hne
    exact absurd hne (by simp)

theorem change (id : String) (u : Update) : Keyed (changeRows id (Row.change u) rows).1 where
  text r hr := by
    obtain ⟨s, hs, rfl⟩ := List.mem_map.mp hr
    obtain ⟨other, hother⟩ := h.text s hs
    refine ⟨other, ?_⟩
    split <;> simp [hother]
  nodup := by
    have hids : (Row.id ∘ fun r => if r.hasId id then r.change u else r) = Row.id := by
      funext r
      rw [Function.comp_apply]
      split <;> simp
    rw [changeRows, List.map_map, hids]
    exact h.nodup

/-- Every row is alone under its identifier. -/
theorem alone {r : Row} (hr : r ∈ rows) : ∃ before after id, Alone rows before r after id := by
  obtain ⟨id, hid⟩ := h.text r hr
  obtain ⟨before, after, hsplit⟩ := List.append_of_mem hr
  refine ⟨before, after, id, hsplit, hid, ?_⟩
  intro s hs
  have hne : r.id ∉ (before ++ after).map Row.id := by
    have hnodup := h.nodup
    rw [hsplit, List.map_append, List.map_cons, List.nodup_middle, ← List.map_append] at hnodup
    exact (List.nodup_cons.mp hnodup).1
  rw [← Bool.not_eq_true, Row.hasId_iff]
  intro hs'
  exact hne (List.mem_map.mpr ⟨s, hs, hs'.trans (Row.hasId_iff.mp hid).symm⟩)

end Keyed

/-- The table is there, and each of its rows has an identifier of its own. -/
def Database.Keyed (db : Database) : Prop := ∃ rows, db.rows = some rows ∧ RowStore.Keyed rows

namespace Database.Keyed

variable {db : Database}

theorem empty : Database.empty.Keyed := ⟨[], rfl, fun _ hr => absurd hr List.not_mem_nil, List.nodup_nil⟩

theorem insert (h : db.Keyed) (record : Record) : ∃ next, db.insert record = .ok next ∧ next.Keyed := by
  obtain ⟨rows, hrows, h⟩ := h
  refine ⟨⟨some (rows.filter (fun r => !r.hasId record.id) ++ [.ofRecord record])⟩, ?_, _, rfl,
    h.insert record⟩
  simp only [Database.insert, hrows]

theorem apply (h : db.Keyed) (id : String) (u : Update) : (db.apply id u).2.Keyed := by
  obtain ⟨rows, hrows, h⟩ := h
  refine ⟨_, ?_, h.change id u⟩
  simp only [Database.apply, hrows]

end Database.Keyed

/-- A search has the record to choose from, between what it has from the rows before and after the row. -/
def Offers (before : List Row) (r : Row) (after : List Row) (record : Record) : Prop :=
  ∃ left right, (Database.mk (some before)).candidates = .ok left ∧
    (Database.mk (some after)).candidates = .ok right ∧
    (Database.mk (some (before ++ r :: after))).candidates = .ok (left ++ record :: right)

variable {before after : List Row} {r : Row} {record : Record} {id : String}

theorem offers_iff : Offers before r after record ↔ r.isCandidate = true ∧ record = r.record := by
  have hrows (rows : List Row) :
      (Database.mk (some rows)).candidates = .ok ((rows.filter Row.isCandidate).map Row.record) := rfl
  have hoffers : Offers before r after record ↔
      ((before ++ r :: after).filter Row.isCandidate).map Row.record =
        (before.filter Row.isCandidate).map Row.record ++
          record :: (after.filter Row.isCandidate).map Row.record := by
    simp [Offers, hrows]
  rw [hoffers, List.filter_append, List.map_append, List.append_cancel_left_eq]
  by_cases hr : r.isCandidate = true
  · rw [List.filter_cons_of_pos hr]
    simp [hr, eq_comm]
  · rw [List.filter_cons_of_neg hr]
    simp [hr, List.ne_cons_self]

theorem isCandidate_iff {p : Geo.Point} (h : r.record.location = some p) :
    r.isCandidate = true ↔ r.status = .ofString Status.available.label := by
  obtain ⟨hlat, hlng⟩ := Row.isNull_of_location h
  simp [Row.isCandidate, hlat, hlng]

/-- A search and a lookup agree on a driver with a place if its status is the label, letter for letter. If
it is not, the search misses the driver. -/
theorem offers_iff_fetch (hclash : Database.clash (before ++ r :: after) = false)
    (hid : r.hasId id = true) :
    ((∃ record, Offers before r after record ∧ ∃ p ∈ record.location, p.isValid = true) ↔
      (∃ record, (Database.mk (some (before ++ r :: after))).fetch id = .ok (some record) ∧
        record.status = .available ∧ record.location.isSome = true) ∧
      r.status = .ofString Status.available.label) ∧
    ∀ offered found, Offers before r after offered →
      (Database.mk (some (before ++ r :: after))).fetch id = .ok (some found) → offered = found := by
  have hfetch : (Database.mk (some (before ++ r :: after))).fetch id = .ok (some r.record) := by
    simp only [Database.fetch, (Alone.of_clash hclash hid).find?_eq, Option.map_some]
  rw [hfetch]
  refine ⟨⟨?_, ?_⟩, ?_⟩
  · rintro ⟨record, hoffers, p, hp, -⟩
    obtain ⟨hcandidate, rfl⟩ := offers_iff.mp hoffers
    have hstatus := (isCandidate_iff hp).mp hcandidate
    exact ⟨⟨r.record, rfl, Row.status_record hstatus, Option.isSome_of_mem hp⟩, hstatus⟩
  · rintro ⟨⟨record, hrecord, -, hlocation⟩, hstatus⟩
    obtain rfl : r.record = record := Option.some.inj (Except.ok.inj hrecord)
    obtain ⟨p, hp⟩ := Option.isSome_iff_exists.mp hlocation
    have hvalid : p.isValid = true := (Record.inDomain_decode r.document).1 p hp
    exact ⟨r.record, offers_iff.mpr ⟨(isCandidate_iff hp).mpr hstatus, rfl⟩, p, hp, hvalid⟩
  · intro offered found hoffers hfound
    rw [(offers_iff.mp hoffers).2]
    exact Option.some.inj (Except.ok.inj hfound)

/-- Two rows without an identifier are around the row of an available driver. -/
theorem offers_iff_fetch_of_three :
    Database.clash [(Row.ofRecord { id := "" }).store .id .null,
        .ofRecord { id := "a", location := some ⟨1, 2⟩, status := .available },
        (Row.ofRecord { id := "" }).store .id .null] = false ∧
      (Row.ofRecord { id := "a", location := some ⟨1, 2⟩, status := .available }).hasId "a" = true ∧
      ∃ record, Offers [(Row.ofRecord { id := "" }).store .id .null]
          (.ofRecord { id := "a", location := some ⟨1, 2⟩, status := .available })
          [(Row.ofRecord { id := "" }).store .id .null] record ∧
        ∃ p ∈ record.location, p.isValid = true := by
  have hid : (Row.ofRecord { id := "a", location := some ⟨1, 2⟩, status := .available }).hasId "a" = true := rfl
  exact ⟨rfl, hid, (offers_iff_fetch rfl hid).1.mpr
    ⟨⟨{ id := "a", location := some ⟨1, 2⟩, status := .available }, rfl, rfl, rfl⟩, rfl⟩⟩

/-- Another program writes the status of a driver in small letters. The driver is then looked up as an
available one, and no search has it to choose from. -/
theorem not_offers_of_small_letters :
    ∃ db r, Database.empty.insert { id := "a", location := some ⟨0, 0⟩, status := .available } = .ok db ∧
      db.overwrite "a" .status (.ofString "available") = .ok (1, ⟨some [r]⟩) ∧
      Database.clash [r] = false ∧ r.hasId "a" = true ∧
      (Database.mk (some [r])).fetch "a" =
        .ok (some { id := "a", location := some ⟨0, 0⟩, status := .available }) ∧
      ¬∃ record, Offers [] r [] record := by
  refine ⟨_, (Row.ofRecord { id := "a", location := some ⟨0, 0⟩, status := .available }).store .status
    (.ofString "available"), rfl, rfl, rfl, rfl, rfl, ?_⟩
  rintro ⟨record, hoffers⟩
  exact absurd (offers_iff.mp hoffers).1 (by decide)

end FleetLocator.RowStore
