import FleetLocator.Proofs.Driver.Exchange
import FleetLocator.Proofs.Text.Utf8
import FleetLocator.RowStore.Row

/-!
# The row of a driver is read as that driver

Of a legal record a row keeps everything but the sign of its zeros, and a change of the row is the
row of the changed record.
-/
namespace FleetLocator.RowStore

open Decimal (unsignZero)
open Driver (Record Status Update)
open Json (FieldValue)

namespace Cell

theorem ofString_injective : Function.Injective ofString := fun _ _ h =>
  Text.Utf8.encode_injective (Cell.text.inj h)

@[simp] theorem value_ofString (s : String) : (ofString s).value = FieldValue.toValue s := by
  rw [ofString, value, Text.Utf8.decodeLossy_encode]
  rfl

end Cell

namespace Column

variable {c : Column}

theorem fresh_of_not_required (h : c.required = false) (cell : Cell) : c.fresh cell = c.store cell := by
  rw [fresh, h, Bool.and_false]
  rfl

theorem fresh_ofString (h : c.affinity = .text) (s : String) : c.fresh (.ofString s) = .ofString s := by
  rw [fresh, store, h]
  rfl

theorem fresh_integer (h : c.affinity = .integer) (n : Int64) : c.fresh (.integer n) = .integer n := by
  rw [fresh, store, h]
  rfl

theorem fresh_ofFloat (h : c.affinity = .real) {x : Float} (hx : x.isFinite = true) :
    c.fresh (.ofFloat x) = .real (unsignZero x) := by
  have hcell : Cell.ofFloat x = .real x := by
    rw [Cell.ofFloat, Decimal.isNaN_of_isFinite hx]
    rfl
  rw [hcell, fresh, store, h]
  rfl

theorem fresh_null (h : c.required = false) : c.fresh .null = .null := by
  rw [fresh_of_not_required h, store]
  cases c.affinity <;> rfl

theorem field_surjective (f : Driver.Field) : ∃ c : Column, c.field = f := by
  have hall : ∀ f ∈ Driver.Field.all, ∃ c ∈ all, c.field = f := by decide
  obtain ⟨c, -, hc⟩ := hall f (Driver.Field.mem_all f)
  exact ⟨c, hc⟩

end Column

namespace Row

theorem get?_document (r : Row) (c : Column) : r.document.get? c.field.name = some (r.get c).value := by
  have hname : Function.Injective fun c : Column => c.field.name := fun _ _ h =>
    Column.field_injective (Driver.Field.name_injective h)
  have h := Json.Document.get?_foldl_insert hname (fun c => (r.get c).value) Column.all .empty c
  rw [if_pos (Column.mem_all c)] at h
  exact h

/-- The status of a row that spells the label of a status is this status. -/
theorem status_record {r : Row} {s : Status} (h : r.status = .ofString s.label) : r.record.status = s := by
  have hcell : r.document.get? Driver.Field.status.name = some r.status.value := r.get?_document .status
  rw [h, Cell.value_ofString] at hcell
  have hlabel := Json.Document.optional_of_get? (Json.faithful_string s.label) hcell
  rw [record, Record.status_decode, hlabel, Option.bind_some, Status.parse?_label, Option.getD_some]

/-- What is read from a column is in its cell. -/
theorem isNull_get {r : Row} {c : Column} {α : Type} [FieldValue α] {a : α}
    (h : r.document.optional α c.field.name = some a) : (r.get c).isNull = false := by
  have hcell := r.get?_document c
  cases hget : r.get c with
  | null =>
    rw [hget] at hcell
    rw [Json.Document.optional_of_get?_null hcell] at h
    cases h
  | _ => rfl

/-- A driver at a place was read from a row with both coordinates. -/
theorem isNull_of_location {r : Row} {p : Geo.Point} (h : r.record.location = some p) :
    r.latitude.isNull = false ∧ r.longitude.isNull = false := by
  obtain ⟨hlat, hlng, -⟩ := Record.location_decode_eq_some.mp h
  exact ⟨isNull_get (c := .latitude) hlat, isNull_get (c := .longitude) hlng⟩

variable {r : Record}

theorem fresh_degree {c : Column} (h : c.affinity = .real) (hreq : c.required = false)
    {location : Option Geo.Point} (degree : Geo.Point → Float)
    (hfinite : ∀ p ∈ location, (degree p).isFinite = true) :
    c.fresh (.ofOption (fun p => .ofFloat (degree p)) location) =
      location.elim .null fun p => .real (unsignZero (degree p)) := by
  cases location with
  | none => exact Column.fresh_null hreq
  | some p => exact Column.fresh_ofFloat h (hfinite p rfl)

theorem latitude_ofRecord (h : ∀ p ∈ r.location, p.isValid = true) :
    (ofRecord r).latitude = r.location.elim .null fun p => .real (unsignZero p.lat) :=
  fresh_degree (c := .latitude) rfl rfl Geo.Point.lat fun p hp => (Geo.Point.isValid_iff.mp (h p hp)).1.1

theorem longitude_ofRecord (h : ∀ p ∈ r.location, p.isValid = true) :
    (ofRecord r).longitude = r.location.elim .null fun p => .real (unsignZero p.lng) :=
  fresh_degree (c := .longitude) rfl rfl Geo.Point.lng fun p hp => (Geo.Point.isValid_iff.mp (h p hp)).1.2

theorem status_ofRecord (r : Record) : (ofRecord r).status = .ofString r.status.label :=
  Column.fresh_ofString (c := .status) rfl r.status.label

/-- Each cell of the row of a legal record stands for the value of its field. -/
theorem value_get_ofRecord (h : r.InDomain) (c : Column) :
    ((ofRecord r).get c).value = c.field.value r.unsignZeros := by
  obtain ⟨hloc, hrating⟩ := h
  have htext (c : Column) (h : c.affinity = .text) (s : String) :
      (c.fresh (.ofString s)).value = FieldValue.toValue s := by
    rw [Column.fresh_ofString h, Cell.value_ofString]
  have hwhole (c : Column) (h : c.affinity = .integer) (n : Int64) :
      (c.fresh (.integer n)).value = FieldValue.toValue n := by
    rw [Column.fresh_integer h]
    rfl
  cases c with
  | id => exact htext .id rfl r.id
  | userId => exact htext .userId rfl r.userId
  | plate => exact htext .plate rfl r.plate
  | model => exact htext .model rfl r.model
  | license => exact htext .license rfl r.license
  | status => exact htext .status rfl r.status.label
  | latitude =>
    change (ofRecord r).latitude.value = ((r.location.map Geo.Point.unsignZeros).map Geo.Point.lat).elim _ _
    rw [latitude_ofRecord hloc]
    cases r.location <;> rfl
  | longitude =>
    change (ofRecord r).longitude.value = ((r.location.map Geo.Point.unsignZeros).map Geo.Point.lng).elim _ _
    rw [longitude_ofRecord hloc]
    cases r.location <;> rfl
  | rating =>
    change (Column.rating.fresh (.ofFloat r.rating)).value = _
    rw [Column.fresh_ofFloat rfl (Driver.isFinite_of_isRating hrating)]
    rfl
  | trips => exact hwhole .trips rfl r.trips
  | geohash =>
    change (Column.geohash.fresh (.ofOption .ofString r.geohash)).value = r.geohash.elim .null FieldValue.toValue
    cases r.geohash with
    | none => rfl
    | some s => exact htext .geohash rfl s
  | updatedAt => exact hwhole .updatedAt rfl r.updatedAt

/-- The row of a legal record is read as the record with zeros that have no sign. -/
theorem record_ofRecord (h : r.InDomain) : (ofRecord r).record = r.unsignZeros := by
  apply Record.decode_of_get? (Record.inDomain_unsignZeros h)
  intro f
  obtain ⟨c, rfl⟩ : ∃ c : Column, c.field = f := Column.field_surjective f
  rw [get?_document, value_get_ofRecord h]

/-- A change of the row of a record gives the row of the changed record. -/
theorem change_ofRecord (u : Update) (r : Record) : (ofRecord r).change u = ofRecord (u.apply r) := by
  obtain ⟨change, timestamp⟩ := u
  cases change with
  | location point geohash =>
    have hlat := Column.fresh_of_not_required (c := .latitude) rfl (.ofFloat point.lat)
    have hlng := Column.fresh_of_not_required (c := .longitude) rfl (.ofFloat point.lng)
    change Row.mk _ _ _ _ _ _ _ _ _ _ _ _ = Row.mk _ _ _ _ _ _ (Column.latitude.fresh (.ofFloat point.lat))
      (Column.longitude.fresh (.ofFloat point.lng)) _ _ _ _
    rw [hlat, hlng]
    rfl
  | status status => rfl

theorem hasId_ofRecord (id : String) (r : Record) : (ofRecord r).hasId id = decide (r.id = id) := by
  have hid : (ofRecord r).id = .ofString r.id := Column.fresh_ofString (c := .id) rfl r.id
  rw [hasId, hid, Bool.eq_iff_iff, beq_iff_eq, decide_eq_true_eq, Cell.ofString_injective.eq_iff]

theorem isCandidate_ofRecord (h : r.InDomain) :
    (ofRecord r).isCandidate = true ↔ r.status = .available ∧ r.location.isSome = true := by
  obtain ⟨hloc, -⟩ := h
  have hstatus : ((ofRecord r).status == .ofString Status.available.label) = true ↔ r.status = .available := by
    rw [status_ofRecord, beq_iff_eq, Cell.ofString_injective.eq_iff, Status.label_injective.eq_iff]
  rw [isCandidate, Bool.and_eq_true, Bool.and_eq_true, hstatus, latitude_ofRecord hloc, longitude_ofRecord hloc]
  cases r.location <;> simp [Cell.isNull]

end Row

end FleetLocator.RowStore
