import FleetLocator.Proofs.Driver.Locality
import FleetLocator.Proofs.Json.Integer
import FleetLocator.Proofs.RowStore.Reachable

/-!
# Rows that other programs write

Whatever is in the cells of a row, a driver is read from it, each part of the driver from its own column. A cell
that is of another kind than its column's field, or holds nothing that is legal there, leaves the field as it is
by default.
-/
namespace FleetLocator.RowStore

open Driver (Record Status isRating)
open Json (Number Value)
open Service (Backend Reply)

namespace Cell

/-- The text of a cell. What is broken in it is replaced. -/
def text? : Cell → Option String
  | .text bytes => some (Text.Utf8.decodeLossy bytes)
  | _ => none

/-- The number of a cell as a double, if it is finite. -/
def double? : Cell → Option Float
  | .integer n => some (Decimal.ofInt64 n)
  | .real x => if x.isFinite then some x else none
  | _ => none

/-- The number of a cell as an integer: the digits after the point are dropped, and what does not fit is replaced by
the nearest integer that does. -/
def whole? : Cell → Option Int64
  | .integer n => some n
  | .real x => if x.isFinite then some (.ofIntClamp (Decimal.towardZero (Decimal.toRat x))) else none
  | _ => none

theorem isNull_eq_false_iff {cell : Cell} : cell.isNull = false ↔ cell ≠ .null := by cases cell <;> simp [isNull]

theorem value_real (x : Float) : (real x).value = if x.isFinite then .number (.real x) else .null := rfl

variable (cell : Cell)

theorem text?_value : cell.value.text? = cell.text? := by
  cases cell with
  | real x =>
    rw [value_real]
    split <;> rfl
  | _ => rfl

theorem toFloat_ofInt64 (n : Int64) : (Number.ofInt64 n).toFloat = Decimal.ofInt64 n := by
  unfold Number.ofInt64
  split
  · rfl
  · next h =>
    have hn : 0 ≤ n.toInt := by
      rw [Int64.lt_iff_toInt_lt] at h
      exact not_lt.mp h
    have habs : n.toInt.natAbs = n.toInt.toNat := by omega
    rw [Decimal.ofInt64, if_neg h, habs]
    rfl

theorem double?_value : cell.value.number?.map Number.toFloat = cell.double? := by
  cases cell with
  | integer n => exact congrArg some (toFloat_ofInt64 n)
  | real x =>
    rw [value_real, double?]
    split <;> rfl
  | _ => rfl

theorem whole?_value : cell.value.number?.bind Number.toInt64? = cell.whole? := by
  cases cell with
  | integer n => exact Number.toInt64?_ofInt64 n
  | real x =>
    rw [value_real, whole?]
    split
    · next hx =>
      rw [← Decimal.saturate_eq_ofIntClamp]
      exact Number.toInt64?_eq (v := .real x) hx
    · rfl
  | _ => rfl

end Cell

/-- The point that two cells give, if both are numbers and the point is on the earth. -/
def placeOf (lat lng : Cell) : Option Geo.Point := do
  let lat ← lat.double?
  let lng ← lng.double?
  if (Geo.Point.mk lat lng).isValid then some ⟨lat, lng⟩ else none

theorem pointOf_value (lat lng : Cell) : Driver.pointOf (some lat.value) (some lng.value) = placeOf lat lng := by
  have hdouble {c : Cell} {x : Float} : c.double? = some x ↔ ∃ n, some c.value = some (.number n) ∧ n.toFloat = x := by
    rw [← Driver.bind_number?_eq_some_iff, Option.bind_some, Cell.double?_value]
  ext p
  rw [Driver.pointOf_eq_some_iff]
  constructor
  · rintro ⟨x, y, hlat, hlng, rfl, hvalid⟩
    rw [placeOf, hdouble.mpr ⟨x, hlat, rfl⟩, hdouble.mpr ⟨y, hlng, rfl⟩]
    exact if_pos hvalid
  · intro h
    obtain ⟨lat', hlat, h⟩ := Option.bind_eq_some_iff.mp h
    obtain ⟨lng', hlng, h⟩ := Option.bind_eq_some_iff.mp h
    obtain ⟨hvalid, hp⟩ := Option.ite_none_right_eq_some.mp h
    obtain rfl := Option.some.inj hp
    obtain ⟨x, hx, rfl⟩ := hdouble.mp hlat
    obtain ⟨y, hy, rfl⟩ := hdouble.mp hlng
    exact ⟨x, y, hx, hy, rfl, hvalid⟩

/-- The driver after the field of a column was read from a cell. The location is read from this cell and the one that
the row has for the other coordinate. -/
def Column.reread (r : Row) (cell : Cell) (d : Record) : Column → Record
  | id => { d with id := cell.text?.getD "" }
  | userId => { d with userId := cell.text?.getD "" }
  | plate => { d with plate := cell.text?.getD "" }
  | model => { d with model := cell.text?.getD "" }
  | license => { d with license := cell.text?.getD "" }
  | status => { d with status := (cell.text?.bind Status.parse?).getD .offline }
  | latitude => { d with location := placeOf cell r.longitude }
  | longitude => { d with location := placeOf r.latitude cell }
  | rating => { d with rating := (cell.double?.filter isRating).getD 0 }
  | trips => { d with trips := cell.whole?.getD 0 }
  | geohash => { d with geohash := cell.text? }
  | updatedAt => { d with updatedAt := cell.whole?.getD 0 }

namespace Row

/-- The driver that the cells of a row tell of. -/
def driver (r : Row) : Record := Column.all.foldl (fun d c => c.reread r (r.get c) d) { id := "" }

/-- To change one cell of a row is to read its column again. -/
theorem driver_set (r : Row) (c : Column) (cell : Cell) : (r.set c cell).driver = c.reread r cell r.driver := by
  cases c <;> rfl

theorem reread_field (r : Row) (c : Column) (cell : Cell) (d : Record) :
    c.field.reread (fun f => r.document.get? f.name) (some cell.value) d = c.reread r cell d := by
  have hlat : r.document.get? Driver.Field.latitude.name = some r.latitude.value := r.get?_document .latitude
  have hlng : r.document.get? Driver.Field.longitude.name = some r.longitude.value := r.get?_document .longitude
  cases c with
  | latitude => rw [Column.reread, Column.field, Driver.Field.reread, hlng, pointOf_value]
  | longitude => rw [Column.reread, Column.field, Driver.Field.reread, hlat, pointOf_value]
  | _ =>
    simp only [Column.reread, Column.field, Driver.Field.reread, Option.bind_some, Cell.text?_value,
      Cell.double?_value, Cell.whole?_value]

/-- The order in which the fields are read is of no account. -/
theorem ofValues_eq_foldl (value : Driver.Field → Option Value) : Record.ofValues value =
    Column.all.foldl (fun d c => c.field.reread value (value c.field) d) { id := "" } := rfl

theorem record_eq_driver (r : Row) : r.record = r.driver := by
  have hstep : (fun (d : Record) (c : Column) => c.field.reread (fun f => r.document.get? f.name)
      (r.document.get? c.field.name) d) = fun d c => c.reread r (r.get c) d := by
    funext d c
    rw [← reread_field, ← get?_document]
  rw [record, Record.decode_eq_ofValues, ofValues_eq_foldl, hstep, driver]

theorem inDomain_driver (r : Row) : r.driver.InDomain := r.record_eq_driver ▸ Record.inDomain_decode r.document

theorem isCandidate_eq (r : Row) : r.isCandidate =
    decide (r.status = .ofString "AVAILABLE" ∧ r.latitude ≠ .null ∧ r.longitude ≠ .null) := by
  rw [Bool.eq_iff_iff, decide_eq_true_eq, isCandidate, Bool.and_eq_true, Bool.and_eq_true, beq_iff_eq,
    Bool.not_eq_true', Bool.not_eq_true', Cell.isNull_eq_false_iff, Cell.isNull_eq_false_iff, and_assoc]
  rfl

end Row

/-- What is read from a table with these rows. Each row that is asked for gives a legal driver, whatever else is in
it, and a cell counts for nothing but what its own column is read as. -/
structure Readable (rows : List Row) : Prop where
  candidates : ∀ q, backend.candidates q ⟨some rows⟩ =
    (.done ((rows.filter fun r => r.status = .ofString "AVAILABLE" ∧ r.latitude ≠ .null ∧
      r.longitude ≠ .null).map Row.driver), ⟨some rows⟩)
  found : ∀ id, ∃ found, backend.fetch id ⟨some rows⟩ = (.done found, ⟨some rows⟩) ∧
    (found.isSome = true ↔ ∃ r ∈ rows, r.id = .ofString id)
  row : ∀ before r after id, rows = before ++ r :: after → r.id = .ofString id →
    backend.fetch id ⟨some rows⟩ = (.done (some r.driver), ⟨some rows⟩)
  cell : ∀ before r after id, rows = before ++ r :: after → r.id = .ofString id → ∀ c, c ≠ .id → ∀ cell,
    backend.fetch id ⟨some (before ++ r.set c cell :: after)⟩ =
      (.done (some (c.reread r cell r.driver)), ⟨some (before ++ r.set c cell :: after)⟩)
  legal : ∀ r ∈ rows, r.driver.InDomain

variable {rows before after : List Row} {r : Row} {id : String}

theorem candidates_eq (q : Search.Query) (rows : List Row) : backend.candidates q ⟨some rows⟩ =
    (.done ((rows.filter fun r => r.status = .ofString "AVAILABLE" ∧ r.latitude ≠ .null ∧
      r.longitude ≠ .null).map Row.driver), ⟨some rows⟩) := by
  have hrow : Row.record = Row.driver := funext Row.record_eq_driver
  have hcandidate : Row.isCandidate = fun r => decide (r.status = .ofString "AVAILABLE" ∧ r.latitude ≠ .null ∧
      r.longitude ≠ .null) := funext Row.isCandidate_eq
  rw [← hrow, ← hcandidate]
  rfl

theorem fetch_eq (id : String) (rows : List Row) : backend.fetch id ⟨some rows⟩ =
    (.done ((rows.find? (Row.hasId id)).map Row.driver), ⟨some rows⟩) := by
  have hrow : Row.record = Row.driver := funext Row.record_eq_driver
  rw [← hrow]
  rfl

theorem fetch_row (hclash : Database.clash (before ++ r :: after) = false) (hid : r.id = .ofString id) :
    backend.fetch id ⟨some (before ++ r :: after)⟩ = (.done (some r.driver), ⟨some (before ++ r :: after)⟩) := by
  rw [fetch_eq, (Alone.of_clash hclash (Row.hasId_iff.mpr hid)).find?_eq, Option.map_some]

theorem Row.id_set {c : Column} (h : c ≠ .id) (r : Row) (cell : Cell) : (r.set c cell).id = r.id :=
  r.get_set_of_ne cell h.symm

/-- Whatever other programs leave in a table, if no identifiers clash, the rows are read. -/
theorem readable (h : Database.clash rows = false) : Readable rows where
  candidates q := candidates_eq q rows
  found id := by
    refine ⟨_, fetch_eq id rows, ?_⟩
    rw [Option.isSome_map, List.find?_isSome]
    simp only [Row.hasId_iff]
  row before r after id hrows hid := by
    subst hrows
    exact fetch_row h hid
  cell before r after id hrows hid c hc cell := by
    subst hrows
    -- The identifiers are what they were, so the row is still the only one that has its own.
    have hids : (before ++ r.set c cell :: after).map Row.id = (before ++ r :: after).map Row.id := by
      simp only [List.map_append, List.map_cons, Row.id_set hc]
    have hclash : Database.clash (before ++ r.set c cell :: after) = false := Database.clash_congr hids ▸ h
    rw [fetch_row hclash ((Row.id_set hc r cell).trans hid), Row.driver_set]
  legal r _ := r.inDomain_driver

/-- A row without an identifier. -/
def nameless : Row := { Row.ofRecord { id := "" } with id := .null }

/-- A row with an endless latitude, broken text for a plate, bytes for a rating, and a word for a time. -/
def foreign : Row :=
  { Row.ofRecord { id := "a", status := .available, trips := 7 } with
    latitude := .real (Float.ofBits 0x7ff0000000000000), longitude := .integer 5, plate := .text [0x42, 0xff],
    rating := .blob [0x35], updatedAt := .text [0x78] }

/-- The row is searched for and looked up, as a driver without a place. Another latitude gives the place. -/
theorem readable_of_foreign :
    Database.clash [nameless, foreign] = false ∧
      (∀ q, backend.candidates q ⟨some [nameless, foreign]⟩ =
        (.done [{ id := "a", status := .available, plate := "B\uFFFD", trips := 7 }],
          ⟨some [nameless, foreign]⟩)) ∧
      backend.fetch "a" ⟨some [nameless, foreign]⟩ =
        (.done (some { id := "a", status := .available, plate := "B\uFFFD", trips := 7 }),
          ⟨some [nameless, foreign]⟩) ∧
      backend.fetch "a" ⟨some [nameless, foreign.set .latitude (.real 4)]⟩ =
        (.done (some { id := "a", location := some ⟨4, 5⟩, status := .available, plate := "B\uFFFD", trips := 7 }),
          ⟨some [nameless, foreign.set .latitude (.real 4)]⟩) := by
  have h : Readable [nameless, foreign] := readable rfl
  have hdriver : foreign.driver = { id := "a", status := .available, plate := "B\uFFFD", trips := 7 } := by decide
  have hplace := h.cell [nameless] foreign [] "a" rfl rfl .latitude (by decide) (.real 4)
  rw [hdriver] at hplace
  exact ⟨rfl, fun q => hdriver ▸ h.candidates q, hdriver ▸ h.row [nameless] foreign [] "a" rfl rfl, hplace⟩

end FleetLocator.RowStore
