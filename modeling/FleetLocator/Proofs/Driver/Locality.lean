import FleetLocator.Proofs.Driver.Exchange

/-!
# What one value of a document changes in the driver

The record that is read from a document is put together from the values under the names of the fields, each
for itself. So a value says only what is in the part of the record that its field feeds: what it is worth there,
or the default.
-/
namespace FleetLocator.Driver

open Json (Document FieldValue Number Value)

/-- The point that two values give, if both are numbers and the point is on the earth. -/
def pointOf (lat lng : Option Value) : Option Geo.Point :=
  match lat, lng with
  | some (.number lat), some (.number lng) =>
    if (Geo.Point.mk lat.toFloat lng.toFloat).isValid then some ⟨lat.toFloat, lng.toFloat⟩ else none
  | _, _ => none

/-- The record after one of its fields was read from a value, or from none. Both coordinates make the location. -/
def Field.reread (value : Field → Option Value) (v : Option Value) (r : Record) : Field → Record
  | driverId => { r with id := (v.bind Value.text?).getD "" }
  | userId => { r with userId := (v.bind Value.text?).getD "" }
  | latitude => { r with location := pointOf v (value longitude) }
  | longitude => { r with location := pointOf (value latitude) v }
  | status => { r with status := ((v.bind Value.text?).bind Status.parse?).getD .offline }
  | vehiclePlate => { r with plate := (v.bind Value.text?).getD "" }
  | vehicleModel => { r with model := (v.bind Value.text?).getD "" }
  | licenseNumber => { r with license := (v.bind Value.text?).getD "" }
  | rating => { r with rating := (((v.bind Value.number?).map Number.toFloat).filter isRating).getD 0 }
  | totalTrips => { r with trips := ((v.bind Value.number?).bind Number.toInt64?).getD 0 }
  | timestamp => { r with updatedAt := ((v.bind Value.number?).bind Number.toInt64?).getD 0 }
  | geohash => { r with geohash := v.bind Value.text? }

/-- The record of which each field is read from its value. -/
def Record.ofValues (value : Field → Option Value) : Record :=
  Field.all.foldl (fun r f => f.reread value (value f) r) { id := "" }

theorem optional_string (d : Document) (name : String) :
    d.optional String name = (d.get? name).bind Value.text? := Document.optional_eq_bind rfl d name

theorem optional_float (d : Document) (name : String) :
    d.optional Float name = ((d.get? name).bind Value.number?).map Number.toFloat := by
  rw [Document.optional_eq_bind rfl, Option.map_bind]
  rfl

theorem optional_int64 (d : Document) (name : String) :
    d.optional Int64 name = ((d.get? name).bind Value.number?).bind Number.toInt64? := by
  rw [Document.optional_eq_bind rfl, Option.bind_assoc]
  rfl

theorem pointOf_eq_some_iff {lat lng : Option Value} {p : Geo.Point} :
    pointOf lat lng = some p ↔ ∃ x y : Number, lat = some (.number x) ∧ lng = some (.number y) ∧
      p = ⟨x.toFloat, y.toFloat⟩ ∧ p.isValid = true := by
  constructor
  · intro h
    unfold pointOf at h
    split at h
    · next x y =>
      split at h
      · next hvalid =>
        obtain rfl := Option.some.inj h
        exact ⟨x, y, rfl, rfl, rfl, hvalid⟩
      · exact absurd h (by simp)
    · exact absurd h (by simp)
  · rintro ⟨x, y, rfl, rfl, rfl, hvalid⟩
    exact if_pos hvalid

theorem bind_number?_eq_some_iff {v : Option Value} {x : Float} :
    (v.bind Value.number?).map Number.toFloat = some x ↔ ∃ n, v = some (.number n) ∧ n.toFloat = x := by
  rcases v with _ | (_ | _ | _ | _ | _ | _) <;> simp [Value.number?]

theorem decodeLocation_eq_pointOf (d : Document) :
    decodeLocation d = pointOf (d.get? Field.latitude.name) (d.get? Field.longitude.name) := by
  ext p
  rw [show decodeLocation d = (Record.decode d).location from rfl, Record.location_decode_eq_some,
    pointOf_eq_some_iff, optional_float, optional_float, bind_number?_eq_some_iff, bind_number?_eq_some_iff]
  constructor
  · rintro ⟨⟨x, hlat, hx⟩, ⟨y, hlng, hy⟩, hvalid⟩
    exact ⟨x, y, hlat, hlng, by rw [hx, hy], hvalid⟩
  · rintro ⟨x, y, hlat, hlng, rfl, hvalid⟩
    exact ⟨⟨x, hlat, rfl⟩, ⟨y, hlng, rfl⟩, hvalid⟩

/-- A record is read field by field. -/
theorem Record.decode_eq_ofValues (d : Document) : decode d = ofValues fun f => d.get? f.name := by
  simp only [decode, Document.field, optional_string, optional_float, optional_int64, decodeLocation_eq_pointOf]
  rfl

/-- To give one field another value is to read this field again. -/
theorem Record.ofValues_update (value : Field → Option Value) (f : Field) (v : Option Value) :
    ofValues (Function.update value f v) = f.reread value v (ofValues value) := by
  cases f <;> rfl

theorem Field.reread_null (value : Field → Option Value) (r : Record) (f : Field) :
    f.reread value (some .null) r = f.reread value none r := by
  have hpoint (lat : Option Value) : pointOf lat (some .null) = pointOf lat none := by
    rcases lat with _ | (_ | _ | _ | _ | _ | _) <;> rfl
  cases f with
  | longitude => rw [reread, reread, hpoint]
  | _ => rfl

theorem get?_name_insert (d : Document) (f : Field) (v : Value) :
    (fun g : Field => (d.insert f.name v).get? g.name) = Function.update (fun g => d.get? g.name) f (some v) := by
  funext g
  by_cases hg : g = f
  · rw [hg, Function.update_self, Document.get?_insert_self]
  · rw [Function.update_of_ne hg, Document.get?_insert_of_ne d v fun h => hg (Field.name_injective h)]

theorem get?_name_without (d : Document) (f : Field) :
    (fun g : Field => (d.without f.name).get? g.name) = Function.update (fun g => d.get? g.name) f none := by
  funext g
  by_cases hg : g = f
  · rw [hg, Function.update_self, Document.get?_without_self]
  · rw [Function.update_of_ne hg, Document.get?_without_of_ne d fun h => hg (Field.name_injective h)]

/-- What the values of a document say of the driver stays in the part of the record that their field feeds. -/
structure Localized (d : Document) : Prop where
  field : ∀ (f : Field) (v : Value), Record.decode (d.insert f.name v) =
    f.reread (fun g => d.get? g.name) (some v) (Record.decode d)
  absent : ∀ f : Field, Record.decode (d.without f.name) =
    f.reread (fun g => d.get? g.name) none (Record.decode d)
  null : ∀ name, Record.decode (d.insert name .null) = Record.decode (d.without name)
  other : ∀ name, (∀ f : Field, f.name ≠ name) → ∀ v, Record.decode (d.insert name v) = Record.decode d
  location : ∀ p, (Record.decode d).location = some p ↔ ∃ x y : Number,
    d.get? Field.latitude.name = some (.number x) ∧ d.get? Field.longitude.name = some (.number y) ∧
      p = ⟨x.toFloat, y.toFloat⟩ ∧ p.isValid = true

theorem Record.decode_insert (d : Document) (f : Field) (v : Value) :
    decode (d.insert f.name v) = f.reread (fun g => d.get? g.name) (some v) (decode d) := by
  rw [decode_eq_ofValues, get?_name_insert, ofValues_update, ← decode_eq_ofValues]

theorem Record.decode_without (d : Document) (f : Field) :
    decode (d.without f.name) = f.reread (fun g => d.get? g.name) none (decode d) := by
  rw [decode_eq_ofValues, get?_name_without, ofValues_update, ← decode_eq_ofValues]

theorem Record.decode_insert_of_ne {name : String} (h : ∀ f : Field, f.name ≠ name) (d : Document) (v : Value) :
    decode (d.insert name v) = decode d :=
  decode_congr fun f => Document.get?_insert_of_ne d v (h f)

/-- What is null is as if it were not there. -/
theorem Record.decode_insert_null (d : Document) (name : String) :
    decode (d.insert name .null) = decode (d.without name) := by
  by_cases h : ∃ f : Field, f.name = name
  · obtain ⟨f, rfl⟩ := h
    rw [decode_insert, decode_without, Field.reread_null]
  · have hother : ∀ f : Field, f.name ≠ name := fun f hf => h ⟨f, hf⟩
    rw [decode_insert_of_ne hother]
    exact decode_congr fun f => (Document.get?_without_of_ne d (hother f)).symm

theorem localized (d : Document) : Localized d where
  field := Record.decode_insert d
  absent := Record.decode_without d
  null := Record.decode_insert_null d
  other _ h := Record.decode_insert_of_ne h d
  location p := by
    rw [← pointOf_eq_some_iff, ← decodeLocation_eq_pointOf]
    rfl

end FleetLocator.Driver
