import FleetLocator.Driver.Record
import FleetLocator.Proofs.Geo.Point
import FleetLocator.Proofs.Json.Field

/-!
# Documents of drivers

Each field of a record has a value. A document that holds the values of a legal record under the
names of the fields is read as this very record. What is read is legal, and the legal records are those that come
back from their own documents.
-/
namespace FleetLocator.Driver

open Json (Document Faithful FieldValue Value)

section

theorem isRating_iff {x : Float} : isRating x = true ↔ 0 ≤ x ∧ x ≤ 5 := by
  simp [isRating]

theorem isFinite_of_isRating {x : Float} (h : isRating x = true) : x.isFinite = true := by
  have hzero : (0 : Float).isFinite = true := by decide
  have hfive : (5 : Float).isFinite = true := by decide
  obtain ⟨hlow, hhigh⟩ := isRating_iff.mp h
  exact Decimal.isFinite_of_between hzero hfive hlow hhigh

@[simp] theorem isRating_unsignZero (x : Float) : isRating (Decimal.unsignZero x) = isRating x := by
  rw [Bool.eq_iff_iff, isRating_iff, isRating_iff]
  simp

theorem Status.label_injective : Function.Injective Status.label := fun s t h =>
  Option.some.inj (by rw [← Status.ofLabel?_label s, h, Status.ofLabel?_label])

theorem Status.parse?_label (s : Status) : Status.parse? s.label = some s := by
  cases s <;> decide

/-- The value of a field in a document of the record. -/
def Field.value (r : Record) : Field → Value
  | driverId => FieldValue.toValue r.id
  | userId => FieldValue.toValue r.userId
  | latitude => (r.location.map Geo.Point.lat).elim .null FieldValue.toValue
  | longitude => (r.location.map Geo.Point.lng).elim .null FieldValue.toValue
  | status => FieldValue.toValue r.status.label
  | vehiclePlate => FieldValue.toValue r.plate
  | vehicleModel => FieldValue.toValue r.model
  | licenseNumber => FieldValue.toValue r.license
  | rating => FieldValue.toValue r.rating
  | totalTrips => FieldValue.toValue r.trips
  | timestamp => FieldValue.toValue r.updatedAt
  | geohash => r.geohash.elim .null FieldValue.toValue

variable {d : Document} {r : Record}

theorem Record.id_decode (d : Document) : (decode d).id = d.field Field.driverId.name "" := rfl

theorem Record.status_decode (d : Document) :
    (decode d).status = ((d.optional String Field.status.name).bind Status.parse?).getD .offline := rfl

/-- A document gives a place if and only if it has both coordinates of a valid point. -/
theorem Record.location_decode_eq_some {p : Geo.Point} :
    (decode d).location = some p ↔ d.optional Float Field.latitude.name = some p.lat ∧
      d.optional Float Field.longitude.name = some p.lng ∧ p.isValid = true := by
  constructor
  · intro h
    obtain ⟨lat, hlat, h⟩ := Option.bind_eq_some_iff.mp h
    obtain ⟨lng, hlng, h⟩ := Option.bind_eq_some_iff.mp h
    have hcheck : (Geo.Point.mk lat lng).check = .ok p := by
      cases hcheck : (Geo.Point.mk lat lng).check with
      | error e => simp [hcheck, Except.toOption] at h
      | ok q => simpa [hcheck, Except.toOption] using h
    obtain ⟨hvalid, rfl⟩ := Geo.Point.check_eq_ok.mp hcheck
    exact ⟨hlat, hlng, hvalid⟩
  · rintro ⟨hlat, hlng, hvalid⟩
    have hcheck : p.check = .ok p := Geo.Point.check_eq_ok.mpr ⟨hvalid, rfl⟩
    change decodeLocation d = some p
    rw [decodeLocation, hlat, hlng]
    change p.check.toOption = some p
    rw [hcheck]
    rfl

/-- Whatever a document says, the record that is read from it is legal. -/
theorem Record.inDomain_decode (d : Document) : (decode d).InDomain := by
  refine ⟨fun p hp => (location_decode_eq_some.mp hp).2.2, ?_⟩
  change isRating (((d.optional Float Field.rating.name).filter isRating).getD 0) = true
  cases hrating : (d.optional Float Field.rating.name).filter isRating with
  | none => decide
  | some x => exact (Option.filter_eq_some_iff.mp hrating).2

theorem decodeLocation_of_get? {location : Option Geo.Point} (h : ∀ p ∈ location, p.isValid = true)
    (hlat : d.get? Field.latitude.name = some ((location.map Geo.Point.lat).elim .null FieldValue.toValue))
    (hlng : d.get? Field.longitude.name = some ((location.map Geo.Point.lng).elim .null FieldValue.toValue)) :
    decodeLocation d = location := by
  cases location with
  | none =>
    rw [decodeLocation, Document.optional_of_get?_null hlat]
    rfl
  | some p =>
    have hp := h p rfl
    obtain ⟨⟨hflat, hflng⟩, -, -⟩ := Geo.Point.isValid_iff.mp hp
    exact Record.location_decode_eq_some.mpr ⟨Document.optional_of_get? (Json.faithful_float hflat) hlat,
      Document.optional_of_get? (Json.faithful_float hflng) hlng, hp⟩

/-- The record is read from any document that holds the values of its fields. -/
theorem Record.decode_of_get? (h : r.InDomain) (hd : ∀ f : Field, d.get? f.name = some (f.value r)) :
    Record.decode d = r := by
  obtain ⟨hloc, hrating⟩ := h
  have hstatus : d.optional String Field.status.name = some r.status.label :=
    Document.optional_of_get? (Json.faithful_string _) (hd .status)
  have hrate : d.optional Float Field.rating.name = some r.rating :=
    Document.optional_of_get? (Json.faithful_float (isFinite_of_isRating hrating)) (hd .rating)
  have hhash : d.optional String Field.geohash.name = r.geohash :=
    Document.optional_of_get?_elim (fun s _ => Json.faithful_string s) (hd .geohash)
  have htext (f : Field) (s : String) (hf : f.value r = FieldValue.toValue s) : d.field f.name "" = s :=
    Document.field_of_get? (Json.faithful_string s) (by rw [hd f, hf]) ""
  have hwhole (f : Field) (n : Int64) (hf : f.value r = FieldValue.toValue n) : d.field f.name 0 = n :=
    Document.field_of_get? (Json.faithful_int64 n) (by rw [hd f, hf]) 0
  unfold Record.decode
  rw [htext .driverId r.id rfl, htext .userId r.userId rfl, htext .vehiclePlate r.plate rfl,
    htext .vehicleModel r.model rfl, htext .licenseNumber r.license rfl, hwhole .totalTrips r.trips rfl,
    hwhole .timestamp r.updatedAt rfl, decodeLocation_of_get? hloc (hd .latitude) (hd .longitude), hstatus,
    hrate, hhash, Option.bind_some, Status.parse?_label, Option.getD_some, Option.filter_some, hrating]
  rfl

theorem Field.write_eq (r : Record) (d : Document) (f : Field) : f.write r d = d.insert f.name (f.value r) := by
  cases f <;> rfl

/-- What holds of the empty document, and is kept when a value of the record is inserted under the name of its
field, holds of each document of the record. -/
theorem Record.encode_induction {P : Document → Prop} (r : Record) (fields : List Field) (hempty : P .empty)
    (hinsert : ∀ d, ∀ f ∈ fields, P d → P (d.insert f.name (f.value r))) : P (r.encode fields) := by
  have hfold (d : Document) (hd : P d) : P (fields.foldl (Field.write r) d) := by
    induction fields generalizing d with
    | nil => exact hd
    | cons f fields ih =>
      rw [List.foldl_cons, Field.write_eq]
      exact ih (fun d g hg => hinsert d g (List.mem_cons_of_mem f hg)) _ (hinsert d f List.mem_cons_self hd)
  exact hfold .empty hempty

/-- A document of a record has the listed fields and, of all fields, no others. -/
theorem Record.get?_encode (r : Record) (fields : List Field) (f : Field) :
    (r.encode fields).get? f.name = if f ∈ fields then some (f.value r) else none := by
  have hwrite : Field.write r = fun d f => d.insert f.name (f.value r) := by
    funext d f
    exact f.write_eq r d
  have hname : Function.Injective Field.name := fun _ _ h => Field.name_injective h
  rw [encode, hwrite, Document.get?_foldl_insert hname (fun f => f.value r), Document.get?_empty]

/-- Only the fields count for the record that is read. -/
theorem Record.decode_congr {e : Document} (h : ∀ f : Field, d.get? f.name = e.get? f.name) :
    Record.decode d = Record.decode e := by
  have hoptional (α : Type) [FieldValue α] (f : Field) : d.optional α f.name = e.optional α f.name := by
    rw [Document.optional, Document.optional, h]
  have hfield {α : Type} [FieldValue α] (f : Field) (default : α) :
      d.field f.name default = e.field f.name default := by
    rw [Document.field, Document.field, hoptional]
  simp only [Record.decode, decodeLocation, hoptional, hfield]

/-- A change to a place on the earth, or to any status. -/
def Change.Legal : Change → Prop
  | .location point _ => point.isValid = true
  | .status _ => True

instance (c : Change) : Decidable c.Legal := by unfold Change.Legal; cases c <;> infer_instance

theorem Update.inDomain_apply {u : Update} (hu : u.change.Legal) (h : r.InDomain) : (u.apply r).InDomain := by
  obtain ⟨hloc, hrating⟩ := h
  obtain ⟨change, timestamp⟩ := u
  cases change with
  | location point geohash =>
    refine ⟨fun p hp => ?_, hrating⟩
    obtain rfl : point = p := Option.some.inj hp
    exact hu
  | status status => exact ⟨hloc, hrating⟩

@[simp] theorem Update.id_apply (u : Update) (r : Record) : (u.apply r).id = r.id := by
  obtain ⟨change, timestamp⟩ := u
  cases change <;> rfl

/-- The record with zeros that have no sign. -/
def Record.unsignZeros (r : Record) : Record :=
  { r with location := r.location.map Geo.Point.unsignZeros, rating := Decimal.unsignZero r.rating }

@[simp] theorem Record.status_unsignZeros (r : Record) : r.unsignZeros.status = r.status := rfl

@[simp] theorem Record.isSome_location_unsignZeros (r : Record) :
    r.unsignZeros.location.isSome = r.location.isSome := by
  rw [unsignZeros, Option.isSome_map]

theorem Record.inDomain_unsignZeros (h : r.InDomain) : r.unsignZeros.InDomain := by
  obtain ⟨hloc, hrating⟩ := h
  refine ⟨fun p hp => ?_, by rw [unsignZeros, isRating_unsignZero, hrating]⟩
  obtain ⟨q, hq, rfl⟩ := Option.map_eq_some_iff.mp hp
  rw [Geo.Point.isValid_unsignZeros, hloc q hq]

end

/-- What it means for a record to be legal, with the bounds written out. -/
theorem Record.inDomain_iff {r : Record} : r.InDomain ↔
    (∀ p ∈ r.location, (p.lat.isFinite = true ∧ p.lng.isFinite = true) ∧
      (-90 ≤ p.lat ∧ p.lat ≤ 90) ∧ (-180 ≤ p.lng ∧ p.lng ≤ 180)) ∧
    r.rating.isNaN = false ∧ 0 ≤ r.rating ∧ r.rating ≤ 5 := by
  constructor
  · rintro ⟨hloc, hrating⟩
    exact ⟨fun p hp => Geo.Point.isValid_iff.mp (hloc p hp),
      Decimal.isNaN_of_isFinite (isFinite_of_isRating hrating), isRating_iff.mp hrating⟩
  · rintro ⟨hloc, -, hrating⟩
    exact ⟨fun p hp => Geo.Point.isValid_iff.mpr (hloc p hp), isRating_iff.mpr hrating⟩

/-- A legal record is what its document of all fields is read as. -/
theorem Record.decode_encode {r : Record} (h : r.InDomain) : decode (r.encode Field.all) = r := by
  apply decode_of_get? h
  intro f
  rw [get?_encode, if_pos f.mem_all]

theorem Record.decode_encode_iff {r : Record} : decode (r.encode Field.all) = r ↔ r.InDomain := by
  constructor
  · intro h
    rw [← h]
    exact inDomain_decode _
  · exact decode_encode

/-- Every document gives a legal record, the legal records are those that their documents give back, and
reading what was written of what was read changes nothing. -/
theorem Record.codec (d : Document) (r : Record) :
    ((∀ p ∈ (decode d).location, (p.lat.isFinite = true ∧ p.lng.isFinite = true) ∧
        (-90 ≤ p.lat ∧ p.lat ≤ 90) ∧ (-180 ≤ p.lng ∧ p.lng ≤ 180)) ∧
      (decode d).rating.isNaN = false ∧ 0 ≤ (decode d).rating ∧ (decode d).rating ≤ 5) ∧
    (decode (r.encode Field.all) = r ↔ r.InDomain) ∧
    decode ((decode d).encode Field.all) = decode d ∧
    (decode ((decode d).encode Field.all)).encode Field.all = (decode d).encode Field.all := by
  have hagain : decode ((decode d).encode Field.all) = decode d := decode_encode (inDomain_decode d)
  exact ⟨inDomain_iff.mp (inDomain_decode d), decode_encode_iff, hagain, by rw [hagain]⟩

theorem Record.codec_of_extremes :
    let r : Record :=
      { id := "d", location := some ⟨-0.0, 180⟩, rating := 5, trips := Int64.minValue, updatedAt := Int64.maxValue }
    decode (r.encode Field.all) = r :=
  (codec .empty _).2.1.mpr (by decide +kernel)

end FleetLocator.Driver
