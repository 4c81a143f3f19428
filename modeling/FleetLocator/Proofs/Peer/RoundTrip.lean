import FleetLocator.Peer.Backend
import FleetLocator.Proofs.Driver.Exchange
import FleetLocator.Proofs.Driver.Locality
import FleetLocator.Service.Operations

/-!
# What a service writes is read back by its peers

The documents of searches, lookups and updates hold the fields of drivers beside names of their own. No
such name is one of a field. So the drivers that went into a document are read from it, with what is said
about them. What is wrong with one value, or with one item of a list of drivers, changes nothing that is read from
the others.
-/
namespace FleetLocator.Peer

open Driver (Field Record)
open Json (Document FieldValue Value)
open Service (Lookup Mutation nearbyDocument searchDocument)

/-- The names that documents have beside those of a driver's fields. -/
def envelope : List String :=
  ["count", "drivers", "searchRadius", "searchLocation", "success", "message", "distance"]

theorem name_ne_of_mem_envelope {name : String} (h : name ∈ envelope) (f : Field) : f.name ≠ name := by
  have hall : ∀ f ∈ Field.all, ∀ name ∈ envelope, f.name ≠ name := by decide
  exact hall f (Field.mem_all f) name h

/-- A name beside the fields overwrites none of them. -/
theorem get?_insert_of_mem_envelope {name : String} (h : name ∈ envelope) (d : Document) (v : Json.Value)
    (f : Field) : (d.insert name v).get? f.name = d.get? f.name :=
  d.get?_insert_of_ne v (name_ne_of_mem_envelope h f)

/-- A name beside the fields is not read as one. -/
theorem decode_insert_of_mem_envelope {name : String} (h : name ∈ envelope) (d : Document) (v : Json.Value) :
    Record.decode (d.insert name v) = Record.decode d :=
  Record.decode_congr (get?_insert_of_mem_envelope h d v)

theorem succeeded_of_get? {d : Document} {b : Bool} (h : d.get? "success" = some (FieldValue.toValue b)) :
    succeeded d = b := Document.field_of_get? (Json.faithful_bool b) h true

theorem messageOf_of_get? {d : Document} {text : String}
    (h : d.get? "message" = some (FieldValue.toValue text)) : messageOf d = text :=
  Document.field_of_get? (Json.faithful_string text) h ""

theorem get?_nearbyDocument (m : Search.Match) (f : Field) :
    (nearbyDocument m).get? f.name = some (f.value m.driver) := by
  rw [nearbyDocument, Document.put, get?_insert_of_mem_envelope (by decide), Record.get?_encode,
    if_pos (Field.mem_all f)]

theorem decode_nearbyDocument {m : Search.Match} (h : m.driver.InDomain) :
    Record.decode (nearbyDocument m) = m.driver := Record.decode_of_get? h (get?_nearbyDocument m)

theorem decode_searchDocument (r : Search.Result) (h : ∀ m ∈ r.drivers, m.driver.InDomain) :
    Findings.decode (searchDocument r) = ⟨r.drivers.map Search.Match.driver, r.success, r.message⟩ := by
  have hsuccess : (searchDocument r).get? "success" = some (FieldValue.toValue r.success) := by
    simp [searchDocument, Document.put]
  have hmessage : (searchDocument r).get? "message" = some (FieldValue.toValue r.message) := by
    simp [searchDocument, Document.put]
  have hdrivers : (searchDocument r).get? "drivers" = some (FieldValue.toValue (r.drivers.map nearbyDocument)) := by
    simp [searchDocument, Document.put]
  have hread : (r.drivers.map nearbyDocument).map Record.decode = r.drivers.map Search.Match.driver := by
    rw [List.map_map]
    exact List.map_congr_left fun m hm => decode_nearbyDocument (h m hm)
  rw [Findings.decode, succeeded_of_get? hsuccess, messageOf_of_get? hmessage,
    Document.field_of_get? (Json.faithful_documents _) hdrivers, hread]

section

variable {r : Record}

theorem get?_lookup_driverId (l : Lookup) :
    l.document.get? Field.driverId.name = some (FieldValue.toValue l.driverId) := by
  rw [Lookup.document, Document.put, get?_insert_of_mem_envelope (by decide), Document.put,
    get?_insert_of_mem_envelope (by decide), Document.put, Document.get?_insert_self]

/-- Of the fields of the driver, a lookup overwrites the identifier and no other. -/
theorem get?_lookup {l : Lookup} (hr : l.driver = some r) {f : Field} (hf : f ≠ .driverId) :
    l.document.get? f.name = some (f.value r) := by
  have hname : f.name ≠ Field.driverId.name := fun h => hf (Field.name_injective h)
  rw [Lookup.document, Document.put, get?_insert_of_mem_envelope (by decide), Document.put,
    get?_insert_of_mem_envelope (by decide), Document.put, Document.get?_insert_of_ne _ _ hname, hr,
    Option.elim_some, Record.get?_encode, if_pos (Field.mem_all f)]

theorem succeeded_lookup (l : Lookup) : succeeded l.document = l.success :=
  succeeded_of_get? (by simp [Lookup.document, Document.put])

theorem messageOf_lookup (l : Lookup) : messageOf l.document = l.message :=
  messageOf_of_get? (by simp [Lookup.document, Document.put])

theorem decode_lookup {l : Lookup} (hr : l.driver = some r) (h : r.InDomain) :
    Record.decode l.document = { r with id := l.driverId } := by
  apply Record.decode_of_get? (r := { r with id := l.driverId }) h
  intro f
  by_cases hf : f = .driverId
  · subst hf
    exact get?_lookup_driverId l
  · rw [get?_lookup hr hf]
    cases f with
    | driverId => exact absurd rfl hf
    | _ => rfl

end

theorem get?_mutation (m : Mutation) :
    m.document.get? "success" = some (FieldValue.toValue m.success) ∧
      m.document.get? "message" = some (FieldValue.toValue m.message) ∧
      m.document.get? Field.timestamp.name = some (FieldValue.toValue m.timestamp) ∧
      m.document.get? Field.geohash.name = m.location.map fun _ => m.geohash.elim .null FieldValue.toValue := by
  obtain ⟨driverId, success, message, location, status, geohash, timestamp⟩ := m
  cases location with
  | none => cases status <;> simp [Mutation.document, Document.put, Field.name]
  | some point => cases status <;> simp [Mutation.document, Document.put, Document.putOptional, Field.name]

theorem decode_mutation (m : Mutation) :
    Acknowledgement.decode m.document =
      ⟨m.success, m.message, some m.timestamp, if m.location.isSome then m.geohash else none⟩ := by
  obtain ⟨hsuccess, hmessage, htimestamp, hgeohash⟩ := get?_mutation m
  have hhash : m.document.optional String Field.geohash.name = if m.location.isSome then m.geohash else none := by
    cases hlocation : m.location with
    | none =>
      rw [hlocation] at hgeohash
      simp [Document.optional, hgeohash]
    | some point =>
      rw [hlocation] at hgeohash
      exact Document.optional_of_get?_elim (fun s _ => Json.faithful_string s) hgeohash
  rw [Acknowledgement.decode, hhash, succeeded_of_get? hsuccess, messageOf_of_get? hmessage,
    Document.optional_of_get? (Json.faithful_int64 _) htimestamp]

/-- Everything that a service says of drivers to the outside is read back by a peer. What is said beside
the fields of a driver does not touch them. -/
theorem decode_documents :
    (∀ r : Search.Result, (∀ m ∈ r.drivers, m.driver.InDomain) →
      Findings.decode (searchDocument r) = ⟨r.drivers.map Search.Match.driver, r.success, r.message⟩) ∧
    (∀ l : Lookup, succeeded l.document = l.success ∧ messageOf l.document = l.message ∧
      ∀ r, l.driver = some r → r.InDomain → Record.decode l.document = { r with id := l.driverId }) ∧
    (∀ m : Mutation, Acknowledgement.decode m.document =
      ⟨m.success, m.message, some m.timestamp, if m.location.isSome then m.geohash else none⟩) ∧
    (∀ name ∈ envelope, ∀ (d : Document) (v : Json.Value),
      Record.decode (d.insert name v) = Record.decode d ∧
        ∀ f : Field, (d.insert name v).get? f.name = d.get? f.name) ∧
    (∀ (m : Search.Match) (f : Field), (nearbyDocument m).get? f.name = some (f.value m.driver)) ∧
    ∀ (l : Lookup) (r : Record), l.driver = some r → ∀ f ≠ Field.driverId,
      l.document.get? f.name = some (f.value r) := by
  refine ⟨decode_searchDocument, fun l => ⟨succeeded_lookup l, messageOf_lookup l, fun r => decode_lookup⟩,
    decode_mutation, fun name hname d v => ⟨decode_insert_of_mem_envelope hname d v,
      get?_insert_of_mem_envelope hname d v⟩, get?_nearbyDocument, fun l r hr f => get?_lookup hr⟩

/-- A place on the edge of the earth with a signed zero, no place at all, and an identifier that is replaced. -/
theorem decode_documents_of_two :
    Findings.decode (searchDocument ⟨[⟨{ id := "a", location := some ⟨-0.0, 180⟩, rating := 5, trips := -1 }, 0⟩,
        ⟨{ id := "", geohash := some "s0" }, 2.5⟩], ⟨1, 2⟩, 5, false, "two"⟩) =
      ⟨[{ id := "a", location := some ⟨-0.0, 180⟩, rating := 5, trips := -1 },
        { id := "", geohash := some "s0" }], false, "two"⟩ ∧
    Record.decode (Lookup.document ⟨"b", some { id := "a", status := .onBreak, rating := 5 }, true, "found"⟩) =
      { id := "b", status := .onBreak, rating := 5 } := by
  obtain ⟨hsearch, hlookup, -⟩ := decode_documents
  obtain ⟨-, -, hdriver⟩ := hlookup ⟨"b", some { id := "a", status := .onBreak, rating := 5 }, true, "found"⟩
  exact ⟨hsearch _ (by decide), hdriver _ rfl (by decide)⟩

/-- The driver that an item of a list is, if it is a document at all. -/
def driverOf (item : Value) : Option Record := item.document?.map Record.decode

/-- The drivers that a value lists. -/
def driversOf (v : Option Value) : List Record := ((v.bind Value.list?).getD []).filterMap driverOf

namespace Findings

/-- Each part of the findings is read from a value of its own, and each driver from an item of its own. -/
structure Localized (d : Document) : Prop where
  drivers : (decode d).drivers = driversOf (d.get? "drivers")
  items : ∀ before items after, decode (d.insert "drivers" (.list (before ++ items ++ after))) =
    { decode d with
      drivers := before.filterMap driverOf ++ items.filterMap driverOf ++ after.filterMap driverOf }
  list : ∀ v, decode (d.insert "drivers" v) = { decode d with drivers := driversOf (some v) }
  success : ∀ v, decode (d.insert "success" v) = { decode d with success := v.bool?.getD true }
  message : ∀ v, decode (d.insert "message" v) = { decode d with message := v.text?.getD "" }
  null : ∀ name, decode (d.insert name .null) = decode (d.without name)
  other : ∀ name, name ≠ "drivers" → name ≠ "success" → name ≠ "message" →
    ∀ v, decode (d.insert name v) = decode d

theorem field_drivers (d : Document) :
    (d.field "drivers" ([] : List Document)).map Record.decode = driversOf (d.get? "drivers") := by
  rw [Document.field, Document.optional_eq_bind rfl, driversOf]
  cases d.get? "drivers" with
  | none => rfl
  | some v =>
    cases hv : v.list? with
    | none => simp [FieldValue.ofValue?, hv]
    | some items =>
      simp [FieldValue.ofValue?, hv, List.map_filterMap]
      rfl

theorem decode_eq (d : Document) : decode d =
    ⟨driversOf (d.get? "drivers"), ((d.get? "success").bind Value.bool?).getD true,
      ((d.get? "message").bind Value.text?).getD ""⟩ := by
  rw [decode, field_drivers, succeeded, messageOf, Document.field, Document.field,
    Document.optional_eq_bind (by rfl), Document.optional_eq_bind (by rfl)]
  rfl

/-- Only three values count for what is found. -/
theorem decode_congr {d e : Document} (hdrivers : d.get? "drivers" = e.get? "drivers")
    (hsuccess : d.get? "success" = e.get? "success") (hmessage : d.get? "message" = e.get? "message") :
    decode d = decode e := by
  rw [decode_eq, decode_eq, hdrivers, hsuccess, hmessage]

theorem decode_insert_drivers (d : Document) (v : Value) :
    decode (d.insert "drivers" v) = { decode d with drivers := driversOf (some v) } := by
  simp [decode_eq]

theorem decode_insert_success (d : Document) (v : Value) :
    decode (d.insert "success" v) = { decode d with success := v.bool?.getD true } := by
  simp [decode_eq]

theorem decode_insert_message (d : Document) (v : Value) :
    decode (d.insert "message" v) = { decode d with message := v.text?.getD "" } := by
  simp [decode_eq]

theorem decode_insert_null (d : Document) (name : String) : decode (d.insert name .null) = decode (d.without name) := by
  have hother {part : String} (h : part ≠ name) : (d.insert name .null).get? part = (d.without name).get? part := by
    rw [Document.get?_insert_of_ne d .null h, Document.get?_without_of_ne d h]
  by_cases hdrivers : "drivers" = name
  · subst hdrivers
    simp [decode_eq, driversOf, Value.list?]
  by_cases hsuccess : "success" = name
  · subst hsuccess
    simp [decode_eq, Value.bool?]
  by_cases hmessage : "message" = name
  · subst hmessage
    simp [decode_eq, Value.text?]
  exact decode_congr (hother hdrivers) (hother hsuccess) (hother hmessage)

theorem localized (d : Document) : Localized d where
  drivers := by rw [decode_eq]
  items before items after := by
    rw [decode_insert_drivers, driversOf, Option.bind_some, Value.list?, Option.getD_some, List.filterMap_append,
      List.filterMap_append]
  list := decode_insert_drivers d
  success := decode_insert_success d
  message := decode_insert_message d
  null := decode_insert_null d
  other name hdrivers hsuccess hmessage v := decode_congr (Document.get?_insert_of_ne d v hdrivers.symm)
    (Document.get?_insert_of_ne d v hsuccess.symm) (Document.get?_insert_of_ne d v hmessage.symm)

end Findings

/-- Faults in a document of a driver and in the answer to a search change only what they are in. -/
theorem faults_local (d : Document) : Driver.Localized d ∧ Findings.Localized d :=
  ⟨Driver.localized d, Findings.localized d⟩

end FleetLocator.Peer
