import FleetLocator.Proofs.Driver.Exchange
import FleetLocator.Proofs.Json.Grammar
import FleetLocator.Proofs.Rest.Route
import FleetLocator.RowStore.Database
import FleetLocator.Service.Operations

/-!
# In which form requests are answered

The text of each document that an operation returns is in the grammar, whatever the numbers in it are. So a request
for drivers is answered by a document, or refused by a document that says why, whatever its query, its body and the
backend are. Only one that names a driver by a segment that is no text is refused in plain words.
-/
namespace FleetLocator.Driver

open Json (FieldValue)

theorem Record.writable_value (r : Record) (f : Field) : (f.value r).Writable := by
  cases f with
  | driverId => exact Json.writable_string r.id
  | userId => exact Json.writable_string r.userId
  | latitude => exact Json.writable_elim Json.writable_float _
  | longitude => exact Json.writable_elim Json.writable_float _
  | status => exact Json.writable_string r.status.label
  | vehiclePlate => exact Json.writable_string r.plate
  | vehicleModel => exact Json.writable_string r.model
  | licenseNumber => exact Json.writable_string r.license
  | rating => exact Json.writable_float r.rating
  | totalTrips => exact Json.writable_int64 r.trips
  | timestamp => exact Json.writable_int64 r.updatedAt
  | geohash => exact Json.writable_elim Json.writable_string r.geohash

theorem Record.writable_encode (r : Record) (fields : List Field) : (r.encode fields).Writable :=
  r.encode_induction fields Json.Document.writable_empty fun _ f _ hd => hd.insert (r.writable_value f) _

end FleetLocator.Driver

namespace FleetLocator.Service

open Json (writable_bool writable_float writable_int64 writable_string)
open Json.Document (writable_empty writable_list)

theorem writable_pointDocument (p : Geo.Point) : (pointDocument p).Writable :=
  (writable_empty.put (writable_float p.lat) _).put (writable_float p.lng) _

theorem writable_nearbyDocument (m : Search.Match) : (nearbyDocument m).Writable :=
  (m.driver.writable_encode Driver.Field.all).put (writable_float (reportedDistance m.distance)) _

theorem writable_searchDocument (r : Search.Result) : (searchDocument r).Writable := by
  have hdrivers : ∀ d ∈ r.drivers.map nearbyDocument, d.Writable := fun d hd => by
    obtain ⟨m, -, rfl⟩ := List.mem_map.mp hd
    exact writable_nearbyDocument m
  exact writable_empty
    |>.put (writable_int64 _) _
    |>.put (writable_list hdrivers) _
    |>.put (writable_float r.radius) _
    |>.put (writable_pointDocument r.origin).value _
    |>.put (writable_bool r.success) _
    |>.put (writable_string r.message) _

theorem Lookup.writable_document (l : Lookup) : l.document.Writable := by
  have hdriver : (l.driver.elim .empty fun r => r.encode Driver.Field.all).Writable := by
    cases l.driver with
    | none => exact writable_empty
    | some r =>
      rw [Option.elim_some]
      exact r.writable_encode Driver.Field.all
  unfold Lookup.document
  exact hdriver
    |>.put (writable_string l.driverId) _
    |>.put (writable_bool l.success) _
    |>.put (writable_string l.message) _

theorem Mutation.writable_document (m : Mutation) : m.document.Writable := by
  have hhead : (Json.Document.empty
      |>.put Driver.Field.driverId.name m.driverId
      |>.put "success" m.success
      |>.put "message" m.message
      |>.put Driver.Field.timestamp.name m.timestamp).Writable := writable_empty
    |>.put (writable_string m.driverId) _
    |>.put (writable_bool m.success) _
    |>.put (writable_string m.message) _
    |>.put (writable_int64 m.timestamp) _
  unfold Mutation.document
  cases m.location with
  | none =>
    cases m.status with
    | none => exact hhead
    | some status => exact hhead.put (writable_string status.label) _
  | some p =>
    have hlocated := ((hhead.put (writable_float p.lat) Driver.Field.latitude.name).put (writable_float p.lng)
      Driver.Field.longitude.name).putOptional writable_string Driver.Field.geohash.name m.geohash
    cases m.status with
    | none => exact hlocated
    | some status => exact hlocated.put (writable_string status.label) _

end FleetLocator.Service

namespace FleetLocator.Rest

open Json (Document)
open Json.Grammar (IsDocument)
open RowStore (Database)
open Service (Desk Rejection State)

/-- An answer by a document: either what was asked for, or the words in which it is refused. -/
structure InJson (response : Response) : Prop where
  contentType : response.contentType = some "application/json"
  grammar : IsDocument response.body.toList
  outcome : response.status = .ok ∨ response.status = .badRequest ∧ ∃ d text,
    Document.parse (Text.Utf8.encode response.body) = .ok d ∧ d.get? "error" = some (.text text)

theorem inJson_ok {d : Document} (h : d.Writable) : InJson (.json .ok d) := ⟨rfl, h.isDocument, .inl rfl⟩

theorem inJson_badRequest (text : String) : InJson (.json .badRequest (Document.empty.put "error" text)) := by
  have hwritable : (Document.empty.put "error" text).Writable :=
    Json.Document.writable_empty.insert (Json.writable_string text) _
  have hparse : Document.parse (Text.Utf8.encode (Document.empty.put "error" text).render) =
      .ok (Document.empty.put "error" text) :=
    Document.parse_render (Document.sorted_insert Document.sorted_empty _ _)
      (Document.flat_insert Document.flat_empty (show (Json.FieldValue.toValue text).Plain from trivial) _)
  exact ⟨rfl, hwritable.isDocument, .inr ⟨rfl, _, text, hparse, Document.get?_insert_self _ _ _⟩⟩

theorem inJson_refused (reason : Refusal) (h : reason ≠ .path) : InJson (.refused reason) := by
  cases reason with
  | path => exact absurd rfl h
  | _ => exact inJson_badRequest _

theorem inJson_ofExcept {α : Type} {document : α → Document} (h : ∀ a, (document a).Writable)
    (result : Except Rejection α) : InJson (.ofExcept document result) := by
  cases result with
  | ok a => exact inJson_ok (h a)
  | error reason => exact inJson_refused (.rejected reason) nofun

theorem not_inJson_path : ¬InJson (.refused .path) := fun h =>
  absurd (Option.some.inj h.contentType) (by decide)

theorem Request.read_ne_path {α : Type} {r : Request} {reader : List UInt8 → Except BodyFlaw α} {reason : Refusal}
    (h : r.read reader = .error reason) : reason ≠ .path := by
  rintro rfl
  unfold Request.read at h
  split_ifs at h
  · cases h
  · split at h <;> cases h
  · cases h

namespace Route

/-- The method of a request for drivers. -/
def method? : Route → Option String
  | nearby | driver _ => some "GET"
  | location _ | status _ => some "PUT"
  | health | metrics => none

/-- The segment that names a driver. -/
def segment? : Route → Option (List UInt8)
  | driver segment | location segment | status segment => some segment
  | nearby | health | metrics => none

end Route

namespace Api

variable {σ : Type} (api : Api σ) (now : Int64) (s : State σ) {r : Request} {route : Route}
  {durations : Option Service.Durations}

theorem handle_of_method (hroute : Route.ofPath? (splitTarget r.target).1 = some route)
    (hmethod : route.method? = some r.method) :
    api.handle now r s durations = api.perform now route (splitTarget r.target).2 r s durations := by
  have hmem : r.method ∈ route.methods ∧ r.method ≠ "HEAD" := by
    cases route with
    | nearby | driver id =>
      rw [← Option.some.inj hmethod]
      exact ⟨List.mem_cons_self, by decide⟩
    | location id | status id =>
      rw [← Option.some.inj hmethod]
      exact ⟨List.mem_cons_self, by decide⟩
    | health | metrics => cases hmethod
  exact api.handle_eq_perform now s hroute hmem.1 hmem.2

/-- Where a segment is text, what it names does not matter. -/
theorem inJson_perform (hdriver : route.method? ≠ none)
    (htext : ∀ segment ∈ route.segment?, Route.decodeId? segment ≠ none) (query : List UInt8) (r : Request) :
    InJson (api.perform now route query r s durations).1 := by
  cases route with
  | nearby =>
    rw [perform, findNearby]
    cases readQuery api.defaultLimit query with
    | error e => exact inJson_refused (.parameters e) nofun
    | ok q =>
      dsimp only
      exact inJson_ofExcept Service.writable_searchDocument _
  | driver segment =>
    obtain ⟨id, hid⟩ := Option.ne_none_iff_exists'.mp (htext segment rfl)
    rw [perform, driverStatus, hid]
    dsimp only
    exact inJson_ofExcept Service.Lookup.writable_document _
  | location segment =>
    obtain ⟨id, hid⟩ := Option.ne_none_iff_exists'.mp (htext segment rfl)
    rw [perform, updateLocation, hid]
    dsimp only
    cases hbody : r.read readLocation with
    | error reason => exact inJson_refused reason (Request.read_ne_path hbody)
    | ok p =>
      dsimp only
      exact inJson_ofExcept Service.Mutation.writable_document _
  | status segment =>
    obtain ⟨id, hid⟩ := Option.ne_none_iff_exists'.mp (htext segment rfl)
    rw [perform, updateStatus, hid]
    dsimp only
    cases hbody : r.read readStatus with
    | error reason => exact inJson_refused reason (Request.read_ne_path hbody)
    | ok text =>
      dsimp only
      cases Driver.Status.parse? text with
      | none => exact inJson_refused (.rejected (.status text)) nofun
      | some status =>
        dsimp only
        exact inJson_ofExcept Service.Mutation.writable_document _
  | health => exact absurd rfl hdriver
  | metrics => exact absurd rfl hdriver

/-- A segment that is no text is refused before the body is looked at, and nothing happens. -/
theorem perform_of_segment {segment : List UInt8} (hsegment : route.segment? = some segment)
    (hbroken : Route.decodeId? segment = none) (query : List UInt8) (r : Request) :
    api.perform now route query r s durations = (.refused .path, s) := by
  cases route with
  | driver id | location id | status id =>
    obtain rfl := Option.some.inj hsegment
    simp only [perform, driverStatus, updateLocation, updateStatus, hbroken]
  | nearby | health | metrics => cases hsegment

end Api

/-- A request for drivers is answered by a document unless it names a driver by a segment that is no text; then it
is refused in plain words, and nothing happens. -/
theorem answers_in_json {σ : Type} (api : Api σ) (now : Int64) (s : State σ) {r : Request} {route : Route}
    (hroute : Route.ofPath? (splitTarget r.target).1 = some route) (hmethod : route.method? = some r.method)
    (durations : Option Service.Durations) :
    (InJson (api.handle now r s durations).1 ↔ ∀ segment ∈ route.segment?, Route.decodeId? segment ≠ none) ∧
      ∀ segment ∈ route.segment?, Route.decodeId? segment = none →
        api.handle now r s durations = (.typed .badRequest "text/plain; charset=utf-8"
          "Invalid URL: Invalid UTF-8 in \u0060id\u0060", s) := by
  rw [api.handle_of_method now s hroute hmethod]
  refine ⟨⟨fun hjson segment hsegment hbroken => ?_, fun htext => ?_⟩, fun segment hsegment hbroken => ?_⟩
  · rw [api.perform_of_segment now s hsegment hbroken] at hjson
    exact not_inJson_path hjson
  · exact api.inJson_perform now s (by simp [hmethod]) htext _ _
  · exact api.perform_of_segment now s hsegment hbroken _ _

/-- A driver is asked for by two bytes, of which the second is no text. -/
theorem answers_in_json_of_two :
    InJson (Api.handle ⟨⟨RowStore.backend, 100, 10⟩, 5⟩ 7 ⟨"GET", Route.word "/drivers/%41", none, []⟩
        ⟨Database.empty, {}⟩).1 ∧
      ¬InJson (Api.handle ⟨⟨RowStore.backend, 100, 10⟩, 5⟩ 7 ⟨"GET", Route.word "/drivers/%41%FF", none, []⟩
        ⟨Database.empty, {}⟩).1 := by
  have hpath : Route.ofPath? (splitTarget (Route.word "/drivers/%41")).1 = some (.driver (Route.word "%41")) := by
    decide
  have hbrokenPath : Route.ofPath? (splitTarget (Route.word "/drivers/%41%FF")).1 =
      some (.driver (Route.word "%41%FF")) := by
    decide
  have hletter := answers_in_json ⟨⟨RowStore.backend, 100, 10⟩, 5⟩ 7 ⟨Database.empty, {}⟩
    (r := ⟨"GET", Route.word "/drivers/%41", none, []⟩) hpath rfl none
  have hbroken := answers_in_json ⟨⟨RowStore.backend, 100, 10⟩, 5⟩ 7 ⟨Database.empty, {}⟩
    (r := ⟨"GET", Route.word "/drivers/%41%FF", none, []⟩) hbrokenPath rfl none
  exact ⟨hletter.1.mpr (by decide), hbroken.1.not.mpr (by decide)⟩

/-- The answer to a request for a driver that is named by a byte which is no text, is no document. -/
theorem handle_of_broken_id :
    let r : Request := ⟨"GET", Route.word "/drivers/%FF", none, []⟩
    let response := (Api.handle ⟨⟨RowStore.backend, 100, 10⟩, 5⟩ 7 r ⟨Database.empty, {}⟩).1
    Route.ofPath? (splitTarget r.target).1 = some (.driver (Route.word "%FF")) ∧
      (Route.driver (Route.word "%FF")).method? = some r.method ∧
      response = .typed .badRequest "text/plain; charset=utf-8" "Invalid URL: Invalid UTF-8 in \u0060id\u0060" ∧
      ¬IsDocument response.body.toList ∧ ¬InJson response := by
  refine ⟨by decide, rfl, rfl, fun h => ?_, not_inJson_path⟩
  exact absurd h.head? (by decide)

end FleetLocator.Rest
