import FleetLocator.Proofs.Json.Field
import FleetLocator.Proofs.Peer.RoundTrip
import FleetLocator.Proofs.Service.Operations
import FleetLocator.Rest.Api
import FleetLocator.RowStore.Database
import FleetLocator.Rpc.Method

/-!
# One driver, looked up or changed in two ways

A request on the web and a remote call agree if both are refused in the same words, or if the document and
the message that answer them tell the same. Those of a lookup tell the same of a driver, but for the number of
trips: the message has 32 bits for it, and makes the greatest number of one that is too small as well as of one
that is too great. The documents and the messages of updates tell the same.
-/
namespace FleetLocator.Interface

open Json (Document Faithful FieldValue)
open Driver (Field Record)
open Rest (Api Route)
open Rpc (LocationRequest LocationResponse LookupRequest LookupResponse StatusRequest StatusResponse shortCount)
open RowStore (Database)
open Service (Desk Lookup Mutation Rejection State checkId updateLocation_eq_ok updateStatus_eq_ok)

section

variable {α : Type} [FieldValue α]

/-- A document has this very value under the name, and it is read from it. -/
def Says (d : Document) (name : String) (a : α) : Prop :=
  d.get? name = some (FieldValue.toValue a) ∧ Faithful a

/-- A document has this very value under the name, or null if there is none. -/
def SaysIfAny (d : Document) (name : String) (a : Option α) : Prop :=
  d.get? name = some (a.elim .null FieldValue.toValue) ∧ ∀ x ∈ a, Faithful x

end

section

variable {d : Document} {name : String}

theorem says_text {s : String} (h : d.get? name = some (FieldValue.toValue s)) : Says d name s :=
  ⟨h, Json.faithful_string s⟩

theorem says_whole {n : Int64} (h : d.get? name = some (FieldValue.toValue n)) : Says d name n :=
  ⟨h, Json.faithful_int64 n⟩

theorem says_flag {b : Bool} (h : d.get? name = some (FieldValue.toValue b)) : Says d name b :=
  ⟨h, Json.faithful_bool b⟩

theorem says_number {x : Float} (h : d.get? name = some (FieldValue.toValue x)) (hx : x.isFinite = true) :
    Says d name x := ⟨h, Json.faithful_float hx⟩

end

/-- The answers to a request on the web and to a remote call agree. -/
inductive Agree {α : Type} (Same : Document → α → Prop) : Rest.Response → Except Rpc.Failure α → Prop
  | refused (text : String) :
    Agree Same (.json .badRequest (Document.empty.put "error" text)) (.error ⟨.invalidArgument, text⟩)
  | answered {d : Document} {a : α} (same : Same d a) : Agree Same (.json .ok d) (.ok a)

section

variable {m n : Int64}

theorem toInt_shortCount (h : Int32.minValue.toInt ≤ n.toInt) :
    (shortCount n).toInt = min n.toInt Int32.maxValue.toInt := by
  unfold shortCount
  by_cases hmax : n.toInt ≤ Int32.maxValue.toInt
  · rw [if_pos ⟨h, hmax⟩, min_eq_left hmax]
    exact Int32.toInt_ofInt_of_le h (Int.lt_add_one_of_le hmax)
  · rw [if_neg fun hfits => hmax hfits.2, min_eq_right (le_of_not_ge hmax)]

theorem shortCount_of_lt (h : n.toInt < Int32.minValue.toInt) : shortCount n = Int32.maxValue :=
  if_neg fun hfits => not_le_of_gt h hfits.1

theorem toInt_ofIntClamp (h : Int32.minValue.toInt ≤ n.toInt) :
    (Int32.ofIntClamp n.toInt).toInt = min n.toInt Int32.maxValue.toInt := by
  unfold Int32.ofIntClamp
  by_cases hmax : n.toInt ≤ Int32.maxValue.toInt
  · rw [dif_pos h, dif_pos hmax, Int32.toInt_ofIntLE, min_eq_left hmax]
  · rw [dif_pos h, dif_neg hmax, min_eq_right (le_of_not_ge hmax)]

/-- Of the numbers of 32 bits the message has the nearest one, unless the count is below all of them. -/
theorem shortCount_eq_ofIntClamp_iff :
    shortCount n = Int32.ofIntClamp n.toInt ↔ Int32.minValue.toInt ≤ n.toInt := by
  constructor
  · intro h
    by_contra hlow
    rw [shortCount_of_lt (lt_of_not_ge hlow), Int32.ofIntClamp, dif_neg hlow] at h
    exact absurd h (by decide)
  · intro h
    rw [← Int32.toInt_inj, toInt_shortCount h, toInt_ofIntClamp h]

/-- The order of two counts is kept, except that one below 32 bits comes after those within them. -/
theorem shortCount_le_iff (h : m ≤ n) :
    shortCount m ≤ shortCount n ↔ Int32.minValue.toInt ≤ m.toInt ∨ n.toInt < Int32.minValue.toInt ∨
      Int32.maxValue.toInt ≤ n.toInt := by
  have hle : m.toInt ≤ n.toInt := Int64.le_iff_toInt_le.mp h
  rw [Int32.le_iff_toInt_le]
  by_cases hm : Int32.minValue.toInt ≤ m.toInt
  · rw [toInt_shortCount hm, toInt_shortCount (hm.trans hle)]
    exact iff_of_true (min_le_min_right _ hle) (.inl hm)
  rw [shortCount_of_lt (lt_of_not_ge hm)]
  by_cases hn : Int32.minValue.toInt ≤ n.toInt
  · rw [toInt_shortCount hn, le_min_iff]
    simp only [hm, not_lt_of_ge hn, le_refl, and_true, false_or]
  · rw [shortCount_of_lt (lt_of_not_ge hn)]
    exact iff_of_true le_rfl (.inr (.inl (lt_of_not_ge hn)))

end

/-- A document and a message tell the same of a driver, apart from the number of trips. -/
structure SameLookup (d : Document) (a : LookupResponse) : Prop where
  driverId : Says d Field.driverId.name a.driverId
  userId : Says d Field.userId.name a.userId
  status : Says d Field.status.name a.status
  plate : Says d Field.vehiclePlate.name a.vehiclePlate
  model : Says d Field.vehicleModel.name a.vehicleModel
  license : Says d Field.licenseNumber.name a.licenseNumber
  rating : Says d Field.rating.name a.rating
  latitude : SaysIfAny d Field.latitude.name (a.location.map Rpc.Location.latitude)
  longitude : SaysIfAny d Field.longitude.name (a.location.map Rpc.Location.longitude)
  timestamp : Says d Field.timestamp.name a.timestamp
  success : Says d "success" a.success
  message : Says d "message" a.message

theorem says_degree {d : Document} {name : String} {location : Option Geo.Point} {degree : Geo.Point → Float}
    (h : d.get? name = some ((location.map degree).elim .null FieldValue.toValue))
    (hfinite : ∀ p ∈ location, (degree p).isFinite = true) : SaysIfAny d name (location.map degree) := by
  refine ⟨h, fun x hx => ?_⟩
  obtain ⟨p, hp, rfl⟩ := Option.map_eq_some_iff.mp hx
  exact Json.faithful_float (hfinite p hp)

theorem says_outcome (l : Lookup) :
    Says l.document Field.driverId.name l.driverId ∧ Says l.document "success" l.success ∧
      Says l.document "message" l.message := by
  refine ⟨says_text (Peer.get?_lookup_driverId l), says_flag ?_, says_text ?_⟩
  · simp [Lookup.document, Document.put]
  · simp [Lookup.document, Document.put]

theorem names_outcome (id : String) (success : Bool) (message : String) :
    (((Document.empty.put Field.driverId.name id).put "success" success).put "message" message).names =
      [Field.driverId.name, "message", "success"] := by
  have hsuccess : ¬"success" < Field.driverId.name ∧ "success" ≠ Field.driverId.name := by decide
  have hmessage : ¬"message" < Field.driverId.name ∧ "message" ≠ Field.driverId.name := by decide
  have hmiddle : "message" < "success" := by decide
  simp only [Document.names, Document.put, Document.insert, Document.empty, Json.insertField, if_neg hsuccess.1,
    if_neg hsuccess.2, if_neg hmessage.1, if_neg hmessage.2, if_pos hmiddle, List.map_cons, List.map_nil]

theorem ofLookup_of_some {l : Lookup} {r : Record} (h : l.driver = some r) :
    LookupResponse.ofLookup l = ⟨l.driverId, r.userId, r.status.label, r.model, r.plate, r.rating,
      shortCount r.trips, r.location.map Rpc.Location.ofPoint, r.updatedAt, l.success, l.message,
      r.license⟩ := by
  simp only [LookupResponse.ofLookup, h]

theorem sameLookup {l : Lookup} {r : Record} (hr : l.driver = some r) (h : r.InDomain) :
    SameLookup l.document (.ofLookup l) := by
  obtain ⟨hid, hsuccess, hmessage⟩ := says_outcome l
  have hfield (f : Field) (hf : f ≠ .driverId) : l.document.get? f.name = some (f.value r) :=
    Peer.get?_lookup hr hf
  have hdegrees : ∀ p ∈ r.location, p.lat.isFinite = true ∧ p.lng.isFinite = true := fun p hp =>
    (Geo.Point.isValid_iff.mp (h.1 p hp)).1
  rw [ofLookup_of_some hr]
  exact {
    driverId := hid
    userId := says_text (hfield .userId (by decide))
    status := says_text (hfield .status (by decide))
    plate := says_text (hfield .vehiclePlate (by decide))
    model := says_text (hfield .vehicleModel (by decide))
    license := says_text (hfield .licenseNumber (by decide))
    rating := says_number (hfield .rating (by decide)) (Driver.isFinite_of_isRating h.2)
    latitude := by
      rw [Option.map_map]
      exact says_degree (hfield .latitude (by decide)) fun p hp => (hdegrees p hp).1
    longitude := by
      rw [Option.map_map]
      exact says_degree (hfield .longitude (by decide)) fun p hp => (hdegrees p hp).2
    timestamp := says_whole (hfield .timestamp (by decide))
    success := hsuccess
    message := hmessage }

/-- A document and a message tell the same of a new place. -/
structure SameLocation (d : Document) (a : LocationResponse) : Prop where
  driverId : Says d Field.driverId.name a.driverId
  latitude : Says d Field.latitude.name a.latitude
  longitude : Says d Field.longitude.name a.longitude
  timestamp : Says d Field.timestamp.name a.timestamp
  geohash : Says d Field.geohash.name a.geohash
  success : Says d "success" a.success
  message : Says d "message" a.message

/-- A document and a message tell the same of a new status. -/
structure SameStatus (d : Document) (a : StatusResponse) : Prop where
  driverId : Says d Field.driverId.name a.driverId
  status : Says d Field.status.name a.status
  timestamp : Says d Field.timestamp.name a.timestamp
  success : Says d "success" a.success
  message : Says d "message" a.message

section

variable {m : Mutation}

theorem get?_mutation_driverId (m : Mutation) :
    m.document.get? Field.driverId.name = some (FieldValue.toValue m.driverId) := by
  obtain ⟨driverId, success, message, location, status, geohash, timestamp⟩ := m
  cases location <;> cases status <;> simp [Mutation.document, Document.put, Document.putOptional, Field.name]

theorem get?_mutation_point {p : Geo.Point} (h : m.location = some p) :
    m.document.get? Field.latitude.name = some (FieldValue.toValue p.lat) ∧
      m.document.get? Field.longitude.name = some (FieldValue.toValue p.lng) := by
  cases hstatus : m.status <;>
    simp [Mutation.document, Document.put, Document.putOptional, Field.name, h, hstatus]

theorem get?_mutation_status {s : Driver.Status} (h : m.status = some s) :
    m.document.get? Field.status.name = some (FieldValue.toValue s.label) := by
  simp [Mutation.document, Document.put, h]

theorem sameLocation {request : LocationRequest} {geohash : String}
    (hlocation : m.location = some ⟨request.latitude, request.longitude⟩) (hhash : m.geohash = some geohash)
    (hp : (Geo.Point.mk request.latitude request.longitude).isValid = true) :
    SameLocation m.document (.ofMutation m request) := by
  obtain ⟨hsuccess, hmessage, htimestamp, hgeohash⟩ := Peer.get?_mutation m
  obtain ⟨hlat, hlng⟩ := get?_mutation_point hlocation
  obtain ⟨⟨hflat, hflng⟩, -⟩ := Geo.Point.isValid_iff.mp hp
  have hanswer : (LocationResponse.ofMutation m request).geohash = geohash := by
    rw [LocationResponse.ofMutation, hhash, Option.getD_some]
  rw [hlocation, hhash] at hgeohash
  exact {
    driverId := says_text (get?_mutation_driverId m)
    latitude := says_number hlat hflat
    longitude := says_number hlng hflng
    timestamp := says_whole htimestamp
    geohash := hanswer ▸ says_text hgeohash
    success := says_flag hsuccess
    message := says_text hmessage }

theorem sameStatus {s : Driver.Status} (hstatus : m.status = some s) :
    SameStatus m.document (.ofMutation m s) := by
  obtain ⟨hsuccess, hmessage, htimestamp, -⟩ := Peer.get?_mutation m
  exact {
    driverId := says_text (get?_mutation_driverId m)
    status := says_text (get?_mutation_status hstatus)
    timestamp := says_whole htimestamp
    success := says_flag hsuccess
    message := says_text hmessage }

end

section

variable {σ : Type} (api : Rest.Api σ) (now : Int64) (s : State σ) {segment : List UInt8}

theorem driverStatus_agree {request : LookupRequest} (hid : Route.decodeId? segment = some request.driverId) :
    Agree (fun d a => ∃ l : Lookup, d = l.document ∧ a = .ofLookup l) (api.driverStatus segment s).1
        (Rpc.driverStatus api.desk request s).1 ∧
      (api.driverStatus segment s).2 = (Rpc.driverStatus api.desk request s).2 := by
  simp only [Api.driverStatus, hid, Rpc.driverStatus]
  cases api.desk.driverStatus request.driverId s with
  | mk result after =>
    cases result with
    | error reason => exact ⟨.refused reason.message, rfl⟩
    | ok l => exact ⟨.answered ⟨l, rfl, rfl⟩, rfl⟩

theorem updateLocation_agree {r : Rest.Request} {request : LocationRequest}
    (hid : Route.decodeId? segment = some request.driverId)
    (hbody : r.read Rest.readLocation = .ok ⟨request.latitude, request.longitude⟩) :
    Agree SameLocation (api.updateLocation now segment r s).1 (Rpc.updateLocation api.desk now request s).1 ∧
      (api.updateLocation now segment r s).2 = (Rpc.updateLocation api.desk now request s).2 := by
  simp only [Api.updateLocation, hid, hbody, Rpc.updateLocation]
  cases hresult : api.desk.updateLocation now request.driverId ⟨request.latitude, request.longitude⟩ s with
  | mk result after =>
    cases result with
    | error reason => exact ⟨.refused reason.message, rfl⟩
    | ok m =>
      obtain ⟨hp, hlocation, hhash⟩ := updateLocation_eq_ok (congrArg Prod.fst hresult)
      exact ⟨.answered (sameLocation hlocation hhash hp), rfl⟩

theorem updateStatus_agree {r : Rest.Request} {request : StatusRequest}
    (hid : Route.decodeId? segment = some request.driverId)
    (hbody : r.read Rest.readStatus = .ok request.status) :
    Agree SameStatus (api.updateStatus now segment r s).1 (Rpc.updateStatus api.desk now request s).1 ∧
      (api.updateStatus now segment r s).2 = (Rpc.updateStatus api.desk now request s).2 := by
  simp only [Api.updateStatus, hid, hbody, Rpc.updateStatus]
  cases Driver.Status.parse? request.status with
  | none => exact ⟨.refused (Rejection.status request.status).message, rfl⟩
  | some status =>
    dsimp only
    cases hresult : api.desk.updateStatus now request.driverId status s with
    | mk result after =>
      cases result with
      | error reason => exact ⟨.refused reason.message, rfl⟩
      | ok m => exact ⟨.answered (sameStatus (updateStatus_eq_ok (congrArg Prod.fst hresult))), rfl⟩

end

/-- A lookup or an update on the web and the remote call for it tell the same, but for a number of trips that
is below 32 bits. -/
theorem lookups_and_updates_agree {σ : Type} (api : Api σ) :
    (∀ (l : Lookup) (r : Record), l.driver = some r → r.InDomain →
      SameLookup l.document (.ofLookup l) ∧ Says l.document Field.totalTrips.name r.trips ∧
        ((LookupResponse.ofLookup l).totalTrips = Int32.ofIntClamp r.trips.toInt ↔
          Int32.minValue.toInt ≤ r.trips.toInt)) ∧
    (∀ (k l : Lookup) (q r : Record), k.driver = some q → l.driver = some r → q.trips ≤ r.trips →
      ((LookupResponse.ofLookup k).totalTrips ≤ (LookupResponse.ofLookup l).totalTrips ↔
        Int32.minValue.toInt ≤ q.trips.toInt ∨ r.trips.toInt < Int32.minValue.toInt ∨
          Int32.maxValue.toInt ≤ r.trips.toInt)) ∧
    (∀ l : Lookup, l.driver = none →
      LookupResponse.ofLookup l = { driverId := l.driverId, success := l.success, message := l.message } ∧
        l.document.names = [Field.driverId.name, "message", "success"] ∧
        Says l.document Field.driverId.name l.driverId ∧ Says l.document "success" l.success ∧
        Says l.document "message" l.message) ∧
    ∀ now (s : State σ) segment,
      (∀ request : LookupRequest, Route.decodeId? segment = some request.driverId →
        Agree (fun d a => ∃ l : Lookup, d = l.document ∧ a = .ofLookup l) (api.driverStatus segment s).1
            (Rpc.driverStatus api.desk request s).1 ∧
          (api.driverStatus segment s).2 = (Rpc.driverStatus api.desk request s).2) ∧
      (∀ r (request : LocationRequest), Route.decodeId? segment = some request.driverId →
        r.read Rest.readLocation = .ok ⟨request.latitude, request.longitude⟩ →
        Agree SameLocation (api.updateLocation now segment r s).1
            (Rpc.updateLocation api.desk now request s).1 ∧
          (api.updateLocation now segment r s).2 = (Rpc.updateLocation api.desk now request s).2) ∧
      ∀ r (request : StatusRequest), Route.decodeId? segment = some request.driverId →
        r.read Rest.readStatus = .ok request.status →
        Agree SameStatus (api.updateStatus now segment r s).1 (Rpc.updateStatus api.desk now request s).1 ∧
          (api.updateStatus now segment r s).2 = (Rpc.updateStatus api.desk now request s).2 := by
  refine ⟨?known, ?order, ?unknown, fun now s segment => ⟨fun request => driverStatus_agree api s,
    fun r request => updateLocation_agree api now s, fun r request => updateStatus_agree api now s⟩⟩
  case known =>
    intro l r hr h
    refine ⟨sameLookup hr h, says_whole (Peer.get?_lookup hr (f := .totalTrips) (by decide)), ?_⟩
    rw [ofLookup_of_some hr]
    exact shortCount_eq_ofIntClamp_iff
  case order =>
    intro k l q r hq hr hle
    rw [ofLookup_of_some hq, ofLookup_of_some hr]
    exact shortCount_le_iff hle
  case unknown =>
    intro l hl
    refine ⟨?_, ?_, says_outcome l⟩
    · simp only [LookupResponse.ofLookup, hl]
    · simp only [Lookup.document, hl, Option.elim_none]
      exact names_outcome l.driverId l.success l.message

/-- A driver with more trips than 32 bits have, one with fewer than none, and requests that write an
identifier with a percent sign. -/
theorem lookups_and_updates_agree_of_three :
    (LookupResponse.ofLookup ⟨"a", some { id := "a", trips := 5000000000 }, true, "found"⟩).totalTrips =
        Int32.ofIntClamp (5000000000 : Int64).toInt ∧
      (LookupResponse.ofLookup ⟨"b", some { id := "b", trips := -1 }, true, "found"⟩).totalTrips ≤
        (LookupResponse.ofLookup ⟨"a", some { id := "a", trips := 5000000000 }, true, "found"⟩).totalTrips ∧
      (Lookup.document ⟨"c", none, false, "lost"⟩).names = ["driverId", "message", "success"] ∧
      (Api.driverStatus ⟨⟨RowStore.backend, 100, 10⟩, 5⟩ (Route.word "a%62") ⟨.empty, {}⟩).2 =
        (Rpc.driverStatus ⟨RowStore.backend, 100, 10⟩ ⟨"ab"⟩ ⟨.empty, {}⟩).2 ∧
      Agree SameLocation
        (Api.updateLocation ⟨⟨RowStore.backend, 100, 10⟩, 5⟩ 7 (Route.word "a%62")
          ⟨"PUT", [], some "application/json", Route.word "[1,-2.5]"⟩ ⟨.empty, {}⟩).1
        (Rpc.updateLocation ⟨RowStore.backend, 100, 10⟩ 7 ⟨"ab", 1, -2.5⟩ ⟨.empty, {}⟩).1 ∧
      Agree SameStatus
        (Api.updateStatus ⟨⟨RowStore.backend, 100, 10⟩, 5⟩ 7 (Route.word "a%62")
          ⟨"PUT", [], some "application/json", Route.word "[\"busy\"]"⟩ ⟨.empty, {}⟩).1
        (Rpc.updateStatus ⟨RowStore.backend, 100, 10⟩ 7 ⟨"ab", "busy"⟩ ⟨.empty, {}⟩).1 := by
  obtain ⟨hknown, horder, hunknown, hrequests⟩ :=
    lookups_and_updates_agree ⟨⟨RowStore.backend, 100, 10⟩, 5⟩
  obtain ⟨hlookup, hlocation, hstatus⟩ := hrequests 7 ⟨.empty, {}⟩ (Route.word "a%62")
  obtain ⟨-, -, hcount⟩ := hknown ⟨"a", some { id := "a", trips := 5000000000 }, true, "found"⟩
    { id := "a", trips := 5000000000 } rfl (by decide)
  have hle := horder ⟨"b", some { id := "b", trips := -1 }, true, "found"⟩
    ⟨"a", some { id := "a", trips := 5000000000 }, true, "found"⟩ { id := "b", trips := -1 }
    { id := "a", trips := 5000000000 } rfl rfl (by decide)
  refine ⟨hcount.mpr (by decide), hle.mpr (by decide),
    (hunknown ⟨"c", none, false, "lost"⟩ rfl).2.1, (hlookup ⟨"ab"⟩ ?_).2, (hlocation _ ⟨"ab", 1, -2.5⟩ ?_ ?_).1,
    (hstatus _ ⟨"ab", "busy"⟩ ?_ ?_).1⟩
  all_goals decide +kernel

/-- Of a driver whose number of trips is below 32 bits the message has the greatest number, and not the
least, which is nearest. -/
theorem totalTrips_of_few :
    ∃ db, Database.empty.insert { id := "t", trips := -3000000000 } = .ok db ∧
      (Api.driverStatus ⟨⟨RowStore.backend, 100, 10⟩, 5⟩ (Route.word "t") ⟨db, {}⟩).1 = .json .ok
        (Lookup.document ⟨"t", some { id := "t", trips := -3000000000 }, true, "driver status retrieved"⟩) ∧
      (Lookup.document ⟨"t", some { id := "t", trips := -3000000000 }, true, "driver status retrieved"⟩).field
        Field.totalTrips.name (0 : Int64) = -3000000000 ∧
      (Rpc.driverStatus ⟨RowStore.backend, 100, 10⟩ ⟨"t"⟩ ⟨db, {}⟩).1 = .ok {
        driverId := "t", status := "OFFLINE", totalTrips := 2147483647, success := true
        message := "driver status retrieved" } ∧
      Int32.ofIntClamp (-3000000000) = -2147483648 :=
  ⟨_, rfl, rfl, rfl, rfl, rfl⟩

end FleetLocator.Interface
