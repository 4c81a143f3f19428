import FleetLocator.Peer.Backend
import FleetLocator.Proofs.Interface.Lookup
import FleetLocator.Proofs.Peer.RoundTrip
import FleetLocator.Proofs.Search.Order
import FleetLocator.Proofs.Service.Operations
import FleetLocator.RowStore.Database

/-!
# One search, asked in two ways

A search on the web and the remote call for it find the same drivers if the candidates of the backend were
read from documents. Every driver that is found has a place, there are no more of them than 32 bits can
count, and no distance is zero.
-/
namespace FleetLocator.Interface

open Driver (Field Record)
open Json (Document FieldValue)
open Peer (Endpoint Findings Network)
open Rest (Api Request Route)
open Rpc (DriverInfo NearbyRequest NearbyResponse)
open RowStore (Database)
open Search (Match Query Result)
open Service (Backend Desk IsValidQuery Reply State nearbyDocument reportedDistance searchDocument)

/-- Every candidate of a backend was read from some document. -/
def FromDocuments {σ : Type} (b : Backend σ) : Prop :=
  ∀ q s found, (b.candidates q s).1 = .done found → ∀ r ∈ found, ∃ d, r = Record.decode d

theorem eq_ok_of_ofExcept {α : Type} {result : Except Service.Fault α} {a : α}
    (h : Reply.ofExcept result = .done a) : result = .ok a := by
  cases result with
  | error fault => cases h
  | ok b =>
    cases h
    rfl

theorem fromDocuments_rowStore : FromDocuments RowStore.backend := by
  intro q db found h r hr
  have hfound : db.candidates = .ok found := eq_ok_of_ofExcept h
  obtain ⟨rows⟩ := db
  cases rows with
  | none => cases hfound
  | some rows =>
    obtain rfl := Except.ok.inj hfound
    obtain ⟨row, -, rfl⟩ := List.mem_map.mp hr
    exact ⟨row.document, rfl⟩

theorem ask_eq_done {σ α : Type} {network : Network σ} {r : Peer.Request}
    {read : Peer.Answer → Except Service.Fault α} {s : σ} {a : α} (h : (Peer.ask network r read s).1 = .done a) :
    ∃ answer, read answer = .ok a := by
  unfold Peer.ask at h
  rcases hsend : Peer.send network r s with ⟨outage | answer, after⟩
  · rw [hsend] at h
    cases h
  · rw [hsend] at h
    exact ⟨answer, eq_ok_of_ofExcept h⟩

theorem readFindings_eq_ok {answer : Peer.Answer} {found : List Record}
    (h : Peer.readFindings answer = .ok found) : ∃ d, found = (Findings.decode d).drivers := by
  unfold Peer.readFindings at h
  cases hd : answer.document with
  | error fault =>
    rw [hd] at h
    cases h
  | ok d =>
    rw [hd] at h
    refine ⟨d, ?_⟩
    change (if (Findings.decode d).success = true then _ else _) = _ at h
    split at h
    · cases h
      rfl
    · cases h

theorem fromDocuments_peer {σ : Type} (endpoint : Endpoint) (network : Network σ) :
    FromDocuments (Peer.backend endpoint network) := by
  intro q s found h r hr
  obtain ⟨answer, hanswer⟩ := ask_eq_done h
  obtain ⟨d, rfl⟩ := readFindings_eq_ok hanswer
  obtain ⟨document, -, rfl⟩ := List.mem_map.mp hr
  exact ⟨document, rfl⟩

/-- A driver of a result is at a place within the radius, and legal. -/
structure Placed (result : Result) (m : Match) (p : Geo.Point) : Prop where
  location : m.driver.location = some p
  distance : m.distance = result.origin.distance p
  within : m.distance ≤ result.radius
  inDomain : m.driver.InDomain

section

variable {σ : Type} {desk : Desk σ} {q : Query} {s : State σ} {result : Result}

theorem isValidQuery_of_ok (h : (desk.findNearby q s).1 = .ok result) : IsValidQuery q := by
  by_contra hq
  obtain ⟨reason, hreason⟩ : ∃ reason, Service.checkQuery desk.maxLimit q = .error reason :=
    Service.checkQuery_of_not_isValid hq
  rw [Desk.findNearby, hreason] at h
  cases h

/-- A search that is answered tells where it was made, and finds no more drivers than it may, each at a
place. -/
theorem findNearby_eq_ok (hsource : FromDocuments desk.backend) (h : (desk.findNearby q s).1 = .ok result) :
    result.origin = q.origin ∧ result.radius = q.radius ∧ result.drivers.length ≤ q.limit.toNat ∧
      ∀ m ∈ result.drivers, ∃ p, Placed result m p := by
  have hq := isValidQuery_of_ok h
  by_cases hdone : ∃ found, (desk.backend.candidates { q with limit := min q.limit desk.maxLimit } s.store).1 =
      .done found
  · obtain ⟨found, hfound⟩ := hdone
    rw [Service.findNearby_of_done hq hfound] at h
    obtain rfl := Except.ok.inj h
    refine ⟨rfl, rfl, ?_, ?_⟩
    · have hlimit : min q.limit desk.maxLimit ≤ q.limit := Std.min_le_left
      exact (List.length_take_le _ _).trans (UInt32.le_iff_toNat_le.mp hlimit)
    · intro m hm
      obtain ⟨hmem, p, hp, -, hdistance, hle⟩ := Query.mem_ranking_iff.mp (List.mem_of_mem_take hm)
      obtain ⟨d, hd⟩ := hsource _ _ found hfound m.driver hmem
      exact ⟨p, hp, hdistance, hle, hd ▸ Record.inDomain_decode d⟩
  · obtain ⟨reason, hreason⟩ := Service.findNearby_of_ne_done hq fun found hfound => hdone ⟨found, hfound⟩
    rw [hreason] at h
    obtain rfl := Except.ok.inj h
    exact ⟨rfl, rfl, Nat.zero_le _, fun m hm => absurd hm List.not_mem_nil⟩

end

/-- A document and a message tell the same of a driver that was found. The distance is not null in the document
if the platform has a proper arc sine. A geohash that is absent is null there, and empty in the message. -/
structure SameDriver (d : Document) (i : DriverInfo) : Prop where
  driverId : Says d Field.driverId.name i.driverId
  userId : Says d Field.userId.name i.userId
  latitude : Says d Field.latitude.name i.latitude
  longitude : Says d Field.longitude.name i.longitude
  distance : d.get? "distance" = some (FieldValue.toValue i.distance)
  nonzero : (i.distance == 0) = false
  number : Geo.Point.ArcsineKeepsSign → Says d "distance" i.distance
  status : Says d Field.status.name i.status
  plate : Says d Field.vehiclePlate.name i.vehiclePlate
  model : Says d Field.vehicleModel.name i.vehicleModel
  rating : Says d Field.rating.name i.rating
  timestamp : Says d Field.timestamp.name i.timestamp
  geohash : ∃ hash : Option String, SaysIfAny d Field.geohash.name hash ∧ i.geohash = hash.getD ""

theorem reportedDistance_ne_zero (x : Float) : (reportedDistance x == 0) = false := by
  unfold reportedDistance
  split
  · decide
  · next h => exact Bool.not_eq_true _ ▸ h

theorem isFinite_reportedDistance {x : Float} (h : x.isFinite = true) : (reportedDistance x).isFinite = true := by
  unfold reportedDistance
  split
  · decide
  · exact h

theorem get?_distance (m : Match) :
    (nearbyDocument m).get? "distance" = some (FieldValue.toValue (reportedDistance m.distance)) :=
  Document.get?_insert_self _ _ _

theorem sameDriver {result : Result} {m : Match} {p : Geo.Point} (h : Placed result m p)
    (hradius : result.radius.isFinite = true) : SameDriver (nearbyDocument m) (.ofMatch m) := by
  obtain ⟨hlocation, hdistance, hwithin, hdomain⟩ := h
  obtain ⟨⟨hflat, hflng⟩, -⟩ := Geo.Point.isValid_iff.mp (hdomain.1 p hlocation)
  have hinfo : DriverInfo.ofMatch m = ⟨m.driver.id, m.driver.userId, p.lat, p.lng, reportedDistance m.distance,
      m.driver.status.label, m.driver.plate, m.driver.model, m.driver.rating, m.driver.updatedAt,
      m.driver.geohash.getD ""⟩ := by
    simp only [DriverInfo.ofMatch, hlocation, Option.getD_some]
  have hlat : (nearbyDocument m).get? Field.latitude.name =
      some ((m.driver.location.map Geo.Point.lat).elim .null FieldValue.toValue) :=
    Peer.get?_nearbyDocument m .latitude
  have hlng : (nearbyDocument m).get? Field.longitude.name =
      some ((m.driver.location.map Geo.Point.lng).elim .null FieldValue.toValue) :=
    Peer.get?_nearbyDocument m .longitude
  rw [hlocation] at hlat hlng
  have hfinite (hsign : Geo.Point.ArcsineKeepsSign) : m.distance.isFinite = true := by
    rw [hdistance] at hwithin ⊢
    exact Geo.Point.isFinite_distance hsign hwithin hradius
  rw [hinfo]
  exact {
    driverId := says_text (Peer.get?_nearbyDocument m .driverId)
    userId := says_text (Peer.get?_nearbyDocument m .userId)
    latitude := says_number hlat hflat
    longitude := says_number hlng hflng
    distance := get?_distance m
    nonzero := reportedDistance_ne_zero m.distance
    number := fun hsign => says_number (get?_distance m) (isFinite_reportedDistance (hfinite hsign))
    status := says_text (Peer.get?_nearbyDocument m .status)
    plate := says_text (Peer.get?_nearbyDocument m .vehiclePlate)
    model := says_text (Peer.get?_nearbyDocument m .vehicleModel)
    rating := says_number (Peer.get?_nearbyDocument m .rating) (Driver.isFinite_of_isRating hdomain.2)
    timestamp := says_whole (Peer.get?_nearbyDocument m .timestamp)
    geohash := ⟨m.driver.geohash, ⟨Peer.get?_nearbyDocument m .geohash, fun s _ => Json.faithful_string s⟩,
      rfl⟩ }

/-- A document and a message tell the same of a search. Both come from one result whose drivers are all at
places, so the place that stands in for an absent one is in no message. -/
structure SameSearch (d : Document) (a : NearbyResponse) : Prop where
  success : Says d "success" a.success
  message : Says d "message" a.message
  radius : Says d "searchRadius" a.searchRadius
  location : ∃ place : Document, Says d "searchLocation" place ∧
    Says place Field.latitude.name a.searchLocation.latitude ∧
    Says place Field.longitude.name a.searchLocation.longitude
  count : Says d "count" a.count.toInt64 ∧ a.count.toInt = a.drivers.length
  drivers : ∃ entries : List Document, Says d "drivers" entries ∧ List.Forall₂ SameDriver entries a.drivers
  placed : ∃ result : Result, d = searchDocument result ∧ a = .ofResult result ∧
    ∀ m ∈ result.drivers, m.driver.location ≠ none

theorem says_pointDocument {p : Geo.Point} (h : p.isValid = true) :
    Says (Service.pointDocument p) Field.latitude.name p.lat ∧
      Says (Service.pointDocument p) Field.longitude.name p.lng := by
  obtain ⟨⟨hlat, hlng⟩, -⟩ := Geo.Point.isValid_iff.mp h
  have hname : Field.latitude.name ≠ Field.longitude.name := by decide
  exact ⟨says_number (by simp [Service.pointDocument, Document.put, hname]) hlat,
    says_number (by simp [Service.pointDocument, Document.put]) hlng⟩

/-- A number of drivers that 32 bits can count is the same in 32 bits and in 64. -/
theorem toInt64_count {n : ℕ} (h : n ≤ Int32.maxValue.toInt.toNat) :
    (Int32.ofNat n).toInt = n ∧ Int64.ofNat n = (Int32.ofNat n).toInt64 := by
  have hmax : Int32.maxValue.toInt.toNat = 2 ^ 31 - 1 := by decide
  have hshort : (Int32.ofNat n).toInt = n := Int32.toInt_ofNat_of_lt (by omega)
  have hlong : (Int64.ofNat n).toInt = n := Int64.toInt_ofNat_of_lt (by omega)
  refine ⟨hshort, ?_⟩
  rw [← Int64.toInt_inj, Int32.toInt_toInt64, hshort, hlong]

theorem sameSearch {result : Result} (hplaced : ∀ m ∈ result.drivers, ∃ p, Placed result m p)
    (hradius : result.radius.isFinite = true) (horigin : result.origin.isValid = true)
    (hlength : result.drivers.length ≤ Int32.maxValue.toInt.toNat) :
    SameSearch (searchDocument result) (.ofResult result) := by
  obtain ⟨hshort, hlong⟩ := toInt64_count hlength
  have hdrivers : List.Forall₂ SameDriver (result.drivers.map nearbyDocument)
      (result.drivers.map DriverInfo.ofMatch) := by
    rw [List.forall₂_map_left_iff, List.forall₂_map_right_iff, List.forall₂_same]
    intro m hm
    obtain ⟨p, hp⟩ := hplaced m hm
    exact sameDriver hp hradius
  constructor
  case success => exact says_flag (by simp [searchDocument, Document.put, NearbyResponse.ofResult])
  case message => exact says_text (by simp [searchDocument, Document.put, NearbyResponse.ofResult])
  case radius => exact says_number (by simp [searchDocument, Document.put, NearbyResponse.ofResult]) hradius
  case location =>
    refine ⟨Service.pointDocument result.origin, ⟨?_, Json.faithful_document _⟩, says_pointDocument horigin⟩
    simp [searchDocument, Document.put]
  case count =>
    refine ⟨says_whole ?_, ?_⟩
    · simp [searchDocument, Document.put, NearbyResponse.ofResult, hlong]
    · simp [NearbyResponse.ofResult, hshort]
  case drivers =>
    refine ⟨result.drivers.map nearbyDocument, ⟨?_, Json.faithful_documents _⟩, hdrivers⟩
    simp [searchDocument, Document.put]
  case placed =>
    refine ⟨result, rfl, rfl, fun m hm => ?_⟩
    obtain ⟨p, hp⟩ := hplaced m hm
    simp [hp.location]

/-- A request on the web asks for the search of a remote call, in whatever spelling. -/
structure Asks (defaultLimit : UInt32) (r : Request) (request : NearbyRequest) : Prop where
  method : r.method = "GET"
  route : Route.ofPath? (Rest.splitTarget r.target).1 = some .nearby
  query : ∃ limit : UInt32, (limit.toNat : ℤ) = request.limit.toInt ∧
    Rest.readQuery defaultLimit (Rest.splitTarget r.target).2 =
      .ok ⟨⟨request.latitude, request.longitude⟩, request.radius, limit⟩

theorem handle_nearby {σ : Type} (api : Api σ) (now : Int64) (s : State σ) {r : Request}
    (hmethod : r.method = "GET") (hroute : Route.ofPath? (Rest.splitTarget r.target).1 = some .nearby) :
    api.handle now r s = api.findNearby (Rest.splitTarget r.target).2 s := by
  have hoptions : r.method ≠ "OPTIONS" := by simp [hmethod]
  have hhead : r.method ≠ "HEAD" := by simp [hmethod]
  have hget : (Route.methods .nearby).contains r.method = true := by rw [hmethod]; decide
  simp only [Api.handle, hroute, if_neg hoptions, if_pos hget, if_neg hhead]
  rfl

/-- A positive limit is the same without its sign. -/
theorem toUInt32_eq {limit : UInt32} {n : Int32} (hpos : 0 < n) (h : (limit.toNat : ℤ) = n.toInt) :
    n.toUInt32 = limit := by
  have hn : 0 ≤ n := Int32.le_of_lt hpos
  rw [← UInt32.toNat_inj, Int32.toNat_toUInt32_of_le hn]
  have hcast := Int32.cast_toNatClampNeg n hn
  omega

theorem findNearby_agree {σ : Type} (api : Api σ) (hsource : FromDocuments api.desk.backend) (now : Int64)
    (s : State σ) {r : Request} {request : NearbyRequest} (hpos : 0 < request.limit)
    (hasks : Asks api.defaultLimit r request) :
    Agree SameSearch (api.handle now r s).1 (Rpc.findNearby api.desk request s).1 ∧
      (api.handle now r s).2 = (Rpc.findNearby api.desk request s).2 := by
  obtain ⟨hmethod, hroute, limit, hlimit, hquery⟩ := hasks
  have hshort : Rpc.limitOf request.limit = .ok limit := by
    rw [Rpc.limitOf, if_pos hpos, toUInt32_eq hpos hlimit]
  simp only [handle_nearby api now s hmethod hroute, Api.findNearby, hquery, Rpc.findNearby, hshort]
  rcases hresult : api.desk.findNearby ⟨⟨request.latitude, request.longitude⟩, request.radius, limit⟩ s with
    ⟨reason | result, after⟩
  · exact ⟨.refused reason.message, rfl⟩
  · have hok := congrArg Prod.fst hresult
    obtain ⟨horigin, hradius, hlength, hplaced⟩ := findNearby_eq_ok hsource hok
    obtain ⟨hvalid, hfinite, -, -⟩ := isValidQuery_of_ok hok
    have hcount : result.drivers.length ≤ Int32.maxValue.toInt.toNat := by
      have hmax : request.limit.toInt ≤ Int32.maxValue.toInt := Int32.toInt_le request.limit
      dsimp only at hlength
      omega
    exact ⟨.answered (sameSearch hplaced (hradius ▸ hfinite) (horigin ▸ hvalid) hcount), rfl⟩

/-- On a backend whose candidates come from documents, as those of a database and of a peer do, a search on the
web and the remote call for it are refused in the same words, or tell the same. -/
theorem searches_agree :
    FromDocuments RowStore.backend ∧
    (∀ (σ : Type) (endpoint : Endpoint) (network : Network σ), FromDocuments (Peer.backend endpoint network)) ∧
    ∀ (σ : Type) (api : Api σ), FromDocuments api.desk.backend → ∀ (now : Int64) (s : State σ) (r : Request)
      (request : NearbyRequest), 0 < request.limit → Asks api.defaultLimit r request →
        Agree SameSearch (api.handle now r s).1 (Rpc.findNearby api.desk request s).1 ∧
          (api.handle now r s).2 = (Rpc.findNearby api.desk request s).2 :=
  ⟨fromDocuments_rowStore, fun _ => fromDocuments_peer,
    fun _ api hsource now s _ _ => findNearby_agree api hsource now s⟩

/-- A search of a database with a driver at the origin. The parameters are in another order, and one of them
has an exponent. -/
theorem searches_agree_of_one :
    (0 : Int32) < 3 ∧
      Asks 5 ⟨"GET", Route.word "/drivers/nearby?limit=3&longitude=2&radiusKm=5e0&latitude=%31", none, []⟩
        ⟨1, 2, 5, 3⟩ ∧
      Agree SameSearch
        (Api.handle ⟨⟨RowStore.backend, 100, 10⟩, 5⟩ 7
          ⟨"GET", Route.word "/drivers/nearby?limit=3&longitude=2&radiusKm=5e0&latitude=%31", none, []⟩
          ⟨⟨some [.ofRecord { id := "a", location := some ⟨1, 2⟩, status := .available }]⟩, {}⟩).1
        (Rpc.findNearby ⟨RowStore.backend, 100, 10⟩ ⟨1, 2, 5, 3⟩
          ⟨⟨some [.ofRecord { id := "a", location := some ⟨1, 2⟩, status := .available }]⟩, {}⟩).1 := by
  have hasks : Asks 5
      ⟨"GET", Route.word "/drivers/nearby?limit=3&longitude=2&radiusKm=5e0&latitude=%31", none, []⟩ ⟨1, 2, 5, 3⟩ :=
    ⟨rfl, by decide +kernel, 3, by decide, by decide +kernel⟩
  obtain ⟨-, -, hagree⟩ := searches_agree
  exact ⟨by decide, hasks, (hagree Database ⟨⟨RowStore.backend, 100, 10⟩, 5⟩ fromDocuments_rowStore 7 _ _ _
    (by decide) hasks).1⟩

end FleetLocator.Interface
