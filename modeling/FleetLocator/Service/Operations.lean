import FleetLocator.Driver.Record
import FleetLocator.Geo.Point
import FleetLocator.Search.Ranking
import FleetLocator.Service.Backend
import FleetLocator.Service.Metrics
import FleetLocator.Text.Spelling

/-! # The operations, and what they return as values and as documents -/
namespace FleetLocator.Service

open Json (Document)
open Driver (Field)
open Search (Query Result)

def serviceName : String := "driver-service"

def healthStatus : String := "UP"

def healthMessage : String := "Driver service is running and healthy"

/-- The answer to the question for one driver. -/
structure Lookup where
  driverId : String
  driver : Option Driver.Record
  success : Bool
  message : String
  deriving DecidableEq, Repr

/-- The answer to a change of one driver. -/
structure Mutation where
  driverId : String
  success : Bool
  message : String
  location : Option Geo.Point
  status : Option Driver.Status
  geohash : Option String
  timestamp : Int64
  deriving DecidableEq, Repr

def pointDocument (p : Geo.Point) : Document :=
  (Document.empty.put Field.latitude.name p.lat).put Field.longitude.name p.lng

/-- A distance of zero is reported as a metre, since formats that leave out zeros would lose it. -/
def reportedDistance (distance : Float) : Float := if distance == 0 then 0.001 else distance

def nearbyDocument (m : Search.Match) : Document :=
  (m.driver.encode Field.all).put "distance" (reportedDistance m.distance)

def searchDocument (r : Search.Result) : Document :=
  Document.empty
    |>.put "count" (Int64.ofNat r.drivers.length)
    |>.put "drivers" (r.drivers.map nearbyDocument)
    |>.put "searchRadius" r.radius
    |>.put "searchLocation" (pointDocument r.origin)
    |>.put "success" r.success
    |>.put "message" r.message

def Lookup.document (l : Lookup) : Document :=
  (l.driver.elim .empty fun r => r.encode Field.all)
    |>.put Field.driverId.name l.driverId
    |>.put "success" l.success
    |>.put "message" l.message

def Mutation.document (m : Mutation) : Document :=
  let head := Document.empty
    |>.put Field.driverId.name m.driverId
    |>.put "success" m.success
    |>.put "message" m.message
    |>.put Field.timestamp.name m.timestamp
  let located := m.location.elim head fun p =>
    ((head.put Field.latitude.name p.lat).put Field.longitude.name p.lng).putOptional
      Field.geohash.name m.geohash
  m.status.elim located fun s => located.put Field.status.name s.label

structure State (σ : Type) where
  store : σ
  metrics : Metrics := {}

/-- A backend with the milliseconds it is given to answer, and the most drivers a search returns. -/
structure Desk (σ : Type) where
  backend : Backend σ
  timeout : Nat
  maxLimit : UInt32

def checkQuery (maxLimit : UInt32) (q : Query) : Except Rejection Query :=
  match q.origin.error? with
  | some e => .error (.location e)
  | none =>
    if !q.radius.isFinite || q.radius ≤ 0 then .error .radius
    else if q.limit = 0 then .error .limit
    else .ok { q with limit := min q.limit maxLimit }

/-- Identifiers carry no blanks at their ends. -/
def checkId (id : String) : Except Rejection String :=
  let trimmed := Text.trim id
  if trimmed.isEmpty then .error .driverId else .ok trimmed

def missingMessage (id : String) : String := "driver " ++ id ++ " not found"

/-- What became of an update of one driver: success only if it concerned exactly that one. -/
def updateMessage (kind : Driver.ChangeKind) (id : String) : Except String Nat → Bool × String
  | .ok 1 => (true, "driver " ++ kind.label ++ " updated")
  | .ok 0 => (false, missingMessage id)
  | .ok affected =>
    (false, "update of driver " ++ id ++ " touched " ++ toString affected ++ " records")
  | .error reason => (false, reason)

namespace Desk

variable {σ : Type} (desk : Desk σ)

/-- A failure of the backend is a result without drivers. -/
def findNearby (q : Query) (s : State σ) : Except Rejection Result × State σ :=
  match checkQuery desk.maxLimit q with
  | .error reason => (.error reason, s)
  | .ok q =>
    let (reply, store) := desk.backend.candidates q s.store
    match reply.outcome desk.timeout with
    | .error reason => (.ok (.failed q reason), ⟨store, s.metrics.searchFailed⟩)
    | .ok candidates =>
      let drivers := q.rank candidates
      (.ok (.found q drivers), ⟨store, s.metrics.searchFound drivers.length⟩)

/-- Carries out a change of the driver with this very identifier. -/
def change (id : String) (u : Driver.Update) (s : State σ) : Bool × String × State σ :=
  let (reply, store) := desk.backend.apply id u s.store
  let (success, message) := updateMessage u.change.kind id (reply.outcome desk.timeout)
  (success, message, ⟨store, s.metrics.updated u.change.kind (.ofBool success)⟩)

def updateLocation (now : Int64) (id : String) (point : Geo.Point) (s : State σ) :
    Except Rejection Mutation × State σ :=
  match checkId id with
  | .error reason => (.error reason, s)
  | .ok id =>
    match point.error? with
    | some e => (.error (.location e), s)
    | none =>
      let geohash := point.geohash Geo.defaultPrecision
      let (success, message, s) := desk.change id ⟨.location point geohash, now⟩ s
      (.ok ⟨id, success, message, some point, none, some geohash, now⟩, s)

def updateStatus (now : Int64) (id : String) (status : Driver.Status) (s : State σ) :
    Except Rejection Mutation × State σ :=
  match checkId id with
  | .error reason => (.error reason, s)
  | .ok id =>
    let (success, message, s) := desk.change id ⟨.status status, now⟩ s
    (.ok ⟨id, success, message, none, some status, none, now⟩, s)

def driverStatus (id : String) (s : State σ) : Except Rejection Lookup × State σ :=
  match checkId id with
  | .error reason => (.error reason, s)
  | .ok id =>
    let (reply, store) := desk.backend.fetch id s.store
    let lookup : Lookup := match reply.outcome desk.timeout with
      | .ok (some driver) => ⟨id, some driver, true, "driver status retrieved"⟩
      | .ok none => ⟨id, none, false, missingMessage id⟩
      | .error reason => ⟨id, none, false, reason⟩
    (.ok lookup, ⟨store, s.metrics⟩)

end Desk

end FleetLocator.Service
