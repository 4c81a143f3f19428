import FleetLocator.Service.Operations
import FleetLocator.Wire.Codec

/-! # Remote calls and their messages -/
namespace FleetLocator.Rpc

open Wire (Field Schema Value)
open Service (Desk Fault Lookup Mutation Rejection State)

structure NearbyRequest where
  latitude : Float := 0
  longitude : Float := 0
  radius : Float := 0
  limit : Int32 := 0
  deriving DecidableEq, Repr

def NearbyRequest.schema : Schema NearbyRequest where
  name := "FindNearbyDriversRequest"
  initial := {}
  fields := [
    .double 1 "latitude" fun x r => { r with latitude := x },
    .double 2 "longitude" fun x r => { r with longitude := x },
    .double 3 "radius_km" fun x r => { r with radius := x },
    .int32 4 "limit" fun n r => { r with limit := n }]

structure LookupRequest where
  driverId : String := ""
  deriving DecidableEq, Repr

def LookupRequest.schema : Schema LookupRequest where
  name := "GetDriverStatusRequest"
  initial := {}
  fields := [.text 1 "driver_id" fun s r => { r with driverId := s }]

structure LocationRequest where
  driverId : String := ""
  latitude : Float := 0
  longitude : Float := 0
  deriving DecidableEq, Repr

def LocationRequest.schema : Schema LocationRequest where
  name := "UpdateDriverLocationRequest"
  initial := {}
  fields := [
    .text 1 "driver_id" fun s r => { r with driverId := s },
    .double 2 "latitude" fun x r => { r with latitude := x },
    .double 3 "longitude" fun x r => { r with longitude := x }]

structure StatusRequest where
  driverId : String := ""
  status : String := ""
  deriving DecidableEq, Repr

def StatusRequest.schema : Schema StatusRequest where
  name := "UpdateDriverStatusRequest"
  initial := {}
  fields := [
    .text 1 "driver_id" fun s r => { r with driverId := s },
    .text 2 "status" fun s r => { r with status := s }]

/-- A request that says nothing. -/
structure HealthRequest where
  deriving DecidableEq, Repr

def HealthRequest.schema : Schema HealthRequest := ⟨"HealthCheckRequest", {}, []⟩

structure Location where
  latitude : Float
  longitude : Float
  deriving DecidableEq, Repr

def Location.wire (l : Location) : Value := .message [(1, .double l.latitude), (2, .double l.longitude)]

structure DriverInfo where
  driverId : String
  userId : String
  latitude : Float
  longitude : Float
  distance : Float
  status : String
  vehiclePlate : String
  vehicleModel : String
  rating : Float
  timestamp : Int64
  geohash : String
  deriving DecidableEq, Repr

def DriverInfo.wire (d : DriverInfo) : Value := .message [
  (1, .text d.driverId), (2, .text d.userId), (3, .double d.latitude), (4, .double d.longitude),
  (5, .double d.distance), (6, .text d.status), (7, .text d.vehiclePlate), (8, .text d.vehicleModel),
  (9, .double d.rating), (10, .integer d.timestamp), (11, .text d.geohash)]

structure NearbyResponse where
  drivers : List DriverInfo
  count : Int32
  searchRadius : Float
  searchLocation : Location
  success : Bool
  message : String
  deriving DecidableEq, Repr

def NearbyResponse.encode (r : NearbyResponse) : List UInt8 := Wire.encodeFields <|
  r.drivers.map (fun d => (1, d.wire)) ++ [
    (2, .integer r.count.toInt64), (3, .double r.searchRadius), (4, r.searchLocation.wire),
    (5, .flag r.success), (6, .text r.message)]

structure LookupResponse where
  driverId : String
  userId : String := ""
  status : String := ""
  vehicleModel : String := ""
  vehiclePlate : String := ""
  rating : Float := 0
  totalTrips : Int32 := 0
  location : Option Location := none
  timestamp : Int64 := 0
  success : Bool
  message : String
  licenseNumber : String := ""
  deriving DecidableEq, Repr

def LookupResponse.encode (r : LookupResponse) : List UInt8 := Wire.encodeFields <| [
    (1, .text r.driverId), (2, .text r.userId), (3, .text r.status), (4, .text r.vehicleModel),
    (5, .text r.vehiclePlate), (6, .double r.rating), (7, .integer r.totalTrips.toInt64)] ++
  (r.location.map fun l => (8, l.wire)).toList ++ [
    (9, .integer r.timestamp), (10, .flag r.success), (11, .text r.message), (12, .text r.licenseNumber)]

structure LocationResponse where
  driverId : String
  latitude : Float
  longitude : Float
  timestamp : Int64
  geohash : String
  success : Bool
  message : String
  deriving DecidableEq, Repr

def LocationResponse.encode (r : LocationResponse) : List UInt8 := Wire.encodeFields [
  (1, .text r.driverId), (2, .double r.latitude), (3, .double r.longitude), (4, .integer r.timestamp),
  (5, .text r.geohash), (6, .flag r.success), (7, .text r.message)]

structure StatusResponse where
  driverId : String
  status : String
  timestamp : Int64
  success : Bool
  message : String
  deriving DecidableEq, Repr

def StatusResponse.encode (r : StatusResponse) : List UInt8 := Wire.encodeFields [
  (1, .text r.driverId), (2, .text r.status), (3, .integer r.timestamp), (4, .flag r.success),
  (5, .text r.message)]

structure HealthResponse where
  service : String
  status : String
  timestamp : Int64
  message : String
  deriving DecidableEq, Repr

def HealthResponse.encode (r : HealthResponse) : List UInt8 := Wire.encodeFields [
  (1, .text r.service), (2, .text r.status), (3, .integer r.timestamp), (4, .text r.message)]

inductive Code
  | invalidArgument
  | unavailable
  | internal
  deriving DecidableEq, Repr

def Code.name : Code → String
  | invalidArgument => "InvalidArgument"
  | unavailable => "Unavailable"
  | internal => "Internal"

def codeOf : Fault → Code
  | .rejected _ => .invalidArgument
  | .unavailable _ | .malformed _ => .unavailable
  | .internal _ => .internal

/-- The answer to a call that fails. -/
structure Failure where
  code : Code
  message : String
  deriving DecidableEq, Repr

def Failure.ofFault (f : Fault) : Failure := ⟨codeOf f, f.detail⟩

def Failure.ofRejection (r : Rejection) : Failure := .ofFault (.rejected r)

def Location.ofPoint (p : Geo.Point) : Location := ⟨p.lat, p.lng⟩

def DriverInfo.ofMatch (m : Search.Match) : DriverInfo :=
  let location := m.driver.location.getD ⟨0, 0⟩
  ⟨m.driver.id, m.driver.userId, location.lat, location.lng, Service.reportedDistance m.distance,
    m.driver.status.label, m.driver.plate, m.driver.model, m.driver.rating, m.driver.updatedAt,
    m.driver.geohash.getD ""⟩

def NearbyResponse.ofResult (r : Search.Result) : NearbyResponse :=
  ⟨r.drivers.map DriverInfo.ofMatch, Int32.ofNat r.drivers.length, r.radius, .ofPoint r.origin, r.success,
    r.message⟩

/-- A count of trips in 32 bits; one that does not fit becomes the greatest. -/
def shortCount (trips : Int64) : Int32 :=
  let n := trips.toInt
  if Int32.minValue.toInt ≤ n ∧ n ≤ Int32.maxValue.toInt then Int32.ofInt n else Int32.maxValue

def LookupResponse.ofLookup (l : Lookup) : LookupResponse :=
  match l.driver with
  | none => { driverId := l.driverId, success := l.success, message := l.message }
  | some d => {
      driverId := l.driverId
      userId := d.userId
      status := d.status.label
      vehicleModel := d.model
      vehiclePlate := d.plate
      rating := d.rating
      totalTrips := shortCount d.trips
      location := d.location.map Location.ofPoint
      timestamp := d.updatedAt
      success := l.success
      message := l.message
      licenseNumber := d.license }

def LocationResponse.ofMutation (m : Mutation) (request : LocationRequest) : LocationResponse :=
  ⟨m.driverId, request.latitude, request.longitude, m.timestamp, m.geohash.getD "", m.success, m.message⟩

def StatusResponse.ofMutation (m : Mutation) (status : Driver.Status) : StatusResponse :=
  ⟨m.driverId, status.label, m.timestamp, m.success, m.message⟩

def limitOf (n : Int32) : Except Rejection UInt32 :=
  if 0 < n then .ok n.toUInt32 else .error .limit

def health (now : Int64) : HealthResponse :=
  ⟨Service.serviceName, Service.healthStatus, now, Service.healthMessage⟩

variable {σ : Type} (desk : Desk σ)

def findNearby (request : NearbyRequest) (s : State σ) : Except Failure NearbyResponse × State σ :=
  match limitOf request.limit with
  | .error reason => (.error (.ofRejection reason), s)
  | .ok limit =>
    match desk.findNearby ⟨⟨request.latitude, request.longitude⟩, request.radius, limit⟩ s with
    | (.error reason, s) => (.error (.ofRejection reason), s)
    | (.ok result, s) => (.ok (.ofResult result), s)

def driverStatus (request : LookupRequest) (s : State σ) : Except Failure LookupResponse × State σ :=
  match desk.driverStatus request.driverId s with
  | (.error reason, s) => (.error (.ofRejection reason), s)
  | (.ok lookup, s) => (.ok (.ofLookup lookup), s)

def updateLocation (now : Int64) (request : LocationRequest) (s : State σ) :
    Except Failure LocationResponse × State σ :=
  match desk.updateLocation now request.driverId ⟨request.latitude, request.longitude⟩ s with
  | (.error reason, s) => (.error (.ofRejection reason), s)
  | (.ok mutation, s) => (.ok (.ofMutation mutation request), s)

def updateStatus (now : Int64) (request : StatusRequest) (s : State σ) :
    Except Failure StatusResponse × State σ :=
  match Driver.Status.parse? request.status with
  | none => (.error (.ofRejection (.status request.status)), s)
  | some status =>
    match desk.updateStatus now request.driverId status s with
    | (.error reason, s) => (.error (.ofRejection reason), s)
    | (.ok mutation, s) => (.ok (.ofMutation mutation status), s)

end FleetLocator.Rpc
