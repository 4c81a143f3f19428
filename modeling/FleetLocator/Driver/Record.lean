import FleetLocator.Geo.Point
import FleetLocator.Json.Field
import FleetLocator.Text.Spelling

/-! # Drivers, changes of them, and documents of both -/
namespace FleetLocator.Driver

open Json (Document)

inductive Status
  | available
  | busy
  | offline
  | onBreak
  deriving DecidableEq, Repr, Inhabited

namespace Status

def label : Status → String
  | available => "AVAILABLE"
  | busy => "BUSY"
  | offline => "OFFLINE"
  | onBreak => "ON_BREAK"

def all : List Status := [available, busy, offline, onBreak]

theorem mem_all (s : Status) : s ∈ all := by cases s <;> decide

def ofLabel? (label : String) : Option Status := all.find? fun s => s.label == label

theorem ofLabel?_label (s : Status) : ofLabel? s.label = some s := by cases s <;> decide

/-- The label a text stands for: letter case and blanks at the ends are of no account. -/
def normalize (text : String) : String := Text.upper (Text.trim text)

def parse? (text : String) : Option Status := ofLabel? (normalize text)

/-- The statement that a text is no status. -/
def unknownMessage (text : String) : String :=
  "unknown status: " ++ normalize text ++ ", expected AVAILABLE/BUSY/OFFLINE/ON_BREAK"

end Status

structure Record where
  id : String
  userId : String := ""
  location : Option Geo.Point := none
  status : Status := .offline
  plate : String := ""
  model : String := ""
  license : String := ""
  rating : Float := 0
  trips : Int64 := 0
  /-- Seconds since 1970 at the last change. -/
  updatedAt : Int64 := 0
  geohash : Option String := none
  deriving DecidableEq, Repr

/-- Ratings go from none to five. -/
def isRating (x : Float) : Bool := 0 ≤ x && x ≤ 5

/-- A record that a reader may have returned: no place, or a point on the earth, and a legal rating. -/
def Record.InDomain (r : Record) : Prop := (∀ p ∈ r.location, p.isValid) ∧ isRating r.rating

instance (r : Record) : Decidable r.InDomain := by unfold Record.InDomain; infer_instance

inductive Change
  | location (point : Geo.Point) (geohash : String)
  | status (status : Status)
  deriving DecidableEq, Repr

/-- A change and the second at which it was made. -/
structure Update where
  change : Change
  timestamp : Int64
  deriving DecidableEq, Repr

inductive ChangeKind
  | location
  | status
  deriving DecidableEq, Repr

def Change.kind : Change → ChangeKind
  | .location _ _ => .location
  | .status _ => .status

def ChangeKind.label : ChangeKind → String
  | .location => "location"
  | .status => "status"

/-- The record after a change. -/
def Update.apply (u : Update) (r : Record) : Record :=
  match u.change with
  | .location point geohash =>
    { r with location := some point, geohash := some geohash, updatedAt := u.timestamp }
  | .status status => { r with status := status, updatedAt := u.timestamp }

inductive Field
  | driverId
  | userId
  | latitude
  | longitude
  | status
  | vehiclePlate
  | vehicleModel
  | licenseNumber
  | rating
  | totalTrips
  | timestamp
  | geohash
  deriving DecidableEq, Repr

namespace Field

def all : List Field :=
  [driverId, userId, latitude, longitude, status, vehiclePlate, vehicleModel, licenseNumber, rating,
   totalTrips, timestamp, geohash]

theorem mem_all (f : Field) : f ∈ all := by cases f <;> decide

def name : Field → String
  | driverId => "driverId"
  | userId => "userId"
  | latitude => "latitude"
  | longitude => "longitude"
  | status => "status"
  | vehiclePlate => "vehiclePlate"
  | vehicleModel => "vehicleModel"
  | licenseNumber => "licenseNumber"
  | rating => "rating"
  | totalTrips => "totalTrips"
  | timestamp => "timestamp"
  | geohash => "geohash"

theorem name_injective {f g : Field} (h : f.name = g.name) : f = g := by
  cases f <;> cases g <;> first | rfl | exact absurd h (by decide)

/-- Writes one field of a record into a document. -/
def write (r : Record) (d : Document) (f : Field) : Document :=
  match f with
  | driverId => d.put f.name r.id
  | userId => d.put f.name r.userId
  | latitude => d.putOptional f.name (r.location.map Geo.Point.lat)
  | longitude => d.putOptional f.name (r.location.map Geo.Point.lng)
  | status => d.put f.name r.status.label
  | vehiclePlate => d.put f.name r.plate
  | vehicleModel => d.put f.name r.model
  | licenseNumber => d.put f.name r.license
  | rating => d.put f.name r.rating
  | totalTrips => d.put f.name r.trips
  | timestamp => d.put f.name r.updatedAt
  | geohash => d.putOptional f.name r.geohash

end Field

/-- The listed fields of a record, and no others. -/
def Record.encode (fields : List Field) (r : Record) : Document :=
  fields.foldl (Field.write r) .empty

/-- The place a document gives: both coordinates must be there, and form a valid point. -/
def decodeLocation (d : Document) : Option Geo.Point := do
  let lat ← d.optional Float Field.latitude.name
  let lng ← d.optional Float Field.longitude.name
  (Geo.Point.mk lat lng).check.toOption

/-- Each field is read for itself; one that is absent, of the wrong kind or illegal has its default. -/
def Record.decode (d : Document) : Record where
  id := d.field Field.driverId.name ""
  userId := d.field Field.userId.name ""
  location := decodeLocation d
  status := ((d.optional String Field.status.name).bind Status.parse?).getD .offline
  plate := d.field Field.vehiclePlate.name ""
  model := d.field Field.vehicleModel.name ""
  license := d.field Field.licenseNumber.name ""
  rating := ((d.optional Float Field.rating.name).filter isRating).getD 0
  trips := d.field Field.totalTrips.name 0
  updatedAt := d.field Field.timestamp.name 0
  geohash := d.optional String Field.geohash.name

/-- The fields that a change concerns. -/
def Change.encode : Change → Document
  | .location point _ =>
    (Document.empty.put Field.latitude.name point.lat).put Field.longitude.name point.lng
  | .status chosen => Document.empty.put Field.status.name chosen.label

end FleetLocator.Driver
