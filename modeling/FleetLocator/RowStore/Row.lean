import FleetLocator.Decimal.Binary64
import FleetLocator.Decimal.Literal
import FleetLocator.Driver.Record
import FleetLocator.Text.Utf8

/-! # The table of drivers, its cells, columns and rows -/
namespace FleetLocator.RowStore

/-- A value of one of five storage classes. Text need not be well formed. -/
inductive Cell
  | null
  | integer (n : Int64)
  | real (x : Float)
  | text (bytes : List UInt8)
  | blob (bytes : List UInt8)
  deriving DecidableEq, Repr

namespace Cell

def isNull : Cell → Bool
  | null => true
  | _ => false

def ofString (s : String) : Cell := .text (Text.Utf8.encode s)

/-- What is no number is stored as nothing. -/
def ofFloat (x : Float) : Cell := if x.isNaN then .null else .real x

def ofOption {α : Type} (f : α → Cell) (x : Option α) : Cell := x.elim .null f

end Cell

/-- The storage class that a column prefers. -/
inductive Affinity
  | text
  | integer
  | real
  deriving DecidableEq, Repr

def isBlankByte (b : UInt8) : Bool := b == 0x20 || (9 ≤ b && b ≤ 13)

def trimBytes (bytes : List UInt8) : List UInt8 :=
  ((bytes.dropWhile isBlankByte).reverse.dropWhile isBlankByte).reverse

/-- A number written in a text: its sign, its digits, and whether it is a whole number without a
point or an exponent. -/
structure Numeral where
  negative : Bool
  literal : Decimal.Literal
  whole : Bool

def Numeral.ofUnsigned (negative : Bool) (cs : List Char) : Option Numeral :=
  (Decimal.readUnsigned cs).map fun l => ⟨negative, l, cs.all Decimal.isDigit⟩

/-- The number a text stands for, blanks at its ends left aside. -/
def Numeral.ofBytes (bytes : List UInt8) : Option Numeral :=
  match (trimBytes bytes).map fun b => Char.ofNat b.toNat with
  | '-' :: rest => Numeral.ofUnsigned true rest
  | '+' :: rest => Numeral.ofUnsigned false rest
  | rest => Numeral.ofUnsigned false rest

def Numeral.toFloat (n : Numeral) : Float :=
  if n.negative then n.literal.nearby.neg else n.literal.nearby

/-- The number itself if it is written as a whole number and fits 64 bits. -/
def Numeral.toInt64? (n : Numeral) : Option Int64 :=
  let value : Int := if n.negative then -(n.literal.significand : Int) else n.literal.significand
  if n.whole ∧ Int64.minValue.toInt ≤ value ∧ value ≤ Int64.maxValue.toInt then
    some (Int64.ofInt value)
  else none

/-- The integer that a double is, except for the least and the greatest of 64 bits. -/
def exactInteger (x : Float) : Option Int64 :=
  (Decimal.Dyadic.ofFloat x).bind fun d =>
    let n := Decimal.saturate d.truncate
    if Decimal.ofInt64 n == x && Int64.minValue < n && n < Int64.maxValue then some n else none

/-- Columns of real numbers know no negative zero. -/
def realCell (x : Float) : Cell := .real (if x == 0 then 0 else x)

/-- A double as an integer if it is one. -/
def integerCell (x : Float) : Cell := (exactInteger x).elim (.real x) .integer

/-- Fifteen significant digits, with a point in any case. -/
def realStyle : Decimal.Style := ⟨some (-4, 14), ".0", ".0", "+", 2⟩

def realText (x : Float) : String :=
  if x == 0 then realStyle.magnitude ⟨['0'], 0⟩
  else
    (if x < 0 then "-" else "")
      ++ if x.isFinite then realStyle.magnitude (Decimal.leadingDigits 15 x.abs) else "Inf"

/-- The value that a column of this affinity holds after a value is stored in it. -/
def Affinity.store : Affinity → Cell → Cell
  | .text, .integer n => .ofString (toString n.toInt)
  | .text, .real x => .ofString (realText x)
  | .real, .integer n => .real (Decimal.ofInt64 n)
  | .real, .real x => realCell x
  | .real, .text bytes => ((Numeral.ofBytes bytes).map fun n => realCell n.toFloat).getD (.text bytes)
  | .integer, .real x => integerCell x
  | .integer, .text bytes =>
    ((Numeral.ofBytes bytes).map fun n =>
      (n.toInt64?.map Cell.integer).getD (integerCell n.toFloat)).getD (.text bytes)
  | _, cell => cell

inductive Column
  | id
  | userId
  | plate
  | model
  | license
  | status
  | latitude
  | longitude
  | rating
  | trips
  | geohash
  | updatedAt
  deriving DecidableEq, Repr

namespace Column

def all : List Column :=
  [id, userId, plate, model, license, status, latitude, longitude, rating, trips, geohash, updatedAt]

theorem mem_all (c : Column) : c ∈ all := by cases c <;> decide

def name : Column → String
  | id => "id"
  | userId => "user_id"
  | plate => "vehicle_plate"
  | model => "vehicle_model"
  | license => "license_number"
  | status => "status"
  | latitude => "latitude"
  | longitude => "longitude"
  | rating => "rating"
  | trips => "total_trips"
  | geohash => "geohash"
  | updatedAt => "last_updated"

def affinity : Column → Affinity
  | latitude | longitude | rating => .real
  | trips | updatedAt => .integer
  | _ => .text

/-- Whether a row must have a value in the column. -/
def required : Column → Bool
  | id | latitude | longitude | geohash => false
  | _ => true

/-- What a row has in a required column when it is inserted without a value for it. -/
def default? : Column → Option Cell
  | plate | model | license => some (.text [])
  | status => some (.ofString Driver.Status.offline.label)
  | rating => some (.real 0)
  | trips | updatedAt => some (.integer 0)
  | _ => none

/-- The field of a driver that the column holds. -/
def field : Column → Driver.Field
  | id => .driverId
  | userId => .userId
  | plate => .vehiclePlate
  | model => .vehicleModel
  | license => .licenseNumber
  | status => .status
  | latitude => .latitude
  | longitude => .longitude
  | rating => .rating
  | trips => .totalTrips
  | geohash => .geohash
  | updatedAt => .timestamp

theorem field_injective {c d : Column} (h : c.field = d.field) : c = d := by
  cases c <;> cases d <;> first | rfl | exact absurd h (by decide)

/-- The cell that the column holds after a value is stored in it. -/
def store (c : Column) (cell : Cell) : Cell := c.affinity.store cell

/-- The cell of a new row: the default stands in for a required value that is missing. -/
def fresh (c : Column) (cell : Cell) : Cell :=
  if cell.isNull && c.required then c.default?.getD cell else c.store cell

end Column

structure Row where
  id : Cell
  userId : Cell
  plate : Cell
  model : Cell
  license : Cell
  status : Cell
  latitude : Cell
  longitude : Cell
  rating : Cell
  trips : Cell
  geohash : Cell
  updatedAt : Cell
  deriving DecidableEq, Repr

namespace Row

def get (r : Row) : Column → Cell
  | .id => r.id
  | .userId => r.userId
  | .plate => r.plate
  | .model => r.model
  | .license => r.license
  | .status => r.status
  | .latitude => r.latitude
  | .longitude => r.longitude
  | .rating => r.rating
  | .trips => r.trips
  | .geohash => r.geohash
  | .updatedAt => r.updatedAt

/-- Replaces a cell by one that the column can hold. -/
def set (r : Row) (c : Column) (cell : Cell) : Row :=
  match c with
  | .id => { r with id := cell }
  | .userId => { r with userId := cell }
  | .plate => { r with plate := cell }
  | .model => { r with model := cell }
  | .license => { r with license := cell }
  | .status => { r with status := cell }
  | .latitude => { r with latitude := cell }
  | .longitude => { r with longitude := cell }
  | .rating => { r with rating := cell }
  | .trips => { r with trips := cell }
  | .geohash => { r with geohash := cell }
  | .updatedAt => { r with updatedAt := cell }

@[simp] theorem get_set_self (r : Row) (c : Column) (cell : Cell) : (r.set c cell).get c = cell := by
  cases c <;> rfl

@[simp] theorem get_set_of_ne (r : Row) {c d : Column} (cell : Cell) (h : d ≠ c) :
    (r.set c cell).get d = r.get d := by
  cases c <;> cases d <;> first | rfl | exact absurd rfl h

/-- Stores a value in a column. -/
def store (r : Row) (c : Column) (value : Cell) : Row := r.set c (c.store value)

/-- The row of a driver. -/
def ofRecord (r : Driver.Record) : Row where
  id := Column.id.fresh (.ofString r.id)
  userId := Column.userId.fresh (.ofString r.userId)
  plate := Column.plate.fresh (.ofString r.plate)
  model := Column.model.fresh (.ofString r.model)
  license := Column.license.fresh (.ofString r.license)
  status := Column.status.fresh (.ofString r.status.label)
  latitude := Column.latitude.fresh (.ofOption (fun p => .ofFloat p.lat) r.location)
  longitude := Column.longitude.fresh (.ofOption (fun p => .ofFloat p.lng) r.location)
  rating := Column.rating.fresh (.ofFloat r.rating)
  trips := Column.trips.fresh (.integer r.trips)
  geohash := Column.geohash.fresh (.ofOption .ofString r.geohash)
  updatedAt := Column.updatedAt.fresh (.integer r.updatedAt)

/-- The row's identifier is this very text. -/
def hasId (id : String) (r : Row) : Bool := r.id == .ofString id

def isCandidate (r : Row) : Bool :=
  r.status == .ofString Driver.Status.available.label && !r.latitude.isNull && !r.longitude.isNull

/-- The row after a change of its driver. -/
def change (u : Driver.Update) (r : Row) : Row :=
  match u.change with
  | .location point geohash =>
    (((r.store .latitude (.ofFloat point.lat)).store .longitude (.ofFloat point.lng)).store .geohash
      (.ofString geohash)).store .updatedAt (.integer u.timestamp)
  | .status status => (r.store .status (.ofString status.label)).store .updatedAt (.integer u.timestamp)

end Row

/-- A cell as a value of a document. Bytes that are no text have none. -/
def Cell.value : Cell → Json.Value
  | .null | .blob _ => .null
  | .integer n => Json.FieldValue.toValue n
  | .real x => Json.FieldValue.toValue x
  | .text bytes => .text (Text.Utf8.decodeLossy bytes)

/-- A row as a document, each column under the name of its field. -/
def Row.document (r : Row) : Json.Document :=
  Column.all.foldl (fun d c => d.insert c.field.name (r.get c).value) .empty

def Row.record (r : Row) : Driver.Record := .decode r.document

end FleetLocator.RowStore
