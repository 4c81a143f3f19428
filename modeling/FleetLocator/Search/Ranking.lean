import FleetLocator.Driver.Record
import FleetLocator.Geo.Point

/-! # Searches for drivers near a point, and whom they find -/
namespace FleetLocator.Search

structure Query where
  origin : Geo.Point
  radius : Float
  limit : UInt32
  deriving DecidableEq, Repr

/-- A driver found, with the distance in kilometres from the origin of the search. -/
structure Match where
  driver : Driver.Record
  distance : Float
  deriving DecidableEq, Repr

structure Result where
  drivers : List Match
  origin : Geo.Point
  radius : Float
  success : Bool
  message : String
  deriving DecidableEq, Repr

namespace Result

def found (q : Query) (drivers : List Match) : Result :=
  ⟨drivers, q.origin, q.radius, true, "Found " ++ toString drivers.length ++ " nearby drivers"⟩

def failed (q : Query) (message : String) : Result := ⟨[], q.origin, q.radius, false, message⟩

end Result

/-- A candidate with its distance, if it has a valid place within the radius. -/
def Query.match? (q : Query) (candidate : Driver.Record) : Option Match := do
  let point ← candidate.location
  if point.isValid then
    let distance := q.origin.distance point
    if distance ≤ q.radius then some ⟨candidate, distance⟩ else none
  else none

/-- Nearer drivers come first; at the same distance the identifiers decide. -/
def Match.le (a b : Match) : Bool :=
  a.distance < b.distance || (!(b.distance < a.distance) && a.driver.id ≤ b.driver.id)

/-- All candidates that match, in order. -/
def Query.ranking (q : Query) (candidates : List Driver.Record) : List Match :=
  (candidates.filterMap q.match?).mergeSort Match.le

def Query.rank (q : Query) (candidates : List Driver.Record) : List Match :=
  (q.ranking candidates).take q.limit.toNat

end FleetLocator.Search
