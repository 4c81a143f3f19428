import FleetLocator.Driver.Record
import FleetLocator.Geo.Point
import FleetLocator.Json.Field
import FleetLocator.RowStore.Location
import FleetLocator.Search.Ranking
import FleetLocator.Settings
import FleetLocator.Web.Url

/-! # What keeps the drivers, and how it fails -/
namespace FleetLocator.Service

/-- A request that is refused before any backend hears of it. -/
inductive Rejection
  | location (e : Geo.PointError)
  | radius
  | limit
  | driverId
  | status (text : String)
  | stated (reason : String)
  deriving DecidableEq, Repr

def Rejection.message : Rejection → String
  | location e => e.message
  | radius => "radius must be greater than 0"
  | limit => "limit must be greater than 0"
  | driverId => "driver id cannot be empty"
  | status text => Driver.Status.unknownMessage text
  | stated reason => reason

/-- A backend that gave no answer, or one that it could not fulfil the request. -/
inductive Outage
  | unsupported (address : String)
  | unreachable (address : String)
  | timedOut (address : String)
  | answered (status : Web.Status)
  | bodyLost
  | failure (message : String)
  | refusal (message : String)
  | noTable (name : String)
  | stated (reason : String)
  deriving DecidableEq, Repr

def Outage.message : Outage → String
  | unsupported address => "error calling driver backend: builder error for url (" ++ address ++ ")"
  | unreachable address =>
    "error calling driver backend: error sending request for url (" ++ address ++ ")"
  | timedOut address => "backend timed out: error sending request for url (" ++ address ++ ")"
  | answered status => "backend returned " ++ status.text
  | bodyLost => "failed to read response: error decoding response body"
  | failure message => "backend reported failure: " ++ message
  | refusal message => "backend rejected update: " ++ message
  | noTable name => "sqlite: no such table: " ++ name
  | stated reason => reason

/-- An answer that is no document. -/
inductive Malformation
  | document (e : Json.DocumentError)
  | stated (reason : String)
  deriving DecidableEq, Repr

def Malformation.message : Malformation → String
  | document e => e.message
  | stated reason => reason

/-- A service that cannot be set up. -/
inductive Defect
  | setting (e : Settings.Error)
  | address (text : String) (e : Web.UrlError)
  | pathless (text : String)
  | database (name : String) (e : RowStore.LocationError)
  | readOnly
  | noDatabase
  | noColumn (name statement : String) (place : Nat)
  | stated (reason : String)
  deriving DecidableEq, Repr

def Defect.message : Defect → String
  | setting e => e.message
  | address text e => "invalid backend url " ++ text ++ ": " ++ e.message
  | pathless text => "backend url " ++ text ++ " cannot carry a path"
  | database name e => "failed to open " ++ name ++ ": " ++ e.message
  | readOnly => "failed to apply schema: attempt to write a readonly database"
  | noDatabase => "failed to apply schema: file is not a database"
  | noColumn name statement place =>
    "failed to apply schema: no such column: " ++ name ++ " in " ++ statement ++ " at offset " ++ toString place
  | stated reason => reason

inductive Fault
  | rejected (reason : Rejection)
  | unavailable (reason : Outage)
  | malformed (reason : Malformation)
  | internal (reason : Defect)
  deriving DecidableEq, Repr

namespace Fault

def detail : Fault → String
  | rejected reason => reason.message
  | unavailable reason => reason.message
  | malformed reason => reason.message
  | internal reason => reason.message

def message : Fault → String
  | rejected reason => "validation failed: " ++ reason.message
  | unavailable reason => "upstream unavailable: " ++ reason.message
  | malformed reason => "malformed upstream response: " ++ reason.message
  | internal reason => "internal error: " ++ reason.message

def httpStatus : Fault → Web.Status
  | rejected _ => .badRequest
  | unavailable _ | malformed _ => .badGateway
  | internal _ => .internalError

/-- The body of an answer that reports the fault. -/
def document (f : Fault) : Json.Document := Json.Document.empty.put "error" f.detail

end Fault

/-- How a call ends: with a value, with a fault, or not within the time it was given. -/
inductive Reply (α : Type) where
  | done (value : α)
  | failed (fault : Fault)
  | silent

def Reply.ofExcept {α : Type} : Except Fault α → Reply α
  | .ok value => .done value
  | .error fault => .failed fault

def timeoutMessage (milliseconds : Nat) : String :=
  "driver backend timed out after " ++ toString milliseconds ++ "ms"

/-- The value, or the reason why there is none, after a wait of so many milliseconds. -/
def Reply.outcome {α : Type} (milliseconds : Nat) : Reply α → Except String α
  | .done value => .ok value
  | .failed fault => .error fault.message
  | .silent => .error (timeoutMessage milliseconds)

/-- Three operations on a state of any type. -/
structure Backend (σ : Type) where
  name : String
  /-- Drivers that a search may find; it leaves out those that are too far away. -/
  candidates : Search.Query → σ → Reply (List Driver.Record) × σ
  fetch : String → σ → Reply (Option Driver.Record) × σ
  /-- The number of drivers that the update concerned. -/
  apply : String → Driver.Update → σ → Reply Nat × σ

/-- A backend that answers each operation in the same way whatever its arguments. -/
def Backend.scripted (candidates : Reply (List Driver.Record)) (driver : Reply (Option Driver.Record))
    (affected : Reply Nat) : Backend Unit where
  name := "stub"
  candidates _ s := (candidates, s)
  fetch _ s := (driver, s)
  apply _ _ s := (affected, s)

end FleetLocator.Service
