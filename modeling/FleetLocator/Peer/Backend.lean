import FleetLocator.Decimal.Binary64
import FleetLocator.Driver.Record
import FleetLocator.Service.Backend

/-! # A peer that keeps the drivers -/
namespace FleetLocator.Peer

open Driver (Field)
open Json (Document)
open Service (Backend Fault Outage Reply)
open Web (Status Url)

/-- The answer to a search. -/
structure Findings where
  drivers : List Driver.Record
  success : Bool
  message : String
  deriving DecidableEq, Repr

/-- A document that does not say otherwise is a success. -/
def succeeded (d : Document) : Bool := d.field "success" true

def messageOf (d : Document) : String := d.field "message" ""

def Findings.decode (d : Document) : Findings where
  drivers := (d.field "drivers" ([] : List Document)).map Driver.Record.decode
  success := succeeded d
  message := messageOf d

/-- The answer to an update. -/
structure Acknowledgement where
  success : Bool
  message : String
  timestamp : Option Int64
  geohash : Option String
  deriving DecidableEq, Repr

def Acknowledgement.decode (d : Document) : Acknowledgement where
  success := succeeded d
  message := messageOf d
  timestamp := d.optional Int64 Field.timestamp.name
  geohash := d.optional String Field.geohash.name

/-- An address to whose path segments can be added. -/
structure Endpoint where
  base : Url
  divided : base.path.isDivided = true

namespace Endpoint

def ofText (text : String) : Except Fault Endpoint :=
  match Url.parse text with
  | .error e => .error (.internal (.address text e))
  | .ok base =>
    if h : base.path.isDivided = true then .ok ⟨base, h⟩
    else .error (.internal (.pathless base.text))

def collection : String := "drivers"

def search (e : Endpoint) (q : Search.Query) : Url :=
  (e.base.appendSegments [collection, "nearby"]).appendQuery [
    ("latitude", Decimal.plain.text q.origin.lat),
    ("longitude", Decimal.plain.text q.origin.lng),
    ("radiusKm", Decimal.plain.text q.radius),
    ("limit", toString q.limit.toNat)]

def driver (e : Endpoint) (id : String) : Url := e.base.appendSegments [collection, id]

def update (e : Endpoint) (id : String) (kind : Driver.ChangeKind) : Url :=
  e.base.appendSegments [collection, id, kind.label]

end Endpoint

inductive Method
  | get
  | put
  deriving DecidableEq, Repr

structure Request where
  method : Method
  address : Url
  body : Option Document := none

/-- What becomes of a request. The body of an answer may break off. -/
inductive Transmission
  | unreachable
  | timedOut
  | answered (status : Status) (body : Option (List UInt8))
  deriving DecidableEq, Repr

/-- What carries requests to peers. -/
abbrev Network (σ : Type) := Request → σ → Transmission × σ

structure Answer where
  status : Status
  body : Option (List UInt8)
  deriving DecidableEq, Repr

/-- Messages show an address without the name and the secret that are sent apart from it. -/
def shown (address : Url) : String := address.withoutCredentials.text

def Transmission.answer (address : Url) : Transmission → Except Outage Answer
  | unreachable => .error (.unreachable (shown address))
  | timedOut => .error (.timedOut (shown address))
  | answered status body => .ok ⟨status, body⟩

def send {σ : Type} (network : Network σ) (r : Request) (s : σ) : Except Outage Answer × σ :=
  if r.address.isWeb then
    let (transmission, s) := network r s
    (transmission.answer r.address, s)
  else (.error (.unsupported (shown r.address)), s)

/-- The document of an answer that is a success. -/
def Answer.document (a : Answer) : Except Fault Document :=
  if a.status.isSuccess then
    match a.body with
    | none => .error (.unavailable .bodyLost)
    | some body => (Document.parse body).mapError fun e => .malformed (.document e)
  else .error (.unavailable (.answered a.status))

def Answer.isMissing (a : Answer) : Bool := a.status == .notFound

def readFindings (a : Answer) : Except Fault (List Driver.Record) := do
  let findings := Findings.decode (← a.document)
  if findings.success then return findings.drivers
  else throw (.unavailable (.failure findings.message))

/-- A driver that the answer gives no identifier has the one that was asked for. -/
def readDriver (id : String) (a : Answer) : Except Fault (Option Driver.Record) := do
  if a.isMissing then return none
  let document ← a.document
  if succeeded document then
    let driver := Driver.Record.decode document
    return some (if driver.id.isEmpty then { driver with id := id } else driver)
  else throw (.unavailable (.failure (messageOf document)))

/-- How many drivers an update concerned: there is one with the identifier, or none. -/
def readAffected (a : Answer) : Except Fault Nat := do
  if a.isMissing then return 0
  let acknowledgement := Acknowledgement.decode (← a.document)
  if acknowledgement.success then return 1
  else throw (.unavailable (.refusal acknowledgement.message))

/-- Sends a request and reads the answer to it. -/
def ask {σ α : Type} (network : Network σ) (r : Request) (read : Answer → Except Fault α) (s : σ) :
    Reply α × σ :=
  let (answer, s) := send network r s
  (.ofExcept ((answer.mapError Fault.unavailable).bind read), s)

def backend {σ : Type} (endpoint : Endpoint) (network : Network σ) : Backend σ where
  name := "remote"
  candidates q := ask network { method := .get, address := endpoint.search q } readFindings
  fetch id := ask network { method := .get, address := endpoint.driver id } (readDriver id)
  apply id u := ask network
    { method := .put, address := endpoint.update id u.change.kind, body := some u.change.encode }
    readAffected

end FleetLocator.Peer
