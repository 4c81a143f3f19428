import FleetLocator.Rest.Body
import FleetLocator.Rest.Route
import FleetLocator.Service.Operations

/-! # The web interface -/
namespace FleetLocator.Rest

open Service (Desk Fault Rejection State)

structure Request where
  method : String
  /-- The path, perhaps with a query. -/
  target : List UInt8
  contentType : Option String := none
  body : List UInt8 := []
  deriving DecidableEq, Repr

structure Response where
  status : Web.Status
  contentType : Option String
  body : String
  headers : List (String × String)
  deriving DecidableEq, Repr

/-- Why a request is not carried out. -/
inductive Refusal
  | path
  | parameters (e : ParameterError)
  | contentType
  | bodyLength
  | body (reason : String)
  | rejected (reason : Rejection)
  deriving DecidableEq, Repr

def Refusal.message : Refusal → String
  | path => "Invalid URL: Invalid UTF-8 in \u0060id\u0060"
  | parameters e => "Failed to deserialize query string: " ++ e.message
  | contentType => "Expected request with \u0060Content-Type: application/json\u0060"
  | bodyLength => "Failed to buffer the request body: length limit exceeded"
  | body reason => reason
  | rejected reason => reason.message

/-- What the refused request is reported for, where it is reported as a fault. -/
def Refusal.rejection : Refusal → Rejection
  | rejected reason => reason
  | reason => .stated reason.message

def splitTarget (target : List UInt8) : List UInt8 × List UInt8 :=
  let whole := target.takeWhile (· ≠ 0x23)
  (whole.takeWhile (· ≠ 0x3F), (whole.dropWhile (· ≠ 0x3F)).drop 1)

/-- Every site may ask, and may read all headers of the answer. -/
def sharing : List (String × String) := [
  ("access-control-allow-origin", "*"),
  ("access-control-expose-headers", "*"),
  ("vary", "origin, access-control-request-method, access-control-request-headers")]

/-- Every site may send requests of any method with any headers. -/
def permission : List (String × String) := [
  ("access-control-allow-headers", "*"),
  ("access-control-allow-methods", "*"),
  ("access-control-allow-origin", "*"),
  ("vary", "origin, access-control-request-method, access-control-request-headers")]

namespace Response

def typed (status : Web.Status) (contentType body : String) : Response :=
  ⟨status, some contentType, body, ("content-type", contentType) :: sharing⟩

def empty (status : Web.Status) (headers : List (String × String)) : Response :=
  ⟨status, none, "", headers⟩

def json (status : Web.Status) (d : Json.Document) : Response :=
  typed status "application/json" d.render

def ofFault (f : Fault) : Response := json f.httpStatus f.document

/-- A segment that is no text is refused in plain words, all else as a fault. -/
def refused : Refusal → Response
  | .path => typed .badRequest "text/plain; charset=utf-8" Refusal.path.message
  | reason => ofFault (.rejected reason.rejection)

def notFound : Response := empty .notFound sharing

def methodNotAllowed (r : Route) : Response :=
  empty .methodNotAllowed (("allow", r.allow) :: sharing)

/-- The answer to the question what is allowed. -/
def preflight (r : Option Route) : Response :=
  empty .ok ((r.map fun r => ("allow", r.allow)).toList ++ permission)

/-- The fields are not sorted. -/
def health (now : Int64) : Response :=
  typed .ok "application/json" <| Json.Value.render <| .document [
    ("service", .text Service.serviceName), ("status", .text Service.healthStatus),
    ("timestamp", Json.FieldValue.toValue now), ("message", .text Service.healthMessage)]

def metrics (text : String) : Response := typed .ok "text/plain; version=0.0.4; charset=utf-8" text

def ofExcept {α : Type} (document : α → Json.Document) : Except Rejection α → Response
  | .ok a => json .ok (document a)
  | .error reason => refused (.rejected reason)

def withoutBody (r : Response) : Response := { r with body := "" }

end Response

/-- The greatest number of bytes in a body, two megabytes. -/
def bodyLimit : Nat := 2097152

/-- What the body of a request says, if it is announced as a JSON text and is not too long. -/
def Request.read {α : Type} (r : Request) (reader : List UInt8 → Except BodyFlaw α) : Except Refusal α :=
  if r.contentType.elim false MediaType.announcesJson then
    if bodyLimit < r.body.length then .error .bodyLength
    else match reader r.body with
      | .ok a => .ok a
      | .error flaw => .error (.body (flaw.message r.body))
  else .error .contentType

/-- The service on the web: a desk, and the limit of a search that names none. -/
structure Api (σ : Type) where
  desk : Desk σ
  defaultLimit : UInt32

namespace Api

variable {σ : Type} (api : Api σ)

def findNearby (query : List UInt8) (s : State σ) : Response × State σ :=
  match readQuery api.defaultLimit query with
  | .error e => (.refused (.parameters e), s)
  | .ok q => let (result, s) := api.desk.findNearby q s; (.ofExcept Service.searchDocument result, s)

def driverStatus (segment : List UInt8) (s : State σ) : Response × State σ :=
  match Route.decodeId? segment with
  | none => (.refused .path, s)
  | some id => let (result, s) := api.desk.driverStatus id s; (.ofExcept Service.Lookup.document result, s)

def updateLocation (now : Int64) (segment : List UInt8) (r : Request) (s : State σ) : Response × State σ :=
  match Route.decodeId? segment with
  | none => (.refused .path, s)
  | some id =>
    match r.read readLocation with
    | .error reason => (.refused reason, s)
    | .ok point =>
      let (result, s) := api.desk.updateLocation now id point s
      (.ofExcept Service.Mutation.document result, s)

def updateStatus (now : Int64) (segment : List UInt8) (r : Request) (s : State σ) : Response × State σ :=
  match Route.decodeId? segment with
  | none => (.refused .path, s)
  | some id =>
    match r.read readStatus with
    | .error reason => (.refused reason, s)
    | .ok text =>
      match Driver.Status.parse? text with
      | none => (.refused (.rejected (.status text)), s)
      | some status =>
        let (result, s) := api.desk.updateStatus now id status s
        (.ofExcept Service.Mutation.document result, s)

/-- Carries out a request whose method the route answers to. How long retrievals took is measured elsewhere. -/
def perform (now : Int64) (route : Route) (query : List UInt8) (r : Request) (s : State σ)
    (durations : Option Service.Durations := none) : Response × State σ :=
  match route with
  | .nearby => api.findNearby query s
  | .driver id => api.driverStatus id s
  | .location id => api.updateLocation now id r s
  | .status id => api.updateStatus now id r s
  | .health => (.health now, s)
  | .metrics => (.metrics (s.metrics.text api.desk.backend.name durations), s)

def handle (now : Int64) (r : Request) (s : State σ) (durations : Option Service.Durations := none) :
    Response × State σ :=
  let (path, query) := splitTarget r.target
  let route := Route.ofPath? path
  if r.method = "OPTIONS" then (.preflight route, s)
  else match route with
    | none => (.notFound, s)
    | some route =>
      if route.methods.contains r.method then
        let (response, s) := api.perform now route query r s durations
        (if r.method = "HEAD" then response.withoutBody else response, s)
      else (.methodNotAllowed route, s)

end Api

end FleetLocator.Rest
