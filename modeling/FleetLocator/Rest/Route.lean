import FleetLocator.Decimal.Literal
import FleetLocator.Search.Ranking
import FleetLocator.Text.Utf8

/-! # Routes, parameters and media types -/
namespace FleetLocator.Rest

/-- Identifiers are given as they stand in the path. -/
inductive Route
  | nearby
  | driver (id : List UInt8)
  | location (id : List UInt8)
  | status (id : List UInt8)
  | health
  | metrics
  deriving DecidableEq, Repr

namespace Route

def slash : UInt8 := 0x2F

def word (s : String) : List UInt8 := Text.Utf8.encode s

/-- Fixed names come before identifiers; an identifier at the end is not empty. -/
def ofSegments? : List (List UInt8) → Option Route
  | [a] =>
    if a = word "health" then some .health else if a = word "metrics" then some .metrics else none
  | [a, id] =>
    if a ≠ word "drivers" then none
    else if id = word "nearby" then some .nearby
    else if id.isEmpty then none
    else some (.driver id)
  | [a, id, c] =>
    if a ≠ word "drivers" then none
    else if c = word "location" then some (.location id)
    else if c = word "status" then some (.status id)
    else none
  | _ => none

def ofPath? (path : List UInt8) : Option Route :=
  match path.splitOn slash with
  | [] :: segments => ofSegments? segments
  | _ => none

/-- The methods that a path answers to. -/
def methods : Route → List String
  | location _ | status _ => ["PUT"]
  | _ => ["GET", "HEAD"]

def allow (r : Route) : String := ",".intercalate r.methods

/-- The identifier that a segment of a path spells, if it is text. -/
def decodeId? (segment : List UInt8) : Option String := Text.Utf8.decode (Text.Percent.decode segment)

/-- A segment that spells an identifier: all but letters, digits and four marks are written in percent
signs. -/
def encodeId (id : String) : List UInt8 :=
  Text.Utf8.encode (String.ofList (Text.Percent.encode
    (fun c => !(c.isAlphanum || c == '-' || c == '_' || c == '.' || c == '~')) id.toList))

end Route

/-- Names and values between ampersands. -/
def splitPairs (query : List UInt8) : List (List UInt8) :=
  (query.splitOn 0x26).filter fun part => !part.isEmpty

def plusToBlank (b : UInt8) : UInt8 := if b = 0x2B then 0x20 else b

def decodePart (bytes : List UInt8) : String :=
  Text.Utf8.decodeLossy (Text.Percent.decode (bytes.map plusToBlank))

/-- The name before the first equals sign and the value after it. -/
def splitPair (part : List UInt8) : String × String :=
  (decodePart (part.takeWhile (· ≠ 0x3D)), decodePart ((part.dropWhile (· ≠ 0x3D)).drop 1))

def pairs (query : List UInt8) : List (String × String) := (splitPairs query).map splitPair

inductive ParameterError
  | missing (name : String)
  | duplicate (name : String)
  | number (e : Decimal.LiteralError)
  | whole (e : Decimal.WholeError)
  deriving DecidableEq, Repr

def ParameterError.message : ParameterError → String
  | missing name => "missing field \u0060" ++ name ++ "\u0060"
  | duplicate name => "duplicate field \u0060" ++ name ++ "\u0060"
  | number e => e.message
  | whole e => e.message

/-- The parameters that have been read so far. -/
structure Parameters where
  latitude : Option Float := none
  longitude : Option Float := none
  radius : Option Float := none
  limit : Option UInt32 := none
  deriving DecidableEq, Repr

def readNumber (name value : String) (known : Option Float) : Except ParameterError (Option Float) :=
  if known.isSome then .error (.duplicate name)
  else match Decimal.readFloat value with
    | .ok x => .ok (some x)
    | .error e => .error (.number e)

def readLimit (value : String) (known : Option UInt32) : Except ParameterError (Option UInt32) :=
  if known.isSome then .error (.duplicate "limit")
  else match Decimal.readWhole (UInt32.size - 1) value with
    | .ok n => .ok (some (UInt32.ofNat n))
    | .error e => .error (.whole e)

namespace Parameters

/-- Takes in one more parameter; names that are not known are passed over. -/
def add (p : Parameters) (pair : String × String) : Except ParameterError Parameters :=
  match pair.1 with
  | "latitude" => (readNumber pair.1 pair.2 p.latitude).map fun x => { p with latitude := x }
  | "longitude" => (readNumber pair.1 pair.2 p.longitude).map fun x => { p with longitude := x }
  | "radiusKm" => (readNumber pair.1 pair.2 p.radius).map fun x => { p with radius := x }
  | "limit" => (readLimit pair.2 p.limit).map fun n => { p with limit := n }
  | _ => .ok p

/-- The search, if no required parameter is missing. -/
def toQuery (defaultLimit : UInt32) (p : Parameters) : Except ParameterError Search.Query :=
  match p.latitude, p.longitude, p.radius with
  | none, _, _ => .error (.missing "latitude")
  | some _, none, _ => .error (.missing "longitude")
  | some _, some _, none => .error (.missing "radiusKm")
  | some lat, some lng, some radius => .ok ⟨⟨lat, lng⟩, radius, p.limit.getD defaultLimit⟩

end Parameters

/-- The search that a query text asks for; the first fault from the left counts. -/
def readQuery (defaultLimit : UInt32) (query : List UInt8) : Except ParameterError Search.Query :=
  match (pairs query).foldlM Parameters.add {} with
  | .error e => .error e
  | .ok p => p.toQuery defaultLimit

/-- A type such as `application/problem+json`: what stands before the slash, between the slash and the
last plus sign, and after that sign. -/
structure MediaType where
  main : String
  sub : String
  suffix : Option String
  deriving DecidableEq, Repr

namespace MediaType

def isToken (c : Char) : Bool := c.isAlphanum || "!#$%&'*+-.^_\u0060|~".toList.contains c

/-- What a text between quotes may hold. -/
def isQuotable (c : Char) : Bool := 0x1F < c.toNat && c.toNat != 0x7F

def fits : Char → Bool := fun c => c == '\t' || (0x20 ≤ c.toNat && c.toNat < 0x7F)

/-- What follows a text between quotes, which holds at least one character. -/
def afterQuoted : List Char → Option (List Char)
  | [] => none
  | c :: rest =>
    if isQuotable c then
      match rest.dropWhile fun c => isQuotable c && c != '"' with
      | '"' :: rest => some rest
      | _ => none
    else none

/-- The rest after the semicolon that ends a parameter, or nothing if the text ends there. -/
def afterParameter : List Char → Option (List Char)
  | [] => some []
  | ';' :: rest => some rest
  | _ => none

/-- Whether parameters are well formed: names, equals signs and values, semicolons between. -/
def parametersFit : Nat → List Char → Bool
  | 0, _ => false
  | fuel + 1, input =>
    match input.dropWhile (· == ' ') with
    | [] => true
    | start =>
      let name := start.takeWhile isToken
      match start.dropWhile isToken with
      | '=' :: '"' :: rest =>
        !name.isEmpty && match (afterQuoted rest).bind fun rest => afterParameter (rest.dropWhile (· == ' ')) with
          | some rest => parametersFit fuel rest
          | none => false
      | '=' :: rest =>
        let value := rest.takeWhile isToken
        let tail := rest.dropWhile isToken
        !name.isEmpty && (tail.isEmpty || !value.isEmpty) && match afterParameter tail with
          | some rest => parametersFit fuel rest
          | none => false
      | _ => false

/-- Splits at the last plus sign, which is not the first character. -/
def splitSuffix (cs : List Char) : String × Option String :=
  let after := cs.reverse.takeWhile (· != '+')
  let before := (cs.reverse.dropWhile (· != '+')).drop 1
  if before.isEmpty then (String.ofList cs, none)
  else (String.ofList before.reverse, some (String.ofList after.reverse))

def parse? (text : String) : Option MediaType :=
  let cs := text.toList.map Char.toLower
  let main := cs.takeWhile isToken
  match cs.dropWhile isToken with
  | '/' :: rest =>
    let sub := rest.takeWhile isToken
    let tail := rest.dropWhile isToken
    let parts := splitSuffix sub
    let found : MediaType := ⟨String.ofList main, parts.1, parts.2⟩
    if main.isEmpty then none
    else match tail with
      | [] => some found
      | ';' :: rest =>
        if !sub.isEmpty && parametersFit (rest.length + 1) rest then some found else none
      | _ => none
  | _ => none

def isJson (m : MediaType) : Bool :=
  m.main == "application" && (m.sub == "json" || m.suffix == some "json")

/-- Whether a header announces a JSON text. -/
def announcesJson (header : String) : Bool :=
  header.toList.all fits && (parse? header).elim false isJson

end MediaType

end FleetLocator.Rest
