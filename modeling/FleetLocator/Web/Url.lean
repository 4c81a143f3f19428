import FleetLocator.Web.Host
import FleetLocator.Web.Path

/-! # Statuses of answers, and addresses -/
namespace FleetLocator.Web

structure Status where
  code : Nat
  deriving DecidableEq, Repr

namespace Status

def reason? (s : Status) : Option String :=
  match s.code with
  | 100 => some "Continue"
  | 101 => some "Switching Protocols"
  | 102 => some "Processing"
  | 200 => some "OK"
  | 201 => some "Created"
  | 202 => some "Accepted"
  | 203 => some "Non Authoritative Information"
  | 204 => some "No Content"
  | 205 => some "Reset Content"
  | 206 => some "Partial Content"
  | 207 => some "Multi-Status"
  | 208 => some "Already Reported"
  | 226 => some "IM Used"
  | 300 => some "Multiple Choices"
  | 301 => some "Moved Permanently"
  | 302 => some "Found"
  | 303 => some "See Other"
  | 304 => some "Not Modified"
  | 305 => some "Use Proxy"
  | 307 => some "Temporary Redirect"
  | 308 => some "Permanent Redirect"
  | 400 => some "Bad Request"
  | 401 => some "Unauthorized"
  | 402 => some "Payment Required"
  | 403 => some "Forbidden"
  | 404 => some "Not Found"
  | 405 => some "Method Not Allowed"
  | 406 => some "Not Acceptable"
  | 407 => some "Proxy Authentication Required"
  | 408 => some "Request Timeout"
  | 409 => some "Conflict"
  | 410 => some "Gone"
  | 411 => some "Length Required"
  | 412 => some "Precondition Failed"
  | 413 => some "Payload Too Large"
  | 414 => some "URI Too Long"
  | 415 => some "Unsupported Media Type"
  | 416 => some "Range Not Satisfiable"
  | 417 => some "Expectation Failed"
  | 418 => some "I'm a teapot"
  | 421 => some "Misdirected Request"
  | 422 => some "Unprocessable Entity"
  | 423 => some "Locked"
  | 424 => some "Failed Dependency"
  | 426 => some "Upgrade Required"
  | 428 => some "Precondition Required"
  | 429 => some "Too Many Requests"
  | 431 => some "Request Header Fields Too Large"
  | 451 => some "Unavailable For Legal Reasons"
  | 500 => some "Internal Server Error"
  | 501 => some "Not Implemented"
  | 502 => some "Bad Gateway"
  | 503 => some "Service Unavailable"
  | 504 => some "Gateway Timeout"
  | 505 => some "HTTP Version Not Supported"
  | 506 => some "Variant Also Negotiates"
  | 507 => some "Insufficient Storage"
  | 508 => some "Loop Detected"
  | 510 => some "Not Extended"
  | 511 => some "Network Authentication Required"
  | _ => none

/-- The code and what it is called. -/
def text (s : Status) : String :=
  toString s.code ++ " " ++ s.reason?.getD "<unknown status code>"

def isSuccess (s : Status) : Bool := 200 ≤ s.code && s.code < 300

def ok : Status := ⟨200⟩
def badRequest : Status := ⟨400⟩
def notFound : Status := ⟨404⟩
def methodNotAllowed : Status := ⟨405⟩
def internalError : Status := ⟨500⟩
def badGateway : Status := ⟨502⟩

end Status

structure Url where
  scheme : Scheme
  user : String := ""
  secret : String := ""
  host : Option String := none
  portNumber : Option Nat := none
  /-- Whether a dot keeps the path from being taken for a host. -/
  guarded : Bool := false
  path : UrlPath
  query : Option String := none
  fragment : Option String := none
  deriving DecidableEq, Repr

namespace Url

def userinfo (u : Url) : String := if u.secret.isEmpty then u.user else u.user ++ ":" ++ u.secret

def authority (u : Url) : String :=
  match u.host with
  | none => ""
  | some host =>
    "//" ++ (if u.userinfo.isEmpty then "" else u.userinfo ++ "@") ++ host
      ++ u.portNumber.elim "" fun n => ":" ++ toString n

def text (u : Url) : String :=
  u.scheme ++ ":" ++ u.authority ++ (if u.guarded then "/." else "") ++ u.path.text
    ++ (u.query.elim "" fun q => "?" ++ q) ++ (u.fragment.elim "" fun f => "#" ++ f)

def appendSegments (u : Url) (texts : List String) : Url := { u with path := u.path.append u.scheme texts }

def appendQuery (u : Url) (pairs : List (String × String)) : Url :=
  let added := "&".intercalate (pairs.map fun p => p.1 ++ "=" ++ p.2)
  { u with query := some (match u.query with
      | none | some "" => added
      | some before => before ++ "&" ++ added) }

/-- What is spelled in percent signs, if it is a text. -/
def spelled (text : String) : Option String :=
  Text.Utf8.decode (Text.Percent.decode (Text.Utf8.encode text))

/-- Whether there is a name or a secret that can be sent apart from the address. The name has to be
a text. -/
def hasCredentials (u : Url) : Bool :=
  match spelled u.user with
  | none => false
  | some user => !user.isEmpty || (!u.secret.isEmpty && (spelled u.secret).isSome)

def withoutCredentials (u : Url) : Url :=
  if u.hasCredentials then { u with user := "", secret := "" } else u

/-- Fills in a name and perhaps a secret. -/
def readUserinfo (u : Url) (cs : List Char) : Url :=
  { u with
    user := Reserved.escape Reserved.inUserinfo (cs.takeWhile (· != ':'))
    secret := Reserved.escape Reserved.inUserinfo ((cs.dropWhile (· != ':')).drop 1) }

/-- Splits after the last `@`. -/
def splitUserinfo (cs : List Char) : Option (List Char) × List Char :=
  if cs.contains '@' then
    let host := (cs.reverse.takeWhile (· != '@')).reverse
    (some (cs.take (cs.length - host.length - 1)), host)
  else (none, cs)

/-- What remains after the host: the number of a port after a colon, and a path. -/
def readPortAndPath (u : Url) (cs : List Char) : Except UrlError Url :=
  match cs with
  | ':' :: rest =>
    if u.host = some "" then .error .emptyHost
    else
      let isEnd (c : Char) : Bool := c == '/' || c == '\\'
      (Host.readPort u.scheme (rest.takeWhile fun c => !isEnd c)).map fun n =>
        { u with portNumber := n, path := path (rest.dropWhile fun c => !isEnd c) }
  | rest => .ok { u with path := path rest }
where
  path : List Char → UrlPath
    | [] => .segments (if u.scheme.isSpecial then [""] else [])
    | c :: rest =>
      .segments (UrlPath.readSegments u.scheme
        (if Scheme.isSlash u.scheme.isSpecial c then rest else c :: rest))

/-- What follows the two slashes before a host; `last` if neither a query nor a fragment comes after it. -/
def readHosted (scheme : Scheme) (last : Bool) (cs : List Char) : Except UrlError Url :=
  let isSlash := Scheme.isSlash scheme.isSpecial
  let (userinfo, rest) := splitUserinfo (cs.takeWhile fun c => !isSlash c)
  let path := cs.dropWhile fun c => !isSlash c
  if userinfo = some [] ∧ rest.isEmpty ∧ !(last && path.isEmpty) then .error .emptyHost
  else
    let hostText := Host.beforePort false rest
    if scheme.isSpecial && hostText.isEmpty then .error .emptyHost
    else
      match Host.read scheme.isSpecial hostText with
      | .error e => .error e
      | .ok host =>
        let u := readUserinfo { scheme := scheme, host := some host, path := .segments [] } (userinfo.getD [])
        match readPortAndPath u (rest.drop hostText.length ++ path) with
        | .error e => .error e
        | .ok u => if host.isEmpty && !u.userinfo.isEmpty then .error .emptyHost else .ok u

/-- In the path of a file, empty segments at the beginning are of no account. -/
def filePath (segments : List String) : UrlPath :=
  let segments := segments.dropWhile String.isEmpty
  .segments (if segments.isEmpty then [""] else segments)

/-- A file of one's own machine, which has the empty host. -/
def ownFile (cs : List Char) : Url :=
  { scheme := Scheme.file, host := some "", path := filePath (UrlPath.walkFile cs).segments }

/-- A file on a host. Where there are drives, the machine is one's own. -/
def hostedFile (cs : List Char) : Except UrlError Url :=
  let hostText := UrlPath.withoutIgnored (cs.takeWhile fun c => !Scheme.isSlash true c)
  let path := cs.dropWhile fun c => !Scheme.isSlash true c
  if UrlPath.isDrive hostText then .ok (ownFile cs)
  else if hostText.isEmpty then .ok (ownFile path)
  else
    match Host.readSpecial hostText with
    | .error e => .error e
    | .ok "localhost" => .ok (ownFile path)
    | .ok host =>
      let walk := UrlPath.walkFile (path.drop 1)
      let host := if walk.onDrive then "" else host
      .ok { scheme := Scheme.file, host := some host, path := filePath walk.segments }

def afterSlash? (cs : List Char) : Option (List Char) :=
  match UrlPath.skipIgnored cs with
  | c :: rest => if Scheme.isSlash true c then some rest else none
  | [] => none

/-- A file, on a host if two slashes come first. -/
def readFile (cs : List Char) : Except UrlError Url :=
  match afterSlash? cs with
  | none => .ok (ownFile cs)
  | some rest =>
    match afterSlash? rest with
    | none => .ok (ownFile rest)
    | some rest => hostedFile rest

def isEdge (c : Char) : Bool := c.toNat ≤ 0x20

/-- Controls and spaces at the ends are of no account. -/
def trim (text : String) : List Char :=
  ((text.toList.dropWhile isEdge).reverse.dropWhile isEdge).reverse

def isSchemePart (c : Char) : Bool := c.isAlphanum || c == '+' || c == '-' || c == '.'

/-- The scheme and what comes after the colon. -/
def readScheme (cs : List Char) : Option (Scheme × List Char) :=
  let isPart (c : Char) : Bool := isSchemePart c || UrlPath.isIgnored c
  match cs.head?, cs.dropWhile isPart with
  | some first, ':' :: rest =>
    let name := UrlPath.withoutIgnored (cs.takeWhile isPart)
    if first.isAlpha then some (String.ofList (name.map Char.toLower), rest) else none
  | _, _ => none

/-- What follows the path: a query up to a fragment. -/
def readTail (u : Url) (cs : List Char) : Url :=
  let query := match cs with
    | '?' :: rest => some (Reserved.escape (Reserved.inQuery u.scheme.isSpecial) (rest.takeWhile (· != '#')))
    | _ => none
  let fragment := match cs.dropWhile (· != '#') with
    | '#' :: rest => some (Reserved.escape Reserved.inFragment rest)
    | _ => none
  { u with query := query, fragment := fragment }

def isTail (c : Char) : Bool := c == '?' || c == '#'

/-- An address of a scheme that is not special: with a host, with a path only, or with a text. -/
def readPlain (scheme : Scheme) (last : Bool) : List Char → Except UrlError Url
  | '/' :: '/' :: rest => readHosted scheme last rest
  | '/' :: rest =>
    let path : UrlPath := .segments (UrlPath.readSegments scheme rest)
    .ok { scheme := scheme, guarded := path.looksHosted, path := path }
  | cs => .ok { scheme := scheme, path := .opaquePath (Reserved.escape Reserved.isControl cs) }

def readBody (scheme : Scheme) (last : Bool) (cs : List Char) : Except UrlError Url :=
  let shown := UrlPath.withoutIgnored cs
  if scheme = Scheme.file then readFile cs
  else if scheme.isSpecial then readHosted scheme last (shown.dropWhile (Scheme.isSlash true))
  else readPlain scheme last shown

/-- An address that has no base to refer to. Tabs and line ends are of no account, but divide a drive
from what comes after it. -/
def parse (text : String) : Except UrlError Url :=
  match readScheme (trim text) with
  | none => .error .noScheme
  | some (scheme, rest) =>
    let tail := UrlPath.withoutIgnored (rest.dropWhile fun c => !isTail c)
    (readBody scheme tail.isEmpty (rest.takeWhile fun c => !isTail c)).map fun u => u.readTail tail

/-- The greatest number of bytes in an address that a request can have. -/
def requestBound : Nat := 65534

/-- Characters that may be in the name of a host but not in a request. -/
def isUnsendable (c : Char) : Bool := "\"\u0060\x7b\x7d".toList.contains c

/-- Whether a request can be sent to the address over the web. -/
def isWeb (u : Url) : Bool :=
  (u.scheme == "http" || u.scheme == "https") && !(u.host.getD "").toList.any isUnsendable
    && u.withoutCredentials.text.utf8ByteSize ≤ requestBound

end Url

end FleetLocator.Web
