import FleetLocator.Decimal.Literal
import FleetLocator.Text.Letters
import FleetLocator.Text.Spelling

/-! # Settings, and where they are read from -/
namespace FleetLocator

/-- Where the drivers are kept: by a peer on the web, or in a database of our own. -/
inductive SourceKind
  | remote
  | rows
  deriving DecidableEq, Repr

namespace SourceKind

def normalize (text : String) : String := Text.lower (Text.trim text)

def parse? (text : String) : Option SourceKind :=
  match normalize text with
  | "remote" | "http" => some remote
  | "sqlite" | "store" | "db" => some rows
  | _ => none

def unknownMessage (text : String) : String :=
  "unknown location source " ++ Text.Quoted.encode (normalize text) ++ ", expected remote or sqlite"

end SourceKind

structure Settings where
  httpPort : UInt16 := 8083
  grpcPort : UInt16 := 50053
  logLevel : String := "info"
  source : SourceKind := .remote
  backendUrl : String := "http://driver-service:8083/api/driver-service"
  /-- Milliseconds. -/
  backendTimeout : UInt64 := 10000
  databasePath : String := "drivers.db"
  defaultLimit : UInt32 := 10
  maxLimit : UInt32 := 100
  deriving DecidableEq, Repr

namespace Settings

inductive Error
  | number (name : String) (e : Decimal.WholeError)
  | source (name : String) (text : String)
  | zeroLimit
  deriving DecidableEq, Repr

def Error.message : Error → String
  | number name e => "invalid " ++ name ++ ": " ++ e.message
  | source name text => "invalid " ++ name ++ ": " ++ SourceKind.unknownMessage text
  | zeroLimit => "DEFAULT_LIMIT and MAX_LIMIT must be > 0"

/-- Names and the texts they stand for. -/
abbrev Environment := List (String × String)

def number (env : Environment) (name : String) (bound default : Nat) : Except Error Nat :=
  match env.lookup name with
  | none => .ok default
  | some text =>
    match Decimal.readWhole bound text with
    | .ok n => .ok n
    | .error e => .error (.number name e)

def sourceKind (env : Environment) (name : String) (default : SourceKind) : Except Error SourceKind :=
  match env.lookup name with
  | none => .ok default
  | some text =>
    match SourceKind.parse? text with
    | some kind => .ok kind
    | none => .error (.source name text)

/-- A setting that has no text keeps its default; the first that is wrong is reported. -/
def ofEnvironment (env : Environment) : Except Error Settings := do
  let defaults : Settings := {}
  let text (name default : String) : String := (env.lookup name).getD default
  let httpPort ← number env "HTTP_PORT" (UInt16.size - 1) defaults.httpPort.toNat
  let grpcPort ← number env "GRPC_PORT" (UInt16.size - 1) defaults.grpcPort.toNat
  let source ← sourceKind env "LOCATION_SOURCE" defaults.source
  let timeout ← number env "BACKEND_TIMEOUT_MS" (UInt64.size - 1) defaults.backendTimeout.toNat
  let defaultLimit ← number env "DEFAULT_LIMIT" (UInt32.size - 1) defaults.defaultLimit.toNat
  let maxLimit ← number env "MAX_LIMIT" (UInt32.size - 1) defaults.maxLimit.toNat
  if defaultLimit = 0 ∨ maxLimit = 0 then .error .zeroLimit
  else .ok {
    httpPort := UInt16.ofNat httpPort
    grpcPort := UInt16.ofNat grpcPort
    logLevel := text "LOG_LEVEL" defaults.logLevel
    source := source
    backendUrl := text "BACKEND_URL" defaults.backendUrl
    backendTimeout := UInt64.ofNat timeout
    databasePath := text "DATABASE_PATH" defaults.databasePath
    defaultLimit := UInt32.ofNat defaultLimit
    maxLimit := UInt32.ofNat maxLimit }

end Settings

end FleetLocator

namespace FleetLocator.Settings.File

/-- What the characters read so far leave open. -/
inductive Phase
  | complete
  | blank
  | escape
  | strong
  | strongEscape
  | weak
  | weakEscape
  deriving DecidableEq, Repr

namespace Phase

def opened : Char → Phase
  | '\\' => escape
  | '"' => weak
  | '\'' => strong
  | _ => complete

def isInnerBlank (c : Char) : Bool := Text.isBlank c && c != '\n' && c != '\r'

/-- The phase after one more character, unless a comment begins there. -/
def next? : Phase → Char → Option Phase
  | complete, c => some (if isInnerBlank c then blank else opened c)
  | blank, c => if c = '#' then none else some (opened c)
  | escape, _ => some complete
  | strong, c => some (if c = '\\' then strongEscape else if c = '\'' then complete else strong)
  | strongEscape, _ => some strong
  | weak, c => some (if c = '\\' then weakEscape else if c = '"' then complete else weak)
  | weakEscape, _ => some weak

end Phase

/-- How a line ends: in a comment after some of its characters, or in a phase. -/
inductive Ending
  | comment (kept : List Char)
  | phase (p : Phase)

def ending (kept : List Char) : Phase → List Char → Ending
  | p, [] => .phase p
  | p, c :: rest =>
    match p.next? c with
    | none => .comment kept.reverse
    | some p => ending (c :: kept) p rest

/-- Lines with the characters that end them. -/
def lines (current : List Char) : List Char → List (List Char)
  | [] => if current.isEmpty then [] else [current.reverse]
  | '\n' :: rest => ('\n' :: current).reverse :: lines [] rest
  | c :: rest => lines (c :: current) rest

def withoutLineEnd (cs : List Char) : List Char :=
  match cs.reverse with
  | '\n' :: '\r' :: rest => rest.reverse
  | '\n' :: rest => rest.reverse
  | _ => cs

def isComment (cs : List Char) : Bool := (Text.trimStart cs).head? == some '#'

/-- Lines joined where a quotation goes on in the next one; none for one that never ends. -/
def statements (p : Phase) (before : List Char) : List (List Char) → List (Option (List Char))
  | [] => if p = .complete then [] else [none]
  | line :: rest =>
    let whole := before ++ line
    if isComment whole then some [] :: statements .complete [] rest
    else match ending [] p line with
      | .comment kept => some (before ++ kept) :: statements .complete [] rest
      | .phase .complete => some (withoutLineEnd whole) :: statements .complete [] rest
      | .phase p => statements p whole rest

inductive Quotation
  | bare
  | weak
  | strong
  deriving DecidableEq, Repr

/-- What the next character belongs to: an escape, or a name whose text is put in its place. -/
inductive Pending
  | nothing
  | escape
  | name (letters : List Char)
  | braced (letters : List Char)
  | trailing
  | comment
  deriving DecidableEq, Repr

structure Reading where
  quotation : Quotation := .bare
  pending : Pending := .nothing
  output : List Char := []
  deriving DecidableEq, Repr

namespace Reading

def emit (r : Reading) (cs : List Char) : Reading := { r with output := r.output ++ cs }

/-- Puts the text of a name, given by its letters from the last, in its place. -/
def substitute (look : String → List Char) (letters : List Char) (r : Reading) : Reading :=
  r.emit (look (String.ofList letters.reverse))

def escaped (c : Char) : Option Char :=
  if "\\'\"$ ".toList.contains c then some c else if c = 'n' then some '\n' else none

/-- A character that stands for itself or opens something. -/
def plain (r : Reading) (c : Char) : Reading :=
  if c = '$' then { r with pending := .name [] }
  else if r.quotation = .weak then
    if c = '"' then { r with quotation := .bare }
    else if c = '\\' then { r with pending := .escape }
    else r.emit [c]
  else if c = '\'' then { r with quotation := .strong }
  else if c = '"' then { r with quotation := .weak }
  else if c = '\\' then { r with pending := .escape }
  else if c = ' ' ∨ c = '\t' then { r with pending := .trailing }
  else r.emit [c]

/-- Reads one more character of a value; nothing if it must not stand there. -/
def step (look : String → List Char) (r : Reading) (c : Char) : Option Reading :=
  match r.pending with
  | .comment => some r
  | .trailing =>
    if c = ' ' ∨ c = '\t' then some r
    else if c = '#' then some { r with pending := .comment }
    else none
  | .escape => (escaped c).map fun d => { r.emit [d] with pending := .nothing }
  | .name letters =>
    if Text.isLetterOrNumber c then some { r with pending := .name (c :: letters) }
    else if c = '\x7b' ∧ letters.isEmpty then some { r with pending := .braced [] }
    else
      let r := r.substitute look letters
      if c = '$' then some { r with pending := .name [] }
      else some { r.emit [c] with pending := .nothing }
  | .braced letters =>
    if c = '\x7d' then some { r.substitute look letters with pending := .nothing }
    else some { r with pending := .braced (c :: letters) }
  | .nothing =>
    if r.quotation = .strong then
      some (if c = '\'' then { r with quotation := .bare } else r.emit [c])
    else some (r.plain c)

/-- The value read, if nothing is left open. -/
def finish (look : String → List Char) (r : Reading) : Option (List Char) :=
  if r.quotation ≠ .bare then none
  else match r.pending with
    | .braced _ => none
    | .name letters => some (r.substitute look letters).output
    | _ => some r.output

end Reading

def readValue (look : String → List Char) (cs : List Char) : Option String :=
  ((cs.foldlM (Reading.step look) {}).bind (Reading.finish look)).map String.ofList

/-- The environment so far, and the values of the assignments so far, the last first. -/
structure Scope where
  env : Environment
  assigned : Environment := []

def Scope.look (s : Scope) (name : String) : List Char :=
  (((s.env.lookup name).orElse fun _ => s.assigned.lookup name).getD "").toList

def isKeyStart (c : Char) : Bool := c.isAlpha || c == '_'

def isKeyPart (c : Char) : Bool := c.isAlphanum || c == '_' || c == '.'

def readKey (cs : List Char) : Option (String × List Char) :=
  match cs with
  | c :: _ =>
    if isKeyStart c then
      some (String.ofList (cs.takeWhile isKeyPart), Text.trimStart (cs.dropWhile isKeyPart))
    else none
  | [] => none

def readEquals : List Char → Option (List Char)
  | '=' :: rest => some (Text.trimStart rest)
  | _ => none

/-- The name and the equals sign of an assignment, before which the word `export` may stand. -/
def readTarget (cs : List Char) : Option (String × List Char) := do
  let (key, rest) ← readKey cs
  match readEquals rest with
  | some rest => return (key, rest)
  | none =>
    if key = "export" then
      let (key, rest) ← readKey rest
      return (key, ← readEquals rest)
    else none

/-- An assignment, or nothing on a line that is empty or a comment. -/
def readStatement (s : Scope) (cs : List Char) : Option (Option (String × String)) :=
  let start := Text.trimChars cs
  if start.isEmpty || isComment start then some none
  else do
    let (key, rest) ← readTarget start
    if rest.isEmpty || isComment rest then return some (key, "")
    else return some (key, ← readValue s.look rest)

/-- What is set already stays as it is. -/
def Scope.assign (s : Scope) (key value : String) : Scope where
  env := if (s.env.lookup key).isSome then s.env else (key, value) :: s.env
  assigned := (key, value) :: s.assigned

/-- Takes in statements up to the first that cannot be read. -/
def Scope.load (s : Scope) : List (Option (List Char)) → Scope
  | [] => s
  | none :: _ => s
  | some cs :: rest =>
    match readStatement s cs with
    | none => s
    | some none => s.load rest
    | some (some (key, value)) => (s.assign key value).load rest

def withoutMark : List Char → List Char
  | '\uFEFF' :: rest => rest
  | cs => cs

/-- An environment after a file of assignments. -/
def load (text : String) (env : Environment) : Environment :=
  (Scope.load ⟨env, []⟩ (statements .complete [] (lines [] (withoutMark text.toList)))).env

end FleetLocator.Settings.File
