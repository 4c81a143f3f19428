import FleetLocator.Text.Utf8

/-! # Where a database is, and whether it can be opened there -/
namespace FleetLocator.RowStore

/-- What may be done with a database: each of the first three allows what those before it allow, and
one that is kept in memory is nobody else's. -/
inductive Access
  | readOnly
  | readWrite
  | create
  | memory
  deriving DecidableEq, Repr

namespace Access

def ofLabel? : String → Option Access
  | "ro" => some readOnly
  | "rw" => some readWrite
  | "rwc" => some create
  | "memory" => some memory
  | _ => none

/-- Whether a name that asked for the first may go on to ask for the second. -/
def allows : Access → Access → Bool
  | _, memory | memory, _ | create, _ => true
  | readWrite, wanted => wanted == readOnly || wanted == readWrite
  | readOnly, wanted => wanted == readOnly

end Access

inductive LocationError
  | nulByte (place : Nat)
  | authority (text : String)
  | noMode (kind text : String)
  | notAllowed (mode : String)
  | noSystem (name : String)
  | cannotOpen (name : String)
  deriving DecidableEq, Repr

def LocationError.message : LocationError → String
  | nulByte place => "nul byte found in provided data at position: " ++ toString place
  | authority text => "invalid uri authority: " ++ text
  | noMode kind text => "no such " ++ kind ++ " mode: " ++ text
  | notAllowed mode => "access mode not allowed: " ++ mode
  | noSystem name => "no such vfs: " ++ name
  | cannotOpen name => "unable to open database file: " ++ name

/-- A path, what is wanted with the database there, and the file system that has it. -/
structure Location where
  path : List UInt8
  access : Access := .create
  system : String := "unix"
  deriving DecidableEq, Repr

namespace Location

/-- The file system that is none. -/
def memorySystem : String := "memdb"

def systems : List String := ["unix", "unix-none", "unix-dotfile", "unix-excl", memorySystem]

def inMemory : List UInt8 := Text.Utf8.encode ":memory:"

/-- Whether nothing remains of the database once it is closed. -/
def isVolatile (l : Location) : Bool :=
  l.path.isEmpty || l.path == inMemory || l.access == .memory || l.system == memorySystem

/-- Escapes stand for bytes, up to one for a zero. -/
def unescape (bytes : List UInt8) : List UInt8 := (Text.Percent.decode bytes).takeWhile (· ≠ 0)

def before (mark : UInt8) (bytes : List UInt8) : List UInt8 := bytes.takeWhile (· ≠ mark)

def after (mark : UInt8) (bytes : List UInt8) : List UInt8 := (bytes.dropWhile (· ≠ mark)).drop 1

def optionText (bytes : List UInt8) : String := Text.Utf8.decodeLossy (unescape bytes)

/-- The names and the values between ampersands. What has no name is no option. -/
def readOptions (bytes : List UInt8) : List (String × String) :=
  ((bytes.splitOnP (· == 0x26)).map fun part =>
    (optionText (before 0x3D part), optionText (after 0x3D part))).filter fun option => !option.1.isEmpty

def withOption (l : Location) (name value : String) : Except LocationError Location :=
  match name with
  | "vfs" => .ok { l with system := value }
  | "cache" => if value = "shared" ∨ value = "private" then .ok l else .error (.noMode "cache" value)
  | "mode" =>
    match Access.ofLabel? value with
    | none => .error (.noMode "access" value)
    | some wanted =>
      if l.access.allows wanted then .ok { l with access := wanted } else .error (.notAllowed value)
  | _ => .ok l

/-- The part of an address from its path on. A host before it is that of one's own machine. -/
def afterAuthority : List UInt8 → Except LocationError (List UInt8)
  | 0x2F :: 0x2F :: rest =>
    let host := Text.Utf8.decodeLossy (before 0x2F rest)
    if host = "" ∨ host = "localhost" then .ok (rest.dropWhile (· ≠ 0x2F)) else .error (.authority host)
  | rest => .ok rest

def readAddress (bytes : List UInt8) : Except LocationError Location := do
  let rest := before 0x23 (← afterAuthority bytes)
  let path := unescape (before 0x3F rest)
  let location ← (readOptions (after 0x3F rest)).foldlM
    (fun l option => l.withOption option.1 option.2) ⟨path, .create, "unix"⟩
  if systems.contains location.system then return location else throw (.noSystem location.system)

/-- A name is a path, or an address with the scheme of files. -/
def ofName (name : String) : Except LocationError Location :=
  let bytes := Text.Utf8.encode name
  if bytes.contains 0 then .error (.nulByte (before 0 bytes).length)
  else if (Text.Utf8.encode "file:").isPrefixOf bytes then readAddress (bytes.drop 5)
  else .ok { path := bytes }

end Location

/-- What is there on a machine before the first database is made. Places are absolute, without
a slash at the end. -/
structure Volume where
  /-- Where paths that do not begin with a slash begin. -/
  current : String
  /-- Directories in which files can be made. -/
  directories : List String
  /-- Directories in which none can be made. -/
  sealedDirectories : List String
  /-- Files that are no databases. -/
  files : List String
  deriving DecidableEq, Repr

inductive Entry
  | absent
  | directory
  | file
  | unreachable
  deriving DecidableEq, Repr

namespace Volume

/-- Goes on from a place to a part of a path: a single dot stays, and two dots go back. -/
def enter (place : List (List UInt8)) (part : List UInt8) : List (List UInt8) :=
  if part = [] ∨ part = [0x2E] then place
  else if part = [0x2E, 0x2E] then place.dropLast
  else place ++ [part]

/-- The parts of the place that a path leads to. -/
def resolve (v : Volume) (path : List UInt8) : List (List UInt8) :=
  let path := if path.head? = some 0x2F then path else Text.Utf8.encode v.current ++ 0x2F :: path
  (path.splitOnP (· == 0x2F)).foldl enter []

def placeText (place : List (List UInt8)) : List UInt8 := place.flatMap (0x2F :: ·)

def lists (places : List String) (place : List (List UInt8)) : Bool :=
  (places.map Text.Utf8.encode).contains (placeText place)

/-- A part of a path has at most this many bytes. -/
def partBound : Nat := 255

/-- A path has at most this many bytes. -/
def pathBound : Nat := 504

/-- What is at a path, or whether something can be made there. -/
def entry (v : Volume) (path : List UInt8) : Entry :=
  let place := v.resolve path
  if place.isEmpty || lists v.directories place || lists v.sealedDirectories place then .directory
  else if lists v.files place then .file
  else if lists ("" :: v.directories) place.dropLast && place.all (·.length ≤ partBound)
      && (placeText place).length ≤ pathBound then .absent
  else .unreachable

end Volume

end FleetLocator.RowStore
