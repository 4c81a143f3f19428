import FleetLocator.Text.Utf8

/-! # Schemes and paths of addresses -/
namespace FleetLocator.Web

/-- The scheme of an address in small letters. -/
abbrev Scheme := String

namespace Scheme

def file : Scheme := "file"

def defaultPort? : Scheme → Option Nat
  | "http" | "ws" => some 80
  | "https" | "wss" => some 443
  | "ftp" => some 21
  | _ => none

/-- Addresses of a special scheme have a host, or stand for a file. -/
def isSpecial (scheme : Scheme) : Bool := (defaultPort? scheme).isSome || scheme == file

/-- Where the scheme is special, a backslash is a slash too. -/
def isSlash (special : Bool) (c : Char) : Bool := c == '/' || (special && c == '\\')

end Scheme

end FleetLocator.Web

namespace FleetLocator.Web.Reserved

def isControl (c : Char) : Bool := c.toNat < 0x20 || c.toNat == 0x7F

def inFragment (c : Char) : Bool := isControl c || " \"<>\u0060".toList.contains c

def inPath (c : Char) : Bool := inFragment c || "#?\x7b\x7d".toList.contains c

def inSegment (special : Bool) (c : Char) : Bool :=
  inPath c || c == '/' || c == '%' || (special && c == '\\')

def inUserinfo (c : Char) : Bool := inPath c || "/:;=@[\\]^|".toList.contains c

def inQuery (special : Bool) (c : Char) : Bool :=
  isControl c || " \"#<>".toList.contains c || (special && c == '\'')

def escape (reserved : Char → Bool) (cs : List Char) : String :=
  String.ofList (Text.Percent.encode reserved cs)

end FleetLocator.Web.Reserved

namespace FleetLocator.Web

/-- Text that is not divided, or segments, each after a slash. -/
inductive UrlPath
  | opaquePath (text : String)
  | segments (list : List String)
  deriving DecidableEq, Repr

namespace UrlPath

/-- Whether there are segments, so that one can be added. -/
def isDivided : UrlPath → Bool
  | opaquePath _ => false
  | segments _ => true

def text : UrlPath → String
  | opaquePath text => text
  | segments list => String.join (list.map fun s => "/" ++ s)

/-- Whether the text begins with two slashes, as if a host came. -/
def looksHosted : UrlPath → Bool
  | segments ("" :: _ :: _) => true
  | _ => false

def isDot (segment : String) : Bool :=
  [".", "%2e"].contains (String.ofList (segment.toList.map Char.toLower))

def isDoubleDot (segment : String) : Bool :=
  ["..", ".%2e", "%2e.", "%2e%2e"].contains (String.ofList (segment.toList.map Char.toLower))

/-- The letter of a drive, and a colon or a bar. -/
def isDrive (cs : List Char) : Bool :=
  match cs with
  | [letter, mark] => letter.isAlpha && (mark == ':' || mark == '|')
  | _ => false

/-- A drive is never left, even if a backslash follows it in its segment. -/
def holdsDrive (segment : String) : Bool := isDrive (segment.toList.takeWhile (· != '\\'))

/-- The drive that the path of a file begins with has a colon. -/
def withColon (segment : String) : String :=
  if isDrive segment.toList then String.ofList (segment.toList.take 1 ++ [':']) else segment

/-- One segment back. -/
def leave (before : List String) : List String :=
  if (before.getLast?.map holdsDrive).getD false then before else before.dropLast

/-- Goes on to a further segment; two dots take the last one away, and one stands for nothing. -/
def enter (last : Bool) (before : List String) (segment : String) : List String :=
  if isDoubleDot segment then leave before ++ (if last then [""] else [])
  else if isDot segment then before ++ (if last then [""] else [])
  else before ++ [segment]

def enterAll : List String → List String → List String
  | before, [] => before
  | before, [s] => enter true before s
  | before, s :: rest => enterAll (enter false before s) rest

/-- The segments of a text after its first slash. -/
def readSegments (scheme : Scheme) (cs : List Char) : List String :=
  enterAll [] ((cs.splitOnP (Scheme.isSlash scheme.isSpecial)).map (Reserved.escape Reserved.inPath))

def isIgnored (c : Char) : Bool := c == '\t' || c == '\n' || c == '\r'

def skipIgnored (cs : List Char) : List Char := cs.dropWhile isIgnored

def withoutIgnored (cs : List Char) : List Char := cs.filter fun c => !isIgnored c

/-- A drive, and the rest of a segment that something of no account divides from it. -/
def partDrive (cs : List Char) : Option (String × List Char) :=
  match skipIgnored cs with
  | letter :: rest =>
    match skipIgnored rest with
    | ':' :: rest =>
      let more := withoutIgnored rest
      if letter.isAlpha && (rest.head?.map isIgnored).getD false && !more.isEmpty then
        some (String.ofList [letter, ':'], more)
      else none
    | _ => none
  | [] => none

/-- The segments of a file so far, and whether the first of them was given as a drive. -/
structure FileWalk where
  onDrive : Bool := false
  segments : List String := []

/-- Goes on to a further segment. What is divided from a drive in the first one is a segment too,
whatever it is. -/
def FileWalk.enter (last : Bool) (w : FileWalk) (cs : List Char) : FileWalk :=
  let segment := Reserved.escape Reserved.inPath (withoutIgnored cs)
  if w.segments.isEmpty then
    match partDrive cs with
    | some (drive, more) => { w with segments := [drive, Reserved.escape Reserved.inPath more] }
    | none => ⟨isDrive segment.toList, UrlPath.enter last [] (withColon segment)⟩
  else { w with segments := UrlPath.enter last w.segments segment }

def FileWalk.enterAll : FileWalk → List (List Char) → FileWalk
  | w, [] => w
  | w, [cs] => w.enter true cs
  | w, cs :: rest => FileWalk.enterAll (w.enter false cs) rest

/-- The segments of a file after the first slash. -/
def walkFile (cs : List Char) : FileWalk := FileWalk.enterAll {} (cs.splitOnP (Scheme.isSlash true))

/-- A path with one more segment that spells a text. The path of a single slash has none; dots alone
are left out. -/
def appendSegment (scheme : Scheme) (before : List String) (text : String) : List String :=
  if text = "." ∨ text = ".." then before
  else
    let spelled := Reserved.escape (Reserved.inSegment scheme.isSpecial) (withoutIgnored text.toList)
    let before := if before = [""] then [] else before
    enter true before (if scheme == Scheme.file && before.isEmpty then withColon spelled else spelled)

/-- A trailing slash is dropped, unless it is all there is. -/
def popIfEmpty (list : List String) : List String :=
  if 1 < list.length ∧ list.getLast? = some "" then list.dropLast else list

def append (scheme : Scheme) (texts : List String) : UrlPath → UrlPath
  | opaquePath text => opaquePath text
  | segments list => segments (texts.foldl (appendSegment scheme) (popIfEmpty list))

end UrlPath

end FleetLocator.Web
