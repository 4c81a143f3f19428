import FleetLocator.Web.Domain
import FleetLocator.Web.Path

/-! # Hosts, by name or by number -/
namespace FleetLocator.Web.Numeric

def digitIn (base : Nat) (c : Char) : Option Nat :=
  let n :=
    if '0' ≤ c ∧ c ≤ '9' then c.toNat - 0x30
    else if 'a' ≤ c ∧ c ≤ 'f' then c.toNat - 0x57
    else if 'A' ≤ c ∧ c ≤ 'F' then c.toNat - 0x37
    else base
  if n < base then some n else none

def valueIn (base : Nat) (cs : List Char) : Option Nat :=
  cs.foldlM (fun n c => (digitIn base c).map fun d => n * base + d) 0

/-- A number with the marks of its base: `0x` for sixteen, and `0` for eight. -/
def readPart : List Char → Option Nat
  | [] => none
  | '0' :: 'x' :: rest | '0' :: 'X' :: rest => valueIn 16 rest
  | '0' :: c :: rest => valueIn 8 (c :: rest)
  | cs => valueIn 10 cs

/-- The labels of a name, of which an empty last one is of no account. -/
def parts (name : List Char) : List (List Char) :=
  let all := name.splitOnP (· == '.')
  if all.getLast? == some [] && 1 < all.length then all.dropLast else all

def endsInNumber (name : List Char) : Bool :=
  match (parts name).getLast? with
  | none => false
  | some last => (!last.isEmpty && last.all Char.isDigit) || (readPart last).isSome

/-- Up to four numbers: all but the last are bytes, and the last fills the bytes that remain. -/
def readFour (name : List Char) : Option Nat := do
  let numbers ← (parts name).mapM readPart
  let last ← numbers.getLast?
  let bytes := numbers.dropLast
  let room := Nat.pow 256 (4 - bytes.length)
  if bytes.length ≤ 3 ∧ bytes.all (· ≤ 255) ∧ last < room then
    return bytes.foldl (fun n b => n * 256 + b) 0 * room + last
  else none

def writeFour (address : Nat) : String :=
  ".".intercalate ([3, 2, 1, 0].map fun place => toString (address / Nat.pow 256 place % 256))

/-- The groups before and after the place where zeros are left out, if there is one. -/
structure Groups where
  head : List Nat := []
  tail : Option (List Nat) := none

namespace Groups

/-- How many groups are taken; those left out are at least one. -/
def size (g : Groups) : Nat := g.head.length + g.tail.elim 0 fun tail => tail.length + 1

def push (g : Groups) (n : Nat) : Groups :=
  match g.tail with
  | none => { g with head := g.head ++ [n] }
  | some tail => { g with tail := some (tail ++ [n]) }

def complete (g : Groups) : Option (List Nat) :=
  match g.tail with
  | none => if g.head.length = 8 then some g.head else none
  | some tail => some (g.head ++ List.replicate (8 - g.head.length - tail.length) 0 ++ tail)

end Groups

/-- A byte without leading zeros. -/
def readByte (cs : List Char) : Option Nat :=
  if cs.length > 1 ∧ cs.head? = some '0' then none else if cs.isEmpty then none
  else (valueIn 10 cs).filter (· ≤ 255)

/-- Two groups written as four bytes. -/
def readBytes (g : Groups) (cs : List Char) : Option Groups :=
  if 6 < g.size then none
  else
    match (cs.splitOnP (· == '.')).mapM readByte with
    | some [a, b, c, d] => some ((g.push (a * 256 + b)).push (c * 256 + d))
    | _ => none

/-- Groups of up to four hexadecimal digits between colons. -/
def readGroups : Nat → Groups → List Char → Option Groups
  | 0, _, _ => none
  | _ + 1, g, [] => some g
  | fuel + 1, g, c :: rest =>
    if g.size = 8 then none
    else if c = ':' then
      if g.tail.isSome then none else readGroups fuel { g with tail := some [] } rest
    else
      let digits := ((c :: rest).take 4).takeWhile fun d => (digitIn 16 d).isSome
      let group := g.push ((valueIn 16 digits).getD 0)
      match (c :: rest).drop digits.length with
      | [] => some group
      | ':' :: next => if next.isEmpty then none else readGroups fuel group next
      | '.' :: _ => if digits.isEmpty then none else readBytes g (c :: rest)
      | _ => none

def readEight (cs : List Char) : Option (List Nat) :=
  let start : Option (Groups × List Char) := match cs with
    | ':' :: ':' :: rest => some ({ tail := some [] }, rest)
    | ':' :: _ => none
    | [_] | [] => none
    | _ => some (({} : Groups), cs)
  (start.bind fun s => readGroups (cs.length + 1) s.1 s.2).bind Groups.complete

/-- The first place and the length of the longest run of zeros, the first if several are longest. -/
def longestRun (groups : List Nat) : Nat × Nat :=
  (List.range 8).foldl (fun best place =>
    let length := ((groups.drop place).takeWhile (· == 0)).length
    if best.2 < length then (place, length) else best) (0, 0)

def hexText (groups : List Nat) : String :=
  ":".intercalate (groups.map fun n => String.ofList (Nat.toDigits 16 n))

/-- The longest run of at least two zeros is left out. -/
def writeEight (groups : List Nat) : String :=
  let run := longestRun groups
  if run.2 < 2 then hexText groups
  else hexText (groups.take run.1) ++ "::" ++ hexText (groups.drop (run.1 + run.2))

end FleetLocator.Web.Numeric

namespace FleetLocator.Web

inductive UrlError
  | noScheme
  | emptyHost
  | portNumber
  | fourBytes
  | eightGroups
  | domain
  | hostCharacter
  deriving DecidableEq, Repr

def UrlError.message : UrlError → String
  | noScheme => "relative URL without a base"
  | emptyHost => "empty host"
  | portNumber => "invalid port number"
  | fourBytes => "invalid IPv4 address"
  | eightGroups => "invalid IPv6 address"
  | domain => "invalid international domain name"
  | hostCharacter => "invalid domain character"

namespace Host

def readBracketed (cs : List Char) : Except UrlError String :=
  match cs.reverse with
  | ']' :: inner =>
    match Numeric.readEight inner.reverse with
    | some groups => .ok ("[" ++ Numeric.writeEight groups ++ "]")
    | none => .error .eightGroups
  | _ => .error .eightGroups

def isBarred (c : Char) : Bool := c == '\x00' || "\t\n\r #/:<>?@[\\]^|".toList.contains c

/-- The host of a scheme that is not special is kept as it is. -/
def readPlain : List Char → Except UrlError String
  | '[' :: rest => readBracketed rest
  | cs => if cs.any isBarred then .error .hostCharacter else .ok (Reserved.escape Reserved.isControl cs)

def readSpecial : List Char → Except UrlError String
  | '[' :: rest => readBracketed rest
  | cs =>
    let name := (Text.Utf8.decode (Text.Percent.decode (cs.flatMap String.utf8EncodeChar))).bind
      fun s => Domain.toAscii s.toList
    match name with
    | none => .error .domain
    | some [] => .error .emptyHost
    | some name =>
      if Numeric.endsInNumber name then
        match Numeric.readFour name with
        | some address => .ok (Numeric.writeFour address)
        | none => .error .fourBytes
      else .ok (String.ofList name)

def read (special : Bool) (cs : List Char) : Except UrlError String :=
  if special then readSpecial cs else readPlain cs

/-- The characters up to a colon that stands outside brackets. -/
def beforePort (inside : Bool) : List Char → List Char
  | [] => []
  | c :: rest =>
    if c = ':' ∧ !inside then []
    else c :: beforePort (if c = '[' then true else if c = ']' then false else inside) rest

/-- The number of a port, unless it is the one that the scheme has anyway. -/
def readPort (scheme : Scheme) (digits : List Char) : Except UrlError (Option Nat) :=
  match Numeric.valueIn 10 digits with
  | none => .error .portNumber
  | some n =>
    if UInt16.size ≤ n then .error .portNumber
    else .ok (if digits.isEmpty ∨ some n = scheme.defaultPort? then none else some n)

end Host

end FleetLocator.Web
