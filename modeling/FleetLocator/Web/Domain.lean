import FleetLocator.Text.Normal
import FleetLocator.Text.Table
import FleetLocator.Text.Utf8
import FleetLocator.Web.Domain.Spelling

/-! # Names of hosts and their labels -/
namespace FleetLocator.Web.Punycode

def digit (n : Nat) : Char := Char.ofNat (if n < 26 then n + 0x61 else n + 0x16)

def digit? (c : Char) : Option Nat :=
  if 'a' ≤ c ∧ c ≤ 'z' then some (c.toNat - 0x61)
  else if 'A' ≤ c ∧ c ≤ 'Z' then some (c.toNat - 0x41)
  else if '0' ≤ c ∧ c ≤ '9' then some (c.toNat - 0x16)
  else none

/-- A digit below the threshold ends a number. -/
def threshold (place bias : Nat) : Nat := max 1 (min 26 (place - bias))

def reduce : Nat → Nat → Nat → Nat
  | 0, delta, bias => bias + 36 * delta / (delta + 38)
  | fuel + 1, delta, bias =>
    if 455 < delta then reduce fuel (delta / 35) (bias + 36) else bias + 36 * delta / (delta + 38)

/-- The bias for the next number, after `count` characters. -/
def adapt (first : Bool) (delta count : Nat) : Nat :=
  let delta := if first then delta / 700 else delta / 2
  reduce delta (delta + delta / count) 0

def writeNumber (bias : Nat) : Nat → Nat → Nat → List Char
  | 0, _, _ => []
  | fuel + 1, place, n =>
    let t := threshold place bias
    if n < t then [digit n]
    else digit (t + (n - t) % (36 - t)) :: writeNumber bias fuel (place + 36) ((n - t) / (36 - t))

structure Writer where
  output : List Char
  delta : Nat
  bias : Nat
  written : Nat

/-- Passes one character of the label when those with code `code` are written. -/
def Writer.pass (basic code : Nat) (w : Writer) (c : Char) : Writer :=
  if c.toNat < code then { w with delta := w.delta + 1 }
  else if c.toNat = code then {
    output := w.output ++ writeNumber w.bias (w.delta + 1) 36 w.delta
    delta := 0
    bias := adapt (w.written == basic) w.delta (w.written + 1)
    written := w.written + 1 }
  else w

def Writer.run (label : List Char) (basic : Nat) : List Nat → Nat → Writer → Writer
  | [], _, w => w
  | code :: codes, next, w =>
    let w := { w with delta := w.delta + (code - next) * (w.written + 1) }
    let w := label.foldl (Writer.pass basic code) w
    Writer.run label basic codes (code + 1) { w with delta := w.delta + 1 }

def isBasic (c : Char) : Bool := c.toNat < 0x80

def encode (label : List Char) : List Char :=
  let basic := label.filter isBasic
  let codes := (((label.filter fun c => !isBasic c).map Char.toNat).mergeSort).eraseDups
  let head := if basic.isEmpty then [] else basic ++ ['-']
  (Writer.run label basic.length codes 0x80 ⟨head, 0, 72, basic.length⟩).output

/-- Reads a number, its lowest digit first. The weights of the digits stay below `2 ^ 32`. -/
def readNumber (bias : Nat) : Nat → Nat → Nat → List Char → Option (Nat × List Char)
  | _, _, _, [] => none
  | place, weight, n, c :: rest =>
    match digit? c with
    | none => none
    | some d =>
      let t := threshold place bias
      if d < t then some (n + d * weight, rest)
      else if UInt32.size ≤ weight * (36 - t) then none
      else readNumber bias (place + 36) (weight * (36 - t)) (n + d * weight) rest

/-- Puts further characters into a label; each takes at least one digit, which bounds their number. -/
def insertAll : Nat → Nat → Nat → Nat → List Char → List Char → Option (List Char)
  | _, _, _, _, output, [] => some output
  | 0, _, _, _, _, _ :: _ => none
  | fuel + 1, bias, code, position, output, c :: rest =>
    match readNumber bias 36 1 position (c :: rest) with
    | none => none
    | some (n, rest) =>
      let count := output.length + 1
      let code := code + n / count
      if code.isValidChar then
        insertAll fuel (adapt (position == 0) (n - position) count) code (n % count + 1)
          (output.insertIdx (n % count) (Char.ofNat code)) rest
      else none

/-- The characters before the last hyphen stand for themselves. There is no hyphen if there are none. -/
def decode (text : List Char) : Option (List Char) :=
  let tail := (text.reverse.takeWhile (· != '-')).reverse
  let head := text.take (text.length - tail.length - 1)
  if head.isEmpty && tail.length < text.length then none else insertAll text.length 72 0x80 0 head tail

end FleetLocator.Web.Punycode

namespace FleetLocator.Web.Domain

open Text (Direction)

/-- Characters that mean something else in an address, and those that are not shown. -/
def isForbidden (c : Char) : Bool :=
  c.toNat ≤ 0x20 || c.toNat == 0x7F || "%#/:<>?@[\\]^|".toList.contains c

/-- What a label begins with that holds more than ASCII and is written in it. -/
def marker : List Char := "xn--".toList

/-- A label of other characters has at most this many. -/
def lengthBound : Nat := 1000

/-- A label is taken to pieces if at most this many characters follow its marker. -/
def writtenBound : Nat := 2000

namespace Label

/-- A sign that separates letters where they would be joined. -/
def nonJoiner : Char := '\u200C'

/-- A sign that joins letters where they would be separate. -/
def joiner : Char := '\u200D'

/-- Whether the nearest letter, marks left aside, is joined to what stands on this side of it. -/
def reaches (joins : Char → Bool) : List Char → Bool
  | [] => false
  | c :: rest => joins c || (Text.Joining.isTransparent c && reaches joins rest)

/-- A joiner needs a sign before it that leaves out a vowel; a non-joiner may also stand between two
letters that are joined. -/
def joinersFit : List Char → List Char → Bool
  | _, [] => true
  | before, c :: rest =>
    (if c = joiner ∨ c = nonJoiner then
      match before with
      | [] => false
      | previous :: _ =>
        Text.Normal.rank previous == Text.Normal.vowelKiller
          || (c == nonJoiner && reaches Text.Joining.joinsNext before
            && reaches Text.Joining.joinsPrevious rest)
    else true) && joinersFit (c :: before) rest

/-- Whether the characters may stand together in a label. -/
def isWellFormed (label : List Char) : Bool :=
  !(label.head?.map Text.isMark).getD false && joinersFit [] label && label.length ≤ lengthBound

/-- The characters of a label that is written in ASCII. They have to be spelled as they are. -/
def unmark (written : List Char) : Option (List Char) :=
  if written.isEmpty || !written.all Punycode.isBasic || written.getLast? = some '-'
      || writtenBound < written.length
  then none
  else
    match Punycode.decode written with
    | none => none
    | some label => if (spell label).map Text.Normal.compose = some label then some label else none

/-- The characters of a label in normal form. -/
def read (spelled : List Char) : Option (List Char) :=
  let label := if marker.isPrefixOf spelled then unmark (spelled.drop marker.length) else some spelled
  label.filter fun label => !label.any isForbidden && (label.all Punycode.isBasic || isWellFormed label)

/-- A label in ASCII. -/
def write (label : List Char) : List Char :=
  if label.all Punycode.isBasic then label else marker ++ Punycode.encode label

/-- Characters below this are written from left to right, or say nothing about it. -/
def firstRight : Nat := 0x590

def isRightward (c : Char) : Bool :=
  firstRight ≤ c.toNat && (Direction.ofChar c == .right || Direction.ofChar c == .arabicNumber)

/-- The directions of a label after its first character, marks at the end left aside. -/
def inside (rest : List Char) : List Direction :=
  ((rest.map Direction.ofChar).reverse.dropWhile (· == .mark)).reverse

/-- A label among whose neighbours one is written from right to left goes in one direction, which its
first character shows, and ends with a letter or a number. Only one sort of numbers stands among
characters that go from right to left. -/
def isOrderly : List Char → Bool
  | [] => true
  | c :: rest =>
    let inside := inside rest
    match Direction.ofChar c with
    | .left =>
      !inside.any (fun d => d == .right || d == .arabicNumber)
        && inside.getLast?.all fun d => d == .left || d == .europeanNumber
    | .right =>
      !inside.contains .left && !(inside.contains .europeanNumber && inside.contains .arabicNumber)
        && inside.getLast?.all fun d => d == .right || d == .europeanNumber || d == .arabicNumber
    | _ => false

end Label

/-- A name with its characters spelled plainly and composed, if all of them may occur. -/
def normalize (cs : List Char) : Option (List Char) :=
  if cs.all Punycode.isBasic then some (cs.map Char.toLower) else (spell cs).map Text.Normal.compose

/-- The labels of a name, between full stops. -/
def labels (cs : List Char) : Option (List (List Char)) :=
  (normalize cs).bind fun name => (name.splitOnP (· == '.')).mapM Label.read

/-- A name in ASCII. Each of its labels has one direction if one is written from right to left. -/
def toAscii (cs : List Char) : Option (List Char) :=
  match labels cs with
  | none => none
  | some labels =>
    if labels.any (·.any Label.isRightward) && !labels.all Label.isOrderly then none
    else some (['.'].intercalate (labels.map Label.write))

end FleetLocator.Web.Domain
