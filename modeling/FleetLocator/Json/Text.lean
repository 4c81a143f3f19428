import FleetLocator.Text.Utf8

/-! # Texts in documents, and what can be wrong with a document -/
namespace FleetLocator.Json

inductive Problem
  | valueEnds
  | documentEnds
  | listEnds
  | textEnds
  | noValue
  | noWord
  | noColon
  | noFieldEnd
  | noItemEnd
  | trailingComma
  | trailingCharacters
  | keyNotText
  | badNumber
  | numberOutOfRange
  | badEscape
  | halfEscape
  | loneSurrogate
  | badCodePoint
  | controlCharacter
  | tooDeep
  deriving DecidableEq, Repr

def Problem.message : Problem → String
  | .valueEnds => "EOF while parsing a value"
  | .documentEnds => "EOF while parsing an object"
  | .listEnds => "EOF while parsing a list"
  | .textEnds => "EOF while parsing a string"
  | .noValue => "expected value"
  | .noWord => "expected ident"
  | .noColon => "expected `:`"
  | .noFieldEnd => "expected `,` or `\x7d`"
  | .noItemEnd => "expected `,` or `]`"
  | .trailingComma => "trailing comma"
  | .trailingCharacters => "trailing characters"
  | .keyNotText => "key must be a string"
  | .badNumber => "invalid number"
  | .numberOutOfRange => "number out of range"
  | .badEscape => "invalid escape"
  | .halfEscape => "unexpected end of hex escape"
  | .loneSurrogate => "lone leading surrogate in hex escape"
  | .badCodePoint => "invalid unicode code point"
  | .controlCharacter => "control character (\\u0000-\\u001F) found while parsing a string"
  | .tooDeep => "recursion limit exceeded"

/-- A problem, and the bytes that stand after the place where it shows. -/
structure Flaw where
  problem : Problem
  rest : List UInt8
  deriving DecidableEq, Repr

/-- The problem shows at the next byte, which counts as read. -/
def Flaw.atNext (problem : Problem) (rest : List UInt8) : Flaw := ⟨problem, rest.drop 1⟩

structure Position where
  line : Nat
  column : Nat
  deriving DecidableEq, Repr

/-- Lines count from one; the column counts the bytes read on the line. -/
def Position.after (read : List UInt8) : Position :=
  ⟨1 + read.count 10, (read.reverse.takeWhile (· ≠ 10)).length⟩

/-- The position in `input` at which `rest` remains. -/
def Position.at (input rest : List UInt8) : Position :=
  .after (input.take (input.length - rest.length))

def Position.suffix (p : Position) : String :=
  " at line " ++ toString p.line ++ " column " ++ toString p.column

def Flaw.position (flaw : Flaw) (input : List UInt8) : Position := .at input flaw.rest

def quote : UInt8 := 0x22
def backslash : UInt8 := 0x5C
def letterU : UInt8 := 0x75

/-- The byte that a letter after a backslash stands for. -/
def plainEscape (b : UInt8) : Option UInt8 :=
  if b = 0x22 ∨ b = 0x5C ∨ b = 0x2F then some b
  else if b = 0x62 then some 8
  else if b = 0x66 then some 12
  else if b = 0x6E then some 10
  else if b = 0x72 then some 13
  else if b = 0x74 then some 9
  else none

def fourHex (a b c d : UInt8) : Option Nat := do
  let w ← Text.Percent.hexValue a
  let x ← Text.Percent.hexValue b
  let y ← Text.Percent.hexValue c
  let z ← Text.Percent.hexValue d
  return ((w * 16 + x) * 16 + y) * 16 + z

def codeUnit : List UInt8 → Except Flaw (Nat × List UInt8)
  | a :: b :: c :: d :: rest =>
    match fourHex a b c d with
    | some n => .ok (n, rest)
    | none => .error ⟨.badEscape, rest⟩
  | _ => .error ⟨.textEnds, []⟩

def isLeading (n : Nat) : Bool := 0xD800 ≤ n && n ≤ 0xDBFF
def isTrailing (n : Nat) : Bool := 0xDC00 ≤ n && n ≤ 0xDFFF

/-- The second half of a pair, after the first half's digits. -/
def secondUnit : List UInt8 → Except Flaw (Nat × List UInt8)
  | [] => .error ⟨.textEnds, []⟩
  | b :: rest =>
    if b = backslash then
      match rest with
      | [] => .error ⟨.textEnds, []⟩
      | c :: rest => if c = letterU then codeUnit rest else .error ⟨.halfEscape, rest⟩
    else .error ⟨.halfEscape, rest⟩

/-- The character of an escape by code, and how many bytes it took after the backslash. -/
def byCode (rest : List UInt8) : Except Flaw (Char × Nat) :=
  match codeUnit rest with
  | .error flaw => .error flaw
  | .ok (n, rest) =>
    if isTrailing n then .error ⟨.loneSurrogate, rest⟩
    else if !isLeading n then .ok (Char.ofNat n, 5)
    else
      match secondUnit rest with
      | .error flaw => .error flaw
      | .ok (m, rest) =>
        if isTrailing m then .ok (Char.ofNat ((n - 0xD800) * 1024 + (m - 0xDC00) + 0x10000), 11)
        else .error ⟨.loneSurrogate, rest⟩

/-- The bytes an escape stands for, and how many bytes it took after the backslash. -/
def escape : List UInt8 → Except Flaw (List UInt8 × Nat)
  | [] => .error ⟨.textEnds, []⟩
  | b :: rest =>
    match plainEscape b with
    | some c => .ok ([c], 1)
    | none =>
      if b = letterU then (byCode rest).map fun found => (String.utf8EncodeChar found.1, found.2)
      else .error ⟨.badEscape, rest⟩

/-- The bytes of a text up to its closing quote; `skip` counts those already read in an escape. -/
def textBytes : Nat → List UInt8 → Except Flaw (List UInt8 × List UInt8)
  | _, [] => .error ⟨.textEnds, []⟩
  | skip + 1, _ :: rest => textBytes skip rest
  | 0, b :: rest =>
    if b = quote then .ok ([], rest)
    else if b = backslash then
      match escape rest with
      | .error flaw => .error flaw
      | .ok (out, width) => (textBytes width rest).map fun found => (out ++ found.1, found.2)
    else if b < 0x20 then .error ⟨.controlCharacter, rest⟩
    else (textBytes 0 rest).map fun found => (b :: found.1, found.2)

/-- A text after its opening quote. Bytes that are no UTF-8 are noticed behind the closing quote; the
place of the problem is as many bytes before that as the text has from the first such byte on. -/
def readText (input : List UInt8) : Except Flaw (String × List UInt8) :=
  match textBytes 0 input with
  | .error flaw => .error flaw
  | .ok (bytes, rest) =>
    match Text.Utf8.decode bytes with
    | some s => .ok (s, rest)
    | none =>
      let back := bytes.length - Text.Utf8.wellFormed (Text.Utf8.pieces 0 bytes)
      .error ⟨.badCodePoint, input.drop (input.length - rest.length - back)⟩

def skipEscape : List UInt8 → Except Flaw Nat
  | [] => .error ⟨.textEnds, []⟩
  | b :: rest =>
    if (plainEscape b).isSome then .ok 1
    else if b = letterU then (codeUnit rest).map fun _ => 5
    else .error ⟨.badEscape, rest⟩

/-- What stands after the closing quote of a text that nobody reads. -/
def skipText : Nat → List UInt8 → Except Flaw (List UInt8)
  | _, [] => .error ⟨.textEnds, []⟩
  | skip + 1, _ :: rest => skipText skip rest
  | 0, b :: rest =>
    if b = quote then .ok rest
    else if b = backslash then
      match skipEscape rest with
      | .error flaw => .error flaw
      | .ok width => skipText width rest
    else if b < 0x20 then .error ⟨.controlCharacter, b :: rest⟩
    else skipText 0 rest

def writeChar (c : Char) : List Char :=
  if c = '"' then ['\\', '"']
  else if c = '\\' then ['\\', '\\']
  else if c.toNat = 8 then ['\\', 'b']
  else if c.toNat = 12 then ['\\', 'f']
  else if c = '\n' then ['\\', 'n']
  else if c = '\r' then ['\\', 'r']
  else if c = '\t' then ['\\', 't']
  else if c.toNat < 0x20 then
    ['\\', 'u', '0', '0', Nat.digitChar (c.toNat / 16), Nat.digitChar (c.toNat % 16)]
  else [c]

def writeText (s : String) : List Char := '"' :: s.toList.flatMap writeChar ++ ['"']

end FleetLocator.Json
