import FleetLocator.Json.Number
import FleetLocator.Json.Text

/-! # Reading, writing and skipping values -/
namespace FleetLocator.Json

def isBlankByte (b : UInt8) : Bool := b == 0x20 || b == 0x0A || b == 0x09 || b == 0x0D

def skipBlank (input : List UInt8) : List UInt8 := input.dropWhile isBlankByte

/-- The remaining letters of a word. -/
def readWord : List UInt8 → List UInt8 → Except Flaw (List UInt8)
  | [], input => .ok input
  | _ :: _, [] => .error ⟨.valueEnds, []⟩
  | letter :: letters, b :: rest => if b = letter then readWord letters rest else .error ⟨.noWord, rest⟩

def wordNull : List UInt8 := [0x75, 0x6C, 0x6C]
def wordTrue : List UInt8 := [0x72, 0x75, 0x65]
def wordFalse : List UInt8 := [0x61, 0x6C, 0x73, 0x65]

def readColon (input : List UInt8) : Except Flaw (List UInt8) :=
  match skipBlank input with
  | [] => .error ⟨.documentEnds, []⟩
  | b :: rest => if b = 0x3A then .ok rest else .error ⟨.noColon, rest⟩

/-- What the next step inside brackets is: the end, or a further part. -/
inductive Next
  | done (rest : List UInt8)
  | more (rest : List UInt8)

/-- The next item of a list, before which a comma stands unless it is the first. -/
def nextItem (first : Bool) (input : List UInt8) : Except Flaw Next :=
  match skipBlank input with
  | [] => .error ⟨.listEnds, []⟩
  | b :: rest =>
    if b = 0x5D then .ok (.done rest)
    else if first then .ok (.more (b :: rest))
    else if b = 0x2C then
      match skipBlank rest with
      | [] => .error ⟨.valueEnds, []⟩
      | c :: rest => if c = 0x5D then .error ⟨.trailingComma, rest⟩ else .ok (.more (c :: rest))
    else .error ⟨.noItemEnd, rest⟩

/-- The next name of a document, after its opening quote. -/
def nextName (first : Bool) (input : List UInt8) : Except Flaw Next :=
  match skipBlank input with
  | [] => .error ⟨.documentEnds, []⟩
  | b :: rest =>
    if b = 0x7D then .ok (.done rest)
    else if first then
      if b = quote then .ok (.more rest) else .error ⟨.keyNotText, rest⟩
    else if b = 0x2C then
      match skipBlank rest with
      | [] => .error ⟨.valueEnds, []⟩
      | c :: rest =>
        if c = quote then .ok (.more rest)
        else if c = 0x7D then .error ⟨.trailingComma, rest⟩
        else .error ⟨.keyNotText, rest⟩
    else .error ⟨.noFieldEnd, rest⟩

mutual

/-- A value that may hold brackets `depth - 1` deep. Every second step takes a byte, so twice the
length of the input is fuel enough. -/
def readValue : Nat → Nat → List UInt8 → Except Flaw (Value × List UInt8)
  | 0, _, _ => .error ⟨.tooDeep, []⟩
  | fuel + 1, depth, input =>
    match skipBlank input with
    | [] => .error ⟨.valueEnds, []⟩
    | b :: rest =>
      if b = 0x6E then (readWord wordNull rest).map fun rest => (.null, rest)
      else if b = 0x74 then (readWord wordTrue rest).map fun rest => (.bool true, rest)
      else if b = 0x66 then (readWord wordFalse rest).map fun rest => (.bool false, rest)
      else if b = 0x2D then (readNumber false rest).map fun found => (.number found.1, found.2)
      else if isDigit b then (readNumber true (b :: rest)).map fun found => (.number found.1, found.2)
      else if b = quote then (readText rest).map fun found => (.text found.1, found.2)
      else if b = 0x5B then
        if depth ≤ 1 then .error ⟨.tooDeep, rest⟩
        else (readItems fuel (depth - 1) true rest).map fun found => (.list found.1, found.2)
      else if b = 0x7B then
        if depth ≤ 1 then .error ⟨.tooDeep, rest⟩
        else (readFields fuel (depth - 1) true [] rest).map fun found => (.document found.1, found.2)
      else .error ⟨.noValue, rest⟩

def readItems : Nat → Nat → Bool → List UInt8 → Except Flaw (List Value × List UInt8)
  | 0, _, _, _ => .error ⟨.tooDeep, []⟩
  | fuel + 1, depth, first, input =>
    match nextItem first input with
    | .error flaw => .error flaw
    | .ok (.done rest) => .ok ([], rest)
    | .ok (.more rest) =>
      match readValue fuel depth rest with
      | .error flaw => .error flaw
      | .ok (value, rest) =>
        (readItems fuel depth false rest).map fun found => (value :: found.1, found.2)

/-- Each field joins those before it; a name that comes again takes its later value. -/
def readFields : Nat → Nat → Bool → List (String × Value) → List UInt8 →
    Except Flaw (List (String × Value) × List UInt8)
  | 0, _, _, _, _ => .error ⟨.tooDeep, []⟩
  | fuel + 1, depth, first, fields, input =>
    match nextName first input with
    | .error flaw => .error flaw
    | .ok (.done rest) => .ok (fields, rest)
    | .ok (.more rest) =>
      match readText rest with
      | .error flaw => .error flaw
      | .ok (name, rest) =>
        match readColon rest with
        | .error flaw => .error flaw
        | .ok rest =>
          match readValue fuel depth rest with
          | .error flaw => .error flaw
          | .ok (value, rest) => readFields fuel depth false (insertField name value fields) rest

end

/-- Brackets may be nested this deep, less one. -/
def depthLimit : Nat := 128

/-- One value and nothing after it but blanks. -/
def read (input : List UInt8) : Except Flaw Value :=
  match readValue (2 * input.length + 2) depthLimit input with
  | .error flaw => .error flaw
  | .ok (value, rest) =>
    match skipBlank rest with
    | [] => .ok value
    | _ :: rest => .error ⟨.trailingCharacters, rest⟩

mutual

def writeValue : Value → List Char
  | .null => "null".toList
  | .bool b => (if b then "true" else "false").toList
  | .number n => n.write.toList
  | .text s => writeText s
  | .list items => '[' :: writeItems items ++ [']']
  | .document fields => '\x7b' :: writeFields fields ++ ['\x7d']

def writeItems : List Value → List Char
  | [] => []
  | [value] => writeValue value
  | value :: rest => writeValue value ++ ',' :: writeItems rest

def writeFields : List (String × Value) → List Char
  | [] => []
  | [(name, value)] => writeText name ++ ':' :: writeValue value
  | (name, value) :: rest => writeText name ++ ':' :: writeValue value ++ ',' :: writeFields rest

end

def Value.render (v : Value) : String := String.ofList (writeValue v)

def Document.render (d : Document) : String := (Value.document d.fields).render

inductive Bracket
  | list
  | document
  deriving DecidableEq, Repr

namespace Bracket

def closing : Bracket → UInt8
  | list => 0x5D
  | document => 0x7D

def unended : Bracket → Problem
  | list => .listEnds
  | document => .documentEnds

def noEnd : Bracket → Problem
  | list => .noItemEnd
  | document => .noFieldEnd

end Bracket

/-- The brackets that are still open and the rest of the input, or only the rest once all are closed. -/
inductive Gap
  | closed (rest : List UInt8)
  | next (inner : Bracket) (outer : List Bracket) (rest : List UInt8)

/-- Goes on after a value, or after an opening bracket, where no comma may stand. -/
def closeBrackets (afterValue : Bool) : List Bracket → List UInt8 → Except Flaw Gap
  | [], input => .ok (.closed input)
  | inner :: outer, input =>
    match skipBlank input with
    | [] => .error ⟨inner.unended, []⟩
    | b :: rest =>
      if b = 0x2C ∧ afterValue then .ok (.next inner outer rest)
      else if b = inner.closing then closeBrackets true outer rest
      else if afterValue then .error ⟨inner.noEnd, rest⟩
      else .ok (.next inner outer (b :: rest))

/-- The name and the colon before the next value of a document. -/
def skipName (input : List UInt8) : Except Flaw (List UInt8) :=
  match skipBlank input with
  | [] => .error ⟨.documentEnds, []⟩
  | b :: rest =>
    if b = quote then
      match skipText 0 rest with
      | .error flaw => .error flaw
      | .ok rest => readColon rest
    else .error ⟨.keyNotText, rest⟩

/-- A value without parts, or the bracket that opens one with parts. -/
def skipHead (input : List UInt8) : Except Flaw (Option Bracket × List UInt8) :=
  match skipBlank input with
  | [] => .error ⟨.valueEnds, []⟩
  | b :: rest =>
    if b = 0x6E then (readWord wordNull rest).map fun rest => (none, rest)
    else if b = 0x74 then (readWord wordTrue rest).map fun rest => (none, rest)
    else if b = 0x66 then (readWord wordFalse rest).map fun rest => (none, rest)
    else if b = 0x2D then (skipNumber rest).map fun rest => (none, rest)
    else if isDigit b then (skipNumber (b :: rest)).map fun rest => (none, rest)
    else if b = quote then (skipText 0 rest).map fun rest => (none, rest)
    else if b = 0x5B then .ok (some .list, rest)
    else if b = 0x7B then .ok (some .document, rest)
    else .error ⟨.noValue, rest⟩

/-- Passes over one value and whatever the open brackets still hold. -/
def skipOpen : Nat → List Bracket → List UInt8 → Except Flaw (List UInt8)
  | 0, _, input => .error ⟨.valueEnds, input⟩
  | fuel + 1, brackets, input =>
    match skipHead input with
    | .error flaw => .error flaw
    | .ok (opened, rest) =>
      let gap := match opened with
        | some bracket => closeBrackets false (bracket :: brackets) rest
        | none => closeBrackets true brackets rest
      match gap with
      | .error flaw => .error flaw
      | .ok (.closed rest) => .ok rest
      | .ok (.next .list outer rest) => skipOpen fuel (.list :: outer) rest
      | .ok (.next .document outer rest) =>
        match skipName rest with
        | .error flaw => .error flaw
        | .ok rest => skipOpen fuel (.document :: outer) rest

/-- What follows a value, whose brackets may be nested to any depth. Each round takes a byte. -/
def skipValue (input : List UInt8) : Except Flaw (List UInt8) := skipOpen (input.length + 1) [] input

end FleetLocator.Json
