import FleetLocator.Text.Utf8

/-! # Reading and writing messages -/
namespace FleetLocator.Wire.Varint

/-- Every byte but the last has its highest bit set. -/
def encode (n : Nat) : List UInt8 :=
  if n < 128 then [UInt8.ofNat n] else UInt8.ofNat (n % 128 + 128) :: encode (n / 128)
termination_by n
decreasing_by omega

/-- A number of at most so many bytes, and what follows it. -/
def decodeWithin : Nat → List UInt8 → Option (Nat × List UInt8)
  | 0, _ => none
  | _ + 1, [] => none
  | bytes + 1, b :: rest =>
    if b < 128 then some (b.toNat, rest)
    else (decodeWithin bytes rest).map fun found => (b.toNat - 128 + 128 * found.1, found.2)

/-- A number of 64 bits. -/
def decode (input : List UInt8) : Option (Nat × List UInt8) :=
  (decodeWithin 10 input).filter fun found => found.1 < UInt64.size

end FleetLocator.Wire.Varint

namespace FleetLocator.Wire

inductive Shape
  | varint
  | sixtyFourBit
  | lengthDelimited
  | startGroup
  | endGroup
  | thirtyTwoBit
  deriving DecidableEq, Repr

namespace Shape

def name : Shape → String
  | varint => "Varint"
  | sixtyFourBit => "SixtyFourBit"
  | lengthDelimited => "LengthDelimited"
  | startGroup => "StartGroup"
  | endGroup => "EndGroup"
  | thirtyTwoBit => "ThirtyTwoBit"

def number : Shape → Nat
  | varint => 0
  | sixtyFourBit => 1
  | lengthDelimited => 2
  | startGroup => 3
  | endGroup => 4
  | thirtyTwoBit => 5

def ofNumber? : Nat → Option Shape
  | 0 => some varint
  | 1 => some sixtyFourBit
  | 2 => some lengthDelimited
  | 3 => some startGroup
  | 4 => some endGroup
  | 5 => some thirtyTwoBit
  | _ => none

@[simp] theorem ofNumber?_number (s : Shape) : ofNumber? s.number = some s := by cases s <;> rfl

end Shape

inductive Cause
  | badVarint
  | badKey (key : Nat)
  | badShape (number : Nat)
  | numberZero
  | unexpectedShape (found expected : Shape)
  | tooShort
  | notText
  | strayGroupEnd
  | tooDeep
  deriving DecidableEq, Repr

def Cause.message : Cause → String
  | badVarint => "invalid varint"
  | badKey key => "invalid key value: " ++ toString key
  | badShape number => "invalid wire type value: " ++ toString number
  | numberZero => "invalid tag value: 0"
  | unexpectedShape found expected =>
    "invalid wire type: " ++ found.name ++ " (expected " ++ expected.name ++ ")"
  | tooShort => "buffer underflow"
  | notText => "invalid string value: data is not UTF-8 encoded"
  | strayGroupEnd => "unexpected end group tag"
  | tooDeep => "recursion limit reached"

/-- What is wrong with some bytes, and in which field of which message if in one. -/
structure Flaw where
  field : Option (String × String)
  cause : Cause
  deriving DecidableEq, Repr

def Flaw.message (flaw : Flaw) : String :=
  "failed to decode Protobuf message: " ++
    (flaw.field.elim "" fun f => f.1 ++ "." ++ f.2 ++ ": ") ++ flaw.cause.message

structure Key where
  number : Nat
  shape : Shape
  deriving DecidableEq, Repr

def encodeKey (k : Key) : List UInt8 := Varint.encode (8 * k.number + k.shape.number)

def decodeVarint (input : List UInt8) : Except Cause (Nat × List UInt8) :=
  match Varint.decode input with
  | some found => .ok found
  | none => .error .badVarint

/-- Numbers of fields begin at one. -/
def decodeKey (input : List UInt8) : Except Cause (Key × List UInt8) :=
  match decodeVarint input with
  | .error cause => .error cause
  | .ok (key, rest) =>
    if UInt32.size ≤ key then .error (.badKey key)
    else match Shape.ofNumber? (key % 8) with
      | none => .error (.badShape (key % 8))
      | some shape => if key / 8 = 0 then .error .numberZero else .ok (⟨key / 8, shape⟩, rest)

def takeBytes (n : Nat) (input : List UInt8) : Except Cause (List UInt8 × List UInt8) :=
  if n ≤ input.length then .ok (input.take n, input.drop n) else .error .tooShort

def expectShape (found expected : Shape) : Except Cause Unit :=
  if found = expected then .ok () else .error (.unexpectedShape found expected)

def readText (shape : Shape) (input : List UInt8) : Except Cause (String × List UInt8) := do
  expectShape shape .lengthDelimited
  let (length, rest) ← decodeVarint input
  let (bytes, rest) ← takeBytes length rest
  match Text.Utf8.decode bytes with
  | some s => .ok (s, rest)
  | none => .error .notText

def fromLittleEndian (bytes : List UInt8) : Nat :=
  bytes.foldr (fun b n => b.toNat + 256 * n) 0

def readDouble (shape : Shape) (input : List UInt8) : Except Cause (Float × List UInt8) := do
  expectShape shape .sixtyFourBit
  let (bytes, rest) ← takeBytes 8 input
  .ok (Float.ofBits (UInt64.ofNat (fromLittleEndian bytes)), rest)

/-- The low 32 bits of a number. -/
def readInt32 (shape : Shape) (input : List UInt8) : Except Cause (Int32 × List UInt8) := do
  expectShape shape .varint
  let (n, rest) ← decodeVarint input
  .ok (Int32.ofNat n, rest)

mutual

/-- What follows a value that nobody reads. Groups may be nested `depth` deep; each step but the first
of a group takes a byte, so twice the length of the input is fuel enough. -/
def skipValue : Nat → Nat → Key → List UInt8 → Except Cause (List UInt8)
  | 0, _, _, _ => .error .tooDeep
  | fuel + 1, depth, key, input =>
    if depth = 0 then .error .tooDeep
    else match key.shape with
      | .varint => (decodeVarint input).map Prod.snd
      | .thirtyTwoBit => (takeBytes 4 input).map Prod.snd
      | .sixtyFourBit => (takeBytes 8 input).map Prod.snd
      | .lengthDelimited => do
        let (length, rest) ← decodeVarint input
        (takeBytes length rest).map Prod.snd
      | .startGroup => skipGroup fuel depth key.number input
      | .endGroup => .error .strayGroupEnd

def skipGroup : Nat → Nat → Nat → List UInt8 → Except Cause (List UInt8)
  | 0, _, _, _ => .error .tooDeep
  | fuel + 1, depth, number, input =>
    match decodeKey input with
    | .error cause => .error cause
    | .ok (key, rest) =>
      if key.shape = .endGroup then
        if key.number = number then .ok rest else .error .strayGroupEnd
      else
        match skipValue fuel (depth - 1) key rest with
        | .error cause => .error cause
        | .ok rest => skipGroup fuel depth number rest

end

def depthLimit : Nat := 100

/-- A field of a message of type `α`: how its value is read and what it does to the message. -/
structure Field (α : Type) where
  number : Nat
  name : String
  merge : α → Shape → List UInt8 → Except Cause (α × List UInt8)

namespace Field

variable {α : Type}

def text (number : Nat) (name : String) (set : String → α → α) : Field α :=
  ⟨number, name, fun a shape input => (readText shape input).map fun found => (set found.1 a, found.2)⟩

def double (number : Nat) (name : String) (set : Float → α → α) : Field α :=
  ⟨number, name, fun a shape input => (readDouble shape input).map fun found => (set found.1 a, found.2)⟩

def int32 (number : Nat) (name : String) (set : Int32 → α → α) : Field α :=
  ⟨number, name, fun a shape input => (readInt32 shape input).map fun found => (set found.1 a, found.2)⟩

end Field

/-- A kind of message: its name, the message without any field, and the fields it knows. -/
structure Schema (α : Type) where
  name : String
  initial : α
  fields : List (Field α)

namespace Schema

variable {α : Type} (schema : Schema α)

/-- Reads one field into the message; a field that the schema does not know is skipped. -/
def step (a : α) (key : Key) (input : List UInt8) : Except Flaw (α × List UInt8) :=
  match schema.fields.find? fun f => f.number == key.number with
  | some f =>
    match f.merge a key.shape input with
    | .ok found => .ok found
    | .error cause => .error ⟨some (schema.name, f.name), cause⟩
  | none =>
    match skipValue (2 * input.length + 2) depthLimit key input with
    | .ok rest => .ok (a, rest)
    | .error cause => .error ⟨none, cause⟩

/-- Reads fields to the end. Each takes at least the byte of its key, which bounds their number. -/
def run : Nat → α → List UInt8 → Except Flaw α
  | _, a, [] => .ok a
  | 0, a, _ :: _ => .ok a
  | fuel + 1, a, b :: rest =>
    match decodeKey (b :: rest) with
    | .error cause => .error ⟨none, cause⟩
    | .ok (key, rest) =>
      match schema.step a key rest with
      | .error flaw => .error flaw
      | .ok (a, rest) => run fuel a rest

/-- A message; of a field that comes more than once the last value counts. -/
def decode (input : List UInt8) : Except Flaw α := schema.run input.length schema.initial input

end Schema

inductive Value
  | text (s : String)
  | double (x : Float)
  | integer (n : Int64)
  | flag (b : Bool)
  | message (fields : List (Nat × Value))

/-- A value that a message does not mention, since it is what a reader assumes. -/
def Value.isDefault : Value → Bool
  | text s => s.isEmpty
  | double x => x == 0
  | integer n => n == 0
  | flag b => !b
  | message _ => false

def littleEndian (bytes : Nat) (n : Nat) : List UInt8 :=
  (List.range bytes).map fun i => UInt8.ofNat (n / Nat.pow 256 i)

def delimited (bytes : List UInt8) : List UInt8 := Varint.encode bytes.length ++ bytes

mutual

def Value.encode (number : Nat) : Value → List UInt8
  | .text s => encodeKey ⟨number, .lengthDelimited⟩ ++ delimited (Text.Utf8.encode s)
  | .double x => encodeKey ⟨number, .sixtyFourBit⟩ ++ littleEndian 8 x.toBits.toNat
  | .integer n => encodeKey ⟨number, .varint⟩ ++ Varint.encode n.toUInt64.toNat
  | .flag b => encodeKey ⟨number, .varint⟩ ++ [if b then 1 else 0]
  | .message fields => encodeKey ⟨number, .lengthDelimited⟩ ++ delimited (encodeFields fields)

/-- The fields of a message in the order given, without those that have their default. -/
def encodeFields : List (Nat × Value) → List UInt8
  | [] => []
  | (number, value) :: rest =>
    if value.isDefault then encodeFields rest else value.encode number ++ encodeFields rest

end

end FleetLocator.Wire
