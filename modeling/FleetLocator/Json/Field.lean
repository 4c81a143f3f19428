import FleetLocator.Json.Reader

/-! # Fields of a document at a wanted kind -/
namespace FleetLocator.Json

/-- A type whose values can be read from a field and written into one. -/
class FieldValue (α : Type) where
  ofValue? : Value → Option α
  toValue : α → Value

def Number.toFloat : Number → Float
  | .natural n => n.toFloat
  | .negative n => Decimal.ofInt64 n
  | .real x => x

/-- The number itself if it is an integer of 64 bits, one of them for the sign. -/
def Number.whole? : Number → Option Int64
  | .natural n => if n < 0x8000000000000000 then some n.toInt64 else none
  | .negative n => some n
  | .real _ => none

/-- The number as a double, cut off toward zero, or the nearest integer that fits. -/
def Number.cutOff? (n : Number) : Option Int64 :=
  (Decimal.Dyadic.ofFloat n.toFloat).map fun d => Decimal.saturate d.truncate

/-- Only what is no integer of 64 bits goes by way of a double. -/
def Number.toInt64? (n : Number) : Option Int64 := n.whole? <|> n.cutOff?

def Number.ofInt64 (n : Int64) : Number :=
  if n < 0 then .negative n else .natural (UInt64.ofNat n.toInt.toNat)

def Value.text? : Value → Option String
  | .text s => some s
  | _ => none

def Value.number? : Value → Option Number
  | .number n => some n
  | _ => none

def Value.bool? : Value → Option Bool
  | .bool b => some b
  | _ => none

def Value.document? : Value → Option Document
  | .document fields => some ⟨fields⟩
  | _ => none

def Value.list? : Value → Option (List Value)
  | .list items => some items
  | _ => none

instance : FieldValue String := ⟨Value.text?, .text⟩

/-- What is not finite has no number and is written as null. -/
instance : FieldValue Float :=
  ⟨fun v => v.number?.map Number.toFloat, fun x => if x.isFinite then .number (.real x) else .null⟩

instance : FieldValue Int64 :=
  ⟨fun v => v.number?.bind Number.toInt64?, fun n => .number (.ofInt64 n)⟩

instance : FieldValue Bool := ⟨Value.bool?, .bool⟩

instance : FieldValue Document := ⟨Value.document?, fun d => .document d.fields⟩

/-- Items that are no documents are left out. -/
instance : FieldValue (List Document) :=
  ⟨fun v => v.list?.map fun items => items.filterMap Value.document?,
    fun documents => .list (documents.map fun d => .document d.fields)⟩

def Value.isNull : Value → Bool
  | .null => true
  | _ => false

namespace Document

variable {α : Type} [FieldValue α]

/-- None if the field is absent, null, or of another kind. -/
def optional (α : Type) [FieldValue α] (d : Document) (name : String) : Option α :=
  (d.get? name).bind fun v => if v.isNull then none else FieldValue.ofValue? v

def field (d : Document) (name : String) (default : α) : α := (d.optional α name).getD default

def put (d : Document) (name : String) (value : α) : Document := d.insert name (FieldValue.toValue value)

/-- An absent value is written as null, so the name is there in any case. -/
def putOptional (d : Document) (name : String) (value : Option α) : Document :=
  d.insert name (value.elim .null FieldValue.toValue)

end Document

inductive DocumentError
  | unreadable (problem : Problem) (position : Position)
  | notDocument (kind : String)
  deriving DecidableEq, Repr

def DocumentError.message : DocumentError → String
  | .unreadable problem position => "invalid json: " ++ problem.message ++ position.suffix
  | .notDocument kind => "expected a json object, got " ++ kind

def Document.parse (input : List UInt8) : Except DocumentError Document :=
  match read input with
  | .error flaw => .error (.unreadable flaw.problem (flaw.position input))
  | .ok (.document fields) => .ok ⟨fields⟩
  | .ok other => .error (.notDocument other.kind)

end FleetLocator.Json
