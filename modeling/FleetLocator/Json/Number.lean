import FleetLocator.Decimal.Binary64
import FleetLocator.Json.Text

/-! # Values of documents, and how their numbers are read and written -/
namespace FleetLocator.Json

inductive Number
  | natural (n : UInt64)
  | negative (n : Int64)
  | real (x : Float)
  deriving DecidableEq, Repr

inductive Value
  | null
  | bool (b : Bool)
  | number (n : Number)
  | text (s : String)
  | list (items : List Value)
  | document (fields : List (String × Value))
  deriving Repr

def Value.kind : Value → String
  | .null => "null"
  | .bool _ => "boolean"
  | .number _ => "number"
  | .text _ => "string"
  | .list _ => "array"
  | .document _ => "object"

/-- Named values in the order of their names. -/
structure Document where
  fields : List (String × Value)
  deriving Repr

def insertField (name : String) (value : Value) : List (String × Value) → List (String × Value)
  | [] => [(name, value)]
  | field :: rest =>
    if name < field.1 then (name, value) :: field :: rest
    else if name = field.1 then (name, value) :: rest
    else field :: insertField name value rest

namespace Document

def empty : Document := ⟨[]⟩

/-- A name that is there already gets the new value. -/
def insert (d : Document) (name : String) (value : Value) : Document :=
  ⟨insertField name value d.fields⟩

def get? (d : Document) (name : String) : Option Value := d.fields.lookup name

def names (d : Document) : List String := d.fields.map Prod.fst

end Document

private theorem lookup_insertField_self (name : String) (value : Value) (fields : List (String × Value)) :
    (insertField name value fields).lookup name = some value := by
  induction fields with
  | nil => simp [insertField]
  | cons field rest ih =>
    simp only [insertField]
    split
    · simp
    · split
      · simp
      · next h =>
        rw [List.lookup_cons, beq_false_of_ne h]
        exact ih

private theorem lookup_insertField_of_ne {name other : String} (value : Value) (h : other ≠ name)
    (fields : List (String × Value)) :
    (insertField name value fields).lookup other = fields.lookup other := by
  induction fields with
  | nil => simp [insertField, List.lookup_cons, beq_false_of_ne h]
  | cons field rest ih =>
    simp only [insertField]
    split
    · rw [List.lookup_cons, beq_false_of_ne h]
    · split
      · next e => rw [List.lookup_cons, List.lookup_cons, ← e, beq_false_of_ne h]
      · rw [List.lookup_cons, List.lookup_cons, ih]

namespace Document

@[simp] theorem get?_empty (name : String) : empty.get? name = none := rfl

@[simp] theorem get?_insert_self (d : Document) (name : String) (value : Value) :
    (d.insert name value).get? name = some value := lookup_insertField_self name value d.fields

@[simp] theorem get?_insert_of_ne (d : Document) {name other : String} (value : Value) (h : other ≠ name) :
    (d.insert name value).get? other = d.get? other := lookup_insertField_of_ne value h d.fields

end Document

def digit? (b : UInt8) : Option Nat := if 0x30 ≤ b ∧ b ≤ 0x39 then some (b.toNat - 0x30) else none

def isDigit (b : UInt8) : Bool := 0x30 ≤ b && b ≤ 0x39

def startsWithDigit : List UInt8 → Bool
  | b :: _ => isDigit b
  | [] => false

def isExponentMark (b : UInt8) : Bool := b == 0x65 || b == 0x45

/-- Digits are taken while the value fits 64 bits: the value, how many were taken, and the rest. -/
def takeDigits : Nat → List UInt8 → Nat × Nat × List UInt8
  | value, [] => (value, 0, [])
  | value, b :: rest =>
    match digit? b with
    | none => (value, 0, b :: rest)
    | some d =>
      if value * 10 + d < UInt64.size then
        let (value, taken, rest) := takeDigits (value * 10 + d) rest
        (value, taken + 1, rest)
      else (value, 0, b :: rest)

def powerOfTen (n : Nat) : Float := Float.ofScientific 1 false n

/-- A significand scaled by a power of ten in one multiplication or division, or none if that is
infinite. Powers below `10 ^ -308` are reached by dividing by `10 ^ 308` first; two such divisions
leave nothing of any significand, so `more` need not exceed two. -/
def scale (more : Nat) (x : Float) (power : Int) : Option Float :=
  if power.natAbs ≤ 308 then
    match power with
    | .ofNat up => let y := x * powerOfTen up; if y.isInf then none else some y
    | .negSucc down => some (x / powerOfTen (down + 1))
  else if x == 0 then some x
  else if power > 0 then none
  else match more with
    | 0 => some 0
    | more + 1 => scale more (x / powerOfTen 308) (power + 308)

def signed (positive : Bool) (x : Float) : Float := if positive then x else x.neg

def ofParts (positive : Bool) (significand : Nat) (power : Int) (rest : List UInt8) :
    Except Flaw (Number × List UInt8) :=
  match scale 2 (UInt64.ofNat significand).toFloat power with
  | some x => .ok (.real (signed positive x), rest)
  | none => .error ⟨.numberOutOfRange, rest⟩

/-- An exponent's digits, while they fit 31 bits; none of the value if the next digit does not. -/
def exponentDigits : Nat → List UInt8 → Option Nat × List UInt8
  | value, [] => (some value, [])
  | value, b :: rest =>
    match digit? b with
    | none => (some value, b :: rest)
    | some d =>
      if value * 10 + d < 0x80000000 then exponentDigits (value * 10 + d) rest else (none, rest)

/-- The exponent after its mark and sign. -/
def afterExponentSign (positive : Bool) (significand : Nat) (power : Int) (upward : Bool) :
    List UInt8 → Except Flaw (Number × List UInt8)
  | [] => .error ⟨.valueEnds, []⟩
  | b :: rest =>
    if isDigit b then
      match exponentDigits 0 (b :: rest) with
      | (some e, rest) => ofParts positive significand (if upward then power + e else power - e) rest
      | (none, rest) =>
        if significand ≠ 0 ∧ upward then .error ⟨.numberOutOfRange, rest⟩
        else .ok (.real (signed positive 0), rest.dropWhile isDigit)
    else .error ⟨.badNumber, rest⟩

def afterExponentMark (positive : Bool) (significand : Nat) (power : Int) :
    List UInt8 → Except Flaw (Number × List UInt8)
  | [] => .error ⟨.valueEnds, []⟩
  | b :: rest =>
    if b = 0x2B then afterExponentSign positive significand power true rest
    else if b = 0x2D then afterExponentSign positive significand power false rest
    else afterExponentSign positive significand power true (b :: rest)

def perhapsExponent (positive : Bool) (significand : Nat) (power : Int) (input : List UInt8) :
    Except Flaw (Number × List UInt8) :=
  match input with
  | b :: rest =>
    if isExponentMark b then afterExponentMark positive significand power rest
    else ofParts positive significand power input
  | [] => ofParts positive significand power []

/-- The digits after a point. Those that no longer fit the significand are dropped. -/
def afterPoint (positive : Bool) (significand : Nat) (power : Int) (input : List UInt8) :
    Except Flaw (Number × List UInt8) :=
  let (value, taken, rest) := takeDigits significand input
  if startsWithDigit rest then perhapsExponent positive value (power - taken) (rest.dropWhile isDigit)
  else if taken = 0 then
    match rest with
    | [] => .error ⟨.valueEnds, []⟩
    | _ :: rest => .error ⟨.badNumber, rest⟩
  else perhapsExponent positive value (power - taken) rest

def wholeNumber (positive : Bool) (significand : Nat) : Number :=
  if positive then .natural (UInt64.ofNat significand)
  else if 0 < significand ∧ significand ≤ 0x8000000000000000 then .negative (Int64.ofInt (-(significand : Int)))
  else .real (UInt64.ofNat significand).toFloat.neg

/-- What follows the whole digits, of which the last `dropped` did not fit the significand. -/
def afterWhole (positive : Bool) (significand dropped : Nat) (input : List UInt8) :
    Except Flaw (Number × List UInt8) :=
  match input with
  | b :: rest =>
    if b = 0x2E then afterPoint positive significand dropped rest
    else if isExponentMark b then afterExponentMark positive significand dropped rest
    else if dropped = 0 then .ok (wholeNumber positive significand, input)
    else ofParts positive significand dropped input
  | [] =>
    if dropped = 0 then .ok (wholeNumber positive significand, [])
    else ofParts positive significand dropped []

/-- A number after its sign. A zero stands alone before the point. -/
def readNumber (positive : Bool) : List UInt8 → Except Flaw (Number × List UInt8)
  | [] => .error ⟨.valueEnds, []⟩
  | b :: rest =>
    if b = 0x30 then
      if startsWithDigit rest then .error (.atNext .badNumber rest) else afterWhole positive 0 0 rest
    else if isDigit b then
      let (value, _, rest) := takeDigits 0 (b :: rest)
      afterWhole positive value (rest.takeWhile isDigit).length (rest.dropWhile isDigit)
    else .error ⟨.badNumber, rest⟩

def skipExponent : List UInt8 → Except Flaw (List UInt8)
  | [] => .error ⟨.badNumber, []⟩
  | b :: rest =>
    let digits := if b = 0x2B ∨ b = 0x2D then rest else b :: rest
    match digits with
    | [] => .error ⟨.badNumber, []⟩
    | d :: rest => if isDigit d then .ok (rest.dropWhile isDigit) else .error ⟨.badNumber, rest⟩

def skipFraction (input : List UInt8) : Except Flaw (List UInt8) :=
  if startsWithDigit input then
    match input.dropWhile isDigit with
    | b :: rest => if isExponentMark b then skipExponent rest else .ok (b :: rest)
    | [] => .ok []
  else .error (.atNext .badNumber input)

/-- What stands after a number that nobody reads; its size is of no account. -/
def skipNumber : List UInt8 → Except Flaw (List UInt8)
  | [] => .error ⟨.badNumber, []⟩
  | b :: rest =>
    if !isDigit b then .error ⟨.badNumber, rest⟩
    else if b = 0x30 ∧ startsWithDigit rest then .error (.atNext .badNumber rest)
    else match rest.dropWhile isDigit with
      | [] => .ok []
      | c :: after =>
        if c = 0x2E then skipFraction after
        else if isExponentMark c then skipExponent after
        else .ok (c :: after)

/-- Positional from `0.00001` to below `10 ^ 16`; a whole double keeps its point. -/
def numberStyle : Decimal.Style := ⟨some (-5, 15), ".0", "", "+", 1⟩

def Number.write : Number → String
  | .natural n => toString n.toNat
  | .negative n => toString n.toInt
  | .real x => numberStyle.text x

end FleetLocator.Json
