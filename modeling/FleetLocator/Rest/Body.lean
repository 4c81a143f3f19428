import FleetLocator.Geo.Point
import FleetLocator.Json.Field
import FleetLocator.Json.Reader
import FleetLocator.Text.Spelling

/-! # Bodies of requests: a few values of one kind under fixed names -/
namespace FleetLocator.Rest

open Json (skipBlank)

/-- A JSON value where one of another kind is wanted. -/
inductive Stray
  | null
  | bool (b : Bool)
  | number (n : Json.Number)
  | text (s : String)
  | list
  | document
  deriving DecidableEq, Repr

def Stray.name : Stray → String
  | null => "null"
  | bool b => "boolean \u0060" ++ (if b then "true" else "false") ++ "\u0060"
  | number (.real x) => "floating point \u0060" ++ Json.numberStyle.text x ++ "\u0060"
  | number n => "integer \u0060" ++ n.write ++ "\u0060"
  | text s => "string " ++ Text.Quoted.encode s
  | list => "sequence"
  | document => "map"

/-- A body that is no JSON text, or one of another shape. -/
inductive BodyProblem
  | grammar (p : Json.Problem)
  | kind (found : Stray) (expected : String)
  | missing (name : String)
  | duplicate (name : String)
  | length (found : Nat) (expected : String)
  deriving DecidableEq, Repr

def quoteName (name : String) : String := "\u0060" ++ name ++ "\u0060"

def BodyProblem.message : BodyProblem → String
  | grammar p => p.message
  | kind found expected => "invalid type: " ++ found.name ++ ", expected " ++ expected
  | missing name => "missing field " ++ quoteName name
  | duplicate name => "duplicate field " ++ quoteName name
  | length found expected => "invalid length " ++ toString found ++ ", expected " ++ expected

def BodyProblem.introduction : BodyProblem → String
  | grammar _ => "Failed to parse the request body as JSON: "
  | _ => "Failed to deserialize the JSON body into the target type: "

/-- A problem, the part of the body it is in if in one, and what remained to be read. -/
structure BodyFlaw where
  part : Option String
  problem : BodyProblem
  rest : List UInt8
  deriving DecidableEq, Repr

def BodyFlaw.ofFlaw (part : Option String) (flaw : Json.Flaw) : BodyFlaw :=
  ⟨part, .grammar flaw.problem, flaw.rest⟩

def partText (part : Option String) : String := part.elim "" fun part => part ++ ": "

def BodyFlaw.message (input : List UInt8) (flaw : BodyFlaw) : String :=
  flaw.problem.introduction ++ partText flaw.part ++ flaw.problem.message
    ++ (Json.Position.at input flaw.rest).suffix

/-- The value that stands where another kind is wanted. Brackets are not entered. -/
def stray (part : Option String) (expected : String) (input : List UInt8) : BodyFlaw :=
  let found {α : Type} (kind : α → Stray) : Except Json.Flaw (α × List UInt8) → BodyFlaw
    | .ok (a, rest) => ⟨part, .kind (kind a) expected, rest⟩
    | .error flaw => .ofFlaw part flaw
  match input with
  | [] => ⟨part, .grammar .noValue, []⟩
  | b :: rest =>
    if b = 0x6E then found (fun _ => .null) ((Json.readWord Json.wordNull rest).map fun rest => ((), rest))
    else if b = 0x74 then
      found (fun _ => .bool true) ((Json.readWord Json.wordTrue rest).map fun rest => ((), rest))
    else if b = 0x66 then
      found (fun _ => .bool false) ((Json.readWord Json.wordFalse rest).map fun rest => ((), rest))
    else if b = 0x2D then found .number (Json.readNumber false rest)
    else if Json.isDigit b then found .number (Json.readNumber true input)
    else if b = Json.quote then found .text (Json.readText rest)
    else if b = 0x5B then ⟨part, .kind .list expected, input⟩
    else if b = 0x7B then ⟨part, .kind .document expected, input⟩
    else ⟨part, .grammar .noValue, rest⟩

/-- How a value of one kind is read. -/
structure Reader (α : Type) where
  expected : String
  /-- Nothing if the first byte begins a value of another kind. -/
  read? : List UInt8 → Option (Except Json.Flaw (α × List UInt8))

def numberReader : Reader Float where
  expected := "f64"
  read?
    | [] => none
    | b :: rest =>
      let toFloat := Except.map fun (found : Json.Number × List UInt8) => (found.1.toFloat, found.2)
      if b = 0x2D then some (toFloat (Json.readNumber false rest))
      else if Json.isDigit b then some (toFloat (Json.readNumber true (b :: rest)))
      else none

def textReader : Reader String where
  expected := "a string"
  read?
    | [] => none
    | b :: rest => if b = Json.quote then some (Json.readText rest) else none

def Reader.read {α : Type} (reader : Reader α) (part : String) (input : List UInt8) :
    Except BodyFlaw (α × List UInt8) :=
  match skipBlank input with
  | [] => .error ⟨some part, .grammar .valueEnds, []⟩
  | start =>
    match reader.read? start with
    | some (.ok found) => .ok found
    | some (.error flaw) => .error (.ofFlaw (some part) flaw)
    | none => .error (stray (some part) reader.expected start)

/-- Values of one kind under names that are known, in a structure that has a name itself. -/
structure Form (α : Type) where
  name : String
  fields : List String
  reader : Reader α

/-- The values found, and what remained to be read after them. -/
structure Filled (α : Type) where
  values : List (String × α)
  rest : List UInt8

def Filled.get {α : Type} (filled : Filled α) (name : String) : Except BodyFlaw α :=
  match filled.values.lookup name with
  | some a => .ok a
  | none => .error ⟨none, .missing name, filled.rest⟩

namespace Form

variable {α : Type} (form : Form α)

def title : String := "struct " ++ form.name

/-- What a list in place of the structure should have been. -/
def lengthText : String :=
  form.title ++ " with " ++ toString form.fields.length
    ++ (if form.fields.length = 1 then " element" else " elements")

/-- What remains once the closing bracket, if it comes next, is read too. -/
def afterClosing (bracket : UInt8) (input : List UInt8) : List UInt8 :=
  match skipBlank input with
  | [] => []
  | b :: rest => if b = bracket then rest else b :: rest

/-- The fields of a document. Each takes at least a byte, which bounds their number. -/
def readMembers : Nat → Bool → List (String × α) → List UInt8 → Except BodyFlaw (Filled α)
  | 0, _, _, input => .error ⟨none, .grammar .documentEnds, input⟩
  | fuel + 1, first, found, input =>
    match Json.nextName first input with
    | .error flaw => .error (.ofFlaw none flaw)
    | .ok (.done rest) => .ok ⟨found, rest⟩
    | .ok (.more rest) =>
      match Json.readText rest with
      | .error flaw => .error (.ofFlaw none flaw)
      | .ok (name, rest) =>
        if form.fields.contains name then
          if (found.lookup name).isSome then
            .error ⟨none, .duplicate name, afterClosing 0x7D rest⟩
          else
            match Json.readColon rest with
            | .error flaw => .error (.ofFlaw none flaw)
            | .ok rest =>
              match form.reader.read name rest with
              | .error flaw => .error flaw
              | .ok (a, rest) => readMembers fuel false ((name, a) :: found) rest
        else
          match Json.readColon rest with
          | .error flaw => .error (.ofFlaw none flaw)
          | .ok rest =>
            match Json.skipValue rest with
            | .error flaw => .error (.ofFlaw (some name) flaw)
            | .ok rest => readMembers fuel false found rest

/-- What follows a list that has all its items. -/
def endItems (input : List UInt8) : Except BodyFlaw (List UInt8) :=
  match skipBlank input with
  | [] => .error ⟨none, .grammar .listEnds, []⟩
  | b :: rest =>
    if b = 0x5D then .ok rest
    else if b = 0x2C then
      match skipBlank rest with
      | [] => .error ⟨none, .grammar .trailingCharacters, []⟩
      | c :: rest =>
        .error ⟨none, .grammar (if c = 0x5D then .trailingComma else .trailingCharacters), rest⟩
    else .error ⟨none, .grammar .trailingCharacters, rest⟩

/-- The items of a list that stand for the named fields, beginning at a given place. -/
def readItems : Nat → List (String × α) → List String → List UInt8 → Except BodyFlaw (Filled α)
  | _, found, [], input => (endItems input).map fun rest => ⟨found, rest⟩
  | place, found, name :: names, input =>
    let part := "[" ++ toString place ++ "]"
    match Json.nextItem (place == 0) input with
    | .error flaw => .error (.ofFlaw none flaw)
    | .ok (.done rest) => .error ⟨none, .length place form.lengthText, rest⟩
    | .ok (.more rest) =>
      match form.reader.read part rest with
      | .error flaw => .error flaw
      | .ok (a, rest) => readItems (place + 1) ((name, a) :: found) names rest

/-- The values of a body, which is a document or a list; what comes after it is not looked at. -/
def read (input : List UInt8) : Except BodyFlaw (Filled α) :=
  match skipBlank input with
  | [] => .error ⟨none, .grammar .valueEnds, []⟩
  | b :: rest =>
    if b = 0x5B then form.readItems 0 [] form.fields rest
    else if b = 0x7B then form.readMembers (rest.length + 1) true [] rest
    else .error (stray none form.title (b :: rest))

end Form

def locationForm : Form Float := ⟨"UpdateLocationRequest", ["latitude", "longitude"], numberReader⟩

def readLocation (input : List UInt8) : Except BodyFlaw Geo.Point := do
  let filled ← locationForm.read input
  return ⟨← filled.get "latitude", ← filled.get "longitude"⟩

def statusForm : Form String := ⟨"UpdateStatusRequest", ["status"], textReader⟩

def readStatus (input : List UInt8) : Except BodyFlaw String := do
  (← statusForm.read input).get "status"

end FleetLocator.Rest
