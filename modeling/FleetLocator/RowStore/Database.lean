import FleetLocator.RowStore.Location
import FleetLocator.RowStore.Row
import FleetLocator.Service.Backend

/-! # A database with the table of drivers -/
namespace FleetLocator.RowStore

open Service (Backend Fault Reply)

/-- The rows in the order of their insertion, or nothing once the table is gone. -/
structure Database where
  rows : Option (List Row)
  deriving DecidableEq, Repr

inductive Refusal
  | noTable
  | required (c : Column)
  | notUnique
  deriving DecidableEq, Repr

def tableName : String := "drivers"

def Refusal.message : Refusal → String
  | noTable => "no such table: " ++ tableName
  | required c => "NOT NULL constraint failed: " ++ tableName ++ "." ++ c.name
  | notUnique => "UNIQUE constraint failed: " ++ tableName ++ "." ++ Column.id.name

def missingTable : Fault := .unavailable (.noTable tableName)

/-- Changes the rows with an identifier, and counts them. -/
def changeRows (id : String) (f : Row → Row) (rows : List Row) : List Row × Nat :=
  (rows.map fun r => if r.hasId id then f r else r, rows.countP (Row.hasId id))

/-- The index on the status, up to the column and from there. -/
def indexHead : String := "\nCREATE INDEX IF NOT EXISTS drivers_status_idx ON drivers ("

def indexTail : String := ");\n"

def indexStatement : String := indexHead ++ Column.status.name ++ indexTail

namespace Database

def empty : Database := ⟨some []⟩

/-- Sets up the table without rows. One of the same name that is there already is kept, and it lacks
the columns that it lacks. -/
def create (existing : Option (List String)) : Except Fault Database :=
  match existing with
  | none => .ok empty
  | some columns =>
    if columns.contains Column.status.name then .ok empty
    else .error (.internal (.noColumn Column.status.name indexStatement indexHead.utf8ByteSize))

/-- Finds the database with a name, or makes it. None of the files that are there is one. -/
def ofName (volume : Volume) (name : String) : Except Fault Database :=
  match Location.ofName name with
  | .error e => .error (.internal (.database name e))
  | .ok location =>
    if location.isVolatile then
      if location.access = .readOnly then .error (.internal .readOnly) else create none
    else
      match volume.entry location.path with
      | .file => .error (.internal .noDatabase)
      | .absent =>
        if location.access = .create then create none
        else .error (.internal (.database name (.cannotOpen name)))
      | .directory | .unreachable => .error (.internal (.database name (.cannotOpen name)))

/-- Whether two rows have one identifier. Rows without one differ from all others. -/
def clash : List Row → Bool
  | [] => false
  | r :: rest => (!r.id.isNull && rest.any fun s => s.id == r.id) || clash rest

/-- The row of a driver comes after all others; a row with the same identifier goes. -/
def insert (record : Driver.Record) (db : Database) : Except Fault Database :=
  match db.rows with
  | none => .error missingTable
  | some rows => .ok ⟨some (rows.filter (fun r => !r.hasId record.id) ++ [.ofRecord record])⟩

def candidates (db : Database) : Except Fault (List Driver.Record) :=
  match db.rows with
  | none => .error missingTable
  | some rows => .ok ((rows.filter Row.isCandidate).map Row.record)

def fetch (id : String) (db : Database) : Except Fault (Option Driver.Record) :=
  match db.rows with
  | none => .error missingTable
  | some rows => .ok ((rows.find? (Row.hasId id)).map Row.record)

def apply (id : String) (u : Driver.Update) (db : Database) : Except Fault Nat × Database :=
  match db.rows with
  | none => (.error missingTable, db)
  | some rows =>
    let (rows, affected) := changeRows id (Row.change u) rows
    (.ok affected, ⟨some rows⟩)

/-- A write by another program, which the columns' rules may refuse. -/
def overwrite (id : String) (c : Column) (value : Cell) (db : Database) : Except Refusal (Nat × Database) :=
  match db.rows with
  | none => .error .noTable
  | some rows =>
    let (changed, affected) := changeRows id (fun r => r.store c value) rows
    if affected = 0 then .ok (0, db)
    else if value.isNull && c.required then .error (.required c)
    else if clash changed then .error .notUnique
    else .ok (affected, ⟨some changed⟩)

def drop (db : Database) : Except Refusal Database :=
  match db.rows with
  | none => .error .noTable
  | some _ => .ok ⟨none⟩

end Database

/-- The operations of the service on a database. -/
def backend : Backend Database where
  name := "sqlite"
  candidates _ db := (.ofExcept db.candidates, db)
  fetch id db := (.ofExcept (db.fetch id), db)
  apply id u db := let (result, db) := db.apply id u; (.ofExcept result, db)

end FleetLocator.RowStore
