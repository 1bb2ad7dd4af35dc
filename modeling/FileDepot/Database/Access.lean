/-
The statements on the records of one table. Each looks up the table
first, so that whatever else goes by the name is told apart; a
statement that fails changes nothing.
-/
import FileDepot.Database.Basic
import FileDepot.Database.Keyword

namespace FileDepot.Database

-- =========================================================== objects

/-- What a statement finds under a table name. -/
inductive Object where
  | table (t : Table)
  | view (name : String)
  | other
  | catalog (name : String)
  deriving DecidableEq, Repr

/-- The object a name stands for in a statement. -/
def object (db : Database) (name : String) : Except DatabaseFault Object :=
  if isKeyword name then .error (.keyword name)
  else
    match db.table? name with
    | some t => .ok (.table t)
    | none =>
      match db.view? name with
      | some v => .ok (.view v)
      | none =>
        if db.isOtherTable name then .ok .other
        else
          match catalog? name with
          | some c => .ok (.catalog c)
          | none => .error (.missingTable name)

/-- The table a query reads. Any other object lacks its columns, of
which `column` is the first the query names. -/
def queried (db : Database) (column name : String) :
    Except DatabaseFault Table := do
  match ← db.object name with
  | .table t => .ok t
  | .view _ | .other | .catalog _ => .error (.missingColumn column)

-- =========================================================== queries

/-- The newest record at a location, as the query for a payload sees
it. -/
def newest (db : Database) (name : String) (l : Location) :
    Except DatabaseFault (Option Record) :=
  (db.queried "id" name).map (·.newest? l)

/-- The newest record at a location, as the query for a description
sees it. -/
def described (db : Database) (name : String) (l : Location) :
    Except DatabaseFault (Option Record) :=
  (db.queried "bucket" name).map (·.newest? l)

/-- The number of records at a location. -/
def count (db : Database) (name : String) (l : Location) :
    Except DatabaseFault Nat :=
  (db.queried "bucket" name).map (·.countAt l)

-- =========================================================== changes

/-- Deletes the records that a test picks and counts them. -/
def deleteWhere (db : Database) (name : String) (picked : Draft → Bool) :
    Except DatabaseFault (Nat × Database) := do
  match ← db.object name with
  | .table t =>
    let hits := t.records.countP fun r => picked r.toDraft
    if t.blocksDeletes && hits != 0 then .error .deletesBlocked
    else .ok (hits, db.setTable (t.drop fun r => picked r.toDraft))
  | .view v => .error (.viewModified v)
  | .other => .error (.missingColumn "bucket")
  | .catalog c => .error (.catalogModified c)

/-- Deletes the records at a location. -/
def deleteAt (db : Database) (name : String) (l : Location) :
    Except DatabaseFault (Nat × Database) :=
  db.deleteWhere name fun d => d.location == l

/-- Deletes the records of a bucket that were last changed before a
cutoff. A record without a time of change is not before any. -/
def deleteExpired (db : Database) (name bucket : String) (cutoff : Int) :
    Except DatabaseFault (Nat × Database) :=
  db.deleteWhere name (Draft.isExpired bucket cutoff)

/-- Inserts a draft under the next id. -/
def insert (db : Database) (name : String) (d : Draft) :
    Except DatabaseFault Database := do
  match ← db.object name with
  | .table t =>
    if t.blocksInserts then .error .insertsBlocked
    else if maxId ≤ t.highest then .error .full
    else .ok (db.setTable (t.add ⟨d, t.nextId⟩))
  | .view v => .error (.viewModified v)
  | .other => .error (.lacksColumn name "bucket")
  | .catalog c => .error (.catalogModified c)

end FileDepot.Database
