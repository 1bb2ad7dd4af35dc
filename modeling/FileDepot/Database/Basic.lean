/-
The database behind a depot, reduced to what its statements can tell
apart: the tables of records with the highest id each has ever held,
and the other objects that share their name space, namely views, tables
of another shape and indexes.

A table remembers the highest id through every deletion, so an id is
never given out twice while the table lives.
-/
import FileDepot.Database.Fault
import FileDepot.Table.Name
import FileDepot.Table.Record

namespace FileDepot

-- ============================================================ tables

/-- A table of records in ascending order of their ids. A blocked table
refuses every deletion or insertion that reaches a record. -/
structure Table where
  name : String
  records : List Record := []
  highest : Int := 0
  blocksDeletes : Bool := false
  blocksInserts : Bool := false
  deriving DecidableEq, Repr, Inhabited

/-- The highest id a record can have. -/
def maxId : Int := 9223372036854775807

namespace Table

/-- The id of the next record: one above the highest there ever was. -/
def nextId (t : Table) : Int := max t.highest 0 + 1

/-- A record among others in ascending order of ids. -/
def insertSorted (r : Record) : List Record → List Record
  | [] => [r]
  | s :: rest => if r.id < s.id then r :: s :: rest else s :: insertSorted r rest

/-- The table with one more record. -/
def add (t : Table) (r : Record) : Table :=
  { t with
    records := insertSorted r t.records
    highest := max t.highest r.id }

/-- The table without the records that a test picks. -/
def drop (t : Table) (picked : Record → Bool) : Table :=
  { t with records := t.records.filter fun r => !picked r }

/-- The record of the largest id, the later one where two are equal. -/
def newestOf : List Record → Option Record
  | [] => none
  | r :: rest =>
    match newestOf rest with
    | none => some r
    | some s => if s.id < r.id then some r else some s

/-- The newest record at a location. -/
def newest? (t : Table) (l : Location) : Option Record :=
  newestOf (t.records.filter fun r => r.location == l)

/-- The number of records at a location. -/
def countAt (t : Table) (l : Location) : Nat :=
  t.records.countP fun r => r.location == l

end Table

-- ========================================================== database

/-- An index and the table it is on. -/
structure Index where
  name : String
  table : String
  deriving DecidableEq, Repr

/-- A database. Its counter book exists once a table with numbered
records was created, and is a table of another shape itself. -/
structure Database where
  tables : List Table := []
  views : List String := []
  strangers : List String := []
  indexes : List Index := []
  hasCounterBook : Bool := false
  deriving DecidableEq, Repr, Inhabited

/-- The name of the counter book. -/
def counterBook : String := "sqlite_sequence"

namespace Database

/-- The table of records of a name. -/
def table? (db : Database) (name : String) : Option Table :=
  db.tables.find? fun t => sameName t.name name

/-- The view of a name. -/
def view? (db : Database) (name : String) : Option String :=
  db.views.find? fun v => sameName v name

/-- The tables that do not hold records. -/
def otherTables (db : Database) : List String :=
  (if db.hasCounterBook then [counterBook] else []) ++ db.strangers

/-- A name is that of a table that does not hold records. -/
def isOtherTable (db : Database) (name : String) : Bool :=
  db.otherTables.any fun s => sameName s name

/-- A table of any shape has the name. This is what a check for a table
asks, and no view or index answers it. -/
def hasTable (db : Database) (name : String) : Bool :=
  (db.table? name).isSome || db.isOtherTable name

/-- An index has the name. -/
def hasIndex (db : Database) (name : String) : Bool :=
  db.indexes.any fun i => sameName i.name name

/-- The database with a table in the place of the one of its name. -/
def setTable (db : Database) (t : Table) : Database :=
  { db with
    tables := db.tables.map fun u => if sameName u.name t.name then t else u }

end Database

end FileDepot
