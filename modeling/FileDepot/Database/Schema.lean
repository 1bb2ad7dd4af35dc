/-
Creating and dropping. Tables, views and indexes share one name space,
and the script that creates a table runs as one transaction: when one
of its three statements fails, none has taken place.

A guarded script passes over a table or an index that is already there;
it still fails on a view under the table's name, because its second
statement would index the view.

The database keeps the statement that has created a table, without its
guard, and reads it again at once. A table whose name is the word of the
guard is therefore never created: without a guard the statement is not
read, and with one it is not read again.
-/
import FileDepot.Database.Access

namespace FileDepot.Database

-- ============================================================ script

/-- The first statement of the script: the table. -/
def createTable (guarded : Bool) (db : Database) (name : String) :
    Except DatabaseFault Database :=
  if isKeyword name then .error (.keyword name)
  else if isGuardWord name && !guarded then .error .brokenGuard
  else if isInternal name then .error (.reserved name)
  else if db.hasTable name then
    if guarded then .ok db else .error (.tableExists name)
  else if (db.view? name).isSome then
    if guarded then .ok db else .error (.viewExists name)
  else if db.hasIndex name then .error (.indexNamesake name)
  else if isGuardWord name then .error (.brokenSchema name)
  else
    .ok
      { db with
        tables := db.tables ++ [(⟨name, [], 0, false, false⟩ : Table)]
        hasCounterBook := true }

/-- A further statement of the script: an index on the table. -/
def createIndex (guarded : Bool) (index : String) (db : Database)
    (name : String) : Except DatabaseFault Database :=
  if (db.view? name).isSome then .error .viewIndexed
  else if db.hasTable index || (db.view? index).isSome then
    .error (.tableNamesake index)
  else if db.hasIndex index then
    if guarded then .ok db else .error (.indexExists index)
  else if (db.table? name).isSome then
    .ok { db with indexes := db.indexes ++ [⟨index, name⟩] }
  else .error (.missingColumn "bucket")

/-- The index over locations. -/
def locationIndex (name : String) : String := "idx_" ++ name ++ "_location"

/-- The index over times of change. -/
def modifiedIndex (name : String) : String :=
  "idx_" ++ name ++ "_gmt_modified"

/-- The whole script. -/
def create (guarded : Bool) (db : Database) (name : String) :
    Except DatabaseFault Database := do
  let db ← db.createTable guarded name
  let db ← db.createIndex guarded (locationIndex name) name
  db.createIndex guarded (modifiedIndex name) name

-- ======================================================== other hands

/-- Drops a table with its indexes. -/
def dropTable (db : Database) (name : String) : Database :=
  { db with
    tables := db.tables.filter fun t => !sameName t.name name
    strangers := db.strangers.filter fun s => !sameName s name
    indexes := db.indexes.filter fun i => !sameName i.table name }

/-- Adds a view that has none of a record's columns. -/
def createView (db : Database) (name : String) : Database :=
  { db with views := db.views ++ [name] }

/-- Adds a table of another shape, if it is missing, and an index on
it. -/
def createStranger (db : Database) (name index : String) : Database :=
  { db with
    strangers := if db.hasTable name then db.strangers
      else db.strangers ++ [name]
    indexes := db.indexes ++ [⟨index, name⟩] }

/-- Adds a record under an id of its own choice, or under the next
id. -/
def addRecord (db : Database) (name : String) (id : Option Int)
    (d : Draft) : Except DatabaseFault Database :=
  match id with
  | none => db.insert name d
  | some id => do
    match ← db.object name with
    | .table t =>
      if t.blocksInserts then .error .insertsBlocked
      else if t.records.any (·.id == id) then .error (.idTaken t.name)
      else .ok (db.setTable (t.add ⟨d, id⟩))
    | .view v => .error (.viewModified v)
    | .other => .error (.lacksColumn name "bucket")
    | .catalog c => .error (.catalogModified c)

/-- Blocks or frees the deletions of a table. -/
def blockDeletes (db : Database) (name : String) (on : Bool) : Database :=
  match db.table? name with
  | some t => db.setTable { t with blocksDeletes := on }
  | none => db

/-- Blocks or frees the insertions of a table. -/
def blockInserts (db : Database) (name : String) (on : Bool) : Database :=
  match db.table? name with
  | some t => db.setTable { t with blocksInserts := on }
  | none => db

end FileDepot.Database
