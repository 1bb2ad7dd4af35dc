/-
Provisioning: making sure that a depot's table is there. A table that
is found is left alone; else the script creates it, as a whole or not
at all. When something of its name has turned up since the check, the
table counts as existing.
-/
import FileDepot.Depot.Basic

namespace FileDepot

/-- How provisioning ended. -/
inductive Provision where
  | existing
  | created
  deriving DecidableEq, Repr

/-- The name of the ending. -/
def Provision.name : Provision → String
  | .existing => "Existing"
  | .created => "Created"

namespace Dialect

/-- The dialect's check for a table. -/
def sees (dialect : Dialect) (db : Database) (table : String) : Bool :=
  match dialect with
  | .sqlite => db.hasTable table
  | .racy => false

/-- The dialect's script passes over what is already there. -/
def isGuarded : Dialect → Bool
  | .sqlite => true
  | .racy => false

end Dialect

/-- Provisions a table over an open connection. -/
def Database.provision (dialect : Dialect) (table : String)
    (db : Database) : Except Failure Provision × Database × List Event :=
  if dialect.sees db table then (.ok .existing, db, [.tableFound table])
  else
    match db.create dialect.isGuarded table with
    | .ok db' =>
      (.ok .created, db',
        [.creatingTable table dialect, .tableCreated table])
    | .error fault =>
      if fault.isAlreadyThere then
        (.ok .existing, db,
          [.creatingTable table dialect, .raceLost table fault])
      else
        (.error (.schema table fault), db, [.creatingTable table dialect])

/-- Provisions a table of any name. -/
def provision (dialect : Dialect) (table : String) (scene : Scene) :
    Outcome Provision :=
  match TableName.ofText table with
  | .error fault => ⟨.error (.config fault), scene, []⟩
  | .ok _ =>
    match scene.outage with
    | some outage => ⟨.error (.connectivity outage), scene, []⟩
    | none =>
      let (result, db, events) := scene.database.provision dialect table
      ⟨result, { scene with database := db }, events⟩

/-- Provisions the table of a depot. -/
def Depot.provision (d : Depot) (scene : Scene) : Outcome Provision :=
  FileDepot.provision d.dialect d.table.text scene

end FileDepot
