/-
A depot stores files as records of one table. It is opened with a
dialect, an accepted table name and a few options; everything else an
operation works on, the files, the database, the clock and the name of
the host, is the scene it is given, and what it leaves behind is the
scene it gives back.
-/
import FileDepot.Database.Schema
import FileDepot.Event
import FileDepot.FileTree.Access

namespace FileDepot

-- ============================================================= depots

/-- The options of a depot. -/
structure Options where
  maxFileBytes : Nat
  chunkBytes : Nat
  atomicOverwrite : Bool
  deriving DecidableEq, Repr, Inhabited

/-- The options among the settings of a depot. A slice has at least one
byte. -/
def Settings.options (s : Settings) : Options where
  maxFileBytes := s.maxFileBytes
  chunkBytes := max s.chunkBytes 1
  atomicOverwrite := s.atomicOverwrite

/-- A depot that is ready to be used. -/
structure Depot where
  dialect : Dialect
  table : TableName
  options : Options
  deriving DecidableEq, Repr

/-- A depot on a table of a given name. -/
def Depot.ofName (dialect : Dialect) (table : String) (options : Options) :
    Except Failure Depot :=
  match TableName.ofText table with
  | .ok table => .ok ⟨dialect, table, options⟩
  | .error fault => .error (.config fault)

-- ============================================================= scenes

/-- What an operation works on. While there is an outage no connection
to the database is had. Once an operation has given its first connection
back, an outage may have set in or ended; if so, that is what a second
connection meets. -/
structure Scene where
  files : FileTree
  database : Database
  now : Int
  host : String
  outage : Option Outage := none
  secondOutage : Option (Option Outage) := none
  deriving DecidableEq, Repr, Inhabited

namespace Scene

/-- Uses the database over one connection. -/
def reach (s : Scene) (use : Database → Except Failure α) :
    Except Failure α :=
  match s.outage with
  | some outage => .error (.connectivity outage)
  | none => use s.database

/-- Uses the database for one statement. -/
def query (s : Scene) (use : Database → Except DatabaseFault α) :
    Except Failure α :=
  s.reach fun db => (use db).mapError .database

/-- The scene as a second connection finds it. -/
def later (s : Scene) : Scene :=
  { s with outage := s.secondOutage.getD s.outage }

end Scene

/-- What an operation comes to: its result, the scene it leaves and the
events it told, in order. -/
structure Outcome (α : Type) where
  result : Except Failure α
  scene : Scene
  events : List Event

end FileDepot
