/-
A site is what a process finds: the files, the databases among them,
the clock and the name of the host. A database lives in a file or, for
as long as the depot on it is open, in memory.
-/
import FileDepot.Depot.Address
import FileDepot.Depot.Basic

namespace FileDepot

/-- Where a database lives. -/
inductive Residence where
  | memory
  | file (place : Place)
  deriving DecidableEq, Repr

/-- The surroundings of a process. -/
structure Site where
  files : FileTree
  databases : List (Residence × Database) := []
  now : Int := 0
  host : String := ""
  deriving DecidableEq, Repr, Inhabited

namespace Site

/-- The database of a residence, if there is one. -/
def database? (s : Site) (r : Residence) : Option Database :=
  (s.databases.find? fun entry => entry.1 == r).map (·.2)

/-- The databases with one more, or another one, in a residence. -/
def setDatabase (r : Residence) (db : Database) :
    List (Residence × Database) → List (Residence × Database)
  | [] => [(r, db)]
  | (q, d) :: rest =>
    if q = r then (r, db) :: rest else (q, d) :: setDatabase r db rest

/-- The site with a database put into a residence. -/
def keep (s : Site) (r : Residence) (db : Database) : Site :=
  { s with databases := setDatabase r db s.databases }

/-- The scene of a depot whose database has a residence. -/
def scene (s : Site) (r : Residence) : Scene where
  files := s.files
  database := (s.database? r).getD {}
  now := s.now
  host := s.host

/-- The site after a scene was played on it. -/
def absorb (s : Site) (r : Residence) (scene : Scene) : Site :=
  { s.keep r scene.database with files := scene.files }

/-- Opens a database file. An empty file is a database without
tables. -/
def openFile (s : Site) (path : String) (create : Bool) :
    Except Outage (Residence × Site) :=
  match s.files.walk .createFile path with
  | .error _ => .error .cannotOpen
  | .ok (.free place) =>
    if create then
      let s := { s with files := s.files.set place (.file []) }
      .ok (.file place, s.keep (.file place) {})
    else .error .cannotOpen
  | .ok (.found place node) =>
    match s.database? (.file place) with
    | some _ => .ok (.file place, s)
    | none =>
      if node = .file [] then .ok (.file place, s.keep (.file place) {})
      else .error .notDatabase

/-- Opens the database of a path. One in memory is new every time. -/
def openDatabase (s : Site) (path : String) :
    Except Outage (Residence × Site) := do
  match ← Address.target path with
  | .memory => .ok (.memory, s.keep .memory {})
  | .file path create => s.openFile path create

end Site

end FileDepot
