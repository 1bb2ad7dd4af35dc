/-
Failures of a depot, by what failed: its configuration, the connection
to its database, the creation of its table, a statement, a local file,
the size limit or stored metadata. Each failure has a text of its own
and, where something else lies behind it, the text of that.
-/
import FileDepot.Database.Fault
import FileDepot.Depot.Settings
import FileDepot.FileTree.Basic

namespace FileDepot

/-- Why no connection to a database was had. -/
inductive Outage where
  | exhausted
  | cannotOpen
  | nulByte (position : Nat)
  | badAddress
  | accessDenied
  | notDatabase
  | reported (text : String)
  deriving DecidableEq, Repr

namespace Outage

/-- How the text of a database that could not be opened begins. -/
def waiting : String := "timed out waiting for connection: "

/-- The text of a cause. -/
def message : Outage → String
  | .exhausted => "pool exhausted"
  | .cannotOpen => waiting ++ "Unable to open the database file"
  | .nulByte position =>
    waiting ++ "nul byte found in provided data at position: "
      ++ toString position
  | .badAddress => waiting ++ "SQL error or missing database"
  | .accessDenied => waiting ++ "Access permission denied"
  | .notDatabase => waiting ++ "file is not a database"
  | .reported text => text

end Outage

/-- What failed. -/
inductive Failure where
  | config (fault : ConfigFault)
  | connectivity (outage : Outage)
  | schema (table : String) (fault : DatabaseFault)
  | database (fault : DatabaseFault)
  | io (path : String) (fault : FileFault)
  | fileTooLarge (path : String) (size limit : Nat)
  | metadata (fault : Json.Fault)
  deriving DecidableEq, Repr

namespace Failure

/-- The text of a failure. -/
def message : Failure → String
  | .config fault => "invalid storage configuration: " ++ fault.message
  | .connectivity _ => "storage backend unavailable"
  | .schema table _ => "schema provisioning failed for table `" ++ table ++ "`"
  | .database _ => "database operation failed"
  | .io path _ => "local file I/O failed: " ++ path
  | .fileTooLarge path size limit =>
    path ++ " is " ++ toString size ++ " bytes, above the " ++ toString limit
      ++ " byte storage limit"
  | .metadata _ => "stored metadata is not a valid JSON map"

/-- The text of what lies behind a failure. -/
def source? : Failure → Option String
  | .config _ | .fileTooLarge _ _ _ => none
  | .connectivity outage => some outage.message
  | .schema _ fault | .database fault => some fault.message
  | .io _ fault => some fault.message
  | .metadata fault => some ("json:" ++ fault.category)

/-- The name of the kind of a failure. -/
def kind : Failure → String
  | .config _ => "Config"
  | .connectivity _ => "Connectivity"
  | .schema _ _ => "Schema"
  | .database _ => "Database"
  | .io _ _ => "Io"
  | .fileTooLarge _ _ _ => "FileTooLarge"
  | .metadata _ => "Metadata"

/-- The texts of a failure and of what lies behind it. -/
def chain (f : Failure) : List String := f.message :: f.source?.toList

end Failure

end FileDepot
