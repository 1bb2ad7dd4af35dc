/-
Events, what a depot tells while it works. Every event has a level, a
text, the part of the program it comes from and fields that name what
it is about.
-/
import FileDepot.Calendar.Instant
import FileDepot.Failure

namespace FileDepot

/-- How much an event matters, the most urgent last. -/
inductive Level where
  | trace
  | debug
  | info
  | warn
  | error
  deriving DecidableEq, Repr

namespace Level

/-- The name of a level. -/
def name : Level → String
  | .trace => "TRACE"
  | .debug => "DEBUG"
  | .info => "INFO"
  | .warn => "WARN"
  | .error => "ERROR"

/-- The rank of a level; a filter passes what is at or above its
own. -/
def rank : Level → Nat
  | .trace => 0
  | .debug => 1
  | .info => 2
  | .warn => 3
  | .error => 4

end Level

/-- The value of a field. -/
inductive FieldValue where
  | text (s : String)
  | number (n : Int)
  deriving DecidableEq, Repr

/-- What happened. -/
inductive Event where
  | connecting (driver url : String)
  | credentialsIgnored
  | ready (table : String) (dialect : Dialect)
  | tableFound (table : String)
  | creatingTable (table : String) (dialect : Dialect)
  | tableCreated (table : String)
  | raceLost (table : String) (fault : DatabaseFault)
  | deletedPrevious (location : Location) (count : Nat)
  | deleteFailed (location : Location) (failure : Failure)
  | stored (location : Location) (length : Int)
  | storeFailed (location : Location) (file : String) (failure : Failure)
  | downloaded (location : Location) (target : String)
  | nothingStored (location : Location)
  | downloadFailed (location : Location) (target : String)
      (failure : Failure)
  | describeFailed (location : Location) (failure : Failure)
  | cleaning (bucket : String) (days : Nat) (cutoff : Int)
  | cleaned (bucket : String) (count : Nat)
  | cleanFailed (bucket : String) (failure : Failure)
  | shadowed (backend active : String)
  | activated (backend : String) (priority : Int)
  | shutDown (backend : String)
  | backendUsed (backend : String)
  deriving DecidableEq, Repr

namespace Event

/-- The connections a depot keeps open when nothing is going on. -/
def idleConnections : Nat := 2

/-- The most connections a depot opens. -/
def maxConnections : Nat := 32

/-- How much the event matters. -/
def level : Event → Level
  | .connecting _ _ | .ready _ _ | .tableFound _ | .creatingTable _ _
  | .tableCreated _ | .stored _ _ | .downloaded _ _ | .cleaning _ _ _
  | .cleaned _ _ | .shadowed _ _ | .activated _ _ | .shutDown _
  | .backendUsed _ => .info
  | .credentialsIgnored | .deletedPrevious _ _ => .debug
  | .raceLost _ _ | .nothingStored _ => .warn
  | .deleteFailed _ _ | .storeFailed _ _ _ | .downloadFailed _ _ _
  | .describeFailed _ _ | .cleanFailed _ _ => .error

/-- The text of the event. -/
def message : Event → String
  | .connecting _ _ => "init datasource"
  | .credentialsIgnored =>
    "sqlite has no authentication, ignoring configured credentials"
  | .ready _ _ =>
    "db file storage initialized, this will be the storage layer"
  | .tableFound _ => "table already exists, skip creation"
  | .creatingTable _ _ => "creating table"
  | .tableCreated _ => "auto create table successfully"
  | .raceLost _ _ => "table created concurrently by another process"
  | .deletedPrevious _ _ => "deleted previous records"
  | .deleteFailed _ _ => "delete by location failed"
  | .stored _ _ => "store file successfully"
  | .storeFailed _ _ _ => "store file failed"
  | .downloaded _ _ => "download file successfully"
  | .nothingStored _ => "download skipped, file does not exist"
  | .downloadFailed _ _ _ => "download file failed"
  | .describeFailed _ _ => "fetch file meta failed"
  | .cleaning _ _ _ => "start to clean expired files"
  | .cleaned _ _ => "clean expired files finished"
  | .cleanFailed _ _ => "clean expired files failed"
  | .shadowed _ _ =>
    "backend configured but shadowed by a higher priority backend"
  | .activated _ _ => "storage backend activated"
  | .shutDown _ => "shutting down storage backend"
  | .backendUsed _ => "using storage backend"

/-- The part of the program the event comes from. -/
def target : Event → String
  | .connecting _ _ | .credentialsIgnored => "bv_infra::db::pool"
  | .tableFound _ | .creatingTable _ _ | .tableCreated _ | .raceLost _ _ =>
    "bv_infra::db::provisioner"
  | .ready _ _ | .deletedPrevious _ _ | .deleteFailed _ _ | .stored _ _
  | .storeFailed _ _ _ | .downloaded _ _ | .nothingStored _
  | .downloadFailed _ _ _ | .describeFailed _ _ | .cleaning _ _ _
  | .cleaned _ _ | .cleanFailed _ _ =>
    "bv_infra::storage::db_file_storage"
  | .shadowed _ _ | .activated _ _ | .shutDown _ =>
    "bv_infra::storage::registry"
  | .backendUsed _ => "blobvault::bootstrap::run"

/-- A cutoff to the second, or as milliseconds where it names no
instant. -/
def cutoffText (cutoff : Int) : String :=
  match Calendar.Instant.ofMillis? cutoff with
  | some t => t.toSeconds
  | none => toString cutoff

/-- A field with a text. -/
def textField (name text : String) : String × FieldValue :=
  (name, .text text)

/-- A field with a number. -/
def numberField (name : String) (n : Int) : String × FieldValue :=
  (name, .number n)

/-- The fields of the event. -/
def fields : Event → List (String × FieldValue)
  | .connecting driver url =>
    [textField "driver" driver, textField "url" url,
     numberField "min_idle" idleConnections,
     numberField "max_size" maxConnections]
  | .credentialsIgnored => []
  | .ready table dialect | .creatingTable table dialect =>
    [textField "table" table, textField "dialect" dialect.name]
  | .tableFound table | .tableCreated table => [textField "table" table]
  | .raceLost table fault =>
    [textField "table" table, textField "error" fault.message]
  | .deletedPrevious location count =>
    [textField "location" location.text, numberField "deleted" count]
  | .deleteFailed location failure | .describeFailed location failure =>
    [textField "location" location.text, textField "error" failure.message]
  | .stored location length =>
    [textField "location" location.text, numberField "length" length]
  | .storeFailed location file failure =>
    [textField "location" location.text, textField "local_file" file,
     textField "error" failure.message]
  | .downloaded location target =>
    [textField "location" location.text, textField "target" target]
  | .nothingStored location => [textField "location" location.text]
  | .downloadFailed location target failure =>
    [textField "location" location.text, textField "target" target,
     textField "error" failure.message]
  | .cleaning bucket days cutoff =>
    [textField "bucket" bucket, numberField "retention_days" days,
     textField "cutoff" (cutoffText cutoff)]
  | .cleaned bucket count =>
    [textField "bucket" bucket, numberField "deleted" count]
  | .cleanFailed bucket failure =>
    [textField "bucket" bucket, textField "error" failure.message]
  | .shadowed backend active =>
    [textField "backend" backend, textField "active" active]
  | .activated backend priority =>
    [textField "backend" backend, numberField "priority" priority]
  | .shutDown backend | .backendUsed backend => [textField "backend" backend]

end Event

end FileDepot
