/-
The settings of a depot, as they are used and as they are found in a
configuration. A setting that is missing has a default; one that is
there but cannot be used is always reported, the first in the order of
`resolve`.
-/
import FileDepot.Config.Layer
import FileDepot.Table.Name
import FileDepot.Table.Statement
import FileDepot.Text.Blank

namespace FileDepot

/-- Everything that can be set about a depot. -/
structure Settings where
  driver : String
  url : String
  username : String
  password : String
  autoCreate : Bool
  table : String
  maxFileBytes : Nat
  chunkBytes : Nat
  atomicOverwrite : Bool
  busyTimeout : Nat
  connectionTimeout : Nat
  deriving DecidableEq, Repr, Inhabited

-- ============================================================= faults

/-- What is wrong with a configuration. -/
inductive ConfigFault where
  | tableName (name : String)
  | driver (key : String)
  | emptyUrl
  | inMemory
  | noChunk
  | negative (key : String) (value : Int)
  | misfit (key : String) (m : Config.Misfit)
  | noBackend
  | noUrl
  | reported (text : String)
  deriving DecidableEq, Repr

namespace Settings

/-- The key of the table that holds the settings. -/
def tableKey : String := "storage.dfs.db"

/-- The key of a setting. -/
def key (name : String) : String := tableKey ++ "." ++ name

end Settings

/-- The text of a cause. -/
def ConfigFault.message : ConfigFault → String
  | .tableName name =>
    "invalid table name `" ++ name ++ "`: expected [A-Za-z_][A-Za-z0-9_]*"
  | .driver key => "unsupported database driver `" ++ key ++ "`"
  | .emptyUrl => "database url is empty"
  | .inMemory =>
    "in-memory databases are not shared between pooled connections"
  | .noChunk => Settings.key "download_chunk_bytes" ++ " must be at least 1"
  | .negative key value =>
    key ++ " must not be negative, got " ++ toString value
  | .misfit key m => key ++ ": " ++ m.message
  | .noBackend => "no storage backend is configured"
  | .noUrl => Settings.key "url" ++ " is not set"
  | .reported text => text

/-- The table a text names. -/
def TableName.ofText (text : String) : Except ConfigFault TableName :=
  match TableName.ofText? text with
  | some name => .ok name
  | none => .error (.tableName text)

/-- The dialect of a driver. -/
def Dialect.ofDriver (driver : String) : Except ConfigFault Dialect :=
  match Dialect.ofDriver? driver with
  | some dialect => .ok dialect
  | none => .error (.driver (Dialect.driverKey driver))

namespace Settings

-- =========================================================== defaults

/-- The driver where none is set. -/
def defaultDriver : String := "sqlite"

/-- The table where none is set. -/
def defaultTable : String := "blobvault_files"

/-- The size limit where none is set. -/
def defaultMaxFileBytes : Nat := 64 * 1024 * 1024

/-- The slice size of downloads where none is set. -/
def defaultChunkBytes : Nat := 1024 * 1024

/-- The milliseconds to wait for a busy database where none are set. -/
def defaultBusyTimeout : Nat := 5000

/-- The milliseconds to wait for a connection where none are set. -/
def defaultConnectionTimeout : Nat := 30000

-- ============================================================ reading

/-- The setting of a name. -/
def setting? (config : Config.Entries) (name : String) :
    Option Config.Setting :=
  Config.find? ["storage", "dfs", "db", name] config

/-- Reads a setting that may be missing. -/
def optional (config : Config.Entries) (name : String)
    (read : String → Config.Setting → Except Config.Misfit α) :
    Except ConfigFault (Option α) :=
  match setting? config name with
  | none => .ok none
  | some s =>
    match read (key name) s with
    | .ok a => .ok (some a)
    | .error m => .error (.misfit (key name) m)

/-- A text. -/
def text (config : Config.Entries) (name : String) :
    Except ConfigFault (Option String) :=
  optional config name Config.Setting.asText

/-- A flag. -/
def flag (config : Config.Entries) (name : String) :
    Except ConfigFault (Option Bool) :=
  optional config name Config.Setting.asFlag

/-- A number that is not negative. -/
def natural (config : Config.Entries) (name : String) :
    Except ConfigFault (Option Nat) := do
  match ← optional config name Config.Setting.asNumber with
  | none => .ok none
  | some n =>
    if n < 0 then .error (.negative (key name) n) else .ok (some n.toNat)

/-- A depot is wanted: its url is set and not blank. A url that is not
a text still counts, so that it is reported and not passed over. -/
def wanted (config : Config.Entries) : Bool :=
  match setting? config "url" with
  | none => false
  | some s =>
    match s.asText (key "url") with
    | .ok url => !Text.allBlank url
    | .error _ => true

/-- The driver of a configuration, as it is spelt there. -/
def driverOf (config : Config.Entries) : Except ConfigFault String := do
  let driver := (← text config "driver").getD defaultDriver
  .ok (if Text.allBlank driver then defaultDriver else driver)

/-- The table of a configuration. -/
def tableOf (config : Config.Entries) : Except ConfigFault String := do
  let table := Text.trim ((← text config "table_name").getD defaultTable)
  .ok (if table.isEmpty then defaultTable else table)

/-- The settings under a url. -/
def resolveFor (config : Config.Entries) (url : String) :
    Except ConfigFault Settings := do
  let driver ← driverOf config
  let _ ← Dialect.ofDriver driver
  let table ← tableOf config
  let _ ← TableName.ofText table
  let chunkBytes :=
    (← natural config "download_chunk_bytes").getD defaultChunkBytes
  if chunkBytes = 0 then .error .noChunk
  else do
    let username := (← text config "username").getD ""
    let password := (← text config "password").getD ""
    let autoCreate := (← flag config "auto_create_table").getD false
    let maxFileBytes :=
      (← natural config "max_file_bytes").getD defaultMaxFileBytes
    let atomicOverwrite := (← flag config "atomic_overwrite").getD false
    let busyTimeout :=
      (← natural config "busy_timeout_ms").getD defaultBusyTimeout
    let connectionTimeout :=
      (← natural config "connection_timeout_ms").getD defaultConnectionTimeout
    .ok
      { driver, url, username, password, autoCreate, table, maxFileBytes,
        chunkBytes, atomicOverwrite, busyTimeout, connectionTimeout }

/-- The settings of a configuration; none where no url is set. -/
def resolve (config : Config.Entries) :
    Except ConfigFault (Option Settings) := do
  match ← text config "url" with
  | none => .ok none
  | some url =>
    if Text.allBlank url then .ok none
    else (resolveFor config (Text.trim url)).map some

end Settings

end FileDepot
