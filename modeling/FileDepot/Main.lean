/-
The program on a real machine. The files a command line names are read
into a file tree, the database is read from its image, the program runs
on both, and what it changed is written back.
-/
import FileDepot.Database.Image
import FileDepot.Program
import Std.Time.DateTime

namespace FileDepot.Main

-- ======================================================== environment

/-- The variables the program looks at. -/
def variableNames : List String :=
  [CommandLine.configVariable, LogFilter.variableName, "HOSTNAME",
   "BLOBVAULT__LOGGING__DIR"]
    ++ ["URL", "DRIVER", "TABLE_NAME", "USERNAME", "PASSWORD",
        "AUTO_CREATE_TABLE", "MAX_FILE_BYTES", "DOWNLOAD_CHUNK_BYTES",
        "ATOMIC_OVERWRITE", "BUSY_TIMEOUT_MS", "CONNECTION_TIMEOUT_MS"].map
      ("BLOBVAULT__STORAGE__DFS__DB__" ++ ·)

/-- Reads the environment. -/
def readEnvironment : IO Environment := do
  let bindings ← variableNames.filterMapM fun name => do
    return (← IO.getEnv name).map fun value => (name, value)
  let configDirectory ←
    match ← IO.getEnv "XDG_CONFIG_HOME" with
    | some directory => pure (some directory)
    | none => do
      let home ← IO.getEnv "HOME"
      pure (home.map (· ++ "/.config"))
  return { bindings, configDirectory }

/-- The milliseconds since 1970. -/
def clock : IO Int := do
  return (← Std.Time.Timestamp.now).toMillisecondsSinceUnixEpoch.val

-- =========================================================== reading

/-- What stands at a path on the machine, if anything does. -/
def nodeAt (path : String) : IO (Option Node) := do
  let found : IO Node := do
    let real ← IO.FS.realPath path
    if (← real.metadata).type == .dir then return .directory
    else return .file (← IO.FS.readBinFile real).toList
  return (← found.toBaseIO).toOption

/-- The place of a path; a double dot takes the name before it away. -/
def placeOf (files : FileTree) (path : String) : Place :=
  (Path.steps (Path.join (Path.ofPlace files.workdir) path)).foldl
    (fun place part =>
      if part = ".." then place.dropLast else place ++ [part]) []

/-- Reads a path and the directories above it into a tree. -/
def readPath (files : FileTree) (path : String) : IO FileTree := do
  let place := placeOf files path
  let mut files := files
  for length in [1:place.length + 1] do
    let here := place.take length
    if (files.node? here).isNone then
      if let some node ← nodeAt (Path.ofPlace here) then
        files := files.set here node
  return files

/-- The databases whose images are among the files. -/
def databasesOf (files : FileTree) : List (Residence × Database) :=
  files.nodes.filterMap fun (place, node) =>
    match node with
    | .file content =>
      (Database.ofImage? (Text.ofBytes content)).map fun db =>
        (.file place, db)
    | _ => none

/-- Reads all that an invocation works on. -/
def readSite (i : CommandLine.Invocation) (e : Environment) : IO Site := do
  let workdir := Path.steps (← IO.currentDir).toString
  let config := (i.config <|> e.configDirectory.map Config.defaultFile).toList
  let mut files : FileTree := { workdir }
  for path in [Path.ofPlace workdir] ++ config
      ++ config.map (Path.appendEnding · Config.fileEnding)
      ++ i.command.named do
    files ← readPath files path
  if let .ok (config, logs) := i.configure e files then
    for path in (logs.map (Path.join · logFile)).toList
        ++ (CommandLine.Command.databasePath? config).toList do
      files ← readPath files path
  return {
    files
    databases := databasesOf files
    now := ← clock
    host := (e.value? "HOSTNAME").getD "localhost" }

-- =========================================================== writing

/-- Writes back the files and databases that changed. -/
def writeBack (before after : Site) : IO Unit := do
  for (place, node) in after.files.nodes do
    if before.files.node? place != some node then
      match node with
      | .directory => IO.FS.createDirAll (Path.ofPlace place)
      | .file content =>
        IO.FS.writeBinFile (Path.ofPlace place) content.toByteArray
      | .link _ => pure ()
  for (residence, db) in after.databases do
    match residence with
    | .file place =>
      if before.database? residence != some db then
        IO.FS.writeFile (Path.ofPlace place) db.image
    | .memory => pure ()

/-- A field as it stands in a log line. -/
def fieldText (f : String × FieldValue) : String :=
  f.1 ++ "="
    ++ match f.2 with
      | .text s => s
      | .number n => toString n

/-- An event as a log line. -/
def logLine (e : Event) : String :=
  String.intercalate " "
    ([e.level.name, e.target ++ ":", e.message] ++ e.fields.map fieldText)

/-- Runs a command line. One that is wrong is answered with the help on
the program. -/
def run (arguments : List String) : IO UInt32 := do
  let e ← readEnvironment
  let configVariable := e.value? CommandLine.configVariable
  let site ←
    match CommandLine.parse configVariable arguments with
    | .ok i => readSite i e
    | .error fault => do
      if fault.exitCode ≠ 0 then
        IO.eprint (CommandLine.rootHelp configVariable)
      pure { files := {} }
  let exit := program arguments e site
  for event in exit.log do
    IO.eprintln (logLine event)
  writeBack site exit.site
  IO.print exit.output
  for line in exit.report do
    IO.eprintln line
  return exit.code.toUInt32

end FileDepot.Main

/-- The entry of the program. -/
def main (arguments : List String) : IO UInt32 :=
  FileDepot.Main.run arguments
