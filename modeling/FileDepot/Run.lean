/-
Running a command: a backend is chosen and built from the configuration,
the command is carried out on it and the backend is shut down again,
whatever came of it. Creating the schema goes to the depot directly and
provisions its table in any case.

A run works on the path that the command names, on its database file and
on the files that the database keeps beside it (`paths`).
-/
import FileDepot.Backend
import FileDepot.CommandLine.Command
import FileDepot.Config.Source
import FileDepot.Depot.Describe
import FileDepot.Depot.Download
import FileDepot.Depot.Expire
import FileDepot.Depot.Store

namespace FileDepot

-- ========================================================== troubles

/-- Why a run failed, by what it was about. -/
inductive Trouble where
  | loading (fault : Config.LoadFault)
  | logging (misfit : Config.Misfit)
  | initialising (failure : Failure)
  | connecting (failure : Failure)
  | operation (failure : Failure)
  | nothingStored (location : Location)
  deriving DecidableEq, Repr

namespace Trouble

/-- The texts of a trouble, what was attempted first and the cause
last. -/
def chain : Trouble → List String
  | .loading fault => fault.chain
  | .logging misfit => ["Invalid " ++ Config.loggingKey, misfit.message]
  | .initialising failure =>
    "Failed to initialize storage backend" :: failure.chain
  | .connecting failure =>
    "Failed to connect database backend" :: failure.chain
  | .operation failure => failure.chain
  | .nothingStored location => ["no file stored at " ++ location.text]

end Trouble

/-- How a run ended early: with a trouble, or with the process. -/
inductive Halt where
  | trouble (t : Trouble)
  | panicked (text : String)
  deriving DecidableEq, Repr

/-- A stop as a halt, with the trouble that a failure makes. -/
def Stop.halt (trouble : Failure → Trouble) : Stop → Halt
  | .failed failure => .trouble (trouble failure)
  | .panicked text => .panicked text

/-- What a run comes to: its result, the site it leaves, what it
printed and the events it told. -/
structure Report where
  result : Except Halt Unit
  site : Site
  output : String
  events : List Event

namespace Report

/-- A run that met a trouble before it did anything. -/
def early (site : Site) (t : Trouble) : Report :=
  ⟨.error (.trouble t), site, "", []⟩

end Report

namespace CommandLine.Command

-- ========================================================== dispatch

/-- The line that tells how provisioning a table ended. -/
def provisionLine (table : String) (p : Provision) : String :=
  "table " ++ table ++ ": "
    ++ (match p with
        | .created => "created"
        | .existing => "already exists")
    ++ "\n"

/-- Plays an operation without a printed result. -/
def play (m : Mounted) (site : Site) (operation : Depot → Scene → Outcome α) :
    Report :=
  let (result, site, events) := m.play site operation
  match result with
  | .ok _ => ⟨.ok (), site, "", events⟩
  | .error failure =>
    ⟨.error (.trouble (.operation failure)), site, "", events⟩

/-- Prints the descriptor of what is stored at a location. -/
def printDescriptor (m : Mounted) (site : Site) (l : Location) : Report :=
  let (result, site, events) := m.play site fun d => d.describe l
  match result with
  | .ok (some descriptor) =>
    ⟨.ok (), site, descriptor.pretty ++ "\n", events⟩
  | .ok none => ⟨.error (.trouble (.nothingStored l)), site, "", events⟩
  | .error failure =>
    ⟨.error (.trouble (.operation failure)), site, "", events⟩

/-- Provisions the table and prints how that ended. -/
def printProvision (m : Mounted) (site : Site) : Report :=
  let (result, site, events) := m.play site Depot.provision
  match result with
  | .ok p => ⟨.ok (), site, provisionLine m.depot.table.text p, events⟩
  | .error failure =>
    ⟨.error (.trouble (.operation failure)), site, "", events⟩

/-- Carries a command out on a depot. -/
def dispatch (m : Mounted) (site : Site) : Command → Report
  | .store l file => play m site fun d => d.store l file
  | .download l target => play m site fun d => d.download l target
  | .describe l => printDescriptor m site l
  | .clean bucket days => play m site fun d => d.expire bucket days
  | .initSchema => printProvision m site

-- ================================================================ runs

/-- Creates the schema. -/
def createSchema (config : Config.Entries) (site : Site) : Report :=
  match Settings.resolve config with
  | .error fault => .early site (.operation (.config fault))
  | .ok none => .early site (.operation (.config .noUrl))
  | .ok (some settings) =>
    let a := Depot.connect { settings with autoCreate := false } site
    match a.result with
    | .error stop => ⟨.error (stop.halt .connecting), a.site, "", a.events⟩
    | .ok m =>
      let r := dispatch m a.site .initSchema
      { r with events := a.events ++ r.events }

/-- Runs any other command on the backend of the configuration. -/
def runOnBackend (command : Command) (config : Config.Entries)
    (site : Site) : Report :=
  let c := Backend.choose Backend.known config site
  match c.result with
  | .error stop => ⟨.error (stop.halt .initialising), c.site, "", c.events⟩
  | .ok active =>
    let r := dispatch active.backend c.site command
    { r with
      events :=
        c.events ++ [.backendUsed active.name] ++ r.events
          ++ [.shutDown active.name] }

/-- Runs a command under a configuration. -/
def run (command : Command) (config : Config.Entries) (site : Site) :
    Report :=
  match command with
  | .initSchema => createSchema config site
  | command => runOnBackend command config site

-- =============================================================== paths

/-- The paths that stand in a command. -/
def named : Command → List String
  | .store _ file => [file]
  | .download _ target => [target]
  | .describe _ | .clean _ _ | .initSchema => []

/-- The path of the database file that a configuration leads to. -/
def databasePath? (config : Config.Entries) : Option String :=
  match Settings.resolve config with
  | .ok (some settings) =>
    match Address.ofUrl settings.url with
    | .ok path =>
      match Address.target path with
      | .ok (.file path _) => some path
      | _ => none
    | .error _ => none
  | _ => none

/-- What is added to the path of a database file for each of the files that
stand beside it while it is in use. -/
def companionEndings : List String := ["-wal", "-shm", "-journal"]

/-- The paths of those files. They stand where links have led to. -/
def companions (files : FileTree) (path : String) : List String :=
  match files.targetPlace path with
  | .ok place => companionEndings.map (Path.ofPlace place ++ ·)
  | .error _ => []

/-- The paths that a run of a command works on, in the tree that it
leaves. -/
def paths (c : Command) (config : Config.Entries) (files : FileTree) :
    List String :=
  (match databasePath? config with
    | some path => path :: companions files path
    | none => [])
    ++ c.named

end CommandLine.Command

-- ======================================================== invocations

/-- The environment of a process: its variables and the directory that
the platform keeps configurations in. -/
structure Environment where
  bindings : List (String × String) := []
  configDirectory : Option String := none
  deriving DecidableEq, Repr

namespace Environment

/-- The value of a variable. -/
def value? (e : Environment) (name : String) : Option String :=
  e.bindings.lookup name

end Environment

/-- The configuration of an invocation and its log directory. -/
def CommandLine.Invocation.configure (i : CommandLine.Invocation)
    (e : Environment) (files : FileTree) :
    Except Trouble (Config.Entries × Option String) :=
  match Config.load files e.bindings e.configDirectory i.config with
  | .error fault => .error (.loading fault)
  | .ok config =>
    match Config.loggingDirectory config with
    | .error misfit => .error (.logging misfit)
    | .ok directory => .ok (config, directory)

/-- Runs an invocation: its configuration is loaded and checked, then
its command is run. -/
def CommandLine.Invocation.run (i : CommandLine.Invocation)
    (e : Environment) (site : Site) : Report :=
  match i.configure e site.files with
  | .error t => .early site t
  | .ok (config, _) => i.command.run config site

end FileDepot
