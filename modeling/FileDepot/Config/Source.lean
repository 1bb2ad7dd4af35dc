/-
Loading a configuration: the file, if there is one, and the environment
over it. A path that leads to no file is tried once more with an ending
appended, and a file that is not required may be missing.
-/
import FileDepot.Config.Environment
import FileDepot.Config.Toml.Document
import FileDepot.FileTree.Access
import FileDepot.Text.Utf8

namespace FileDepot.Config

-- =========================================================== faults

/-- Why a configuration file could not be loaded. -/
inductive FileTrouble where
  | missing
  | malformed
  deriving DecidableEq, Repr

/-- A configuration file that could not be loaded. -/
structure LoadFault where
  path : String
  trouble : FileTrouble
  deriving DecidableEq, Repr

namespace LoadFault

/-- The texts of a fault, what was attempted first. -/
def chain (f : LoadFault) : List String :=
  ["Failed to load configuration from " ++ f.path,
   match f.trouble with
   | .missing => "configuration file \"" ++ f.path ++ "\" not found"
   | .malformed => "toml"]

end LoadFault

-- ============================================================ loading

/-- The ending of configuration files. -/
def fileEnding : String := ".toml"

/-- The file a path stands for. -/
def findFile (files : FileTree) (path : String) : Option String :=
  let whole := Path.join (Path.ofPlace files.workdir) path
  if files.isFile whole then some whole
  else
    let longer := Path.appendEnding whole fileEnding
    if files.isFile longer then some longer else none

/-- The bytes of a text file without the mark of the byte order. -/
def withoutMark : Bytes → Bytes
  | 0xEF :: 0xBB :: 0xBF :: rest => rest
  | bytes => bytes

/-- The name under which the values of a file go: its path as seen from
the working directory. -/
def fileOrigin (files : FileTree) (path : String) : String :=
  String.intercalate "/" (Path.relativeTo (Path.steps path) files.workdir)

/-- The entries of the file a path stands for. -/
def fileEntries (files : FileTree) (path : String) :
    Except FileTrouble Entries := do
  match findFile files path with
  | none => .error .missing
  | some found =>
    match files.read found with
    | .error _ => .error .missing
    | .ok bytes =>
      match
        Toml.parse (some (fileOrigin files found))
          (Text.ofBytes (withoutMark bytes)) with
      | none => .error .malformed
      | some entries => .ok entries

/-- Loads the configuration of a file, if a path is given, and an
environment. -/
def loadFrom (files : FileTree) (bindings : List (String × String))
    (path : Option String) (required : Bool) : Except LoadFault Entries := do
  let fromFile ←
    match path with
    | none => .ok []
    | some path =>
      match fileEntries files path with
      | .ok entries => .ok entries
      | .error trouble =>
        if trouble = .missing ∧ required = false then .ok []
        else .error ⟨path, trouble⟩
  .ok (ofSources [fromFile, Environment.entries bindings])

/-- The configuration file below the directory of the platform. -/
def defaultFile (directory : String) : String :=
  directory ++ "/blobvault/config.toml"

/-- Loads the configuration: a file that is asked for must be there, the
default one may be missing. -/
def load (files : FileTree) (bindings : List (String × String))
    (directory : Option String) (asked : Option String) :
    Except LoadFault Entries :=
  match asked with
  | some path => loadFrom files bindings (some path) true
  | none => loadFrom files bindings (directory.map defaultFile) false

-- ============================================================ logging

/-- The key of the log directory. -/
def loggingKey : String := "logging.dir"

/-- The log directory, if one is set that is not blank. -/
def loggingDirectory (config : Entries) : Except Misfit (Option String) :=
  match find? ["logging", "dir"] config with
  | none => .ok none
  | some setting => do
    let text ← setting.asText loggingKey
    .ok (if Text.allBlank text then none else some (Text.trim text))

end FileDepot.Config
