/-
Commands: what the program can be asked to do, with everything each of
them needs, and the faults of a command line that asks for none.
-/
import FileDepot.Location

namespace FileDepot.CommandLine

/-- The commands without what they need. -/
inductive CommandName where
  | store
  | download
  | describe
  | clean
  | initSchema
  deriving DecidableEq, Repr

namespace CommandName

/-- All commands in the order they are listed. -/
def all : List CommandName := [store, download, describe, clean, initSchema]

/-- The word of a command. -/
def word : CommandName → String
  | store => "store"
  | download => "download"
  | describe => "meta"
  | clean => "clean"
  | initSchema => "init-schema"

/-- The command of a word. -/
def ofWord? (word : String) : Option CommandName :=
  all.find? fun c => c.word == word

end CommandName

/-- A command. -/
inductive Command where
  | store (location : Location) (file : String)
  | download (location : Location) (target : String)
  | describe (location : Location)
  | clean (bucket : String) (days : Nat)
  | initSchema
  deriving DecidableEq, Repr

/-- The name of a command. -/
def Command.name : Command → CommandName
  | .store _ _ => .store
  | .download _ _ => .download
  | .describe _ => .describe
  | .clean _ _ => .clean
  | .initSchema => .initSchema

/-- A command and the configuration file it is to be run with. -/
structure Invocation where
  command : Command
  config : Option String
  deriving DecidableEq, Repr

/-- Why a command line asks for no command: it is wrong, or it asks for
help or for the version. -/
inductive UsageFault where
  | argumentConflict
  | invalidSubcommand
  | invalidValue
  | missingRequired
  | missingSubcommand
  | tooManyValues
  | unknownArgument
  | valueValidation
  | helpOnMissing
  | help (command : Option CommandName)
  | version
  deriving DecidableEq, Repr

namespace UsageFault

/-- The exit code of the program: help and the version are what was
asked for. -/
def exitCode : UsageFault → Nat
  | .help _ | .version => 0
  | _ => 2

end UsageFault

end FileDepot.CommandLine
