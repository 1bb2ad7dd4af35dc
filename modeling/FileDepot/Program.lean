/-
The program as a whole, from the arguments of a process to its exit
code. Help and the version are printed; a command line that is wrong
ends the process at once. Otherwise the log is set up, the command is
run, and a trouble is reported with everything that led to it.
-/
import FileDepot.CommandLine.Help
import FileDepot.LogFilter
import FileDepot.Run

namespace FileDepot

-- ============================================================ reports

/-- The lines of a text. -/
def textLines (text : String) : List String :=
  (Path.splitOn '\n' [] text.toList).map String.ofList

/-- A cause in a report, indented, with its number if there are
several. -/
def causeLines (number : Option Nat) (text : String) : List String :=
  match textLines text, number with
  | [], _ => []
  | first :: rest, none => ("    " ++ first) :: rest.map ("    " ++ ·)
  | first :: rest, some n =>
    (String.ofList (List.replicate (5 - (toString n).length) ' ')
        ++ toString n ++ ": " ++ first)
      :: rest.map ("       " ++ ·)

/-- The report of a trouble: what failed, and what led to it. -/
def Trouble.report (t : Trouble) : List String :=
  match t.chain with
  | [] => []
  | top :: causes =>
    textLines ("Error: " ++ top)
      ++ (match causes with
          | [] => []
          | [cause] => ["", "Caused by:"] ++ causeLines none cause
          | causes =>
            ["", "Caused by:"]
              ++ (causes.zipIdx.map fun (cause, n) =>
                  causeLines (some n) cause).flatten)

-- ============================================================ logging

/-- The name of the log file. -/
def logFile : String := "blobvault.log"

/-- How setting up the log file ended. -/
inductive LogSetup where
  | ready
  | fallback
  | panicked
  deriving DecidableEq, Repr

/-- Sets up the log file. A directory that cannot be made is told and
passed over, a file in it that cannot be opened is not. -/
def openLog (files : FileTree) (directory : Option String) :
    LogSetup × FileTree :=
  match directory with
  | none => (.ready, files)
  | some directory =>
    match files.makeDirectories directory with
    | (files, some _) => (.fallback, files)
    | (files, none) =>
      match files.walk .createFile (Path.join directory logFile) with
      | .error _ => (.panicked, files)
      | .ok (.found _ _) => (.ready, files)
      | .ok (.free place) => (.ready, files.set place (.file []))

-- ============================================================ process

/-- How a process ended: its exit code, what it printed, the report of
a trouble, the events its log shows, and whether it did without the log
file. -/
structure Exit where
  code : Nat
  output : String := ""
  report : List String := []
  log : List Event := []
  logFallback : Bool := false
  site : Site

/-- The exit code of a process that stopped. -/
def panicCode : Nat := 101

/-- The end of a process that met a trouble before its log was set
up. -/
def Exit.early (site : Site) (t : Trouble) : Exit :=
  { code := 1, report := t.report, site }

/-- The end of a process after a run. -/
def Exit.ofReport (filter : LogFilter) (logFallback : Bool) (r : Report) :
    Exit :=
  let log := r.events.filter filter.passes
  match r.result with
  | .ok () => { code := 0, output := r.output, log, logFallback, site := r.site }
  | .error (.trouble t) =>
    { code := 1, output := r.output, report := t.report, log, logFallback,
      site := r.site }
  | .error (.panicked _) =>
    { code := panicCode, output := r.output, log, logFallback,
      site := r.site }

/-- Runs an invocation as a process. -/
def CommandLine.Invocation.execute (i : CommandLine.Invocation)
    (e : Environment) (site : Site) : Exit :=
  match i.configure e site.files with
  | .error t => .early site t
  | .ok (config, directory) =>
    let filter := LogFilter.ofVariable (e.value? LogFilter.variableName)
    let (setup, files) := openLog site.files directory
    let site := { site with files := files }
    if setup = .panicked then { code := panicCode, site }
    else
      Exit.ofReport filter (setup = .fallback) (i.command.run config site)

/-- The whole program. -/
def program (arguments : List String) (e : Environment) (site : Site) :
    Exit :=
  let configVariable := e.value? CommandLine.configVariable
  match CommandLine.parse configVariable arguments with
  | .error fault =>
    { code := fault.exitCode
      output := CommandLine.shown fault configVariable
      site }
  | .ok i => i.execute e site

end FileDepot
