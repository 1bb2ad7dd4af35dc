/-
Connecting: from settings to a depot that is ready. The settings are
checked first, then the database is opened, and the table is
provisioned where the settings ask for it.

A connection timeout of zero is the one setting that stops the process
instead of failing.
-/
import FileDepot.Depot.Provision
import FileDepot.Depot.Site

namespace FileDepot

/-- Why an operation that is not over came to an end: it failed, or the
process stopped. -/
inductive Stop where
  | failed (failure : Failure)
  | panicked (text : String)
  deriving DecidableEq, Repr

/-- A depot with the residence of its database. -/
structure Mounted where
  depot : Depot
  residence : Residence
  deriving DecidableEq, Repr

/-- What an attempt on a site comes to: its result, the site it leaves
and the events it told, in order. -/
structure Attempt (α : Type) where
  result : Except Stop α
  site : Site
  events : List Event

namespace Attempt

/-- An attempt that failed and left the site alone. -/
def failed (site : Site) (failure : Failure) (events : List Event := []) :
    Attempt α :=
  ⟨.error (.failed failure), site, events⟩

/-- Events told before an attempt. -/
def before (events : List Event) (a : Attempt α) : Attempt α :=
  { a with events := events ++ a.events }

end Attempt

/-- The text of a process that stops over a connection timeout. -/
def timeoutPanic : String := "connection_timeout must be positive"

namespace Mounted

/-- Plays an operation of the depot on a site. -/
def play (m : Mounted) (site : Site)
    (operation : Depot → Scene → Outcome α) :
    Except Failure α × Site × List Event :=
  let out := operation m.depot (site.scene m.residence)
  (out.result, site.absorb m.residence out.scene, out.events)

end Mounted

namespace Depot

/-- What can be known of a connection before the database is opened:
the depot and the path of its database. -/
def plan (settings : Settings) : Except ConfigFault (Depot × String) := do
  let dialect ← Dialect.ofDriver settings.driver
  let table ← TableName.ofText settings.table
  let path ← Address.ofUrl settings.url
  .ok (⟨dialect, table, settings.options⟩, path)

/-- The event of settings that carry credentials. -/
def credentialEvents (settings : Settings) : List Event :=
  if settings.username ≠ "" ∨ settings.password ≠ "" then
    [.credentialsIgnored]
  else []

/-- Brings an opened depot into use. -/
def start (settings : Settings) (m : Mounted) (site : Site) :
    Attempt Mounted :=
  let ready := Event.ready m.depot.table.text m.depot.dialect
  if settings.autoCreate then
    let (result, site, events) := m.play site Depot.provision
    match result with
    | .ok _ => ⟨.ok m, site, events ++ [ready]⟩
    | .error failure => .failed site failure events
  else ⟨.ok m, site, [ready]⟩

/-- Connects a depot. -/
def connect (settings : Settings) (site : Site) : Attempt Mounted :=
  match plan settings with
  | .error fault => .failed site (.config fault)
  | .ok (depot, path) =>
    Attempt.before
      (.connecting settings.driver path :: credentialEvents settings)
      (if settings.connectionTimeout = 0 then
        ⟨.error (.panicked timeoutPanic), site, []⟩
      else
        match site.openDatabase path with
        | .error outage => .failed site (.connectivity outage)
        | .ok (residence, site) => start settings ⟨depot, residence⟩ site)

end Depot

end FileDepot
