/-
Settings written out for inspection, on one line or one field to a
line. The password never shows.
-/
import FileDepot.Depot.Settings
import FileDepot.Text.Quoted

namespace FileDepot.Settings

/-- What stands in the place of the password. -/
def redacted : String := "<redacted>"

/-- A flag. -/
def flagText (b : Bool) : String := if b then "true" else "false"

/-- The fields with their values, in order. -/
def shown (s : Settings) : List (String × String) :=
  [("driver", Text.quoted s.driver),
   ("url", Text.quoted s.url),
   ("username", Text.quoted s.username),
   ("password", Text.quoted redacted),
   ("auto_create_table", flagText s.autoCreate),
   ("table_name", Text.quoted s.table),
   ("max_file_bytes", toString s.maxFileBytes),
   ("download_chunk_bytes", toString s.chunkBytes),
   ("atomic_overwrite", flagText s.atomicOverwrite),
   ("busy_timeout_ms", toString s.busyTimeout),
   ("connection_timeout_ms", toString s.connectionTimeout)]

/-- The settings on one line. -/
def inspect (s : Settings) : String :=
  "DbStorageConfig \x7b "
    ++ String.intercalate ", " (s.shown.map fun f => f.1 ++ ": " ++ f.2)
    ++ " \x7d"

/-- The settings with one field to a line. -/
def inspectLines (s : Settings) : String :=
  "DbStorageConfig \x7b\n"
    ++ String.join (s.shown.map fun f => "    " ++ f.1 ++ ": " ++ f.2 ++ ",\n")
    ++ "\x7d"

end FileDepot.Settings
