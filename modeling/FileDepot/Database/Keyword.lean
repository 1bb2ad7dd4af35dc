/-
The words a statement cannot use as a table name, and the names the
database keeps to itself. All are compared without regard to the case
of the letters A to Z.

The word that guards a creation is no reserved word. Only a statement
that creates a table of this name cannot be read: the name is taken for
a guard that breaks off.
-/
import FileDepot.Text.Lower

namespace FileDepot.Database

/-- The reserved words of the statement language. -/
def keywords : List String :=
  ["add", "all", "alter", "and", "as", "autoincrement", "between", "case",
   "check", "collate", "commit", "constraint", "create", "default",
   "deferrable", "delete", "distinct", "drop", "else", "escape", "except",
   "exists", "foreign", "from", "group", "having", "in", "index", "insert",
   "intersect", "into", "is", "isnull", "join", "limit", "not", "nothing",
   "notnull", "null", "on", "or", "order", "primary", "references",
   "returning", "select", "set", "table", "then", "to", "transaction",
   "union", "unique", "update", "using", "values", "when", "where"]

/-- A reserved word in any case. -/
def isKeyword (name : String) : Bool :=
  keywords.contains (Text.lowerAscii name)

/-- The word that guards a creation, in any case. -/
def isGuardWord (name : String) : Bool := Text.lowerAscii name == "if"

/-- The start of the names that are for internal use. -/
def internalStart : List Char := "sqlite_".toList

/-- A name for internal use. -/
def isInternal (name : String) : Bool :=
  internalStart.isPrefixOf (Text.lowerAscii name).toList

/-- The tables that list the objects of a database, under all their
names, and the name they go by in faults. -/
def catalog? (name : String) : Option String :=
  let key := Text.lowerAscii name
  if key = "sqlite_master" ∨ key = "sqlite_schema" then some "sqlite_master"
  else if key = "sqlite_temp_master" ∨ key = "sqlite_temp_schema" then
    some "sqlite_temp_master"
  else none

end FileDepot.Database
