/-
The statements a depot runs on its table. A statement is a row of
pieces, each a fixed wording or the place of the table name. Values
never stand in the text but are bound to its question marks, so the
name is all that varies, which is why it has to be a plain identifier.

Two dialects exist. The second is that of a process that lost a race:
its check finds no table and its script does not tolerate one.
-/
import FileDepot.Text.Blank
import FileDepot.Text.Lower

namespace FileDepot

-- ========================================================== dialects

/-- The dialect a depot speaks. -/
inductive Dialect where
  | sqlite
  | racy
  deriving DecidableEq, Repr, Inhabited

namespace Dialect

/-- The name of the dialect. -/
def name : Dialect → String
  | .sqlite => "sqlite"
  | .racy => "racy"

/-- The driver identifier in the form it is compared in: without
blanks at its ends and in lower case. -/
def driverKey (driver : String) : String :=
  Text.lowerAscii (Text.trim driver)

/-- The dialect of a configured driver. -/
def ofDriver? (driver : String) : Option Dialect :=
  let key := driverKey driver
  if key = "sqlite" ∨ key = "sqlite3" then some .sqlite else none

/-- The clause that lets a script pass over what is already there. -/
def guardClause : Dialect → String
  | .sqlite => "IF NOT EXISTS "
  | .racy => ""

end Dialect

-- ======================================================== statements

/-- A part of a statement. -/
inductive Piece where
  | wording (text : String)
  | table
  deriving DecidableEq, Repr

namespace Piece

/-- The text of a piece for a table. -/
def text (table : String) : Piece → String
  | .wording t => t
  | .table => table

end Piece

/-- The statements on the table of a depot. -/
inductive Statement where
  | provision
  | insert
  | deleteAt
  | deleteExpired
  | newest
  | slice
  | describe
  deriving DecidableEq, Repr

namespace Statement

/-- The columns of a table as its script declares them. -/
def columnLines : List String :=
  ["id INTEGER PRIMARY KEY AUTOINCREMENT,",
   "bucket VARCHAR(255) NOT NULL,",
   "name VARCHAR(255) NOT NULL,",
   "version VARCHAR(255) NOT NULL,",
   "meta TEXT,",
   "length BIGINT NOT NULL,",
   "status INTEGER NOT NULL,",
   "data BLOB NOT NULL,",
   "extra VARCHAR(255),",
   "gmt_create BIGINT NOT NULL,",
   "gmt_modified BIGINT"]

/-- The column lines, each on its own line and indented. -/
def columnBlock : String :=
  String.join (columnLines.map fun line => "                " ++ line ++ "\n")

/-- The script that creates the table and its two indexes. -/
def script (guardClause : String) : List Piece :=
  [.wording ("CREATE TABLE " ++ guardClause), .table,
   .wording
     (" (\n" ++ columnBlock ++ "            );\n            CREATE INDEX "
       ++ guardClause ++ "idx_"),
   .table, .wording "_location ON ", .table,
   .wording
     (" (bucket, name);\n            CREATE INDEX " ++ guardClause ++ "idx_"),
   .table, .wording "_gmt_modified ON ", .table,
   .wording " (gmt_modified);"]

/-- The pieces of a statement. -/
def pieces : Statement → List Piece
  | .provision => script Dialect.sqlite.guardClause
  | .insert =>
    [.wording "INSERT INTO ", .table,
     .wording
       (" (bucket, name, version, meta, length, status, data, extra, "
         ++ "gmt_create, gmt_modified) VALUES (?, ?, ?, ?, ?, ?, ?, ?, ?, ?)")]
  | .deleteAt =>
    [.wording "DELETE FROM ", .table,
     .wording " WHERE bucket = ? AND name = ?"]
  | .deleteExpired =>
    [.wording "DELETE FROM ", .table,
     .wording " WHERE bucket = ? AND gmt_modified < ?"]
  | .newest =>
    [.wording "SELECT id, length FROM ", .table,
     .wording " WHERE bucket = ? AND name = ? ORDER BY id DESC LIMIT 1"]
  | .slice =>
    [.wording "SELECT substr(data, ?, ?) AS chunk FROM ", .table,
     .wording " WHERE id = ?"]
  | .describe =>
    [.wording
       ("SELECT bucket, name, version, meta, length, status, extra, "
         ++ "gmt_create, gmt_modified FROM "),
     .table,
     .wording " WHERE bucket = ? AND name = ? ORDER BY id DESC LIMIT 1"]

/-- The statement for a table. -/
def text (s : Statement) (table : String) : String :=
  String.join (s.pieces.map (Piece.text table))

/-- The number of values a depot binds. -/
def bound : Statement → Nat
  | .provision => 0
  | .insert => 10
  | .slice => 3
  | .deleteAt | .deleteExpired | .newest | .describe => 2

/-- The check for a table, whose name is its one bound value. -/
def tableCheck : String :=
  "SELECT COUNT(1) AS cnt FROM sqlite_master "
    ++ "WHERE type = 'table' AND lower(name) = lower(?)"

end Statement

end FileDepot
