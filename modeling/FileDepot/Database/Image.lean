/-
Images of databases: the text in which a database is kept in a file
between two runs. An image is one JSON object; payloads stand in it as
hexadecimal digits.
-/
import FileDepot.Database.Basic
import FileDepot.Json.Printer
import FileDepot.Json.Reader
import FileDepot.Text.Quoted

namespace FileDepot

-- ============================================================= writing

namespace Image

/-- The hexadecimal digits of bytes. -/
def hexText (data : Bytes) : String :=
  String.ofList
    (data.flatMap fun b =>
      [Text.hexDigit (b.toNat / 16), Text.hexDigit (b.toNat % 16)])

/-- A text that may be missing. -/
def textOrNull : Option String → Json
  | some s => .str s
  | none => .null

/-- A number that may be missing. -/
def numberOrNull : Option Int → Json
  | some n => .int n
  | none => .null

/-- A record, its columns in order. -/
def ofRecord (r : Record) : Json :=
  .arr
    [.int r.id, .str r.bucket, .str r.name, .str r.version,
     textOrNull r.metadata, .int r.length, .int r.status,
     .str (hexText r.data), textOrNull r.extra, .int r.created,
     numberOrNull r.modified]

/-- A table. -/
def ofTable (t : Table) : Json :=
  .arr
    [.str t.name, .int t.highest, .bool t.blocksDeletes,
     .bool t.blocksInserts, .arr (t.records.map ofRecord)]

/-- A database. -/
def ofDatabase (db : Database) : Json :=
  .arr
    [.arr (db.tables.map ofTable), .arr (db.views.map .str),
     .arr (db.strangers.map .str),
     .arr (db.indexes.map fun i => .arr [.str i.name, .str i.table]),
     .bool db.hasCounterBook]

-- ============================================================= reading

/-- The bytes of hexadecimal digits. -/
def bytes? : List Char → Option Bytes
  | [] => some []
  | [_] => none
  | a :: b :: rest => do
    let x ← Json.hexValue? a
    let y ← Json.hexValue? b
    let more ← bytes? rest
    some (UInt8.ofNat (x * 16 + y) :: more)

/-- A text that may be missing. -/
def orNull? : Json → Option (Option String)
  | .str s => some (some s)
  | .null => some none
  | _ => none

/-- A number that may be missing. -/
def numberOrNull? : Json → Option (Option Int)
  | .int n => some (some n)
  | .null => some none
  | _ => none

/-- A record. -/
def record? : Json → Option Record
  | .arr
      [.int id, .str bucket, .str name, .str version, metadata, .int length,
       .int status, .str data, extra, .int created, modified] => do
    let metadata ← orNull? metadata
    let data ← bytes? data.toList
    let extra ← orNull? extra
    let modified ← numberOrNull? modified
    some
      ⟨⟨bucket, name, version, metadata, length, status, data, extra,
        created, modified⟩, id⟩
  | _ => none

/-- A table. -/
def table? : Json → Option Table
  | .arr [.str name, .int highest, .bool deletes, .bool inserts,
      .arr records] => do
    let records ← records.mapM record?
    some ⟨name, records, highest, deletes, inserts⟩
  | _ => none

/-- A text. -/
def text? : Json → Option String
  | .str s => some s
  | _ => none

/-- An index. -/
def index? : Json → Option Index
  | .arr [.str name, .str table] => some ⟨name, table⟩
  | _ => none

/-- A database. -/
def database? : Json → Option Database
  | .arr [.arr tables, .arr views, .arr strangers, .arr indexes,
      .bool hasCounterBook] => do
    let tables ← tables.mapM table?
    let views ← views.mapM text?
    let strangers ← strangers.mapM text?
    let indexes ← indexes.mapM index?
    some ⟨tables, views, strangers, indexes, hasCounterBook⟩
  | _ => none

end Image

namespace Database

/-- The image of a database. -/
def image (db : Database) : String := (Image.ofDatabase db).compact

/-- The database of an image. -/
def ofImage? (text : String) : Option Database :=
  match Json.parse text with
  | .ok j => Image.database? j
  | .error _ => none

end Database

end FileDepot
