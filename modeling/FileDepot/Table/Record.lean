/-
Records, the rows of a depot's table. A draft is a record that has no
id yet; the table numbers it when it is inserted. What a store writes
always has the current version, is in use, and was created when it was
last changed.
-/
import FileDepot.Location

namespace FileDepot

/-- The bytes of a file. -/
abbrev Bytes := List UInt8

/-- The columns of a record other than its id. Times are milliseconds
since 1970. -/
structure Draft where
  bucket : String
  name : String
  version : String
  metadata : Option String
  length : Int
  status : Int
  data : Bytes
  extra : Option String
  created : Int
  modified : Option Int
  deriving DecidableEq, Repr, Inhabited

/-- A row of the table. -/
structure Record extends Draft where
  id : Int
  deriving DecidableEq, Repr, Inhabited

namespace Draft

/-- The version every stored record carries. -/
def currentVersion : String := "mu"

/-- The status of a record that is in use. -/
def enabled : Int := 1

/-- The location of the record. -/
def location (d : Draft) : Location := ⟨d.bucket, d.name⟩

/-- The time of the last change, which is the time of creation where
the table has none. -/
def modifiedMillis (d : Draft) : Int := d.modified.getD d.created

/-- The draft of a file with the given bytes and metadata text, stored
at one instant. -/
def ofFile (l : Location) (data : Bytes) (metadata : String) (now : Int) :
    Draft where
  bucket := l.bucket
  name := l.name
  version := currentVersion
  metadata := some metadata
  length := data.length
  status := enabled
  data := data
  extra := none
  created := now
  modified := some now

/-- Lies in the bucket and has a known time before the cutoff. -/
def isExpired (bucket : String) (cutoff : Int) (d : Draft) : Bool :=
  d.bucket == bucket && (d.modified.map (decide <| · < cutoff)).getD false

end Draft

end FileDepot
