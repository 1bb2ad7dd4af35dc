/-
What can go wrong with a statement, one case per cause, and the texts
of the causes. A table that is there although none was seen is the one
cause that tells of another process at work, so it has a test of its
own.
-/
import FileDepot.Location

namespace FileDepot

/-- Why a statement failed or a row could not be used. -/
inductive DatabaseFault where
  | missingTable (name : String)
  | missingColumn (column : String)
  | lacksColumn (table column : String)
  | viewModified (name : String)
  | catalogModified (name : String)
  | keyword (name : String)
  | brokenGuard
  | brokenSchema (name : String)
  | reserved (name : String)
  | tableExists (name : String)
  | viewExists (name : String)
  | indexExists (name : String)
  | tableNamesake (name : String)
  | indexNamesake (name : String)
  | viewIndexed
  | deletesBlocked
  | insertsBlocked
  | full
  | idTaken (table : String)
  | missingValue
  | negativeLength (length : Int) (location : Location)
  | noInstant (millis : Int)
  | shortPayload (id : Int) (written : Nat) (length : Int)
  | reported (text : String)
  deriving DecidableEq, Repr

namespace DatabaseFault

/-- The text of a cause. -/
def message : DatabaseFault → String
  | .missingTable name => "no such table: " ++ name
  | .missingColumn column => "no such column: " ++ column
  | .lacksColumn table column =>
    "table " ++ table ++ " has no column named " ++ column
  | .viewModified name => "cannot modify " ++ name ++ " because it is a view"
  | .catalogModified name => "table " ++ name ++ " may not be modified"
  | .keyword name => "near \"" ++ name ++ "\": syntax error"
  | .brokenGuard => "near \"(\": syntax error"
  | .brokenSchema name =>
    "malformed database schema (" ++ name ++ ") - near \"(\": syntax error"
  | .reserved name => "object name reserved for internal use: " ++ name
  | .tableExists name => "table " ++ name ++ " already exists"
  | .viewExists name => "view " ++ name ++ " already exists"
  | .indexExists name => "index " ++ name ++ " already exists"
  | .tableNamesake name => "there is already a table named " ++ name
  | .indexNamesake name => "there is already an index named " ++ name
  | .viewIndexed => "views may not be indexed"
  | .deletesBlocked => "deletes are blocked"
  | .insertsBlocked => "inserts are blocked"
  | .full => "database or disk is full"
  | .idTaken table => "UNIQUE constraint failed: " ++ table ++ ".id"
  | .missingValue => "Unexpected null for non-null column"
  | .negativeLength length location =>
    "negative length " ++ toString length ++ " for " ++ location.text
  | .noInstant millis => "timestamp " ++ toString millis ++ " out of range"
  | .shortPayload id written length =>
    "blob " ++ toString id ++ " ended after " ++ toString written ++ " of "
      ++ toString length ++ " bytes"
  | .reported text => text

/-- Something of the wanted name was created in the meantime. -/
def isAlreadyThere : DatabaseFault → Bool
  | .tableExists _ | .viewExists _ | .indexExists _ => true
  | _ => false

end DatabaseFault

end FileDepot
