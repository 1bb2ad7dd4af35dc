/-
A location names a stored file: a bucket and a name inside it. Both are
arbitrary texts, and two locations are the same when both parts are.
-/
import FileDepot.Json.Printer
import FileDepot.Json.Reader
import FileDepot.Text.Quoted

namespace FileDepot

/-- The logical key of a stored file. -/
structure Location where
  bucket : String
  name : String
  deriving DecidableEq, Repr, Inhabited

namespace Location

/-- Bucket and name with a slash between them. -/
def text (l : Location) : String := l.bucket ++ "/" ++ l.name

/-- The fields with their names, both texts quoted. -/
def inspect (l : Location) : String :=
  "FileLocation \x7b bucket: " ++ Text.quoted l.bucket ++ ", name: "
    ++ Text.quoted l.name ++ " \x7d"

/-- The location as a JSON object. -/
def json (l : Location) : String :=
  "\x7b\"bucket\":" ++ String.ofList (Json.renderString l.bucket)
    ++ ",\"name\":" ++ String.ofList (Json.renderString l.name) ++ "\x7d"

-- ========================================================== reading

/-- The fields seen so far. -/
abbrev Partial := Option String × Option String

/-- One field of an object. A field seen twice is a mismatch, one that
is not known is passed over. -/
def readField (seen : Partial) (key : String) : Json.Reader Partial :=
  fun cs =>
    if key = "bucket" then
      if seen.1.isSome then .error .mismatched
      else do
        let (_, cs) ← Json.colon cs
        let (s, rest) ← Json.textValue cs
        .ok ((some s, seen.2), rest)
    else if key = "name" then
      if seen.2.isSome then .error .mismatched
      else do
        let (_, cs) ← Json.colon cs
        let (s, rest) ← Json.textValue cs
        .ok ((seen.1, some s), rest)
    else do
      let (_, cs) ← Json.colon cs
      let (_, rest) ← Json.skip cs
      .ok (seen, rest)

/-- The comma before a further element of a fixed-length array; the end
of the array is a mismatch here. -/
def nextElement (cs : List Char) : Except Json.Fault (List Char) :=
  match Json.skipSpace cs with
  | [] => .error .incomplete
  | c :: rest =>
    if c = ']' then .error .mismatched
    else if c = ',' then
      match Json.skipSpace rest with
      | [] => .error .incomplete
      | d :: rest =>
        if d = ']' then .error .malformed else .ok (d :: rest)
    else .error .malformed

/-- The first element of a fixed-length array; an empty array is a
mismatch. -/
def firstElement (cs : List Char) : Except Json.Fault (List Char) :=
  match Json.skipSpace cs with
  | [] => .error .incomplete
  | c :: rest => if c = ']' then .error .mismatched else .ok (c :: rest)

/-- The end of a fixed-length array. -/
def lastElement (cs : List Char) : Except Json.Fault (List Char) :=
  match Json.skipSpace cs with
  | [] => .error .incomplete
  | c :: rest => if c = ']' then .ok rest else .error .malformed

/-- A location: an object with both fields, or an array of the two
texts. -/
def reader : Json.Reader Location := fun cs =>
  match Json.skipSpace cs with
  | [] => .error .incomplete
  | c :: rest =>
    if c = '\x7b' then do
      let (seen, rest) ← Json.fields readField (none, none) rest
      match seen with
      | (some bucket, some name) => .ok (⟨bucket, name⟩, rest)
      | _ => .error .mismatched
    else if c = '[' then do
      let cs ← firstElement rest
      let (bucket, cs) ← Json.textValue cs
      let cs ← nextElement cs
      let (name, cs) ← Json.textValue cs
      let rest ← lastElement cs
      .ok (⟨bucket, name⟩, rest)
    else .error (Json.mismatch cs)

/-- Reads the JSON text of a location. -/
def parse (text : String) : Except Json.Fault Location :=
  Json.readAll reader text

end Location

end FileDepot
