/-
Provenance of a stored file: the host and the local path it came from,
and whatever other keys its metadata text holds. The text is one flat
JSON object; the two known keys are lifted into fields and all others
are kept, so that metadata of other writers survives being read and
written again.
-/
import FileDepot.Json.Printer
import FileDepot.Json.Reader
import FileDepot.Text.Blank

namespace FileDepot

/-- Where a stored file came from, with the further keys of its
metadata in ascending order. -/
structure Provenance where
  host : Option String
  path : Option String
  extra : List (String × Json)
  deriving DecidableEq, Repr, Inhabited

namespace Provenance

/-- The key of the host. -/
def hostKey : String := "_server_"

/-- The key of the local path. -/
def pathKey : String := "_local_file_path_"

/-- Nothing known. -/
def empty : Provenance := ⟨none, none, []⟩

/-- What a store records: the host and the path. -/
def origin (host path : String) : Provenance := ⟨some host, some path, []⟩

/-- Nothing known at all. -/
def isEmpty (p : Provenance) : Bool :=
  p.host.isNone && p.path.isNone && p.extra.isEmpty

/-- The field of a known key, if it has a value. -/
def field (key : String) (value : Option String) : List (String × Json) :=
  match value with
  | some s => [(key, .str s)]
  | none => []

/-- The fields in the order they are written. A further key that is
spelt like a known one stands behind it a second time. -/
def fields (p : Provenance) : List (String × Json) :=
  field hostKey p.host ++ field pathKey p.path ++ p.extra

/-- The metadata as a JSON value. -/
def json (p : Provenance) : Json := .obj p.fields

/-- The metadata text. -/
def encode (p : Provenance) : String := p.json.compact

-- ========================================================== reading

/-- What has been read: the known keys, each with its value once it was
seen, and the other fields. -/
structure Partial where
  host : Option (Option String)
  path : Option (Option String)
  extra : List (String × Json)

/-- One field. A known key must be a text or null and may stand only
once; of another key the last value counts. -/
def readField (depth : Nat) (seen : Partial) (key : String) :
    Json.Reader Partial := fun cs =>
  if key = hostKey then
    if seen.host.isSome then .error .mismatched
    else do
      let (_, cs) ← Json.colon cs
      let (s, rest) ← Json.optionalText cs
      .ok ({ seen with host := some s }, rest)
  else if key = pathKey then
    if seen.path.isSome then .error .mismatched
    else do
      let (_, cs) ← Json.colon cs
      let (s, rest) ← Json.optionalText cs
      .ok ({ seen with path := some s }, rest)
  else do
    let (_, cs) ← Json.colon cs
    let (v, rest) ← Json.value depth cs
    .ok ({ seen with extra := Json.insertField key v seen.extra }, rest)

/-- A metadata object with at most `depth` levels of nesting, its own
included. -/
def reader (depth : Nat) : Json.Reader Provenance := fun cs =>
  match Json.skipSpace cs with
  | [] => .error .incomplete
  | c :: rest =>
    if c = '\x7b' then
      match depth with
      | 0 => .error .malformed
      | depth + 1 => do
        let (seen, rest) ←
          Json.fields (readField depth) ⟨none, none, []⟩ rest
        .ok (⟨seen.host.getD none, seen.path.getD none, seen.extra⟩, rest)
    else .error (Json.mismatch cs)

/-- Reads a metadata text. No text and a text of blanks hold
nothing. -/
def decode (raw : Option String) : Except Json.Fault Provenance :=
  match raw.map Text.trim with
  | none => .ok empty
  | some text =>
    if text.isEmpty then .ok empty
    else Json.readAll (reader Json.maxDepth) text

end Provenance

end FileDepot
