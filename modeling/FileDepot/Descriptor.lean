/-
The descriptor of a stored file: its length, the instant it was last
modified and its provenance, everything but the payload.
-/
import FileDepot.Calendar.Reading
import FileDepot.Location
import FileDepot.Provenance

namespace FileDepot

/-- What is known of a stored file without its payload. -/
structure Descriptor where
  length : Nat
  lastModified : Calendar.Instant
  provenance : Provenance
  deriving DecidableEq, Repr, Inhabited

namespace Descriptor

/-- The descriptor as a JSON value, its fields in writing order. -/
def json (d : Descriptor) : Json :=
  .obj
    [("length", .int d.length),
     ("last_modified", .str d.lastModified.rfc3339),
     ("meta_info", d.provenance.json)]

/-- The compact text. -/
def compact (d : Descriptor) : String := d.json.compact

/-- The indented text. -/
def pretty (d : Descriptor) : String := d.json.pretty

-- ========================================================== reading

/-- The fields seen so far. -/
structure Partial where
  length : Option Nat
  lastModified : Option Calendar.Instant
  provenance : Option Provenance

/-- An instant as a JSON string. -/
def instantValue : Json.Reader Calendar.Instant := fun cs => do
  let (s, rest) ← Json.textValue cs
  match Calendar.Instant.parse? s with
  | some t => .ok (t, rest)
  | none => .error .mismatched

/-- One field of an object; a field seen twice is a mismatch, one that
is not known is passed over. -/
def readField (depth : Nat) (seen : Partial) (key : String) :
    Json.Reader Partial := fun cs =>
  if key = "length" then
    if seen.length.isSome then .error .mismatched
    else do
      let (_, cs) ← Json.colon cs
      let (n, rest) ← Json.naturalValue cs
      .ok ({ seen with length := some n }, rest)
  else if key = "last_modified" then
    if seen.lastModified.isSome then .error .mismatched
    else do
      let (_, cs) ← Json.colon cs
      let (t, rest) ← instantValue cs
      .ok ({ seen with lastModified := some t }, rest)
  else if key = "meta_info" then
    if seen.provenance.isSome then .error .mismatched
    else do
      let (_, cs) ← Json.colon cs
      let (p, rest) ← Provenance.reader depth cs
      .ok ({ seen with provenance := some p }, rest)
  else do
    let (_, cs) ← Json.colon cs
    let (_, rest) ← Json.skip cs
    .ok (seen, rest)

/-- The nesting left inside the descriptor's own brackets. -/
def innerDepth : Nat := Json.maxDepth - 1

/-- A descriptor: an object with the three fields, or an array of their
values. -/
def reader : Json.Reader Descriptor := fun cs =>
  match Json.skipSpace cs with
  | [] => .error .incomplete
  | c :: rest =>
    if c = '\x7b' then do
      let (seen, rest) ←
        Json.fields (readField innerDepth) ⟨none, none, none⟩ rest
      match seen with
      | ⟨some n, some t, some p⟩ => .ok (⟨n, t, p⟩, rest)
      | _ => .error .mismatched
    else if c = '[' then do
      let cs ← Location.firstElement rest
      let (n, cs) ← Json.naturalValue cs
      let cs ← Location.nextElement cs
      let (t, cs) ← instantValue cs
      let cs ← Location.nextElement cs
      let (p, cs) ← Provenance.reader innerDepth cs
      let rest ← Location.lastElement cs
      .ok (⟨n, t, p⟩, rest)
    else .error (Json.mismatch cs)

/-- Reads the JSON text of a descriptor. -/
def parse (text : String) : Except Json.Fault Descriptor :=
  Json.readAll reader text

end Descriptor

end FileDepot
