/-
Describing what is stored. A record describes its file unless its
length is negative, its time names no instant or its metadata text
cannot be read; the first of these that holds is the failure.
-/
import FileDepot.Depot.Basic
import FileDepot.Descriptor

namespace FileDepot

/-- The descriptor of a record. -/
def Draft.descriptor (d : Draft) : Except Failure Descriptor :=
  if d.length < 0 then
    .error (.database (.negativeLength d.length d.location))
  else
    match Calendar.Instant.ofMillis? d.modifiedMillis with
    | none => .error (.database (.noInstant d.modifiedMillis))
    | some modified =>
      match Provenance.decode d.metadata with
      | .error fault => .error (.metadata fault)
      | .ok provenance => .ok ⟨d.length.toNat, modified, provenance⟩

namespace Depot

/-- The descriptor of the newest record at a location, if there is
one. -/
def lookUp (d : Depot) (l : Location) (scene : Scene) :
    Except Failure (Option Descriptor) := do
  match ← scene.query fun db => db.described d.table.text l with
  | none => .ok none
  | some r => r.toDraft.descriptor.map some

/-- Describes what is stored at a location. -/
def describe (d : Depot) (l : Location) (scene : Scene) :
    Outcome (Option Descriptor) :=
  let result := d.lookUp l scene
  match result with
  | .ok _ => ⟨result, scene, []⟩
  | .error failure => ⟨result, scene, [.describeFailed l failure]⟩

end Depot

end FileDepot
