/-
Storing a file: the records at its location are deleted and a new one
is inserted, in one transaction or in two statements. The payload is
read first, so a file that cannot be read costs nothing.

In two statements, a deletion that fails is told and passed over: the
new record counts as the newest beside the old ones. An insertion that
fails after a deletion leaves the location empty.
-/
import FileDepot.Depot.Payload

namespace FileDepot.Depot

/-- Replaces the records at a location in one transaction. -/
def replaceAtOnce (d : Depot) (l : Location) (draft : Draft)
    (scene : Scene) : Except Failure Unit × Scene :=
  let attempt :=
    scene.query fun db => do
      let (_, db) ← db.deleteAt d.table.text l
      db.insert d.table.text draft
  match attempt with
  | .ok db => (.ok (), { scene with database := db })
  | .error failure => (.error failure, scene)

/-- Deletes the records at a location; a failure is told and passed
over. -/
def clear (d : Depot) (l : Location) (scene : Scene) : Scene × Event :=
  match scene.query fun db => db.deleteAt d.table.text l with
  | .ok (count, db) =>
    ({ scene with database := db }, .deletedPrevious l count)
  | .error failure => (scene, .deleteFailed l failure)

/-- Inserts a draft over a connection of its own. -/
def insert (d : Depot) (draft : Draft) (scene : Scene) :
    Except Failure Unit × Scene :=
  match scene.later.query fun db => db.insert d.table.text draft with
  | .ok db => (.ok (), { scene with database := db })
  | .error failure => (.error failure, scene)

/-- Replaces the records at a location, in the way the options ask
for. -/
def replace (d : Depot) (l : Location) (draft : Draft) (scene : Scene) :
    Outcome Unit :=
  if d.options.atomicOverwrite then
    let (result, scene) := d.replaceAtOnce l draft scene
    ⟨result, scene, []⟩
  else
    let (scene, event) := d.clear l scene
    let (result, scene) := d.insert draft scene
    ⟨result, scene, [event]⟩

/-- Stores a local file at a location. -/
def store (d : Depot) (l : Location) (file : String) (scene : Scene) :
    Outcome Unit :=
  match d.draft scene l file with
  | .error failure => ⟨.error failure, scene, [.storeFailed l file failure]⟩
  | .ok draft =>
    let out := d.replace l draft scene
    match out.result with
    | .ok () => { out with events := out.events ++ [.stored l draft.length] }
    | .error failure =>
      { out with events := out.events ++ [.storeFailed l file failure] }

end FileDepot.Depot
