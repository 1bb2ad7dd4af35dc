/-
Downloading: the directories above the target are made first, then the
newest record at the location is written to it. Where nothing is stored
the target is not touched; a transfer that breaks off leaves what had
gone out.
-/
import FileDepot.Depot.Transfer
import FileDepot.Depot.Basic

namespace FileDepot.Depot

/-- Makes the directories above a target. -/
def makeRoom (files : FileTree) (target : String) :
    FileTree × Option Failure :=
  match Path.parent? target with
  | none => (files, none)
  | some directory =>
    if directory.isEmpty then (files, none)
    else
      let (files, fault) := files.makeDirectories directory
      (files, fault.map (.io directory))

/-- Writes the payload of a record to a target. -/
def deliver (d : Depot) (r : Record) (target : String)
    (files : FileTree) : Except Failure Unit × FileTree :=
  let transfer := r.send d.options.chunkBytes
  match files.write target transfer.sent with
  | .error fault => (.error (.io target fault), files)
  | .ok files =>
    match transfer.fault with
    | some fault => (.error (.database fault), files)
    | none => (.ok (), files)

/-- Writes the newest record at a location to a target; tells whether
there was one. -/
def fetch (d : Depot) (l : Location) (target : String) (scene : Scene) :
    Except Failure Bool × FileTree :=
  match scene.query fun db => db.newest d.table.text l with
  | .error failure => (.error failure, scene.files)
  | .ok none => (.ok false, scene.files)
  | .ok (some r) =>
    let (result, files) := d.deliver r target scene.files
    (result.map fun _ => true, files)

/-- Downloads what is stored at a location. -/
def download (d : Depot) (l : Location) (target : String)
    (scene : Scene) : Outcome Unit :=
  let (files, failure) := makeRoom scene.files target
  let scene := { scene with files := files }
  match failure with
  | some failure =>
    ⟨.error failure, scene, [.downloadFailed l target failure]⟩
  | none =>
    let (result, files) := d.fetch l target scene
    let scene := { scene with files := files }
    match result with
    | .ok true => ⟨.ok (), scene, [.downloaded l target]⟩
    | .ok false => ⟨.ok (), scene, [.nothingStored l]⟩
    | .error failure =>
      ⟨.error failure, scene, [.downloadFailed l target failure]⟩

end FileDepot.Depot
