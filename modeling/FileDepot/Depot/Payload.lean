/-
Payloads: the bytes of a local file on their way into a record. The
size is looked at before anything is read, and reading stops one byte
behind the limit, so that a file that grows meanwhile is refused as
well; what is accepted is always the whole file.
-/
import FileDepot.Depot.Basic
import FileDepot.Provenance

namespace FileDepot

/-- The payload of a file, from the size it reported and the bytes that
reading it gives. -/
def payload (path : String) (limit : Nat) (size : Except FileFault Nat)
    (content : Except FileFault Bytes) : Except Failure Bytes :=
  match size with
  | .error fault => .error (.io path fault)
  | .ok size =>
    if limit < size then .error (.fileTooLarge path size limit)
    else
      match content with
      | .error fault => .error (.io path fault)
      | .ok content =>
        let read := content.take (limit + 1)
        if limit < read.length then
          .error (.fileTooLarge path read.length limit)
        else .ok read

namespace Depot

/-- The draft of a local file. Its provenance is the host and the path
of the file without links. -/
def draft (d : Depot) (scene : Scene) (l : Location) (file : String) :
    Except Failure Draft := do
  let data ←
    payload file d.options.maxFileBytes (scene.files.size file)
      (scene.files.read file)
  let path :=
    match scene.files.canonical file with
    | .ok path => path
    | .error _ => file
  .ok (Draft.ofFile l data (Provenance.origin scene.host path).encode scene.now)

end Depot

end FileDepot
