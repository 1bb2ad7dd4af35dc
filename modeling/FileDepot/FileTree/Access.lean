/-
Reading and writing files by their paths. Each call either does all it
says or fails and leaves the tree as it was; only the creation of a row
of directories can stop half way.
-/
import FileDepot.FileTree.Walk

namespace FileDepot.FileTree

-- =========================================================== reading

/-- What a path leads to, and where. -/
def locate (tree : FileTree) (path : String) :
    Except FileFault (Place × Node) := do
  match ← tree.walk .follow path with
  | .found place node => .ok (place, node)
  | .free _ => .error .missing

/-- The size a directory reports. -/
def directorySize : Nat := 4096

/-- The size of what a path leads to. -/
def size (tree : FileTree) (path : String) : Except FileFault Nat := do
  match ← tree.locate path with
  | (_, .file content) => .ok content.length
  | (_, .directory) | (_, .link _) => .ok directorySize

/-- The bytes of a file. -/
def read (tree : FileTree) (path : String) : Except FileFault Bytes := do
  match ← tree.locate path with
  | (_, .file content) => .ok content
  | (_, .directory) | (_, .link _) => .error .isDirectory

/-- The absolute path of what a path leads to, without links and
dots. -/
def canonical (tree : FileTree) (path : String) :
    Except FileFault String := do
  let (place, _) ← tree.locate path
  .ok (Path.ofPlace place)

/-- The path leads to a file. -/
def isFile (tree : FileTree) (path : String) : Bool :=
  match tree.locate path with
  | .ok (_, .file _) => true
  | _ => false

/-- The path leads to a directory. -/
def isDirectory (tree : FileTree) (path : String) : Bool :=
  match tree.locate path with
  | .ok (_, .directory) => true
  | _ => false

-- =========================================================== writing

/-- Where a file that is created or emptied under a path stands. -/
def targetPlace (tree : FileTree) (path : String) :
    Except FileFault Place := do
  match ← tree.walk .createFile path with
  | .found place _ => .ok place
  | .free place => .ok place

/-- Creates or replaces a file. -/
def write (tree : FileTree) (path : String) (content : Bytes) :
    Except FileFault FileTree := do
  let place ← tree.targetPlace path
  .ok (tree.set place (.file content))

/-- Creates one directory. -/
def makeDirectory (tree : FileTree) (path : String) :
    Except FileFault FileTree := do
  match ← tree.walk .createDirectory path with
  | .found _ _ => .error .exists
  | .free place => .ok (tree.set place .directory)

/-- Climbs towards the root until a directory exists or could be made;
gives the paths still to be made, the deepest last. -/
def climb (tree : FileTree) :
    List String → Except FileFault (FileTree × List String)
  | [] => .ok (tree, [])
  | path :: above =>
    if path.isEmpty || (Path.parent? path).isNone then .ok (tree, [])
    else
      match tree.makeDirectory path with
      | .ok tree => .ok (tree, [])
      | .error .missing =>
        match climb tree above with
        | .ok (tree, left) => .ok (tree, left ++ [path])
        | .error fault => .error fault
      | .error fault =>
        if fault = .exists ∧ tree.isDirectory path = true then .ok (tree, [])
        else .error fault

/-- Makes directories one after another, passing over those that are
there. -/
def makeEach (tree : FileTree) :
    List String → FileTree × Option FileFault
  | [] => (tree, none)
  | path :: rest =>
    match tree.makeDirectory path with
    | .ok tree => makeEach tree rest
    | .error fault =>
      if fault = .exists ∧ tree.isDirectory path = true then
        makeEach tree rest
      else (tree, some fault)

/-- Makes a directory and all that are missing above it. What was made
before a fault stays. -/
def makeDirectories (tree : FileTree) (path : String) :
    FileTree × Option FileFault :=
  if path.isEmpty then (tree, none)
  else
    match tree.climb (Path.ancestors path) with
    | .ok (tree, left) => makeEach tree left
    | .error fault => (tree, some fault)

/-- Puts a link at a free place. -/
def makeLink (tree : FileTree) (path target : String) :
    Except FileFault FileTree := do
  match ← tree.walk .createDirectory path with
  | .found _ _ => .error .exists
  | .free place => .ok (tree.set place (.link target))

/-- Removes what a path names, with all below it; a link is removed and
not followed. -/
def remove (tree : FileTree) (path : String) : Except FileFault FileTree := do
  match ← tree.walk .keep path with
  | .found place _ => .ok (tree.erase place)
  | .free _ => .error .missing

end FileDepot.FileTree
