/-
Walking a path. The walk goes from part to part through directories and
follows links on its way, at most forty of them; what happens at the
last part depends on what the path is wanted for.
-/
import FileDepot.FileTree.Basic

namespace FileDepot.FileTree

/-- What a path is wanted for: something that is there, with or without
following a last link, a file to create or empty, or a directory to
create. -/
inductive Intent where
  | follow
  | keep
  | createFile
  | createDirectory
  deriving DecidableEq, Repr

/-- Where a walk ends: at something that is there, or at a free place
in a directory. -/
inductive Spot where
  | found (place : Place) (node : Node)
  | free (place : Place)
  deriving DecidableEq, Repr

/-- The most links one walk follows. -/
def maxLinks : Nat := 40

/-- The most bytes a name has. -/
def maxName : Nat := 255

/-- The most bytes a path has. -/
def maxPath : Nat := 4095

/-- The parts left after a link is replaced by its target. -/
def splice (target : String) (rest : List String) : List String :=
  let parts := Path.parts target
  if rest.isEmpty then parts
  else if parts.getLast? = some "" then parts.dropLast ++ rest
  else parts ++ rest

/-- A part that names no entry of a directory: an empty one, a single
or a double dot. -/
def isDots (part : String) : Bool := part == "" || part == "." || part == ".."

/-- The directory a part of dots leads to. -/
def afterDots (here : Place) (part : String) : Place :=
  if part = ".." then here.dropLast else here

/-- What a walk does with a link at `here`: goes on from there with the
link's target and the parts left. -/
abbrev OnLink := Place → String → List String → Except FileFault Spot

/-- The last part of a path, with or without a slash behind it. -/
def arrive (tree : FileTree) (intent : Intent) (onLink : OnLink)
    (here : Place) (part : String) (slashed : Bool) :
    Except FileFault Spot :=
  if isDots part then
    match intent with
    | .follow | .keep => .ok (.found (afterDots here part) .directory)
    | .createFile => .error .isDirectory
    | .createDirectory => .error .exists
  else if intent = .createFile ∧ slashed = true then .error .isDirectory
  else if maxName < part.utf8ByteSize then .error .nameTooLong
  else
    let place := here ++ [part]
    match tree.node? place, intent with
    | none, .follow | none, .keep => .error .missing
    | none, .createFile | none, .createDirectory => .ok (.free place)
    | some _, .createDirectory => .error .exists
    | some .directory, .createFile => .error .isDirectory
    | some .directory, .follow | some .directory, .keep =>
      .ok (.found place .directory)
    | some (.file content), _ =>
      if slashed then .error .notDirectory
      else .ok (.found place (.file content))
    | some (.link target), _ =>
      if intent = .keep ∧ slashed = false then
        .ok (.found place (.link target))
      else onLink here target (if slashed then [""] else [])

/-- Walks the parts of a path from a directory. -/
def walkParts (tree : FileTree) (intent : Intent) (onLink : OnLink) :
    Place → List String → Except FileFault Spot
  | here, [] => .ok (.found here .directory)
  | here, [part] => arrive tree intent onLink here part false
  | here, part :: next :: rest =>
    if next = "" ∧ rest = [] then
      arrive tree intent onLink here part true
    else if isDots part then
      walkParts tree intent onLink (afterDots here part) (next :: rest)
    else if maxName < part.utf8ByteSize then .error .nameTooLong
    else
      match tree.node? (here ++ [part]) with
      | none => .error .missing
      | some .directory =>
        walkParts tree intent onLink (here ++ [part]) (next :: rest)
      | some (.file _) => .error .notDirectory
      | some (.link target) => onLink here target (next :: rest)

/-- Walks with so many links left to follow. -/
def walkLinks (tree : FileTree) (intent : Intent) :
    Nat → Place → List String → Except FileFault Spot
  | 0 => walkParts tree intent fun _ _ _ => .error .linkLoop
  | links + 1 =>
    walkParts tree intent fun here target rest =>
      if target.isEmpty then .error .missing
      else
        walkLinks tree intent links
          (if Path.isAbsolute target then [] else here) (splice target rest)

/-- Walks a path. -/
def walk (tree : FileTree) (intent : Intent) (path : String) :
    Except FileFault Spot :=
  if path.toList.any (·.toNat == 0) then .error .nulByte
  else if path.isEmpty then .error .missing
  else if maxPath < path.utf8ByteSize then .error .nameTooLong
  else
    walkLinks tree intent maxLinks
      (if Path.isAbsolute path then [] else tree.workdir) (Path.parts path)

end FileDepot.FileTree
