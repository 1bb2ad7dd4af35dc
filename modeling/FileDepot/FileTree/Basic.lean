/-
A file tree: the places that exist, each a directory, a file with its
bytes or a symbolic link with its target, and the directory that
relative paths start from. A place is the list of names that lead to it
from the root, which is a directory itself.
-/
import FileDepot.FileTree.Path
import FileDepot.Table.Record

namespace FileDepot

/-- What can stand at a place. -/
inductive Node where
  | directory
  | file (content : Bytes)
  | link (target : String)
  deriving DecidableEq, Repr, Inhabited

/-- The names that lead to a place from the root. -/
abbrev Place := List String

/-- A file tree and the directory that relative paths start from. -/
structure FileTree where
  nodes : List (Place × Node) := []
  workdir : Place := []
  deriving DecidableEq, Repr, Inhabited

/-- Why a file could not be used. -/
inductive FileFault where
  | missing
  | notDirectory
  | isDirectory
  | exists
  | linkLoop
  | nameTooLong
  | nulByte
  | reported (text : String)
  deriving DecidableEq, Repr

/-- The text of a cause. -/
def FileFault.message : FileFault → String
  | .missing => "No such file or directory (os error 2)"
  | .notDirectory => "Not a directory (os error 20)"
  | .isDirectory => "Is a directory (os error 21)"
  | .exists => "File exists (os error 17)"
  | .linkLoop => "Too many levels of symbolic links (os error 40)"
  | .nameTooLong => "File name too long (os error 36)"
  | .nulByte => "file name contained an unexpected NUL byte"
  | .reported text => text

namespace FileTree

/-- The nodes with one more, or another one, at a place. -/
def setNode (place : Place) (node : Node) :
    List (Place × Node) → List (Place × Node)
  | [] => [(place, node)]
  | (p, n) :: rest =>
    if p = place then (place, node) :: rest
    else (p, n) :: setNode place node rest

/-- What stands at a place. -/
def node? (tree : FileTree) (place : Place) : Option Node :=
  if place = [] then some .directory
  else (tree.nodes.find? fun entry => entry.1 == place).map (·.2)

/-- The tree with a node put at a place. -/
def set (tree : FileTree) (place : Place) (node : Node) : FileTree :=
  { tree with nodes := setNode place node tree.nodes }

/-- The tree without a place and all below it. -/
def erase (tree : FileTree) (place : Place) : FileTree :=
  { tree with nodes := tree.nodes.filter fun entry => !place.isPrefixOf entry.1 }

/-- The places below a directory, as paths that start there, with a
slash behind each directory; links are listed and not followed. -/
def listing (tree : FileTree) (place : Place) : List String :=
  (tree.nodes.filterMap fun (p, n) =>
      if place.isPrefixOf p && p.length != place.length then
        some
          (String.intercalate "/" (p.drop place.length)
            ++ if n = .directory then "/" else "")
      else none).mergeSort fun a b => !decide (b < a)

end FileTree

end FileDepot
