/-
Path texts. A path is a text of parts between slashes; it is absolute
when it starts with one. The parts a walk goes through leave out the
empty ones, except at the end, where an empty part says that the path
must lead to a directory.

The parent of a path is cut from its text, so that what is left is
spelt as it was: slashes and single dots at the end do not count as a
part, but a single dot that the path starts with does.
-/
namespace FileDepot.Path

/-- Splits at a character; the part in front that was read so far comes
last first. -/
def splitOn (mark : Char) : List Char → List Char → List (List Char)
  | part, [] => [part.reverse]
  | part, c :: rest =>
    if c = mark then part.reverse :: splitOn mark [] rest
    else splitOn mark (c :: part) rest

/-- Drops the empty parts before the last one. -/
def dropEmpty : List (List Char) → List (List Char)
  | [] => []
  | [last] => [last]
  | part :: rest => if part = [] then dropEmpty rest else part :: dropEmpty rest

/-- The parts of a path, the last of them empty when it ends in a
slash. -/
def parts (path : String) : List String :=
  (dropEmpty (splitOn '/' [] path.toList)).map String.ofList

/-- The path starts at the root. -/
def isAbsolute (path : String) : Bool := path.toList.head? == some '/'

/-- A path that goes on from a directory; an absolute one starts
anew. -/
def join (directory path : String) : String :=
  if isAbsolute path then path
  else if directory.toList.getLast? == some '/' then directory ++ path
  else directory ++ "/" ++ path

/-- The text of a place given by its parts from the root. -/
def ofPlace (place : List String) : String :=
  if place = [] then "/" else String.join (place.map ("/" ++ ·))

-- =========================================================== parents

/-- A reversed path without the slashes and single dots at its end. The
root stays, and so does a dot that stands alone. -/
def trimEnd : List Char → List Char
  | '/' :: rest => if rest = [] then ['/'] else trimEnd rest
  | '.' :: '/' :: rest => if rest = [] then ['/'] else trimEnd rest
  | cs => cs

/-- The parent of a path; the empty path and the root have none. -/
def parent? (path : String) : Option String :=
  match trimEnd path.toList.reverse with
  | [] => none
  | ['/'] => none
  | cs =>
    some (String.ofList (trimEnd (cs.dropWhile (· != '/'))).reverse)

/-- A path and all that lie above it, at most so many. -/
def ancestorsGo : Nat → String → List String
  | 0, path => [path]
  | n + 1, path =>
    match parent? path with
    | none => [path]
    | some up => path :: ancestorsGo n up

/-- A path and all that lie above it. -/
def ancestors (path : String) : List String :=
  ancestorsGo path.length path

/-- The path with an ending appended to its last part, without what
`trimEnd` takes off. Where the last part is no name the path stays. -/
def appendEnding (path ending : String) : String :=
  match trimEnd path.toList.reverse with
  | [] => path
  | '/' :: _ => path
  | cs =>
    if cs.takeWhile (· != '/') = ['.', '.'] ∨ cs = ['.'] then path
    else String.ofList cs.reverse ++ ending

/-- The names and double dots of an absolute path. -/
def steps (path : String) : List String :=
  (parts path).filter fun part => part != "" && part != "."

/-- A path as seen from a directory, both absolute: past the steps both
share, up for each step the directory has left, then down. -/
def relativeTo (path directory : List String) : List String :=
  match path, directory with
  | p :: path, d :: directory =>
    if p = d then relativeTo path directory
    else (d :: directory).map (fun _ => "..") ++ p :: path
  | path, directory => directory.map (fun _ => "..") ++ path

end FileDepot.Path
