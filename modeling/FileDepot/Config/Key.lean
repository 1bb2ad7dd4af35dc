/-
Keys as paths. A key at the top of a source is read as a path into
nested tables and lists, a name followed by dotted names and bracketed
indexes; a key that is not spelt like that stands for itself.
-/
import FileDepot.Config.Setting

namespace FileDepot.Config

/-- One step of a path. -/
inductive Step where
  | name (text : String)
  | index (n : Int)
  deriving DecidableEq, Repr

namespace Step

/-- A character of a name. -/
def isNamePart (c : Char) : Bool :=
  c.isAlpha || c.isDigit || c == '_' || c == '-'

/-- A blank inside brackets. -/
def isGap (c : Char) : Bool := c == ' ' || c == '\t'

/-- The number in front, and what is left. -/
def takeIndex (cs : List Char) : Option (Int × List Char) :=
  let cs := cs.dropWhile isGap
  let (negative, cs) :=
    match cs with
    | '-' :: rest => (true, rest)
    | cs => (false, cs)
  let digits := cs.takeWhile Char.isDigit
  let n : Int := Binary64.digitsValue digits
  let n := if negative then -n else n
  if digits = [] ∨ n < Text.minSigned ∨ Text.maxSigned < n then none
  else some (n, (cs.dropWhile Char.isDigit).dropWhile isGap)

/-- The steps behind the first name, reading at most so many. -/
def further : Nat → List Char → Option (List Step)
  | _, [] => some []
  | 0, _ :: _ => none
  | n + 1, c :: rest =>
    if c = '.' then
      let name := rest.takeWhile isNamePart
      if name = [] then none
      else
        (further n (rest.dropWhile isNamePart)).map
          (Step.name (String.ofList name) :: ·)
    else if c = '[' then
      match takeIndex rest with
      | some (i, ']' :: rest) => (further n rest).map (Step.index i :: ·)
      | _ => none
    else none

end Step

/-- The path a key spells. -/
def keyPath (key : String) : List Step :=
  let cs := key.toList
  let name := cs.takeWhile Step.isNamePart
  let path :=
    if name = [] then none
    else Step.further cs.length (cs.dropWhile Step.isNamePart)
  match path with
  | some steps => .name (String.ofList name) :: steps
  | none => [.name key]

end FileDepot.Config
