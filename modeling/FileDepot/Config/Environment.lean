/-
The environment as a source. A variable belongs to it by the start of
its name, compared in lower case; the rest of the name is a key whose
dots are written as two underscores. The text of a variable is taken as
a flag, a number or a float if it spells one.
-/
import FileDepot.Config.Layer
import FileDepot.Text.Lower

namespace FileDepot.Config.Environment

/-- The name that starts the variables, without the underscores. -/
def variableStart : String := "BLOBVAULT"

/-- The start in the form it is compared in. -/
def marker : List Char := (Text.lower variableStart ++ "__").toList

/-- Writes every two underscores as a dot. -/
def dotted : List Char → List Char
  | '_' :: '_' :: rest => '.' :: dotted rest
  | c :: rest => c :: dotted rest
  | [] => []

/-- The key of a variable, if it belongs to the source. -/
def key? (name : String) : Option String :=
  let cs := (Text.lower name).toList
  if marker.isPrefixOf cs then
    some (String.ofList (dotted (cs.drop marker.length)))
  else none

/-- What the text of a variable spells. -/
def scalar (text : String) : Scalar :=
  let low := Text.lower text
  if low = "true" then .flag true
  else if low = "false" then .flag false
  else
    match Text.signed? text with
    | some n => .number n
    | none =>
      match Binary64.ofText? text with
      | some x => .float x
      | none => .text text

/-- Where the values of the source come from. -/
def origin : String := "the environment"

/-- The source of an environment. -/
def entries (bindings : List (String × String)) : Entries :=
  bindings.filterMap fun (name, text) =>
    (key? name).map fun key => (key, .scalar (some origin) (scalar text))

end FileDepot.Config.Environment
