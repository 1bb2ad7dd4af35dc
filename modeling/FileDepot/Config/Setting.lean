/-
Settings: scalars, lists and tables, each scalar and list with the name
of the place it was read from, if it has one.

A scalar is read as a text, a flag or a whole number. Most spellings
convert into one another; where one does not, the misfit names what was
found, what was wanted and where.
-/
import FileDepot.Text.Lower
import FileDepot.Text.Number
import FileDepot.Text.Quoted

namespace FileDepot.Config

/-- A single value. A number is at least -2^63 and below 2^64. -/
inductive Scalar where
  | unit
  | flag (b : Bool)
  | number (n : Int)
  | float (x : Binary64)
  | text (s : String)
  deriving DecidableEq, Repr, Inhabited

/-- A setting. -/
inductive Setting where
  | scalar (origin : Option String) (value : Scalar)
  | list (origin : Option String) (items : List Setting)
  | table (entries : List (String × Setting))
  deriving Repr, Inhabited

/-- The entries of a table, each key once. -/
abbrev Entries := List (String × Setting)

namespace Setting

/-- A value that is there but holds nothing. -/
def nil : Setting := .scalar none .unit

/-- The entries of a table; another setting has none. -/
def entries : Setting → Entries
  | .table entries => entries
  | .scalar _ _ | .list _ _ => []

end Setting

-- =========================================================== misfits

/-- What was found where something else was wanted. -/
inductive Found where
  | unit
  | list
  | table
  | text (s : String)
  | word (n : Int)
  deriving DecidableEq, Repr

/-- The name of what was found. -/
def Found.phrase : Found → String
  | .unit => "unit value"
  | .list => "sequence"
  | .table => "map"
  | .text s => "string " ++ Text.quoted s
  | .word n => "64-bit unsigned integer `" ++ toString n ++ "`"

/-- What a setting was wanted as. -/
inductive Wanted where
  | text
  | flag
  | number
  | signed
  deriving DecidableEq, Repr

/-- The name of what was wanted. -/
def Wanted.phrase : Wanted → String
  | .text => "a string"
  | .flag => "a boolean"
  | .number => "an integer"
  | .signed => "an signed 64 bit or less integer"

/-- A setting that is not what was wanted. -/
structure Misfit where
  found : Found
  wanted : Wanted
  key : String
  origin : Option String
  deriving DecidableEq, Repr

/-- The text of a misfit. -/
def Misfit.message (m : Misfit) : String :=
  "invalid type: " ++ m.found.phrase ++ ", expected " ++ m.wanted.phrase
    ++ " for key `" ++ m.key ++ "`"
    ++ (match m.origin with
        | some origin => " in " ++ origin
        | none => "")

-- ======================================================= conversions

namespace Scalar

/-- A scalar as a text; only the unit value is none. -/
def text? : Scalar → Except Found String
  | .unit => .error .unit
  | .flag b => .ok (if b then "true" else "false")
  | .number n => .ok (toString n)
  | .float x => .ok x.plainText
  | .text s => .ok s

/-- A scalar as a flag. Numbers other than zero are true. -/
def flag? : Scalar → Except Found Bool
  | .unit => .error .unit
  | .flag b => .ok b
  | .number n => .ok (n != 0)
  | .float x => .ok (!x.isZero)
  | .text s =>
    let low := Text.lower s
    if low ∈ ["1", "true", "on", "yes"] then .ok true
    else if low ∈ ["0", "false", "off", "no"] then .ok false
    else .error (.text low)

/-- A scalar as a signed number. -/
def number? : Scalar → Except (Found × Wanted) Int
  | .unit => .error (.unit, .number)
  | .flag b => .ok (if b then 1 else 0)
  | .number n => if n ≤ Text.maxSigned then .ok n else .error (.word n, .signed)
  | .float x => .ok x.toInt64
  | .text s =>
    let low := Text.lower s
    if low ∈ ["true", "on", "yes"] then .ok 1
    else if low ∈ ["false", "off", "no"] then .ok 0
    else
      match Text.signed? low with
      | some n => .ok n
      | none => .error (.text s, .number)

end Scalar

namespace Setting

/-- Reads a setting that must be a scalar. -/
def asScalar (key : String) (wanted : Wanted)
    (read : Scalar → Except (Found × Wanted) α) : Setting → Except Misfit α
  | .scalar origin value =>
    match read value with
    | .ok a => .ok a
    | .error (found, wanted) => .error ⟨found, wanted, key, origin⟩
  | .list origin _ => .error ⟨.list, wanted, key, origin⟩
  | .table _ => .error ⟨.table, wanted, key, none⟩

/-- A setting as a text. -/
def asText (key : String) : Setting → Except Misfit String :=
  asScalar key .text fun s => s.text?.mapError (·, .text)

/-- A setting as a flag. -/
def asFlag (key : String) : Setting → Except Misfit Bool :=
  asScalar key .flag fun s => s.flag?.mapError (·, .flag)

/-- A setting as a signed number. -/
def asNumber (key : String) : Setting → Except Misfit Int :=
  asScalar key .number Scalar.number?

end Setting

end FileDepot.Config
