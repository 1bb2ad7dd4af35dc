/-
The tables of a TOML document while it is read. A table is opened by
its own header, by the header of one below it, or by a dotted key, and
how it was opened decides who may still add to it: a header opens each
table once, a dotted key goes on only with tables that no header has
opened, and whatever was written as a value is closed.
-/
import FileDepot.Config.Layer

namespace FileDepot.Config.Toml

/-- How a table was opened. -/
inductive Opening where
  | header
  | implied
  | dotted
  deriving DecidableEq, Repr

/-- What a key stands for: a value, a table, or the tables of a row of
headers, the last one first. -/
inductive Branch where
  | value (s : Setting)
  | table (opening : Opening) (entries : List (String × Branch))
  | rows (newest : List (String × Branch))
      (older : List (List (String × Branch)))

/-- The keys of a table with what they stand for. -/
abbrev Branches := List (String × Branch)

namespace Branches

/-- What a key stands for. -/
def at? (key : String) : Branches → Option Branch
  | [] => none
  | (k, b) :: rest => if k = key then some b else at? key rest

/-- The keys with one set. -/
def put (key : String) (branch : Branch) : Branches → Branches
  | [] => [(key, branch)]
  | (k, b) :: rest =>
    if k = key then (key, branch) :: rest else (k, b) :: put key branch rest

/-- Changes the table that a path of headers leads to, opening on the
way what is missing. -/
def descend (change : Branches → Option Branches) :
    List String → Branches → Option Branches
  | [], entries => change entries
  | key :: path, entries =>
    match at? key entries with
    | none => do
      let inner ← descend change path []
      some (put key (.table .implied inner) entries)
    | some (.table opening inner) => do
      let inner ← descend change path inner
      some (put key (.table opening inner) entries)
    | some (.rows newest older) => do
      let newest ← descend change path newest
      some (put key (.rows newest older) entries)
    | some (.value _) => none

/-- Opens the table of a header. -/
def openTable (key : String) (entries : Branches) : Option Branches :=
  match at? key entries with
  | none => some (put key (.table .header []) entries)
  | some (.table .implied inner) =>
    some (put key (.table .header inner) entries)
  | _ => none

/-- Opens one more table of a row. -/
def openRow (key : String) (entries : Branches) : Option Branches :=
  match at? key entries with
  | none => some (put key (.rows [] []) entries)
  | some (.rows newest older) =>
    some (put key (.rows [] (newest :: older)) entries)
  | _ => none

/-- Sets a new key of a table. -/
def setNew (key : String) (s : Setting) (entries : Branches) :
    Option Branches :=
  match at? key entries with
  | none => some (put key (.value s) entries)
  | some _ => none

/-- Sets a dotted key. The table that takes it must be one that dotted
keys have opened, and no table on the way may have its own header. -/
def setDotted (s : Setting) : List String → Branches → Option Branches
  | [], _ => none
  | [key], entries => setNew key s entries
  | key :: next :: path, entries =>
    match at? key entries with
    | none => do
      let inner ← setDotted s (next :: path) []
      some (put key (.table .dotted inner) entries)
    | some (.table opening inner) =>
      if opening = .header ∨ (opening = .implied ∧ path = []) then none
      else do
        let inner ← setDotted s (next :: path) inner
        some (put key (.table opening inner) entries)
    | some (.rows newest older) =>
      if path = [] then none
      else do
        let newest ← setDotted s (next :: path) newest
        some (put key (.rows newest older) entries)
    | some (.value _) => none

end Branches

mutual

/-- A branch as a setting. -/
def Branch.setting (origin : Option String) : Branch → Setting
  | .value s => s
  | .table _ entries => .table (Branches.settings origin entries)
  | .rows newest older =>
    .list origin
      (Branches.tables origin older ++ [.table (Branches.settings origin newest)])

/-- The keys of a table as settings. -/
def Branches.settings (origin : Option String) : List (String × Branch) → Entries
  | [] => []
  | (key, branch) :: rest =>
    (key, branch.setting origin) :: Branches.settings origin rest

/-- The tables of a row as settings, in the order they were written. -/
def Branches.tables (origin : Option String) :
    List (List (String × Branch)) → List Setting
  | [] => []
  | entries :: rest =>
    Branches.tables origin rest ++ [.table (Branches.settings origin entries)]

end

end FileDepot.Config.Toml
