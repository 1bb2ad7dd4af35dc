/-
TOML documents. A document is read line by line: a header opens a
table, any other line sets a key of the table opened last. Arrays and
inline tables run over lines.
-/
import FileDepot.Config.Toml.Scalar
import FileDepot.Config.Toml.Tree

namespace FileDepot.Config.Toml

/-- The deepest nesting of arrays and inline tables. -/
def maxNesting : Nat := 80

-- ============================================================ values

/-- The items of an array up to its bracket, read by `item`. -/
def itemsGo (item : Reader Setting) : Nat → Reader (List Setting)
  | 0, _ => none
  | n + 1, cs => do
    let cs ← skipLines cs
    match cs with
    | ']' :: rest => some ([], rest)
    | cs => do
      let (first, rest) ← item cs
      let rest ← skipLines rest
      match rest with
      | ']' :: rest => some ([first], rest)
      | ',' :: rest => do
        let (others, rest) ← itemsGo item n rest
        some (first :: others, rest)
      | _ => none

/-- The keys of an inline table up to its brace, read by `item`. -/
def inlineGo (item : Reader Setting) : Nat → Branches → Reader Branches
  | 0, _, _ => none
  | n + 1, entries, cs => do
    let cs ← skipLines cs
    match cs with
    | '\x7d' :: rest => some (entries, rest)
    | cs => do
      let (path, rest) ← key cs
      let rest ← mark '=' (skipGap rest)
      let (value, rest) ← item (skipGap rest)
      let entries ← Branches.setDotted value path entries
      let rest ← skipLines rest
      match rest with
      | '\x7d' :: rest => some (entries, rest)
      | ',' :: rest => inlineGo item n entries rest
      | _ => none

/-- A value nested at most so deep. -/
def value (origin : Option String) : Nat → Reader Setting
  | depth, cs =>
    match cs with
    | [] => none
    | c :: rest =>
      if c = '"' ∨ c = '\'' then do
        let (s, rest) ← string cs
        some (.scalar origin (.text s), rest)
      else if c = '[' then
        match depth with
        | 0 => none
        | depth + 1 => do
          let (items, rest) ←
            itemsGo (value origin depth) (rest.length + 1) rest
          some (.list origin items, rest)
      else if c = '\x7b' then
        match depth with
        | 0 => none
        | depth + 1 => do
          let (entries, rest) ←
            inlineGo (value origin depth) (rest.length + 1) [] rest
          some (.table (Branches.settings origin entries), rest)
      else do
        let (spelt, rest) := word cs
        let s ← scalarOf spelt
        some (.scalar origin s, rest)

-- ============================================================= lines

/-- Takes the table header ahead: its path and whether it opens a row
of tables. -/
def header (cs : List Char) : Option ((List String × Bool) × List Char) := do
  match cs with
  | '[' :: '[' :: rest => do
    let (path, rest) ← key rest
    let rest ← mark ']' rest
    let rest ← mark ']' rest
    some ((path, true), rest)
  | '[' :: rest => do
    let (path, rest) ← key rest
    let rest ← mark ']' rest
    some ((path, false), rest)
  | _ => none

/-- Reads the lines that are left, at most so many. -/
def linesGo (origin : Option String) :
    Nat → List String → Branches → List Char → Option Branches
  | 0, _, _, _ => none
  | n + 1, current, tree, cs => do
    let cs ← skipLines cs
    match cs with
    | [] => some tree
    | '[' :: _ => do
      let ((path, row), rest) ← header cs
      let last ← path.getLast?
      let tree ←
        Branches.descend
          (if row then Branches.openRow last else Branches.openTable last)
          path.dropLast tree
      let rest ← finishLine rest
      linesGo origin n path tree rest
    | cs => do
      let (path, rest) ← key cs
      let rest ← mark '=' rest
      let (s, rest) ← value origin maxNesting (skipGap rest)
      let tree ←
        Branches.descend (Branches.setDotted s path) current tree
      let rest ← finishLine rest
      linesGo origin n current tree rest

/-- Reads a document whose values carry an origin. -/
def parse (origin : Option String) (text : String) : Option Entries :=
  let cs :=
    match text.toList with
    | c :: rest => if c.toNat = 0xFEFF then rest else c :: rest
    | [] => []
  (linesGo origin (cs.length + 1) [] [] cs).map (Branches.settings origin)

end FileDepot.Config.Toml
