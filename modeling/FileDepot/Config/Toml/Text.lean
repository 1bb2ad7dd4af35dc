/-
The words of a TOML document: gaps, comments, line ends, strings and
keys. Every reader takes the characters ahead and gives what it read
with the characters left, or nothing where the document is not well
formed; a reader that may pass over something never fails.
-/
import FileDepot.Json.Scalar

namespace FileDepot.Config.Toml

/-- A reader of the characters ahead. -/
abbrev Reader (α : Type) := List Char → Option (α × List Char)

/-- A blank inside a line. -/
def isGap (c : Char) : Bool := c == ' ' || c == '\t'

/-- Passes over the blanks ahead. -/
def skipGap (cs : List Char) : List Char := cs.dropWhile isGap

/-- A character that comments and strings may hold as it is. -/
def isPrintable (c : Char) : Bool :=
  c == '\t' || (0x20 ≤ c.toNat && c.toNat != 0x7F)

/-- Passes over one line end. -/
def lineEnd : List Char → Option (List Char)
  | '\n' :: rest => some rest
  | '\r' :: '\n' :: rest => some rest
  | _ => none

/-- Passes over a comment, if one is ahead. Its line must end properly
or the document must. -/
def skipComment : List Char → Option (List Char)
  | '#' :: rest =>
    match rest.dropWhile isPrintable with
    | [] => some []
    | '\n' :: rest => some ('\n' :: rest)
    | '\r' :: '\n' :: rest => some ('\n' :: rest)
    | _ => none
  | cs => some cs

/-- The end of a line that has been read: blanks, a comment, and a line
end or the end of the document. -/
def finishLine (cs : List Char) : Option (List Char) := do
  match ← skipComment (skipGap cs) with
  | [] => some []
  | cs => lineEnd cs

/-- Passes over blanks, comments and line ends, at most so many. -/
def skipLinesGo : Nat → List Char → Option (List Char)
  | 0, cs => some cs
  | n + 1, cs => do
    let cs ← skipComment (skipGap cs)
    match lineEnd cs with
    | some rest => skipLinesGo n rest
    | none => some cs

/-- Passes over blanks, comments and line ends. -/
def skipLines (cs : List Char) : Option (List Char) :=
  skipLinesGo cs.length cs

-- =========================================================== strings

/-- A character given by a run of hexadecimal digits. -/
def hexChar (width : Nat) (cs : List Char) : Option (Char × List Char) := do
  let digits := cs.take width
  if digits.length ≠ width then none
  else
    let values ← digits.mapM Json.hexValue?
    let n := values.foldl (fun n d => n * 16 + d) 0
    if h : n.isValidChar then some (Char.ofNatAux n h, cs.drop width) else none

/-- What stands behind a backslash. -/
def escape : Reader Char
  | [] => none
  | c :: rest =>
    match c with
    | 'b' => some (Char.ofNat 8, rest)
    | 't' => some ('\t', rest)
    | 'n' => some ('\n', rest)
    | 'f' => some (Char.ofNat 12, rest)
    | 'r' => some ('\r', rest)
    | 'e' => some (Char.ofNat 27, rest)
    | '"' => some ('"', rest)
    | '\\' => some ('\\', rest)
    | 'x' => hexChar 2 rest
    | 'u' => hexChar 4 rest
    | 'U' => hexChar 8 rest
    | _ => none

/-- A string on one line, up to its closing quote. -/
def basicGo : Nat → List Char → Reader (List Char)
  | 0, _, _ => none
  | _ + 1, _, [] => none
  | n + 1, seen, c :: rest =>
    if c = '"' then some (seen.reverse, rest)
    else if c = '\\' then do
      let (d, rest) ← escape rest
      basicGo n (d :: seen) rest
    else if isPrintable c then basicGo n (c :: seen) rest
    else none

/-- A literal string on one line, up to its closing quote. -/
def literal (cs : List Char) : Option (List Char × List Char) :=
  let body := cs.takeWhile fun c => isPrintable c && c != '\''
  match cs.drop body.length with
  | '\'' :: rest => some (body, rest)
  | _ => none

/-- The quotes that close a text of several lines: up to two of a
longer row still belong to the text. -/
def closing (quote : Char) (cs : List Char) :
    Option (List Char × List Char) :=
  let row := min 5 (cs.takeWhile (· == quote)).length
  if 3 ≤ row then some (List.replicate (row - 3) quote, cs.drop row)
  else none

/-- Passes over blanks and line ends behind a backslash at the end of a
line; there must be a line end among them. -/
def joinLines (cs : List Char) : Option (List Char) :=
  match lineEnd (skipGap cs) with
  | none => none
  | some rest =>
    some (rest.dropWhile fun c => isGap c || c == '\n' || c == '\r')

/-- A string over several lines. -/
def basicLinesGo : Nat → List Char → Reader (List Char)
  | 0, _, _ => none
  | _ + 1, _, [] => none
  | n + 1, seen, c :: rest =>
    match closing '"' (c :: rest) with
    | some (quotes, rest) => some (seen.reverse ++ quotes, rest)
    | none =>
      match lineEnd (c :: rest) with
      | some rest => basicLinesGo n ('\n' :: seen) rest
      | none =>
        if c = '\\' then
          match joinLines rest with
          | some rest => basicLinesGo n seen rest
          | none => do
            let (d, rest) ← escape rest
            basicLinesGo n (d :: seen) rest
        else if isPrintable c then basicLinesGo n (c :: seen) rest
        else none

/-- A literal string over several lines. -/
def literalLinesGo : Nat → List Char → Reader (List Char)
  | 0, _, _ => none
  | _ + 1, _, [] => none
  | n + 1, seen, c :: rest =>
    match closing '\'' (c :: rest) with
    | some (quotes, rest) => some (seen.reverse ++ quotes, rest)
    | none =>
      match lineEnd (c :: rest) with
      | some rest => literalLinesGo n ('\n' :: seen) rest
      | none =>
        if isPrintable c then literalLinesGo n (c :: seen) rest else none

/-- The text of several lines without a line end that opens it. -/
def afterOpening (cs : List Char) : List Char := (lineEnd cs).getD cs

/-- A string of one of the four kinds, from its opening quotes. -/
def string (cs : List Char) : Option (String × List Char) := do
  let (body, rest) ←
    match cs with
    | '"' :: '"' :: '"' :: rest =>
      basicLinesGo (rest.length + 1) [] (afterOpening rest)
    | '\'' :: '\'' :: '\'' :: rest =>
      literalLinesGo (rest.length + 1) [] (afterOpening rest)
    | '"' :: rest => basicGo (rest.length + 1) [] rest
    | '\'' :: rest => literal rest
    | _ => none
  some (String.ofList body, rest)

-- ============================================================== keys

/-- A character of a key without quotes. -/
def isBare (c : Char) : Bool :=
  c.isAlpha || c.isDigit || c == '_' || c == '-'

/-- One part of a key; a quoted part stays on its line. -/
def keyPart : Reader String
  | [] => none
  | '"' :: rest => do
    let (body, rest) ← basicGo (rest.length + 1) [] rest
    some (String.ofList body, rest)
  | '\'' :: rest => do
    let (body, rest) ← literal rest
    some (String.ofList body, rest)
  | cs =>
    let name := cs.takeWhile isBare
    if name = [] then none
    else some (String.ofList name, cs.dropWhile isBare)

/-- The parts of a key between dots, at most so many. -/
def keyGo : Nat → Reader (List String)
  | 0, _ => none
  | n + 1, cs => do
    let (part, rest) ← keyPart (skipGap cs)
    match skipGap rest with
    | '.' :: rest => do
      let (parts, rest) ← keyGo n rest
      some (part :: parts, rest)
    | rest => some ([part], rest)

/-- A key with its dots. -/
def key (cs : List Char) : Option (List String × List Char) :=
  keyGo (cs.length + 1) cs

end FileDepot.Config.Toml
