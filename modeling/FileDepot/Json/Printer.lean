/-
JSON text. The compact form has no blanks at all; the indented one puts
every item and field on a line of its own, two blanks deeper than the
brackets around it, and writes empty containers without a break.

In strings only the quote, the backslash and the controls below the
blank are escaped, five of those by a letter.
-/
import FileDepot.Json.Value
import FileDepot.Binary64.Text
import FileDepot.Text.Quoted

namespace FileDepot.Json

/-- How a character stands in a JSON string. -/
def escapeChar (c : Char) : List Char :=
  if c = '"' then ['\\', '"']
  else if c = '\\' then ['\\', '\\']
  else if c.toNat = 8 then ['\\', 'b']
  else if c.toNat = 9 then ['\\', 't']
  else if c.toNat = 10 then ['\\', 'n']
  else if c.toNat = 12 then ['\\', 'f']
  else if c.toNat = 13 then ['\\', 'r']
  else if c.toNat < 32 then
    ['\\', 'u', '0', '0', Text.hexDigit (c.toNat / 16),
      Text.hexDigit (c.toNat % 16)]
  else [c]

/-- A string with its quotes. -/
def renderString (s : String) : List Char :=
  '"' :: s.toList.flatMap escapeChar ++ ['"']

/-- A whole number in decimal. -/
def renderInt (n : Int) : List Char :=
  if n < 0 then '-' :: Nat.toDigits 10 n.natAbs else Nat.toDigits 10 n.natAbs

-- ===================================================== compact text

mutual

/-- The text of a value without blanks. -/
def render : Json → List Char
  | .null => "null".toList
  | .bool true => "true".toList
  | .bool false => "false".toList
  | .int n => renderInt n
  | .float x => x.jsonText
  | .str s => renderString s
  | .arr [] => ['[', ']']
  | .arr (v :: rest) => '[' :: render v ++ renderItems rest
  | .obj [] => ['\x7b', '\x7d']
  | .obj ((k, v) :: rest) =>
    '\x7b' :: renderString k ++ ':' :: render v ++ renderFields rest

/-- The items after the first and the closing bracket. -/
def renderItems : List Json → List Char
  | [] => [']']
  | v :: rest => ',' :: render v ++ renderItems rest

/-- The fields after the first and the closing brace. -/
def renderFields : List (String × Json) → List Char
  | [] => ['\x7d']
  | (k, v) :: rest =>
    ',' :: renderString k ++ ':' :: render v ++ renderFields rest

end

-- ==================================================== indented text

/-- A line break and the blanks of the given depth. -/
def lineBreak (depth : Nat) : List Char :=
  '\n' :: List.replicate (2 * depth) ' '

mutual

/-- The indented text of a value whose brackets are at `depth`. -/
def renderAt (depth : Nat) : Json → List Char
  | .null => "null".toList
  | .bool true => "true".toList
  | .bool false => "false".toList
  | .int n => renderInt n
  | .float x => x.jsonText
  | .str s => renderString s
  | .arr [] => ['[', ']']
  | .arr (v :: rest) =>
    '[' :: lineBreak (depth + 1) ++ renderAt (depth + 1) v
      ++ renderItemsAt depth rest
  | .obj [] => ['\x7b', '\x7d']
  | .obj ((k, v) :: rest) =>
    '\x7b' :: lineBreak (depth + 1) ++ renderString k ++ ':' :: ' '
      :: renderAt (depth + 1) v ++ renderFieldsAt depth rest

/-- The items after the first and the closing bracket, each on its
line. -/
def renderItemsAt (depth : Nat) : List Json → List Char
  | [] => lineBreak depth ++ [']']
  | v :: rest =>
    ',' :: lineBreak (depth + 1) ++ renderAt (depth + 1) v
      ++ renderItemsAt depth rest

/-- The fields after the first and the closing brace, each on its
line. -/
def renderFieldsAt (depth : Nat) : List (String × Json) → List Char
  | [] => lineBreak depth ++ ['\x7d']
  | (k, v) :: rest =>
    ',' :: lineBreak (depth + 1) ++ renderString k ++ ':' :: ' '
      :: renderAt (depth + 1) v ++ renderFieldsAt depth rest

end

/-- The compact text. -/
def compact (v : Json) : String := String.ofList (render v)

/-- The indented text. -/
def pretty (v : Json) : String := String.ofList (renderAt 0 v)

end FileDepot.Json
