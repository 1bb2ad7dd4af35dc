/-
Reading the parts of JSON that hold no other values: blanks, literal
names, strings and numbers.

Every reader takes the characters left and returns what it read with
the characters after it, or the first thing wrong with them. Whole
numbers outside the 64-bit words and all numbers with a fraction or an
exponent become floats: the leading digits that fit a 64-bit word are
scaled by a power of ten, one rounding for each of the two steps.
-/
import FileDepot.Json.Value
import FileDepot.Binary64.Text

namespace FileDepot.Json

/-- Why a text cannot be read: it ends inside a value, it is not JSON,
or it is JSON of the wrong shape. -/
inductive Fault where
  | incomplete
  | malformed
  | mismatched
  deriving DecidableEq, Repr, Inhabited

/-- The word for a fault. -/
def Fault.category : Fault → String
  | .incomplete => "Eof"
  | .malformed => "Syntax"
  | .mismatched => "Data"

/-- A reader of one thing from the front of a text. -/
abbrev Reader (α : Type) := List Char → Except Fault (α × List Char)

/-- The four characters that may stand between tokens. -/
def isSpace (c : Char) : Bool :=
  c == ' ' || c == '\n' || c == '\t' || c == '\r'

/-- The text from its first character that is no blank. -/
def skipSpace (cs : List Char) : List Char := cs.dropWhile isSpace

/-- The rest of a literal name. -/
def expect : List Char → Reader Unit
  | [], cs => .ok ((), cs)
  | _ :: _, [] => .error .incomplete
  | w :: ws, c :: cs => if c = w then expect ws cs else .error .malformed

-- ========================================================== strings

/-- The value of a hexadecimal digit. -/
def hexValue? (c : Char) : Option Nat :=
  if '0' ≤ c ∧ c ≤ '9' then some (c.toNat - 48)
  else if 'a' ≤ c ∧ c ≤ 'f' then some (c.toNat - 87)
  else if 'A' ≤ c ∧ c ≤ 'F' then some (c.toNat - 55)
  else none

/-- How many bytes the first four characters take, at most four. -/
def bytesLeft (cs : List Char) : Nat :=
  min 4 ((cs.take 4).foldl (fun n c => n + c.utf8Size) 0)

/-- Four hexadecimal digits. With less than four bytes left the text
has ended too early, whatever they are. -/
def hexQuad : Reader Nat
  | a :: b :: c :: d :: rest =>
    match hexValue? a, hexValue? b, hexValue? c, hexValue? d with
    | some a, some b, some c, some d =>
      .ok (a * 4096 + b * 256 + c * 16 + d, rest)
    | _, _, _, _ => .error .malformed
  | cs => if bytesLeft cs < 4 then .error .incomplete else .error .malformed

/-- The character of a one-letter escape. -/
def plainEscape? (c : Char) : Option Char :=
  match c with
  | '"' => some '"'
  | '\\' => some '\\'
  | '/' => some '/'
  | 'b' => some (Char.ofNat 8)
  | 'f' => some (Char.ofNat 12)
  | 'n' => some '\n'
  | 'r' => some '\r'
  | 't' => some '\t'
  | _ => none

/-- The second half of a surrogate pair, after the first half. -/
def lowSurrogate (high : Nat) : Reader Char
  | [] => .error .incomplete
  | '\\' :: [] => .error .incomplete
  | '\\' :: 'u' :: rest => do
    let (low, rest) ← hexQuad rest
    if 0xDC00 ≤ low ∧ low ≤ 0xDFFF then
      .ok (Char.ofNat ((high - 0xD800) * 1024 + (low - 0xDC00) + 0x10000), rest)
    else .error .malformed
  | _ => .error .malformed

/-- The character of an escape, after its backslash. Surrogates must
come in pairs. -/
def escape : Reader Char
  | [] => .error .incomplete
  | 'u' :: rest => do
    let (n, rest) ← hexQuad rest
    if 0xDC00 ≤ n ∧ n ≤ 0xDFFF then .error .malformed
    else if 0xD800 ≤ n ∧ n ≤ 0xDBFF then lowSurrogate n rest
    else .ok (Char.ofNat n, rest)
  | c :: rest =>
    match plainEscape? c with
    | some e => .ok (e, rest)
    | none => .error .malformed

/-- An escape of a string that is passed over: any four digits will do
after the letter u. -/
def skipEscape : Reader Unit
  | [] => .error .incomplete
  | 'u' :: rest => do
    let (_, rest) ← hexQuad rest
    .ok ((), rest)
  | c :: rest =>
    match plainEscape? c with
    | some _ => .ok ((), rest)
    | none => .error .malformed

/-- The characters of a string up to its closing quote, one step for
each unit of the first argument. -/
def stringGo (esc : Reader α) (keep : α → List Char) :
    Nat → List Char → Reader (List Char)
  | 0, _, _ => .error .incomplete
  | _ + 1, _, [] => .error .incomplete
  | steps + 1, acc, c :: rest =>
    if c = '"' then .ok (acc.reverse, rest)
    else if c = '\\' then do
      let (e, rest) ← esc rest
      stringGo esc keep steps (keep e ++ acc) rest
    else if c.toNat < 32 then .error .malformed
    else stringGo esc keep steps (c :: acc) rest

/-- A string, after its opening quote. -/
def string : Reader String := fun cs => do
  let (s, rest) ← stringGo escape (fun c => [c]) (cs.length + 1) [] cs
  .ok (String.ofList s, rest)

/-- A string that is passed over, after its opening quote. -/
def skipString : Reader Unit := fun cs => do
  let (_, rest) ← stringGo skipEscape (fun _ => []) (cs.length + 1) [] cs
  .ok ((), rest)

-- ========================================================== numbers

/-- The largest unsigned 64-bit word. -/
def maxWord : Nat := 18446744073709551615

/-- Appends decimal digits to a number while it fits a 64-bit word;
returns it with the count of digits left over. -/
def absorb : Nat → List Char → Nat × Nat
  | n, [] => (n, 0)
  | n, c :: cs =>
    let m := 10 * n + (c.toNat - 48)
    if m ≤ maxWord then absorb m cs else (n, cs.length + 1)

/-- A power of ten as a float. -/
def powerOfTen (n : Nat) : Binary64 := Binary64.ofNat (Binary64.tenTo n)

/-- A float times a power of ten, one rounding for each step of at most
308 places; nothing where the result is too large. -/
def scaleByTen : Nat → Binary64 → Int → Option Binary64
  | 0, x, _ => some x
  | steps + 1, x, e =>
    if e.natAbs ≤ 308 then
      if 0 ≤ e then
        let y := x.mul (powerOfTen e.natAbs)
        if y.isInfinite then none else some y
      else some (x.div (powerOfTen e.natAbs))
    else if x.isZero then some x
    else if 0 ≤ e then none
    else scaleByTen steps (x.div (powerOfTen 308)) (e + 308)

/-- The float of a significand and a power of ten, with its sign. -/
def floatOf (negative : Bool) (significand : Nat) (exponent : Int) :
    Except Fault Json :=
  match scaleByTen 5 (Binary64.ofNat significand) exponent with
  | some x => .ok (.float (if negative then x.neg else x))
  | none => .error .malformed

/-- The digits at the front of a text, at least one, and the rest. -/
def digits (cs : List Char) : Except Fault (List Char × List Char) :=
  match cs.takeWhile Char.isDigit with
  | [] => if cs.isEmpty then .error .incomplete else .error .malformed
  | ds => .ok (ds, cs.dropWhile Char.isDigit)

/-- The largest exponent that is computed with. -/
def maxExponent : Nat := 2147483647

/-- A float from the exponent on, after the letter e. A larger exponent
makes the number too large or zero. -/
def exponent (negative : Bool) (significand : Nat) (start : Int) :
    Reader Json := fun cs => do
  let (down, cs) :=
    match cs with
    | '-' :: rest => (true, rest)
    | '+' :: rest => (false, rest)
    | _ => (false, cs)
  let (ds, rest) ← digits cs
  let n := Binary64.digitsValue ds
  if n ≤ maxExponent then
    let v ← floatOf negative significand
      (if down then start - (n : Int) else start + (n : Int))
    .ok (v, rest)
  else if significand ≠ 0 ∧ !down then .error .malformed
  else
    let zero := Binary64.finite negative 0 Binary64.minExponent
    .ok (.float zero, rest)

/-- A float whose significand is read; an exponent may follow. -/
def finish (negative : Bool) (significand : Nat) (exp : Int) : Reader Json
  | 'e' :: rest | 'E' :: rest => exponent negative significand exp rest
  | cs => do
    let v ← floatOf negative significand exp
    .ok (v, cs)

/-- A float from the fraction on, after the point. -/
def fraction (negative : Bool) (significand : Nat) (exp : Int) :
    Reader Json := fun cs => do
  let (ds, rest) ← digits cs
  let (n, left) := absorb significand ds
  finish negative n (exp - ((ds.length - left : Nat) : Int)) rest

/-- The whole number of a significand, a float where no 64-bit word
holds it or where it is negative zero. -/
def whole (negative : Bool) (significand : Nat) : Json :=
  if !negative then .int significand
  else if significand = 0 ∨ maxWord / 2 + 1 < significand then
    .float (Binary64.ofNat significand).neg
  else .int (-(significand : Int))

/-- A number, after its sign. -/
def number (negative : Bool) : Reader Json := fun cs => do
  let (ds, rest) ← digits cs
  if ds.head? = some '0' ∧ 1 < ds.length then .error .malformed
  else
    let (n, left) := absorb 0 ds
    match rest with
    | '.' :: rest => fraction negative n left rest
    | 'e' :: rest | 'E' :: rest => exponent negative n left rest
    | _ =>
      if left = 0 then .ok (whole negative n, rest)
      else do
        let v ← floatOf negative n left
        .ok (v, rest)

/-- The digits that a skipped number must have, and the rest. -/
def skipDigits (cs : List Char) : Except Fault (List Char) :=
  match cs with
  | c :: _ => if c.isDigit then .ok (cs.dropWhile Char.isDigit)
              else .error .malformed
  | [] => .error .malformed

/-- The exponent of a skipped number, if one is there. -/
def skipExponent (cs : List Char) : Except Fault (List Char) :=
  match cs with
  | 'e' :: '+' :: rest | 'E' :: '+' :: rest
  | 'e' :: '-' :: rest | 'E' :: '-' :: rest
  | 'e' :: rest | 'E' :: rest => skipDigits rest
  | _ => .ok cs

/-- A number that is passed over, after its sign: of any size, and
malformed where it is cut short. -/
def skipNumber : Reader Unit := fun cs => do
  let rest ← skipDigits cs
  if cs.head? = some '0' ∧ (cs.drop 1).head?.any Char.isDigit then
    .error .malformed
  else
    let rest ←
      match rest with
      | '.' :: rest => skipDigits rest
      | _ => .ok rest
    let rest ← skipExponent rest
    .ok ((), rest)

end FileDepot.Json
