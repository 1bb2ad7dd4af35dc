/-
The scalars of TOML that stand without quotes: booleans, whole numbers
in four bases, floats, and dates with times. A date or a time is kept
as a text in one normal form: four digits of the year, two of all else,
a capital `T` in between, and no zeros at the end of a fraction that has
other digits.
-/
import FileDepot.Calendar.Instant
import FileDepot.Config.Setting
import FileDepot.Config.Toml.Text

namespace FileDepot.Config.Toml

-- =========================================================== numbers

/-- Digits of a base with single underscores between them, without the
underscores. -/
def digitRun (isDigit : Char → Bool) : List Char → Option (List Char)
  | [] => none
  | [c] => if isDigit c then some [c] else none
  | c :: '_' :: rest =>
    if isDigit c then (digitRun isDigit rest).map (c :: ·) else none
  | c :: rest =>
    if isDigit c then (digitRun isDigit rest).map (c :: ·) else none

/-- Decimal digits without a leading zero. -/
def wholeRun (cs : List Char) : Option (List Char) := do
  let digits ← digitRun Char.isDigit cs
  if digits.head? = some '0' ∧ digits.length ≠ 1 then none else some digits

/-- A number within the signed range. -/
def inRange (n : Int) : Option Scalar :=
  if Text.minSigned ≤ n ∧ n ≤ Text.maxSigned then some (.number n) else none

/-- A whole number of base 16, 8 or 2. -/
def radix (base : Nat) (cs : List Char) : Option Scalar := do
  let digits ← digitRun (fun c => (Json.hexValue? c).any (· < base)) cs
  let values ← digits.mapM Json.hexValue?
  inRange (values.foldl (fun n d => n * base + d) 0 : Nat)

/-- The exponent of a float; zero where there is none. -/
def exponentOf : List Char → Option Int
  | [] => some 0
  | c :: rest =>
    if c = 'e' ∨ c = 'E' then do
      let (negative, digits) := Text.takeSign rest
      let digits ← digitRun Char.isDigit digits
      let n : Int := Binary64.digitsValue digits
      some (if negative then -n else n)
    else none

/-- A float: digits, then a fraction or an exponent or both. -/
def decimal (negative : Bool) (cs : List Char) : Option Scalar := do
  let isTail := fun c => c == '.' || c == 'e' || c == 'E'
  let whole ← wholeRun (cs.takeWhile fun c => !isTail c)
  let rest := cs.dropWhile fun c => !isTail c
  let (fraction, rest) ←
    match rest with
    | '.' :: rest => do
      let fraction ← digitRun Char.isDigit
        (rest.takeWhile fun c => c != 'e' && c != 'E')
      some (fraction, rest.dropWhile fun c => c != 'e' && c != 'E')
    | rest => some ([], rest)
  let exponent ← exponentOf rest
  let x := Binary64.ofDecimal negative
    (Binary64.digitsValue (whole ++ fraction)) (exponent - fraction.length)
  if x.isInfinite then none else some (.float x)

/-- A number in any of its spellings. -/
def number (cs : List Char) : Option Scalar :=
  match cs with
  | '0' :: 'x' :: rest => radix 16 rest
  | '0' :: 'o' :: rest => radix 8 rest
  | '0' :: 'b' :: rest => radix 2 rest
  | cs =>
    let (negative, rest) := Text.takeSign cs
    if rest = "inf".toList then some (.float (.infinite negative))
    else if rest = "nan".toList then some (.float .nan)
    else if rest.any fun c => c == '.' || c == 'e' || c == 'E' then
      decimal negative rest
    else do
      let digits ← wholeRun rest
      let n : Int := Binary64.digitsValue digits
      inRange (if negative then -n else n)

-- ==================================================== dates and times

/-- A number of so many digits that is at most a bound. -/
def fixed (width most : Nat) (cs : List Char) : Option (Nat × List Char) :=
  let digits := cs.take width
  if digits.length = width ∧ digits.all Char.isDigit then
    let n := Binary64.digitsValue digits
    if n ≤ most then some (n, cs.drop width) else none
  else none

/-- A character that must come next. -/
def mark (c : Char) : List Char → Option (List Char)
  | [] => none
  | d :: rest => if c = d then some rest else none

/-- A date. -/
def date (cs : List Char) : Option (List Char × List Char) := do
  let (year, cs) ← fixed 4 9999 cs
  let cs ← mark '-' cs
  let (month, cs) ← fixed 2 12 cs
  let cs ← mark '-' cs
  let (day, cs) ← fixed 2 31 cs
  let d : Calendar.Date := ⟨year, month, day⟩
  if d.valid then some (Calendar.Instant.dateText d, cs) else none

/-- The fraction of a second to nine digits, without zeros at its end;
one zero stays where there is nothing else. -/
def fractionOf (digits : List Char) : List Char :=
  match ((digits.take 9).reverse.dropWhile (· == '0')).reverse with
  | [] => ['.', '0']
  | kept => '.' :: kept

/-- A time of day. The seconds may be left out. -/
def time (cs : List Char) : Option (List Char × List Char) := do
  let (hour, cs) ← fixed 2 23 cs
  let cs ← mark ':' cs
  let (minute, cs) ← fixed 2 59 cs
  let shown :=
    Calendar.Instant.padded 2 hour ++ ':' :: Calendar.Instant.padded 2 minute
  match cs with
  | ':' :: cs => do
    let (second, cs) ← fixed 2 60 cs
    let shown := shown ++ ':' :: Calendar.Instant.padded 2 second
    match cs with
    | '.' :: rest =>
      let digits := rest.takeWhile Char.isDigit
      if digits = [] then none
      else some (shown ++ fractionOf digits, rest.dropWhile Char.isDigit)
    | cs => some (shown, cs)
  | cs => some (shown, cs)

/-- The offset from Coordinated Universal Time, if there is one, up to
the end. -/
def offset : List Char → Option (List Char)
  | [] => some []
  | ['Z'] | ['z'] => some ['Z']
  | c :: cs =>
    if c = '+' ∨ c = '-' then do
      let (hour, cs) ← fixed 2 23 cs
      let cs ← mark ':' cs
      let (minute, cs) ← fixed 2 59 cs
      let sign := if hour = 0 ∧ minute = 0 then '+' else c
      if cs = [] then
        some
          (sign :: Calendar.Instant.padded 2 hour
            ++ ':' :: Calendar.Instant.padded 2 minute)
      else none
    else none

/-- A date, a time or both, as a normalised text. -/
def moment (cs : List Char) : Option Scalar :=
  match time cs with
  | some (shown, []) => some (.text (String.ofList shown))
  | _ => do
    let (day, rest) ← date cs
    match rest with
    | [] => some (.text (String.ofList day))
    | c :: rest =>
      if c = 'T' ∨ c = 't' ∨ c = ' ' then do
        let (shown, rest) ← time rest
        let zone ← offset rest
        some (.text (String.ofList (day ++ 'T' :: shown ++ zone)))
      else none

-- ============================================================= words

/-- A character that ends a word. -/
def endsWord (c : Char) : Bool :=
  isGap c || c == '\n' || c == '\r' || c == ',' || c == ']' || c == '\x7d'
    || c == '#' || c == '='

/-- The word ahead. A date takes the time behind a single blank with
it. -/
def word (cs : List Char) : List Char × List Char :=
  let first := cs.takeWhile fun c => !endsWord c
  let rest := cs.dropWhile fun c => !endsWord c
  match rest with
  | ' ' :: d :: more =>
    if d.isDigit && (date first).any (·.2 = []) then
      (first ++ ' ' :: (d :: more).takeWhile fun c => !endsWord c,
        (d :: more).dropWhile fun c => !endsWord c)
    else (first, rest)
  | _ => (first, rest)

/-- The scalar that a word spells. -/
def scalarOf (cs : List Char) : Option Scalar :=
  if cs = "true".toList then some (.flag true)
  else if cs = "false".toList then some (.flag false)
  else
    match number cs with
    | some s => some s
    | none => moment cs

end FileDepot.Config.Toml
