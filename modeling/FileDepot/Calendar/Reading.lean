/-
Reading an instant with its offset from Coordinated Universal Time.
The layout is RFC 3339 with some freedom: blanks may stand before each
number and mark, a letter T of either case or one blank separates date
and time, and the offset is Z, UTC or hours and minutes.

A year without a sign has at most four digits, one with a sign any
number of them; the other numbers have one or two.
-/
import FileDepot.Calendar.Instant
import FileDepot.Text.Blank
import FileDepot.Text.Lower
import FileDepot.Binary64.Text

namespace FileDepot.Calendar.Instant

/-- The digits at the front, at least one and at most `most`. -/
def takeNumber (most : Nat) (cs : List Char) : Option (Nat × List Char) :=
  let ds := (cs.take most).takeWhile Char.isDigit
  if ds.isEmpty then none
  else some (Binary64.digitsValue ds, cs.drop ds.length)

/-- A number of at most two digits, blanks before it passed over. -/
def takeField (cs : List Char) : Option (Nat × List Char) :=
  takeNumber 2 (Text.trimStart cs)

/-- A year, blanks before it passed over. -/
def takeYear (cs : List Char) : Option (Int × List Char) :=
  match Text.trimStart cs with
  | '-' :: rest =>
    (takeNumber rest.length rest).map fun (n, rest) => (-(n : Int), rest)
  | '+' :: rest =>
    (takeNumber rest.length rest).map fun (n, rest) => ((n : Int), rest)
  | cs => (takeNumber 4 cs).map fun (n, rest) => ((n : Int), rest)

/-- A mark, blanks before it passed over. -/
def takeMark (mark : Char) (cs : List Char) : Option (List Char) :=
  match Text.trimStart cs with
  | c :: rest => if c = mark then some rest else none
  | [] => none

/-- The nanoseconds of a fraction, of which nine digits count. -/
def takeFraction (cs : List Char) : Option (Nat × List Char) :=
  match cs with
  | '.' :: rest =>
    let ds := rest.takeWhile Char.isDigit
    if ds.isEmpty then none
    else
      let kept := ds.take 9
      some (Binary64.digitsValue kept * Binary64.tenTo (9 - kept.length),
        rest.drop ds.length)
  | _ => some (0, cs)

/-- Two digits. -/
def takePair (cs : List Char) : Option (Nat × List Char) :=
  match cs with
  | a :: b :: rest =>
    if a.isDigit ∧ b.isDigit then
      some (Binary64.digitsValue [a, b], rest)
    else none
  | _ => none

/-- The offset in seconds: Z or UTC in either case, or a sign, two
digits of hours and two of minutes with colons and blanks between
them. -/
def takeOffset (cs : List Char) : Option (Int × List Char) :=
  match cs with
  | c :: rest =>
    if (cs.take 3).map Text.asciiLower = ['u', 't', 'c'] then
      some (0, cs.drop 3)
    else if c = 'Z' ∨ c = 'z' then some (0, rest)
    else if c = '+' ∨ c = '-' ∨ c.toNat = 0x2212 then do
      let (hours, rest) ← takePair rest
      let rest := rest.dropWhile fun d => d == ':' || Text.isBlank d
      let (minutes, rest) ← takePair rest
      if 60 ≤ minutes then none
      else
        let n : Int := hours * 3600 + minutes * 60
        some (if c = '+' then n else -n, rest)
    else none
  | [] => none

/-- The instant of a local date and time at an offset. Second 60 is the
leap second after second 59. -/
def ofLocal? (d : Date) (hour minute second nanos : Nat) (offset : Int) :
    Option Instant :=
  if d.valid && hour < 24 && minute < 60 && second ≤ 60
      && offset.natAbs < 86400
      && -262143 ≤ d.year && d.year ≤ 262142 then
    let leap := second = 60
    let s : Int := hour * 3600 + minute * 60 + (if leap then 59 else second)
    let t : Instant :=
      ⟨d.dayNumber * 86400 + s - offset,
        if leap then nanos + 1000000000 else nanos⟩
    if minMillis ≤ t.seconds * 1000 ∧ t.seconds * 1000 ≤ maxMillis then some t
    else none
  else none

/-- Reads an instant. -/
def parse? (text : String) : Option Instant := do
  let (year, cs) ← takeYear text.toList
  let cs ← takeMark '-' cs
  let (month, cs) ← takeField cs
  let cs ← takeMark '-' cs
  let (day, cs) ← takeField cs
  let cs ←
    match cs with
    | c :: rest => if c = 'T' ∨ c = 't' ∨ c = ' ' then some rest else none
    | [] => none
  let (hour, cs) ← takeField cs
  let cs ← takeMark ':' cs
  let (minute, cs) ← takeField cs
  let cs ← takeMark ':' cs
  let (second, cs) ← takeField cs
  let (nanos, cs) ← takeFraction cs
  let (offset, cs) ← takeOffset (Text.trimStart cs)
  if (Text.trimStart cs).isEmpty then
    ofLocal? ⟨year, month, day⟩ hour minute second nanos offset
  else none

end FileDepot.Calendar.Instant
