/-
Floats as text, in two layouts of the shortest digits. The one of
configured values is always positional, writes whole values without a
point and rounds a tie up. The one of JSON always shows a point or an
exponent, is positional for magnitudes from `1e-5` up to `1e16` and
rounds a tie to even.

Reading accepts an optional sign, digits with an optional point and an
optional exponent, and the names of the infinities and of NaN in any
case.
-/
import FileDepot.Binary64.Shortest
import FileDepot.Text.Lower

namespace FileDepot.Binary64

/-- `count` zeros. -/
def zeros (count : Nat) : List Char := List.replicate count '0'

/-- Decimal digits with the point after the first `point` of them,
filled up with zeros on either side. Without digits behind the point
the text ends in `whole`. -/
def positional (digits : List Char) (point : Int) (whole : List Char) :
    List Char :=
  if point ≤ 0 then '0' :: '.' :: zeros (-point).toNat ++ digits
  else if digits.length ≤ point.toNat then
    digits ++ zeros (point.toNat - digits.length) ++ whole
  else digits.take point.toNat ++ '.' :: digits.drop point.toNat

/-- The sign as it is written. -/
def signText (negative : Bool) : List Char :=
  if negative then ['-'] else []

/-- The digits of a decimal and the place of its point. -/
def Decimal.parts (d : Decimal) : List Char × Int :=
  let cs := Nat.toDigits 10 d.digits
  (cs, d.exponent + cs.length)

/-- The text of a configured value: never an exponent, and no point in
a whole number. -/
def plainText : Binary64 → String
  | .nan => "NaN"
  | .infinite negative => String.ofList (signText negative ++ "inf".toList)
  | .finite negative 0 _ => String.ofList (signText negative ++ ['0'])
  | .finite negative m e =>
    let (digits, point) := (shortest .up m e).parts
    String.ofList (signText negative ++ positional digits point [])

/-- Scientific layout: one digit before the point, the exponent with
its sign. -/
def scientific (digits : List Char) (point : Int) : List Char :=
  let head :=
    match digits with
    | [] => []
    | [d] => [d]
    | d :: rest => d :: '.' :: rest
  let exp := point - 1
  head ++ 'e' :: (if exp < 0 then '-' else '+') :: Nat.toDigits 10 exp.natAbs

/-- The text of a JSON number; values JSON cannot hold are null. -/
def jsonText : Binary64 → List Char
  | .nan => "null".toList
  | .infinite _ => "null".toList
  | .finite negative 0 _ => signText negative ++ "0.0".toList
  | .finite negative m e =>
    let (digits, point) := (shortest .even m e).parts
    signText negative
      ++ (if -5 < point ∧ point ≤ 16 then positional digits point ['.', '0']
          else scientific digits point)

-- ========================================================== reading

/-- The value of a run of decimal digits. -/
def digitsValue (cs : List Char) : Nat :=
  cs.foldl (fun n c => 10 * n + (c.toNat - 48)) 0

/-- The exponent part of a decimal text: nothing, or a mark, an
optional sign and at least one digit. -/
def exponent? : List Char → Option Int
  | [] => some 0
  | c :: rest =>
    if c = 'e' ∨ c = 'E' then
      let (negative, digits) :=
        match rest with
        | '-' :: ds => (true, ds)
        | '+' :: ds => (false, ds)
        | ds => (false, ds)
      if digits.isEmpty || !digits.all Char.isDigit then none
      else
        let n : Int := digitsValue digits
        some (if negative then -n else n)
    else none

/-- The digits before and after the point, and what follows them. -/
def mantissa (cs : List Char) : List Char × List Char × List Char :=
  let whole := cs.takeWhile Char.isDigit
  match cs.dropWhile Char.isDigit with
  | '.' :: rest =>
    (whole, rest.takeWhile Char.isDigit, rest.dropWhile Char.isDigit)
  | rest => (whole, [], rest)

/-- An unsigned decimal text with the given sign. -/
def unsigned? (negative : Bool) (cs : List Char) : Option Binary64 :=
  let (whole, fraction, rest) := mantissa cs
  if whole.isEmpty && fraction.isEmpty then none
  else
    (exponent? rest).map fun exp =>
      ofDecimal negative (digitsValue (whole ++ fraction))
        (exp - fraction.length)

/-- The value of a decimal text, if it is one. -/
def ofText? (text : String) : Option Binary64 :=
  let cs := text.toList
  let (negative, body) :=
    match cs with
    | '-' :: rest => (true, rest)
    | '+' :: rest => (false, rest)
    | _ => (false, cs)
  let name := String.ofList (body.map Text.asciiLower)
  if name = "nan" then some .nan
  else if name = "inf" ∨ name = "infinity" then some (.infinite negative)
  else unsigned? negative body

end FileDepot.Binary64
