/-
Signed whole numbers in decimal: an optional sign and digits, with any
number of zeros in front, within the range of 64 bits.
-/
import FileDepot.Binary64.Text

namespace FileDepot.Text

/-- The largest signed number. -/
def maxSigned : Int := Binary64.maxInt

/-- The smallest signed number. -/
def minSigned : Int := Binary64.minInt

/-- The sign and the characters behind it. -/
def takeSign : List Char → Bool × List Char
  | '-' :: rest => (true, rest)
  | '+' :: rest => (false, rest)
  | cs => (false, cs)

/-- The number a text spells, if it is a signed one. -/
def signed? (text : String) : Option Int :=
  let (negative, digits) := takeSign text.toList
  if digits = [] ∨ !digits.all Char.isDigit then none
  else
    let n : Int := Binary64.digitsValue digits
    let n := if negative then -n else n
    if minSigned ≤ n ∧ n ≤ maxSigned then some n else none

end FileDepot.Text
