/-
Binary floating point of 64 bits as exact arithmetic: a finite value is
its sign, its significand and the power of two it is scaled by, and
every operation forms the exact rational result first and rounds it
once, to the nearest representable value and to the even one on a tie.

Nothing here goes through machine floats, so every result can be
computed and reasoned about with natural numbers alone.
-/
namespace FileDepot

/-- A value of the binary64 format. In a finite one the significand is
below `2 ^ 53`, the exponent at least `-1074`, and one of the two is at
its bound: the significand has 53 bits or the exponent is `-1074`. -/
inductive Binary64 where
  | finite (negative : Bool) (significand : Nat) (exponent : Int)
  | infinite (negative : Bool)
  | nan
  deriving DecidableEq, Repr, Inhabited

namespace Binary64

/-- A power of two. -/
def twoTo (n : Nat) : Nat := Nat.pow 2 n

/-- A power of ten. -/
def tenTo (n : Nat) : Nat := Nat.pow 10 n

/-- The least significand of 53 bits. -/
def leastFull : Nat := 4503599627370496

/-- The least exponent of the format. -/
def minExponent : Int := -1074

/-- The largest exponent of the format. -/
def maxExponent : Int := 971

/-- A quotient rounded to the nearest integer, to the even one on a
tie. -/
def roundQuotient (num den : Nat) : Nat :=
  let q := num / den
  let r := num % den
  if 2 * r < den then q
  else if den < 2 * r then q + 1
  else if q % 2 = 0 then q else q + 1

/-- `num / den` divided by `2 ^ exponent`, as a numerator and a
denominator. -/
def unscaled (num den : Nat) (exponent : Int) : Nat × Nat :=
  if 0 ≤ exponent then (num, den * twoTo exponent.toNat)
  else (num * twoTo (-exponent).toNat, den)

/-- The exponent at which a positive quotient has 53 bits before the
point, or the least exponent where that is larger. -/
def exponentOf (num den : Nat) : Int :=
  let guess : Int := (Nat.log2 num : Int) - (Nat.log2 den : Int) - 52
  let (n, d) := unscaled num den guess
  max (if n / d < leastFull then guess - 1 else guess) minExponent

/-- The value nearest to `num / den`, with the given sign. -/
def ofQuotient (negative : Bool) (num den : Nat) : Binary64 :=
  if num = 0 then .finite negative 0 minExponent
  else
    let e := exponentOf num den
    let (n, d) := unscaled num den e
    let m := roundQuotient n d
    let (m, e) := if m = 2 * leastFull then (leastFull, e + 1) else (m, e)
    if maxExponent < e then .infinite negative else .finite negative m e

/-- The value nearest to `significand * 2 ^ exponent`. -/
def ofScaled (negative : Bool) (significand : Nat) (exponent : Int) :
    Binary64 :=
  if 0 ≤ exponent then ofQuotient negative (significand * twoTo exponent.toNat) 1
  else ofQuotient negative significand (twoTo (-exponent).toNat)

/-- The value nearest to a natural number. -/
def ofNat (n : Nat) : Binary64 := ofQuotient false n 1

/-- How many decimal digits a number has. -/
def decimalLength (n : Nat) : Nat := (Nat.toDigits 10 n).length

/-- The value nearest to `digits * 10 ^ exponent`. Magnitudes that are
out of the format's reach are settled by their size alone. -/
def ofDecimal (negative : Bool) (digits : Nat) (exponent : Int) : Binary64 :=
  let size := exponent + decimalLength digits
  if digits = 0 then .finite negative 0 minExponent
  else if 310 < size then .infinite negative
  else if size < -330 then .finite negative 0 minExponent
  else if 0 ≤ exponent then ofQuotient negative (digits * tenTo exponent.toNat) 1
  else ofQuotient negative digits (tenTo (-exponent).toNat)

/-- The product, rounded once. -/
def mul : Binary64 → Binary64 → Binary64
  | .finite a m e, .finite b n f => ofScaled (a != b) (m * n) (e + f)
  | .infinite a, .infinite b => .infinite (a != b)
  | .infinite a, .finite b n _ => if n = 0 then .nan else .infinite (a != b)
  | .finite a m _, .infinite b => if m = 0 then .nan else .infinite (a != b)
  | _, _ => .nan

/-- The quotient, rounded once. -/
def div : Binary64 → Binary64 → Binary64
  | .finite a m e, .finite b n f =>
    if n = 0 then
      if m = 0 then .nan else .infinite (a != b)
    else
      let (num, den) := unscaled m n (f - e)
      ofQuotient (a != b) num den
  | .infinite a, .finite b _ _ => .infinite (a != b)
  | .finite a _ _, .infinite b => .finite (a != b) 0 minExponent
  | _, _ => .nan

/-- The value with the other sign. -/
def neg : Binary64 → Binary64
  | .finite a m e => .finite (!a) m e
  | .infinite a => .infinite (!a)
  | .nan => .nan

/-- Either zero. -/
def isZero : Binary64 → Bool
  | .finite _ m _ => m == 0
  | _ => false

/-- The two infinities. -/
def isInfinite : Binary64 → Bool
  | .infinite _ => true
  | _ => false

/-- Equality of values: the two zeros are equal, a NaN equals
nothing. -/
def same : Binary64 → Binary64 → Bool
  | .finite a m e, .finite b n f => (m == 0 && n == 0) || (a == b && m == n && e == f)
  | .infinite a, .infinite b => a == b
  | _, _ => false

/-- The smallest integer of 64 bits with a sign. -/
def minInt : Int := -9223372036854775808

/-- The largest integer of 64 bits with a sign. -/
def maxInt : Int := 9223372036854775807

/-- The nearest integer, a half going away from zero, held within the
signed 64-bit range; a NaN gives zero. -/
def toInt64 (x : Binary64) : Int :=
  match x with
  | .nan => 0
  | .infinite true => minInt
  | .infinite false => maxInt
  | .finite negative m e =>
    let size : Nat :=
      if 0 ≤ e then m * twoTo e.toNat
      else (2 * m + twoTo (-e).toNat) / twoTo ((-e).toNat + 1)
    let value : Int := if negative then -(size : Int) else size
    max minInt (min maxInt value)

end Binary64

end FileDepot
