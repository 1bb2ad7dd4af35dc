/-
The shortest decimal that reads back: for a finite value, the fewest
significant digits of a decimal inside the interval of reals that round
to it, and of the decimals that short the nearest.

The interval reaches half way to the neighbours on either side and
contains its ends exactly when the significand is even. For each digit
count the only candidates are the value's two neighbours on that
decimal grid. Which of two equally near ones is taken depends on what
the text is for.
-/
import FileDepot.Binary64.Basic

namespace FileDepot.Binary64

/-- A positive decimal: `digits * 10 ^ exponent`. -/
structure Decimal where
  digits : Nat
  exponent : Int
  deriving DecidableEq, Repr

/-- The one taken of two neighbours that are equally near: the even one,
or the one above. -/
inductive Tie where
  | even
  | up
  deriving DecidableEq, Repr

/-- Of a neighbour and the next one above, the one that is taken. -/
def Tie.pick (n : Nat) : Tie → Nat
  | .even => if n % 2 = 0 then n else n + 1
  | .up => n + 1

/-- Four times the value and four times the ends of its interval, over
the common denominator: (low, value, high, denominator). -/
def interval (m : Nat) (e : Int) : Nat × Nat × Nat × Nat :=
  let low := if m = leastFull ∧ minExponent < e then 4 * m - 1 else 4 * m - 2
  let up := if 0 ≤ e then twoTo e.toNat else 1
  let den := if 0 ≤ e then 4 else 4 * twoTo (-e).toNat
  (low * up, 4 * m * up, (4 * m + 2) * up, den)

/-- `num / den` is below `10 ^ k`. -/
def belowPow10 (num den : Nat) (k : Int) : Bool :=
  if 0 ≤ k then num < den * tenTo k.toNat else num * tenTo (-k).toNat < den

/-- The first `k` from `start` with `num / den` below `10 ^ k`, looked
for `tries` times. -/
def pointFrom (num den : Nat) : Nat → Int → Int
  | 0, k => k
  | tries + 1, k =>
    if belowPow10 num den k then k else pointFrom num den tries (k + 1)

/-- The place of the decimal point: the least `k` with the value below
`10 ^ k`. -/
def pointOf (m : Nat) (e : Int) (num den : Nat) : Int :=
  pointFrom num den 4 (((Nat.log2 m : Int) + e) * 30103 / 100000 - 1)

/-- The decimal with the given unit exponent, if its value lies in the
interval: a candidate with its distance to the value, scaled alike for
all candidates of one grid. -/
def candidate (even : Bool) (low value high den n : Nat) (unit : Int) :
    Option (Nat × Nat) :=
  let (a, b) :=
    if 0 ≤ unit then (n * den * tenTo unit.toNat, 1)
    else (n * den, tenTo (-unit).toNat)
  let inside :=
    if even then low * b ≤ a ∧ a ≤ high * b else low * b < a ∧ a < high * b
  if inside then
    some (n, if a ≤ value * b then value * b - a else a - value * b)
  else none

/-- The better of the two neighbours on one grid, if either is in the
interval: the nearer, or the one a tie goes to. -/
def onGrid (tie : Tie) (even : Bool) (low value high den : Nat)
    (unit : Int) : Option Nat :=
  let floor :=
    if 0 ≤ unit then value / (den * tenTo unit.toNat)
    else value * tenTo (-unit).toNat / den
  match candidate even low value high den floor unit,
      candidate even low value high den (floor + 1) unit with
  | some (n, d), some (n', d') =>
    if d < d' then some n
    else if d' < d then some n'
    else some (tie.pick n)
  | some (n, _), none => some n
  | none, some (n', _) => some n'
  | none, none => none

/-- The first digit count of `count`, `count + 1`, … with a decimal in
the interval. -/
def search (tie : Tie) (even : Bool) (low value high den : Nat)
    (point : Int) : Nat → Nat → Decimal
  | 0, count => ⟨value / den, point - count⟩
  | tries + 1, count =>
    match onGrid tie even low value high den (point - count) with
    | some n => ⟨n, point - count⟩
    | none => search tie even low value high den point tries (count + 1)

/-- A decimal whose digits do not end in zero. -/
def stripZeros : Nat → Decimal → Decimal
  | 0, d => d
  | tries + 1, d =>
    if d.digits % 10 = 0 ∧ d.digits ≠ 0 then
      stripZeros tries ⟨d.digits / 10, d.exponent + 1⟩
    else d

/-- The shortest decimal of a positive finite value. -/
def shortest (tie : Tie) (m : Nat) (e : Int) : Decimal :=
  let (low, value, high, den) := interval m e
  let point := pointOf m e value den
  stripZeros 20 (search tie (m % 2 == 0) low value high den point 17 1)

end FileDepot.Binary64
