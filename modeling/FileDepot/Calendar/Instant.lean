/-
Instants in Coordinated Universal Time and their texts. An instant is a
count of seconds since 1970 and a fraction in nanoseconds; during a
leap second the fraction runs on from one second to two.

Only instants of the years -262143 to 262142 exist, which bounds the
millisecond counts that name one.
-/
import FileDepot.Calendar.Civil

namespace FileDepot.Calendar

/-- An instant: seconds since 1970 and nanoseconds into that second. -/
structure Instant where
  seconds : Int
  nanos : Nat
  deriving DecidableEq, Repr, Inhabited

namespace Instant

/-- The first millisecond that names an instant. -/
def minMillis : Int := -8334601228800000

/-- The last millisecond that names an instant. -/
def maxMillis : Int := 8210266876799999

/-- The instant of a count of milliseconds since 1970. -/
def ofMillis? (ms : Int) : Option Instant :=
  if minMillis ≤ ms ∧ ms ≤ maxMillis then
    some ⟨ms / 1000, (ms % 1000).toNat * 1000000⟩
  else none

/-- The whole milliseconds since 1970. -/
def millis (t : Instant) : Int := t.seconds * 1000 + (t.nanos / 1000000 : Nat)

/-- The date of the instant. -/
def date (t : Instant) : Date := Date.ofDayNumber (t.seconds / 86400)

/-- The seconds since midnight. -/
def secondOfDay (t : Instant) : Nat := (t.seconds % 86400).toNat

-- ============================================================= text

/-- A number filled up with zeros on the left. -/
def padded (width n : Nat) : List Char :=
  let cs := Nat.toDigits 10 n
  List.replicate (width - cs.length) '0' ++ cs

/-- A year: four digits from 0 to 9999, else with its sign. -/
def yearText (year : Int) : List Char :=
  if 0 ≤ year ∧ year ≤ 9999 then padded 4 year.toNat
  else (if year < 0 then '-' else '+') :: padded 4 year.natAbs

/-- A date as year, month and day. -/
def dateText (d : Date) : List Char :=
  yearText d.year ++ '-' :: padded 2 d.month ++ '-' :: padded 2 d.day

/-- A time of day as hours, minutes and seconds. -/
def clockText (hour minute second : Nat) : List Char :=
  padded 2 hour ++ ':' :: padded 2 minute ++ ':' :: padded 2 second

/-- A fraction of a second in as many groups of three digits as it
needs. -/
def fractionText (nanos : Nat) : List Char :=
  if nanos = 0 then []
  else if nanos % 1000000 = 0 then '.' :: padded 3 (nanos / 1000000)
  else if nanos % 1000 = 0 then '.' :: padded 6 (nanos / 1000)
  else '.' :: padded 9 nanos

/-- The instant in RFC 3339, in Coordinated Universal Time. A leap
second is written as second 60. -/
def rfc3339 (t : Instant) : String :=
  let s := t.secondOfDay
  let leap := t.nanos / 1000000000
  String.ofList
    (dateText t.date
      ++ 'T' :: clockText (s / 3600) (s / 60 % 60) (s % 60 + leap)
      ++ fractionText (t.nanos % 1000000000) ++ ['Z'])

/-- The instant to the second, with a blank between date and time. -/
def toSeconds (t : Instant) : String :=
  let s := t.secondOfDay
  String.ofList
    (dateText t.date ++ ' ' :: clockText (s / 3600) (s / 60 % 60) (s % 60))

end Instant

end FileDepot.Calendar
