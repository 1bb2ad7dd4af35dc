/-
Instants and their texts: an instant is read back from the text it is
written as.

Every part of the text is digits of a known number, so it is read as the
number it was written for, wherever it stands (`takeNumber_append`);
only the year needs to know what follows it, because beyond 9999 it has
a sign and no fixed length. What is read is a date and a time of day
again, and `Date.dayNumber_ofDayNumber` puts them together.
-/
import FileDepot.Calendar.Reading
import FileDepot.Proofs.Blank
import FileDepot.Proofs.Calendar.Civil
import FileDepot.Proofs.Json.Numbers
import Mathlib.Algebra.Group.Nat.Defs

namespace FileDepot.Calendar.Instant

open Json (Digits)

-- ============================================================= digits

/-- Zeros in front do not change what digits are worth. -/
theorem digitsValue_zeros (count : Nat) (ds : List Char) :
    Binary64.digitsValue (List.replicate count '0' ++ ds)
      = Binary64.digitsValue ds := by
  unfold Binary64.digitsValue
  induction count with
  | zero => rfl
  | succ count ih =>
      rw [List.replicate_succ, List.cons_append, List.foldl_cons]
      exact ih

/-- A number filled up with zeros is digits. -/
theorem digits_padded (width n : Nat) : Digits (padded width n) := by
  obtain ⟨hne, hall⟩ := (Json.wholePart_toDigits n).1
  unfold padded
  refine ⟨List.append_ne_nil_of_right_ne_nil _ hne, ?_⟩
  simp only [List.forall_mem_append]
  refine ⟨fun c hc => ?_, hall⟩
  rw [List.eq_of_mem_replicate hc]
  rfl

/-- A number filled up with zeros is worth that number. -/
theorem digitsValue_padded (width n : Nat) :
    Binary64.digitsValue (padded width n) = n := by
  unfold padded
  rw [digitsValue_zeros, Json.digitsValue_toDigits]

/-- A number that is not too long fills its width. -/
theorem length_padded {width n : Nat} (hw : 0 < width)
    (h : n < 10 ^ width) : (padded width n).length = width := by
  have hle := (Nat.length_toDigits_le_iff (by decide) hw).mpr h
  unfold padded
  rw [List.length_append, List.length_replicate]
  omega

variable {ds rest : List Char}

/-- Digits are no blanks. -/
theorem trimStart_digits (h : Digits ds) (rest : List Char) :
    Text.trimStart (ds ++ rest) = ds ++ rest := by
  obtain ⟨d, ds, rfl⟩ := List.exists_cons_of_ne_nil h.1
  exact Text.trimStart_cons
    (Text.isBlank_of_isDigit (h.2 d List.mem_cons_self)) _

/-- Digits are read up to where they end, or as far as is allowed. -/
theorem takeNumber_append {most : Nat} (h : Digits ds)
    (hlen : ds.length ≤ most)
    (hend : ds.length = most ∨ ∀ c tail, rest = c :: tail →
      c.isDigit = false) :
    takeNumber most (ds ++ rest)
      = some (Binary64.digitsValue ds, rest) := by
  have htake : ((ds ++ rest).take most).takeWhile Char.isDigit = ds := by
    rw [List.take_append, List.take_of_length_le hlen,
      List.takeWhile_append_of_pos h.2]
    rcases hend with hend | hend
    · rw [hend, Nat.sub_self, List.take_zero, List.takeWhile_nil,
        List.append_nil]
    · cases hrest : rest.take (most - ds.length) with
      | nil => rw [List.takeWhile_nil, List.append_nil]
      | cons c tail =>
          have hc : c.isDigit = false := by
            cases rest with
            | nil => simp at hrest
            | cons d rest =>
                cases hmost : most - ds.length with
                | zero => simp [hmost] at hrest
                | succ k =>
                    rw [hmost, List.take_succ_cons] at hrest
                    rw [← (List.cons.inj hrest).1]
                    exact hend d rest rfl
          rw [List.takeWhile_cons, hc, if_neg (by simp), List.append_nil]
  unfold takeNumber
  dsimp only
  rw [htake, if_neg (by simpa using h.1), List.drop_left]

/-- A written number of two digits is read. -/
theorem takeField_padded {n : Nat} (h : n < 100) (rest : List Char) :
    takeField (padded 2 n ++ rest) = some (n, rest) := by
  have hlen : (padded 2 n).length = 2 := length_padded (by decide) h
  unfold takeField
  rw [trimStart_digits (digits_padded 2 n),
    takeNumber_append (digits_padded 2 n) (by omega) (.inl hlen),
    digitsValue_padded]

/-- A mark is read where it stands. -/
theorem takeMark_cons {mark : Char} (h : Text.isBlank mark = false)
    (rest : List Char) : takeMark mark (mark :: rest) = some rest := by
  unfold takeMark
  rw [Text.trimStart_cons h]
  exact if_pos rfl

-- ============================================================== parts

/-- A year before the year 0 has a minus in front. -/
theorem takeYear_minus (cs : List Char) :
    takeYear ('-' :: cs)
      = (takeNumber cs.length cs).map fun p => (-(p.1 : Int), p.2) := by
  unfold takeYear
  rw [Text.trimStart_cons (by decide)]
  rfl

/-- A year of more than four digits has a plus in front. -/
theorem takeYear_plus (cs : List Char) :
    takeYear ('+' :: cs)
      = (takeNumber cs.length cs).map fun p => ((p.1 : Int), p.2) := by
  unfold takeYear
  rw [Text.trimStart_cons (by decide)]
  rfl

/-- Any other year starts with a digit. -/
theorem takeYear_digits (h : Digits ds) (rest : List Char) :
    takeYear (ds ++ rest)
      = (takeNumber 4 (ds ++ rest)).map fun p => ((p.1 : Int), p.2) := by
  unfold takeYear
  rw [trimStart_digits h]
  obtain ⟨d, ds, rfl⟩ := List.exists_cons_of_ne_nil h.1
  have hd := h.2 d List.mem_cons_self
  rw [List.cons_append]
  split
  · next heq =>
    rw [(List.cons.inj heq).1] at hd
    cases hd
  · next heq =>
    rw [(List.cons.inj heq).1] at hd
    cases hd
  · rfl

/-- A written year is read in front of a mark. -/
theorem takeYear_yearText (year : Int) (rest : List Char) :
    takeYear (yearText year ++ '-' :: rest) = some (year, '-' :: rest) := by
  have hstop : ∀ c tail, '-' :: rest = c :: tail → c.isDigit = false := by
    intro c tail h
    rw [← (List.cons.inj h).1]
    rfl
  have hsigned : ∀ n : Nat,
      takeNumber (padded 4 n ++ '-' :: rest).length
          (padded 4 n ++ '-' :: rest)
        = some (n, '-' :: rest) := by
    intro n
    rw [takeNumber_append (digits_padded 4 n) (by simp) (.inr hstop),
      digitsValue_padded]
  unfold yearText
  by_cases hfour : 0 ≤ year ∧ year ≤ 9999
  · have hlen : (padded 4 year.toNat).length = 4 :=
      length_padded (by decide) (by omega)
    rw [if_pos hfour, takeYear_digits (digits_padded 4 _),
      takeNumber_append (digits_padded 4 _) (by omega) (.inl hlen),
      digitsValue_padded, Option.map_some, Int.toNat_of_nonneg hfour.1]
  rw [if_neg hfour]
  by_cases hneg : year < 0
  · rw [if_pos hneg, List.cons_append, takeYear_minus, hsigned,
      Option.map_some, Int.ofNat_natAbs_of_nonpos (by omega), Int.neg_neg]
  · rw [if_neg hneg, List.cons_append, takeYear_plus, hsigned,
      Option.map_some, Int.natAbs_of_nonneg (by omega)]

/-- Behind a point stand digits, of which nine count. -/
theorem takeFraction_point {shown : List Char} (h : Digits shown)
    (hnine : shown.length ≤ 9) :
    takeFraction ('.' :: (shown ++ ['Z']))
      = some (Binary64.digitsValue shown * 10 ^ (9 - shown.length),
          ['Z']) := by
  have htake : (shown ++ ['Z']).takeWhile Char.isDigit = shown := by
    rw [List.takeWhile_append_of_pos h.2]
    exact List.append_nil _
  simp only [takeFraction]
  rw [htake, if_neg (by simpa using h.1), List.take_of_length_le hnine,
    List.drop_left]
  rfl

/-- A point and digits for the nanoseconds of so many places are
read. -/
theorem takeFraction_padded {width n : Nat} (hw : 0 < width)
    (hnine : width ≤ 9) (h : n < 10 ^ width) :
    takeFraction ('.' :: padded width n ++ ['Z'])
      = some (n * 10 ^ (9 - width), ['Z']) := by
  have hlen := length_padded hw h
  rw [List.cons_append,
    takeFraction_point (digits_padded width n) (by omega), hlen,
    digitsValue_padded]

/-- A written fraction of a second is read. -/
theorem takeFraction_fractionText {nanos : Nat} (h : nanos < 1000000000) :
    takeFraction (fractionText nanos ++ ['Z']) = some (nanos, ['Z']) := by
  unfold fractionText
  split
  · next hzero =>
    rw [hzero]
    rfl
  split
  · rw [takeFraction_padded (by decide) (by decide) (by omega)]
    congr 2
    omega
  split
  · rw [takeFraction_padded (by decide) (by decide) (by omega)]
    congr 2
    omega
  · rw [takeFraction_padded (by decide) (by decide) (by omega)]
    congr 2
    omega

-- ============================================================ the text

/-- A written date and time of day are read in Coordinated Universal
Time. -/
theorem parse?_written {d : Date} {hour minute second nanos : Nat}
    (hmonth : d.month < 100) (hday : d.day < 100) (hhour : hour < 100)
    (hminute : minute < 100) (hsecond : second < 100)
    (hnanos : nanos < 1000000000) :
    parse? (String.ofList (dateText d ++ 'T' :: clockText hour minute second
        ++ fractionText nanos ++ ['Z']))
      = ofLocal? d hour minute second nanos 0 := by
  have hdash : Text.isBlank '-' = false := by decide
  have hcolon : Text.isBlank ':' = false := by decide
  have htext : dateText d ++ 'T' :: clockText hour minute second
        ++ fractionText nanos ++ ['Z']
      = yearText d.year ++ '-' :: (padded 2 d.month ++ '-' :: (padded 2 d.day
        ++ 'T' :: (padded 2 hour ++ ':' :: (padded 2 minute ++ ':'
          :: (padded 2 second ++ (fractionText nanos ++ ['Z'])))))) := by
    simp [dateText, clockText]
  unfold parse?
  dsimp only [Option.bind_eq_bind]
  rw [String.toList_ofList, htext, takeYear_yearText, Option.bind_some,
    takeMark_cons hdash, Option.bind_some, takeField_padded hmonth,
    Option.bind_some, takeMark_cons hdash, Option.bind_some,
    takeField_padded hday, Option.bind_some]
  dsimp only
  rw [if_pos (.inl rfl), Option.bind_some, takeField_padded hhour,
    Option.bind_some, takeMark_cons hcolon, Option.bind_some,
    takeField_padded hminute, Option.bind_some, takeMark_cons hcolon,
    Option.bind_some, takeField_padded hsecond, Option.bind_some,
    takeFraction_fractionText hnanos]
  rfl

/-- The instants that a millisecond can name and those between them,
leap seconds apart. -/
structure Regular (t : Instant) : Prop where
  low : minMillis ≤ t.seconds * 1000
  high : t.seconds * 1000 ≤ maxMillis
  nanos : t.nanos < 1000000000

/-- An instant is read back from the text it is written as. -/
theorem Regular.parse?_rfc3339 {t : Instant} (h : t.Regular) :
    parse? t.rfc3339 = some t := by
  obtain ⟨hlow, hhigh, hnanos⟩ := h
  unfold minMillis at hlow
  unfold maxMillis at hhigh
  have hvalid := Date.valid_ofDayNumber (t.seconds / 86400)
  have hyear := Date.year_ofDayNumber (n := t.seconds / 86400) (by omega)
  have hnumber := Date.dayNumber_ofDayNumber (t.seconds / 86400)
  have hsecond : t.secondOfDay < 86400 := by
    unfold secondOfDay
    omega
  have hleap : t.nanos / 1000000000 = 0 := by omega
  have hfraction : t.nanos % 1000000000 = t.nanos := by omega
  unfold rfc3339
  dsimp only
  rw [hleap, hfraction, Nat.add_zero]
  unfold date
  generalize Date.ofDayNumber (t.seconds / 86400) = d at hvalid hyear hnumber ⊢
  have hclock : t.secondOfDay = (t.seconds % 86400).toNat := rfl
  obtain ⟨hmonth, hday⟩ : d.month < 100 ∧ d.day < 100 := by
    have hmax : daysInMonth d.year d.month ≤ 31 := by
      unfold daysInMonth
      split <;> split <;> decide
    simp only [Date.valid, Bool.and_eq_true, decide_eq_true_eq] at hvalid
    omega
  rw [parse?_written hmonth hday (by omega) (by omega) (by omega) hnanos]
  have hsixty : ¬t.secondOfDay % 60 = 60 := by omega
  unfold ofLocal? minMillis maxMillis
  rw [if_pos (by simp [hvalid, hyear]; omega)]
  dsimp only
  rw [if_neg hsixty, if_neg hsixty, hnumber]
  have hseconds : t.seconds / 86400 * 86400
      + ((t.secondOfDay / 3600 : Nat) * 3600
        + (t.secondOfDay / 60 % 60 : Nat) * 60
        + (t.secondOfDay % 60 : Nat)) - 0 = t.seconds := by omega
  rw [hseconds, if_pos ⟨hlow, hhigh⟩]

end FileDepot.Calendar.Instant
