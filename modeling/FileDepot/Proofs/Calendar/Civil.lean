/-
Day numbers and dates: every day number has a date that exists, and the
date has that day number.

An era of 400 years is four centuries, a century 25 spans of four years,
a span four years of 365 days, and the only days left over are a leap
day at the end of a span and one more at the end of the era
(`Era.split`). In these coordinates the year of a day is read off at
once, and so it can be seen that the quotient by which it is computed is
that year (`Era.Split.yearOfDay_eq`); floor divisions by 1460, 36524 and
146096 do not meet anywhere else.
-/
import FileDepot.Calendar.Instant

namespace FileDepot.Calendar

-- ============================================================== an era

namespace Era

/-- The year of a day of an era, counted from March, as it is
computed. -/
def yearOfDay (day : Int) : Int :=
  (day - day / 1460 + day / 36524 - day / 146096) / 365

/-- The day of an era on which a year starts. -/
def firstDay (year : Int) : Int := 365 * year + year / 4 - year / 100

/-- A day of an era as its century, the span of four years in the
century, the year in the span and the day of that year. Only the last
year of a span has a leap day, and the last span of a century has none
but at the end of the era. -/
structure Split (day century span year rest : Int) : Prop where
  ofEra : 0 ≤ century ∧ century ≤ 3
  ofCentury : 0 ≤ span ∧ span ≤ 24
  ofSpan : 0 ≤ year ∧ year ≤ 3
  ofYear : 0 ≤ rest ∧ rest ≤ 365
  leap : rest = 365 → year = 3 ∧ (span = 24 → century = 3)
  day_eq : day = 36524 * century + 1461 * span + 365 * year + rest

/-- Every day of an era can be split. -/
theorem split {day : Int} (h : 0 ≤ day ∧ day ≤ 146096) :
    ∃ century span year rest, Split day century span year rest := by
  -- the last day of the era does not open a fifth century, and a leap
  -- day does not open a fifth year
  obtain ⟨century, hc⟩ : ∃ c, c = min 3 (day / 36524) := ⟨_, rfl⟩
  obtain ⟨inCentury, hi⟩ : ∃ i, i = day - 36524 * century := ⟨_, rfl⟩
  obtain ⟨span, hs⟩ : ∃ s, s = inCentury / 1461 := ⟨_, rfl⟩
  obtain ⟨inSpan, hj⟩ : ∃ j, j = inCentury - 1461 * span := ⟨_, rfl⟩
  obtain ⟨year, hy⟩ : ∃ y, y = min 3 (inSpan / 365) := ⟨_, rfl⟩
  have hcentury : 0 ≤ century ∧ century ≤ 3 := by omega
  have hinCentury : 0 ≤ inCentury
      ∧ (inCentury ≤ 36523 ∨ inCentury = 36524 ∧ century = 3) := by omega
  have hspan : 0 ≤ span ∧ span ≤ 24 := by omega
  have hinSpan : 0 ≤ inSpan ∧ inSpan ≤ 1460
      ∧ (inSpan = 1460 → span = 24 → century = 3) := by omega
  refine ⟨century, span, year, inSpan - 365 * year,
    hcentury, hspan, ?_, ?_, ?_, ?_⟩ <;> omega

variable {day century span year rest : Int}

/-- The year that is computed is that of the split. -/
theorem Split.yearOfDay_eq (h : Split day century span year rest) :
    yearOfDay day = 100 * century + 4 * span + year := by
  obtain ⟨hc, hs, hy, hr, hleap, hday⟩ := h
  -- only the last day of the era is counted one century too far, and it
  -- is counted back again
  have hcentury : day / 36524 - day / 146096 = century := by
    by_cases hlast : span = 24 ∧ rest = 365
    · have hend : day = 146096 := by omega
      rw [hend]
      omega
    · have hlow : day / 146096 = 0 := by omega
      have hhigh : day / 36524 = century := by omega
      rw [hlow, hhigh]
      omega
  -- four years have a day more than 1460, which shows at their end only
  obtain ⟨excess, hexcess⟩ : ∃ e, e = 24 * century + span + 365 * year + rest :=
    ⟨_, rfl⟩
  have hspan : day / 1460 = 25 * century + span + excess / 1460 := by omega
  have hrest : 0 ≤ rest - excess / 1460 ∧ rest - excess / 1460 ≤ 364 := by omega
  have hsum : day - day / 1460 + day / 36524 - day / 146096
      = 365 * (100 * century + 4 * span + year) + (rest - excess / 1460) := by
    omega
  unfold yearOfDay
  rw [hsum]
  omega

/-- The year of a day is one of the era, the day lies in it, and it is
the last of 366 only before the end of a leap year. -/
theorem dayOfYear (day : Int) (h : 0 ≤ day ∧ day ≤ 146096) :
    0 ≤ yearOfDay day ∧ yearOfDay day ≤ 399
      ∧ 0 ≤ day - firstDay (yearOfDay day)
      ∧ day - firstDay (yearOfDay day) ≤ 365
      ∧ (day - firstDay (yearOfDay day) = 365 →
        ∀ era : Int, isLeap (yearOfDay day + era * 400 + 1) = true) := by
  obtain ⟨century, span, year, rest, hsplit⟩ := split h
  rw [hsplit.yearOfDay_eq]
  obtain ⟨hc, hs, hy, hr, hleap, hday⟩ := hsplit
  have hspans : (100 * century + 4 * span + year) / 4
      = 25 * century + span := by omega
  have hcenturies : (100 * century + 4 * span + year) / 100 = century := by
    omega
  have hfirst : firstDay (100 * century + 4 * span + year)
      = 36524 * century + 1461 * span + 365 * year := by
    unfold firstDay
    omega
  rw [hfirst]
  refine ⟨by omega, by omega, by omega, by omega, fun hlast era => ?_⟩
  unfold isLeap
  simp only [Bool.and_eq_true, Bool.or_eq_true, beq_iff_eq, bne_iff_ne]
  omega

end Era

-- ============================================================== dates

/-- The date of a day of a year that starts in March. -/
def Date.ofMarch (year : Int) (dayOfYear : Nat) : Date :=
  let fromMarch := (5 * dayOfYear + 2) / 153
  let month := if fromMarch < 10 then fromMarch + 3 else fromMarch - 9
  { year := if month ≤ 2 then year + 1 else year
    month
    day := dayOfYear + 1 - (153 * fromMarch + 2) / 5 }

/-- The date of a day number is found through its era, its year and the
day of that year. -/
theorem Date.ofDayNumber_eq (n : Int) :
    ∃ (era year : Int) (dayOfYear : Nat),
      0 ≤ year ∧ year ≤ 399 ∧ dayOfYear ≤ 365
        ∧ (dayOfYear = 365 → isLeap (year + era * 400 + 1) = true)
        ∧ n + 719468 = era * 146097 + Era.firstDay year + dayOfYear
        ∧ ofDayNumber n = ofMarch (year + era * 400) dayOfYear := by
  obtain ⟨era, hera⟩ : ∃ e, e = (n + 719468) / 146097 := ⟨_, rfl⟩
  obtain ⟨day, hday⟩ : ∃ d, d = n + 719468 - era * 146097 := ⟨_, rfl⟩
  obtain ⟨hlow, hhigh, hfirst, hlast, hleap⟩ :=
    Era.dayOfYear day (by omega)
  obtain ⟨rest, hrest⟩ := Int.eq_ofNat_of_zero_le hfirst
  refine ⟨era, Era.yearOfDay day, rest, hlow, hhigh, by omega,
    fun h => hleap (by omega) era, by omega, ?_⟩
  have hmonth : ((5 * (rest : Int) + 2) / 153).toNat
      = (5 * rest + 2) / 153 := by omega
  unfold ofDayNumber ofMarch
  dsimp only
  rw [← hera, ← hday]
  have hrest' : day - (365 * Era.yearOfDay day + Era.yearOfDay day / 4
      - Era.yearOfDay day / 100) = rest := hrest
  unfold Era.yearOfDay at hrest' ⊢
  rw [hrest', hmonth]
  rfl

variable {year : Int} {dayOfYear : Nat}

/-- The month of a day of a year that starts in March, counted from
March, and the day on which it starts. -/
theorem fromMarch_cases (h : dayOfYear ≤ 365) :
    ∃ m, (5 * dayOfYear + 2) / 153 = m ∧ m ≤ 11
      ∧ (153 * m + 2) / 5 ≤ dayOfYear
      ∧ dayOfYear < (153 * (m + 1) + 2) / 5 :=
  ⟨_, rfl, by omega, by omega, by omega⟩

/-- The date of a day from March to December. -/
theorem Date.ofMarch_of_lt {m : Nat} (hm : (5 * dayOfYear + 2) / 153 = m)
    (h : m < 10) :
    ofMarch year dayOfYear
      = ⟨year, m + 3, dayOfYear + 1 - (153 * m + 2) / 5⟩ := by
  unfold ofMarch
  rw [hm]
  dsimp only
  rw [if_pos h, if_neg (by omega)]

/-- The date of a day of January or February. -/
theorem Date.ofMarch_of_le {m : Nat} (hm : (5 * dayOfYear + 2) / 153 = m)
    (h : 10 ≤ m) (h' : m ≤ 11) :
    ofMarch year dayOfYear
      = ⟨year + 1, m - 9, dayOfYear + 1 - (153 * m + 2) / 5⟩ := by
  unfold ofMarch
  rw [hm]
  dsimp only
  rw [if_neg (by omega : ¬m < 10), if_pos (by omega)]

/-- A day of a year that starts in March has a date that exists. -/
theorem Date.valid_ofMarch (h : dayOfYear ≤ 365)
    (hleap : dayOfYear = 365 → isLeap (year + 1) = true) :
    (ofMarch year dayOfYear).valid = true := by
  obtain ⟨m, hm, hm', hstart, hend⟩ := fromMarch_cases h
  by_cases hmarch : m < 10
  · rw [ofMarch_of_lt hm hmarch]
    unfold valid daysInMonth
    simp only [Bool.and_eq_true, decide_eq_true_eq]
    rw [if_neg (by omega : ¬m + 3 = 2)]
    split <;> omega
  · rw [ofMarch_of_le hm (by omega) hm']
    unfold valid daysInMonth
    simp only [Bool.and_eq_true, decide_eq_true_eq]
    by_cases hjanuary : m = 10
    · subst hjanuary
      simp
      omega
    · -- February ends with a leap day or a day before
      rw [if_pos (by omega : m - 9 = 2)]
      by_cases hlast : dayOfYear = 365
      · rw [if_pos (hleap hlast)]
        omega
      · split <;> omega

/-- The day number of a day of a year of an era. -/
theorem Date.dayNumber_ofMarch {era : Int} (hyear : 0 ≤ year ∧ year ≤ 399)
    (h : dayOfYear ≤ 365) :
    (ofMarch (year + era * 400) dayOfYear).dayNumber
      = era * 146097 + Era.firstDay year + dayOfYear - 719468 := by
  obtain ⟨m, hm, hm', hstart, hend⟩ := fromMarch_cases h
  have hera : (year + era * 400) / 400 = era := by omega
  unfold Era.firstDay
  by_cases hmarch : m < 10
  · rw [ofMarch_of_lt hm hmarch]
    unfold dayNumber
    dsimp only
    rw [if_neg (by omega : ¬m + 3 ≤ 2), hera,
      show (m + 3 + 9) % 12 = m by omega]
    have hyears : year + era * 400 - era * 400 = year := by omega
    rw [hyears]
    omega
  · rw [ofMarch_of_le hm (by omega) hm']
    unfold dayNumber
    dsimp only
    rw [if_pos (by omega : m - 9 ≤ 2),
      show year + era * 400 + 1 - 1 = year + era * 400 by omega, hera,
      show (m - 9 + 9) % 12 = m by omega]
    have hyears : year + era * 400 - era * 400 = year := by omega
    rw [hyears]
    omega

/-- Every day number is that of its date. -/
theorem Date.dayNumber_ofDayNumber (n : Int) :
    (ofDayNumber n).dayNumber = n := by
  obtain ⟨era, year, day, hlow, hhigh, hday, -, hn, hdate⟩ := ofDayNumber_eq n
  rw [hdate, dayNumber_ofMarch ⟨hlow, hhigh⟩ hday]
  omega

/-- Every day number has a date that exists. -/
theorem Date.valid_ofDayNumber (n : Int) :
    (ofDayNumber n).valid = true := by
  obtain ⟨era, year, day, -, -, hday, hleap, -, hdate⟩ := ofDayNumber_eq n
  rw [hdate]
  exact valid_ofMarch hday hleap

/-- The days between the first and the last instant are those of the
years from -262143 to 262142. -/
theorem Date.year_ofDayNumber {n : Int}
    (h : -96465292 ≤ n ∧ n ≤ 95026236) :
    -262143 ≤ (ofDayNumber n).year ∧ (ofDayNumber n).year ≤ 262142 := by
  obtain ⟨era, year, day, hlow, hhigh, hday, -, hn, hdate⟩ := ofDayNumber_eq n
  obtain ⟨m, hm, hm', hstart, hend⟩ := fromMarch_cases hday
  rw [hdate]
  unfold Era.firstDay at hn
  have hera : -656 ≤ era ∧ era ≤ 655 := by omega
  -- the first day is one of January, the last one of December
  have hfirst : era = -656 → 257 ≤ year ∨ year = 256 ∧ 306 ≤ day := by
    intro he
    by_cases hyear : year = 256
    · subst hyear
      omega
    · omega
  have hlast : era = 655 → year ≤ 141 ∨ year = 142 ∧ day ≤ 305 := by
    intro he
    by_cases hyear : year = 142
    · subst hyear
      omega
    · omega
  clear hn hdate
  by_cases hmarch : m < 10
  · rw [ofMarch_of_lt hm hmarch]
    dsimp only
    omega
  · rw [ofMarch_of_le hm (by omega) hm']
    dsimp only
    omega

end FileDepot.Calendar
