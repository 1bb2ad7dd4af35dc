/-
Numbers: whatever the reader takes for a number is one of the grammar,
and a whole number that fits a 64-bit word is read as itself from the
text it is written as.

Reading splits a number at the first character that cannot go on with
it. So a number is read as a whole only in front of a character that no
number is spelt with (`Delimited`); in a JSON text nothing else ever
follows a value. It also makes the spelling unique: what is spelt is all
such characters at the front (`Numeral.append_inj`).
-/
import FileDepot.Proofs.Json.Tokens

namespace FileDepot.Json

-- ================================================ reading is sound

/-- What is read as digits is digits. -/
theorem digits_ok {cs ds rest : List Char}
    (h : digits cs = .ok (ds, rest)) : Digits ds ∧ cs = ds ++ rest := by
  unfold digits at h
  split at h
  · split at h <;> cases h
  · next hne =>
    cases h
    refine ⟨⟨hne, fun c hc => ?_⟩, (List.takeWhile_append_dropWhile).symm⟩
    exact List.all_eq_true.mp List.all_takeWhile c hc

/-- What is read behind the sign of an exponent is digits, whichever
value comes out. -/
theorem digits_of_exponent {neg down : Bool} {n : Nat} {start : Int}
    {cs rest : List Char} {v : Json}
    (h : (do
      let (ds, rest) ← digits cs
      let n' := Binary64.digitsValue ds
      if n' ≤ maxExponent then
        let v ← floatOf neg n
          (if down then start - (n' : Int) else start + (n' : Int))
        .ok (v, rest)
      else if n ≠ 0 ∧ !down then .error .malformed
      else
        let zero := Binary64.finite neg 0 Binary64.minExponent
        .ok (.float zero, rest) : Except Fault (Json × List Char))
      = .ok (v, rest)) :
    ∃ ds, Digits ds ∧ cs = ds ++ rest := by
  obtain ⟨⟨ds, rest'⟩, hds, hvalue⟩ := bind_ok h
  obtain ⟨hd, hcs⟩ := digits_ok hds
  dsimp only at hvalue
  split at hvalue
  · obtain ⟨w, -, hrest⟩ := bind_ok hvalue
    cases hrest
    exact ⟨ds, hd, hcs⟩
  · split at hvalue
    · cases hvalue
    · cases hvalue
      exact ⟨ds, hd, hcs⟩

/-- What is read as an exponent is one, behind its letter. -/
theorem exponent_ok {neg : Bool} {n : Nat} {start : Int}
    {e : Char} {cs rest : List Char} {v : Json} (he : e = 'e' ∨ e = 'E')
    (h : exponent neg n start cs = .ok (v, rest)) :
    ∃ x, Exponent (e :: x) ∧ cs = x ++ rest := by
  unfold exponent at h
  dsimp only at h
  rcases cs with _ | ⟨c, cs⟩
  · obtain ⟨ds, hd, htail⟩ := digits_of_exponent h
    exact ⟨ds, .plain he hd, htail⟩
  by_cases hminus : c = '-'
  · subst hminus
    obtain ⟨ds, hd, rfl⟩ := digits_of_exponent h
    exact ⟨'-' :: ds, .signed he (.inl rfl) hd, rfl⟩
  by_cases hplus : c = '+'
  · subst hplus
    obtain ⟨ds, hd, rfl⟩ := digits_of_exponent h
    exact ⟨'+' :: ds, .signed he (.inr rfl) hd, rfl⟩
  · split at h
    · next hc => exact absurd (List.cons.inj hc).1 hminus
    · next hc => exact absurd (List.cons.inj hc).1 hplus
    · obtain ⟨ds, hd, htail⟩ := digits_of_exponent h
      exact ⟨ds, .plain he hd, htail⟩

/-- What is read behind a fraction is an exponent or nothing. -/
theorem finish_ok {neg : Bool} {n : Nat} {exp : Int} {cs rest : List Char}
    {v : Json} (h : finish neg n exp cs = .ok (v, rest)) :
    ∃ x, Exponent x ∧ cs = x ++ rest := by
  unfold finish at h
  split at h
  · obtain ⟨x, hx, rfl⟩ := exponent_ok (.inl rfl) h
    exact ⟨'e' :: x, hx, rfl⟩
  · obtain ⟨x, hx, rfl⟩ := exponent_ok (.inr rfl) h
    exact ⟨'E' :: x, hx, rfl⟩
  · obtain ⟨w, -, h⟩ := bind_ok h
    cases h
    exact ⟨[], .none, rfl⟩

/-- What is read as a fraction is one, behind its point, and an
exponent or nothing. -/
theorem fraction_ok {neg : Bool} {n : Nat} {exp : Int}
    {cs rest : List Char} {v : Json}
    (h : fraction neg n exp cs = .ok (v, rest)) :
    ∃ f x, Fraction ('.' :: f) ∧ Exponent x ∧ cs = f ++ x ++ rest := by
  unfold fraction at h
  obtain ⟨⟨ds, tail⟩, hds, hfinish⟩ := bind_ok h
  obtain ⟨hd, rfl⟩ := digits_ok hds
  obtain ⟨x, hx, rfl⟩ := finish_ok hfinish
  exact ⟨ds, x, .some hd, hx, (List.append_assoc ..).symm⟩

/-- What is read as a number is one, behind its sign. -/
theorem number_ok {neg : Bool} {cs rest : List Char} {v : Json}
    (h : number neg cs = .ok (v, rest)) :
    ∃ s, Unsigned s ∧ cs = s ++ rest := by
  unfold number at h
  obtain ⟨⟨ds, tail⟩, hds, hvalue⟩ := bind_ok h
  obtain ⟨hd, rfl⟩ := digits_ok hds
  dsimp only at hvalue
  split at hvalue
  · cases hvalue
  next hzero =>
  have hwhole : WholePart ds := by
    refine ⟨hd, fun h0 => ?_⟩
    have hlen : ¬1 < ds.length := fun hl => hzero ⟨h0, hl⟩
    obtain ⟨d, ds', rfl⟩ := List.exists_cons_of_ne_nil hd.1
    cases h0
    simpa using hlen
  split at hvalue
  · obtain ⟨f, x, hf, hx, rfl⟩ := fraction_ok hvalue
    exact ⟨_, .parts hwhole hf hx, by simp⟩
  · obtain ⟨x, hx, rfl⟩ := exponent_ok (.inl rfl) hvalue
    exact ⟨_, .parts hwhole .none hx, by simp⟩
  · obtain ⟨x, hx, rfl⟩ := exponent_ok (.inr rfl) hvalue
    exact ⟨_, .parts hwhole .none hx, by simp⟩
  · -- no fraction and no exponent: the digits are all there is
    have hrest : tail = rest := by
      split at hvalue
      · cases hvalue
        rfl
      · obtain ⟨w, -, hrest⟩ := bind_ok hvalue
        cases hrest
        rfl
    exact ⟨_, .parts hwhole .none .none, by simp [hrest]⟩

-- ================================================== whole numbers

/-- The characters that numbers are spelt with. -/
def inNumber (c : Char) : Bool :=
  c.isDigit || ['.', 'e', 'E', '+', '-'].contains c

theorem inNumber_of_isDigit {c : Char} (h : c.isDigit = true) :
    inNumber c = true := by
  unfold inNumber
  rw [h, Bool.true_or]

/-- What cannot go on with a number. -/
def Delimited (rest : List Char) : Prop :=
  ∀ c tail, rest = c :: tail → inNumber c = false

theorem Delimited.nil : Delimited [] := nofun

theorem Delimited.cons {c : Char} (h : inNumber c = false)
    (rest : List Char) : Delimited (c :: rest) := by
  intro d tail heq
  cases heq
  exact h

/-- No blank goes on with a number. -/
theorem Delimited.of_isSpace {c : Char} (h : isSpace c = true)
    (rest : List Char) : Delimited (c :: rest) := by
  unfold isSpace at h
  simp only [Bool.or_eq_true, beq_iff_eq] at h
  rcases h with ((rfl | rfl) | rfl) | rfl <;> exact .cons (by decide) rest

/-- No digit stands where a number ends. -/
theorem Delimited.isDigit_eq {c : Char} {rest : List Char}
    (h : Delimited (c :: rest)) : c.isDigit = false := by
  cases hc : c.isDigit with
  | false => rfl
  | true => exact absurd (inNumber_of_isDigit hc) (by simp [h c rest rfl])

/-- Digits are characters of numbers. -/
private theorem Digits.inNumber {ds : List Char} (h : Digits ds) :
    ∀ c ∈ ds, Json.inNumber c = true :=
  fun c hc => inNumber_of_isDigit (h.2 c hc)

/-- A number is spelt with characters of numbers. -/
theorem Numeral.inNumber {s : List Char} (h : Numeral s) :
    ∀ c ∈ s, Json.inNumber c = true := by
  have hletter : ∀ e, e = 'e' ∨ e = 'E' → Json.inNumber e = true := by
    rintro e (rfl | rfl) <;> rfl
  have hsign : ∀ e, e = '-' ∨ e = '+' → Json.inNumber e = true := by
    rintro e (rfl | rfl) <;> rfl
  have hunsigned : ∀ s, Unsigned s → ∀ c ∈ s, Json.inNumber c = true := by
    rintro s ⟨hd, hf, hx⟩
    simp only [List.forall_mem_append]
    refine ⟨⟨hd.1.inNumber, ?_⟩, ?_⟩
    · cases hf with
      | none => exact nofun
      | some hds => exact List.forall_mem_cons.mpr ⟨rfl, hds.inNumber⟩
    · cases hx with
      | none => exact nofun
      | plain he hds =>
          exact List.forall_mem_cons.mpr ⟨hletter _ he, hds.inNumber⟩
      | signed he hs hds =>
          exact List.forall_mem_cons.mpr ⟨hletter _ he,
            List.forall_mem_cons.mpr ⟨hsign _ hs, hds.inNumber⟩⟩
  cases h with
  | plain h => exact hunsigned _ h
  | negative h => exact List.forall_mem_cons.mpr ⟨rfl, hunsigned _ h⟩

/-- What is taken off the front of a text ends where the test first
fails. -/
private theorem takeWhile_append {p : Char → Bool} {s rest : List Char}
    (hs : ∀ c ∈ s, p c = true)
    (hr : ∀ c tail, rest = c :: tail → p c = false) :
    (s ++ rest).takeWhile p = s ∧ (s ++ rest).dropWhile p = rest := by
  rw [List.takeWhile_append_of_pos hs, List.dropWhile_append_of_pos hs]
  cases rest with
  | nil => exact ⟨List.append_nil s, rfl⟩
  | cons c rest =>
      have hc := hr c rest rfl
      rw [List.takeWhile_cons, List.dropWhile_cons, hc, if_neg (by simp),
        if_neg (by simp)]
      exact ⟨List.append_nil s, rfl⟩

/-- A text starts with one number only. -/
theorem Numeral.append_inj {s s' rest rest' : List Char} (h : Numeral s)
    (h' : Numeral s') (hr : Delimited rest) (hr' : Delimited rest')
    (heq : s ++ rest = s' ++ rest') : s = s' ∧ rest = rest' := by
  have hs : s = s' := by
    rw [← (takeWhile_append h.inNumber hr).1, heq,
      (takeWhile_append h'.inNumber hr').1]
  subst hs
  exact ⟨rfl, List.append_cancel_left heq⟩

/-- Digits are read up to where they end. -/
theorem digits_append {ds rest : List Char} (hd : Digits ds)
    (hr : Delimited rest) : digits (ds ++ rest) = .ok (ds, rest) := by
  have hend : ∀ c tail, rest = c :: tail → c.isDigit = false := by
    rintro c tail rfl
    exact hr.isDigit_eq
  obtain ⟨htake, hdrop⟩ := takeWhile_append hd.2 hend
  unfold digits
  rw [htake, hdrop]
  split
  · next h => exact absurd rfl hd.1
  · rfl

/-- Digits of a number are absorbed one by one. -/
private theorem le_digitsFrom (ds : List Char) (n : Nat) :
    n ≤ ds.foldl (fun n c => 10 * n + (c.toNat - 48)) n := by
  induction ds generalizing n with
  | nil => exact Nat.le_refl _
  | cons d ds ih =>
      rw [List.foldl_cons]
      have := ih (10 * n + (d.toNat - 48))
      omega

/-- All digits of a number that fits a 64-bit word are absorbed. -/
theorem absorb_eq {ds : List Char} {n : Nat}
    (h : ds.foldl (fun n c => 10 * n + (c.toNat - 48)) n ≤ maxWord) :
    absorb n ds
      = (ds.foldl (fun n c => 10 * n + (c.toNat - 48)) n, 0) := by
  induction ds generalizing n with
  | nil => rfl
  | cons d ds ih =>
      rw [List.foldl_cons] at h ⊢
      have hle := le_digitsFrom ds (10 * n + (d.toNat - 48))
      rw [absorb, if_pos (Nat.le_trans hle h), ih h]

/-- A whole number is read behind its sign. -/
theorem number_append {neg : Bool} {ds rest : List Char}
    (hd : WholePart ds) (hr : Delimited rest)
    (hmax : Binary64.digitsValue ds ≤ maxWord) :
    number neg (ds ++ rest)
      = .ok (whole neg (Binary64.digitsValue ds), rest) := by
  have hzero : ¬(ds.head? = some '0' ∧ 1 < ds.length) := by
    rintro ⟨h0, hlen⟩
    rw [hd.2 h0] at hlen
    simp at hlen
  have habsorb : absorb 0 ds = (Binary64.digitsValue ds, 0) :=
    absorb_eq hmax
  unfold number
  rw [digits_append hd.1 hr]
  dsimp only [bind, Except.bind]
  rw [if_neg hzero, habsorb]
  split
  · exact absurd (hr _ _ rfl) (by decide)
  · exact absurd (hr _ _ rfl) (by decide)
  · exact absurd (hr _ _ rfl) (by decide)
  · rw [if_pos rfl]

-- ============================================== numbers as written

/-- The digits of a number have its value. -/
theorem digitsValue_toDigits (n : Nat) :
    Binary64.digitsValue (Nat.toDigits 10 n) = n := by
  have h := Nat.ofDigitChars_ten_toDigits (n := n)
  rw [Nat.ofDigitChars_eq_foldl] at h
  exact h

/-- Only zero is written with a zero in front. -/
theorem head?_toDigits {n : Nat} (h : 0 < n) :
    (Nat.toDigits 10 n).head? ≠ some '0' := by
  induction n using Nat.strongRecOn with
  | ind n ih =>
      by_cases hn : n < 10
      · rw [Nat.toDigits_of_lt_base hn]
        have key : ∀ m, m < 10 → 0 < m → [m.digitChar].head? ≠ some '0' := by
          decide
        exact key n hn h
      · rw [Nat.toDigits_of_base_le (by decide) (by omega)]
        obtain ⟨d, ds, hds⟩ := List.exists_cons_of_ne_nil
          (Nat.toDigits_ne_nil (b := 10) (n := n / 10))
        have hhead := ih (n / 10) (by omega) (by omega)
        rw [hds] at hhead ⊢
        exact hhead

/-- A number is written with digits, and a zero stands alone. -/
theorem wholePart_toDigits (n : Nat) : WholePart (Nat.toDigits 10 n) := by
  refine ⟨⟨Nat.toDigits_ne_nil, fun c hc => ?_⟩, fun h0 => ?_⟩
  · exact Nat.isDigit_of_mem_toDigits (by decide) (by decide) hc
  · rcases Nat.eq_zero_or_pos n with rfl | hn
    · rfl
    · exact absurd h0 (head?_toDigits hn)

/-- A number is written with a digit in front. -/
private theorem toDigits_eq_cons (n : Nat) :
    ∃ c cs, Nat.toDigits 10 n = c :: cs ∧ c.isDigit = true := by
  obtain ⟨c, cs, hcs⟩ :=
    List.exists_cons_of_ne_nil (Nat.toDigits_ne_nil (b := 10) (n := n))
  refine ⟨c, cs, hcs, (wholePart_toDigits n).1.2 c ?_⟩
  rw [hcs]
  exact List.mem_cons_self

/-- A number is written as one of the grammar. -/
theorem numeral_renderInt (n : Int) : Numeral (renderInt n) := by
  have h : Unsigned (Nat.toDigits 10 n.natAbs) := by
    have h := Unsigned.parts (wholePart_toDigits n.natAbs) .none .none
    rwa [List.append_nil, List.append_nil] at h
  unfold renderInt
  split
  · exact .negative h
  · exact .plain h

/-- What a number is written as spells that number. -/
theorem wholeValue_renderInt (n : Int) : wholeValue (renderInt n) = n := by
  have hval := digitsValue_toDigits n.natAbs
  unfold renderInt
  split
  · show -(Binary64.digitsValue _ : Int) = _
    omega
  · obtain ⟨d, ds, hds, hdigit⟩ := toDigits_eq_cons n.natAbs
    unfold wholeValue
    split
    · next h =>
      rw [hds] at h
      cases h
      exact absurd hdigit (by decide)
    · omega

/-- A value that starts with a minus is a number. -/
private theorem value_minus (d : Nat) (cs : List Char) :
    value d ('-' :: cs) = number true cs := by
  unfold value
  rfl

/-- A digit is no other character. -/
theorem ne_of_isDigit {c : Char} (h : c.isDigit = true) (e : Char)
    (he : e.isDigit = false) : c ≠ e := by
  rintro rfl
  rw [h] at he
  cases he

/-- A digit is no blank. -/
theorem isSpace_of_isDigit {c : Char} (h : c.isDigit = true) :
    isSpace c = false := by
  have hne := ne_of_isDigit h
  unfold isSpace
  simp only [Bool.or_eq_false_iff, beq_eq_false_iff_ne]
  exact ⟨⟨⟨hne _ rfl, hne _ rfl⟩, hne _ rfl⟩, hne _ rfl⟩

/-- A value that starts with a digit is a number. -/
private theorem value_digit (d : Nat) {c : Char} (h : c.isDigit = true)
    (cs : List Char) : value d (c :: cs) = number false (c :: cs) := by
  have hne := ne_of_isDigit h
  unfold value
  rw [skipSpace_cons (isSpace_of_isDigit h)]
  dsimp only
  rw [if_neg (hne _ rfl), if_neg (hne _ rfl), if_neg (hne _ rfl),
    if_neg (hne _ rfl), if_pos h]

/-- The digits of a number that fits a 64-bit word are read as it. -/
theorem number_toDigits {n : Nat} (h : n ≤ maxWord) {rest : List Char}
    (hr : Delimited rest) :
    number false (Nat.toDigits 10 n ++ rest) = .ok (.int n, rest) := by
  have hval := digitsValue_toDigits n
  rw [number_append (wholePart_toDigits n) hr (by omega), hval]
  rfl

/-- A whole number that fits a 64-bit word is read as itself. -/
theorem value_renderInt {n : Int} (hn : FitsWord n) {rest : List Char}
    (hr : Delimited rest) (d : Nat) :
    value d (renderInt n ++ rest) = .ok (.int n, rest) := by
  unfold FitsWord Binary64.minInt at hn
  unfold renderInt
  split
  · next hneg =>
    have hval := digitsValue_toDigits n.natAbs
    have hmax : Binary64.digitsValue (Nat.toDigits 10 n.natAbs)
        ≤ maxWord := by
      unfold maxWord
      omega
    rw [List.cons_append, value_minus,
      number_append (wholePart_toDigits n.natAbs) hr hmax, hval]
    unfold whole maxWord
    rw [if_neg (by simp), if_neg (by omega)]
    congr 3
    omega
  · next hpos =>
    have hnumber := number_toDigits (n := n.natAbs) (by omega) hr
    rw [Int.natAbs_of_nonneg (by omega)] at hnumber
    obtain ⟨c, cs, hcs, hdigit⟩ := toDigits_eq_cons n.natAbs
    rw [hcs, List.cons_append] at hnumber ⊢
    rw [value_digit d hdigit, hnumber]

/-- A whole number that is not negative and fits a 64-bit word is read
as itself where such a number is wanted. -/
theorem naturalValue_renderInt {n : Nat} (hn : n ≤ maxWord)
    {rest : List Char} (hr : Delimited rest) :
    naturalValue (renderInt n ++ rest) = .ok (n, rest) := by
  have hnumber := number_toDigits hn hr
  obtain ⟨c, cs, hcs, hdigit⟩ := toDigits_eq_cons n
  have htext : renderInt n = c :: cs := by
    unfold renderInt
    rw [if_neg (by omega), Int.natAbs_natCast, hcs]
  rw [hcs, List.cons_append] at hnumber
  rw [htext, List.cons_append]
  unfold naturalValue
  rw [skipSpace_cons (isSpace_of_isDigit hdigit)]
  dsimp only
  rw [if_pos (.inr hdigit), if_neg (ne_of_isDigit hdigit _ rfl), hnumber]
  rfl

end FileDepot.Json
