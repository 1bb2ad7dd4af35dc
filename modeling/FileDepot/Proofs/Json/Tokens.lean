/-
Tokens: what the reader takes for blanks, for a literal name and for a
string is what the grammar takes for one, and the other way round.

The loop over the characters of a string takes one character or one
escape in each step. Its count of steps is the length of the text left,
which is enough because no character is spelt as nothing
(`Chars.length_lt`).
-/
import FileDepot.Proofs.Chain
import FileDepot.Proofs.Json.Grammar

namespace FileDepot.Json

-- =========================================================== blanks

/-- A text that starts with no blank has none to skip. -/
theorem skipSpace_cons {c : Char} (h : isSpace c = false)
    (rest : List Char) : skipSpace (c :: rest) = c :: rest := by
  unfold skipSpace
  rw [List.dropWhile_cons, h, if_neg (by simp)]

/-- Skipping takes off blanks and nothing else. -/
theorem blanks_skipSpace (cs : List Char) : Blanks cs (skipSpace cs) := by
  unfold skipSpace
  induction cs with
  | nil => exact .none
  | cons c cs ih =>
      rw [List.dropWhile_cons]
      split
      · next h => exact .more h ih
      · exact .none

/-- Blanks in front make no difference to what is left. -/
theorem Blanks.skipSpace_eq {cs rest : List Char} (h : Blanks cs rest) :
    skipSpace cs = skipSpace rest := by
  induction h with
  | none => rfl
  | more hc _ ih =>
      rw [← ih]
      unfold skipSpace
      rw [List.dropWhile_cons, if_pos hc]

/-- The first character behind blanks is found. -/
theorem Blanks.skipSpace_cons {cs rest : List Char} {c : Char}
    (h : Blanks cs (c :: rest)) (hc : isSpace c = false) :
    skipSpace cs = c :: rest := by
  rw [h.skipSpace_eq, Json.skipSpace_cons hc]

/-- The first character found stands behind blanks. -/
theorem blanks_of_skipSpace {cs rest : List Char} {c : Char}
    (h : skipSpace cs = c :: rest) : Blanks cs (c :: rest) := by
  rw [← h]
  exact blanks_skipSpace cs

theorem Blanks.length_le {cs rest : List Char} (h : Blanks cs rest) :
    rest.length ≤ cs.length := by
  induction h with
  | none => exact Nat.le_refl _
  | more _ _ ih => exact Nat.le_succ_of_le ih

/-- A blank or a given character comes first where blanks stand in
front of that character. -/
theorem Blanks.head {cs rest : List Char} {c : Char}
    (h : Blanks cs (c :: rest)) :
    ∃ d tail, cs = d :: tail ∧ (isSpace d = true ∨ d = c) := by
  cases h with
  | none => exact ⟨c, rest, rfl, .inr rfl⟩
  | more hd _ => exact ⟨_, _, rfl, .inl hd⟩

/-- Nothing but blanks is the end of a text. -/
theorem finished_iff (cs : List Char) :
    finished cs = .ok () ↔ Blanks cs [] := by
  unfold finished
  constructor
  · intro h
    split at h
    · next he =>
      rw [← List.isEmpty_iff.mp he]
      exact blanks_skipSpace cs
    · cases h
  · intro h
    rw [h.skipSpace_eq]
    rfl

/-- A literal name is read where it stands. -/
theorem expect_iff (ws cs rest : List Char) :
    expect ws cs = .ok ((), rest) ↔ cs = ws ++ rest := by
  induction ws generalizing cs with
  | nil =>
      rw [expect, List.nil_append]
      exact ⟨fun h => by cases h; rfl, fun h => by rw [h]⟩
  | cons w ws ih =>
      cases cs with
      | nil => exact ⟨nofun, nofun⟩
      | cons c cs =>
          rw [expect, List.cons_append]
          by_cases hc : c = w
          · rw [if_pos hc, ih, hc, List.cons_inj_right]
          · rw [if_neg hc]
            exact ⟨nofun, fun h => absurd (List.cons.inj h).1 hc⟩

-- ========================================================== strings

/-- Four digits are read as the number they spell. -/
theorem hexQuad_iff {cs rest : List Char} {n : Nat} :
    hexQuad cs = .ok (n, rest) ↔ Quad n cs rest := by
  constructor
  · intro h
    unfold hexQuad at h
    split at h
    · split at h
      · next ha hb hc hd =>
        cases h
        exact .digits ha hb hc hd
      · cases h
    · split at h <;> cases h
  · rintro ⟨ha, hb, hc, hd⟩
    unfold hexQuad
    simp only [ha, hb, hc, hd]

/-- What is read as an escape is one of the grammar. -/
theorem chars_of_escape {cs a rest s : List Char} {c : Char}
    (h : escape cs = .ok (c, a)) (hs : Chars s a rest) :
    Chars (c :: s) ('\\' :: cs) rest := by
  unfold escape at h
  split at h
  · cases h
  · next cs =>
    obtain ⟨⟨n, b⟩, hn, h⟩ := bind_ok h
    have hquad := hexQuad_iff.mp hn
    dsimp only at h
    split at h
    · cases h
    · next hlow =>
      split at h
      · next hhigh =>
        unfold lowSurrogate at h
        split at h
        · cases h
        · cases h
        · obtain ⟨⟨m, b'⟩, hm, h⟩ := bind_ok h
          dsimp only at h
          split at h
          · next hm' =>
            simp only [Except.ok.injEq, Prod.mk.injEq] at h
            obtain ⟨rfl, rfl⟩ := h
            exact .pair hquad hhigh (hexQuad_iff.mp hm) hm' hs
          · cases h
        · cases h
      · next hhigh =>
        cases h
        exact .code hquad hhigh hlow hs
  · split at h
    · next hplain =>
      cases h
      exact .letter hplain hs
    · cases h

/-- The reader of strings that are kept. -/
abbrev kept (steps : Nat) (acc : List Char) : Reader (List Char) :=
  stringGo escape (fun c => [c]) steps acc

/-- A character that stands for itself is read in one step. -/
theorem kept_plain {c : Char} (hq : c ≠ '"') (hb : c ≠ '\\')
    (hc : ¬c.toNat < 32) (rest : List Char) (steps : Nat)
    (acc : List Char) :
    kept (steps + 1) acc (c :: rest) = kept steps (c :: acc) rest := by
  rw [kept, stringGo, if_neg hq, if_neg hb, if_neg hc]

/-- An escape is read in one step. -/
theorem kept_escape {c : Char} {cs rest : List Char}
    (h : escape cs = .ok (c, rest)) (steps : Nat) (acc : List Char) :
    kept (steps + 1) acc ('\\' :: cs) = kept steps (c :: acc) rest := by
  rw [kept, stringGo, if_neg (by decide), if_pos rfl, h]
  rfl

/-- What is read as the characters of a string is that in the
grammar. -/
theorem chars_of_kept {steps : Nat} {acc cs out rest : List Char}
    (h : kept steps acc cs = .ok (out, rest)) :
    ∃ s, out = acc.reverse ++ s ∧ Chars s cs rest := by
  induction steps generalizing acc cs with
  | zero => cases h
  | succ steps ih =>
      cases cs with
      | nil => cases h
      | cons c cs =>
          rw [kept, stringGo] at h
          by_cases hquote : c = '"'
          · rw [if_pos hquote] at h
            cases h
            rw [hquote]
            exact ⟨[], (List.append_nil _).symm, .close⟩
          rw [if_neg hquote] at h
          by_cases hslash : c = '\\'
          · rw [if_pos hslash] at h
            obtain ⟨⟨e, a⟩, he, h⟩ := bind_ok h
            obtain ⟨s, rfl, hs⟩ := ih h
            refine ⟨e :: s, ?_, ?_⟩
            · simp
            · rw [hslash]
              exact chars_of_escape he hs
          rw [if_neg hslash] at h
          by_cases hcontrol : c.toNat < 32
          · rw [if_pos hcontrol] at h
            cases h
          rw [if_neg hcontrol] at h
          obtain ⟨s, rfl, hs⟩ := ih h
          refine ⟨c :: s, ?_, .plain hquote hslash (by omega) hs⟩
          simp

/-- The letter u escapes no character by itself. -/
private theorem ne_u_of_plainEscape {e c : Char}
    (h : plainEscape? e = some c) : e ≠ 'u' := by
  rintro rfl
  cases h

/-- A letter escape of the grammar is read. -/
private theorem escape_letter {e c : Char} (h : plainEscape? e = some c)
    (cs : List Char) : escape (e :: cs) = .ok (c, cs) := by
  unfold escape
  split
  · next h' => cases h'
  · next h' =>
    cases h'
    exact absurd rfl (ne_u_of_plainEscape h)
  · next h' =>
    cases h'
    rw [h]

/-- The number of a character is read. -/
private theorem escape_code {n : Nat} {a b : List Char} (h : Quad n a b)
    (hh : ¬IsHigh n) (hl : ¬IsLow n) :
    escape ('u' :: a) = .ok (Char.ofNat n, b) := by
  show (hexQuad a >>= _) = _
  rw [hexQuad_iff.mpr h]
  unfold IsHigh at hh
  unfold IsLow at hl
  dsimp only [bind, Except.bind]
  rw [if_neg hl, if_neg hh]

/-- The numbers of a surrogate pair are read. -/
private theorem escape_pair {m n : Nat} {a b c : List Char}
    (hm : Quad m a ('\\' :: 'u' :: b)) (hh : IsHigh m) (hn : Quad n b c)
    (hl : IsLow n) :
    escape ('u' :: a)
      = .ok (Char.ofNat ((m - 0xD800) * 1024 + (n - 0xDC00) + 0x10000), c) := by
  unfold IsHigh at hh
  unfold IsLow at hl
  have hm' : ¬(0xDC00 ≤ m ∧ m ≤ 0xDFFF) := by omega
  show (hexQuad a >>= _) = _
  rw [hexQuad_iff.mpr hm]
  dsimp only [bind, Except.bind]
  rw [if_neg hm', if_pos hh]
  show (hexQuad b >>= _) = _
  rw [hexQuad_iff.mpr hn]
  dsimp only [bind, Except.bind]
  rw [if_pos hl]

theorem Quad.length {n : Nat} {a b : List Char} (h : Quad n a b) :
    a.length = b.length + 4 := by
  cases h
  rfl

/-- The characters of a string take up at least their own count and the
closing quote. -/
theorem Chars.length_lt {s cs rest : List Char} (h : Chars s cs rest) :
    rest.length + s.length < cs.length := by
  induction h with
  | close => simp
  | plain _ _ _ _ ih => simp only [List.length_cons]; omega
  | letter _ _ ih => simp only [List.length_cons]; omega
  | code hq _ _ _ ih =>
      have := hq.length
      simp only [List.length_cons]
      omega
  | pair hm _ hn _ _ ih =>
      have := hm.length
      have := hn.length
      simp only [List.length_cons] at *
      omega

/-- A character that is read in one step stands in front of what is
read behind it. -/
private theorem kept_more {c : Char} {s cs b rest : List Char}
    (hone : ∀ steps acc, kept (steps + 1) acc cs = kept steps (c :: acc) b)
    (hmore : ∀ {steps} acc, s.length < steps →
      kept steps acc b = .ok (acc.reverse ++ s, rest))
    {steps : Nat} (acc : List Char) (hs : (c :: s).length < steps) :
    kept steps acc cs = .ok (acc.reverse ++ c :: s, rest) := by
  rw [List.length_cons] at hs
  obtain ⟨n, rfl⟩ := Nat.exists_eq_add_one.mpr (Nat.zero_lt_of_lt hs)
  rw [hone, hmore _ (Nat.lt_of_succ_lt_succ hs), List.reverse_cons,
    List.append_assoc]
  rfl

/-- The characters of a string of the grammar are read. -/
theorem Chars.kept_eq {s cs rest : List Char} (h : Chars s cs rest)
    {steps : Nat} (acc : List Char) (hs : s.length < steps) :
    kept steps acc cs = .ok (acc.reverse ++ s, rest) := by
  induction h generalizing steps acc with
  | close =>
      obtain ⟨n, rfl⟩ := Nat.exists_eq_add_one.mpr hs
      rw [List.append_nil]
      rfl
  | plain hq hb hc _ ih =>
      exact kept_more (kept_plain hq hb (Nat.not_lt.mpr hc) _) ih acc hs
  | letter he _ ih =>
      exact kept_more (kept_escape (escape_letter he _)) ih acc hs
  | code hq hh hl _ ih =>
      exact kept_more (kept_escape (escape_code hq hh hl)) ih acc hs
  | pair hm hh hn hl _ ih =>
      exact kept_more (kept_escape (escape_pair hm hh hn hl)) ih acc hs

/-- A string is read where the grammar has one. -/
theorem string_iff {s : String} {cs rest : List Char} :
    string cs = .ok (s, rest) ↔ Chars s.toList cs rest := by
  unfold string
  constructor
  · intro h
    obtain ⟨⟨l, a⟩, hl, h⟩ := bind_ok h
    obtain ⟨s', rfl, hs⟩ := chars_of_kept hl
    cases h
    simpa using hs
  · intro h
    have hlen := h.length_lt
    rw [show stringGo escape (fun c => [c]) _ [] cs = _ from
      h.kept_eq [] (by omega)]
    show Except.ok (String.ofList ([].reverse ++ s.toList), rest) = _
    rw [List.reverse_nil, List.nil_append, String.ofList_toList]

end FileDepot.Json
