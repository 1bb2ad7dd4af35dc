/-
Blank texts: how they are trimmed, and which values are never one.

A text that is not blank is trimmed to one between two characters that
are not, so that trimming it again takes nothing away (`trim_trim`). A
value that is not a text is never blank when it is read as one, since
flags are words and numbers have digits (`allBlank_text`).
-/
import FileDepot.Config.Setting
import FileDepot.Text.Blank
import Mathlib.Data.List.DropRight

namespace FileDepot

-- ========================================================== trimming

namespace Text

/-- Nothing is taken from the front of a text that starts with something
else than a blank. -/
theorem trimStart_cons {c : Char} (h : isBlank c = false)
    (rest : List Char) : trimStart (c :: rest) = c :: rest := by
  unfold trimStart
  rw [List.dropWhile_cons, h, if_neg Bool.false_ne_true]

/-- Taking blanks from the end stops at what is no blank. -/
theorem trimEnd_cons {c : Char} (h : isBlank c = false)
    (rest : List Char) : trimEnd (c :: rest) = c :: trimEnd rest := by
  unfold trimEnd
  rw [List.reverse_cons, List.dropWhile_append]
  split
  · next hempty =>
    rw [List.isEmpty_iff.mp hempty, List.dropWhile_cons, h,
      if_neg Bool.false_ne_true]
    rfl
  · rw [List.reverse_append]
    rfl

/-- A text that is not blank is trimmed to one that starts with its
first character that is not. -/
theorem trim_of_not_allBlank {text : String} (h : allBlank text = false) :
    ∃ c rest, isBlank c = false
      ∧ trim text = String.ofList (c :: trimEnd rest) := by
  unfold trim
  cases hstart : trimStart text.toList with
  | nil =>
    have hall := List.all_eq_true.mpr (List.dropWhile_eq_nil_iff.mp hstart)
    rw [show text.toList.all isBlank = false from h] at hall
    exact absurd hall Bool.false_ne_true
  | cons c rest =>
    have hc := List.head?_dropWhile_not isBlank text.toList
    rw [show text.toList.dropWhile isBlank = c :: rest from hstart] at hc
    exact ⟨c, rest, hc, by rw [trimEnd_cons hc]⟩

/-- A text of blanks is trimmed to nothing. -/
theorem trim_of_allBlank {text : String} (h : allBlank text = true) :
    trim text = "" := by
  unfold trim
  rw [trimStart_eq_nil_of_all h]
  rfl

/-- Trimming once is enough. -/
theorem trim_trim (text : String) : trim (trim text) = trim text := by
  cases h : allBlank text with
  | true => rw [trim_of_allBlank h]; rfl
  | false =>
    obtain ⟨c, rest, hc, htrim⟩ := trim_of_not_allBlank h
    have hend : trimEnd (trimEnd rest) = trimEnd rest :=
      List.rdropWhile_idempotent isBlank rest
    rw [htrim]
    unfold trim
    rw [String.toList_ofList, trimStart_cons hc, trimEnd_cons hc, hend]

/-- What a text that is not blank is trimmed to is not blank. -/
theorem allBlank_trim {text : String} (h : allBlank text = false) :
    allBlank (trim text) = false := by
  obtain ⟨c, rest, hc, htrim⟩ := trim_of_not_allBlank h
  unfold allBlank
  rw [htrim, String.toList_ofList, List.all_cons, hc, Bool.false_and]

end Text

-- ================================================== values as texts

/-- A text in which something is not blank. -/
theorem Text.allBlank_of_mem {text : String} {c : Char}
    (hc : c ∈ text.toList) (h : isBlank c = false) :
    allBlank text = false := by
  unfold allBlank
  rw [Bool.eq_false_iff, Ne, List.all_eq_true]
  intro hall
  rw [hall c hc] at h
  cases h

/-- A digit is no blank. -/
theorem Text.isBlank_of_isDigit {c : Char} (h : c.isDigit = true) :
    isBlank c = false := by
  simp only [Char.isDigit, Bool.and_eq_true, decide_eq_true_eq] at h
  obtain ⟨hlow, hhigh⟩ : 48 ≤ c.toNat ∧ c.toNat ≤ 57 := h
  unfold isBlank
  simp only [Bool.or_eq_false_iff, Bool.and_eq_false_iff,
    decide_eq_false_iff_not, beq_eq_false_iff_ne]
  omega

/-- A digit is among the digits of a number. -/
theorem exists_mem_toDigits (n : Nat) :
    ∃ c ∈ Nat.toDigits 10 n, Text.isBlank c = false := by
  obtain ⟨c, hc⟩ := List.exists_mem_of_ne_nil _
    (Nat.toDigits_ne_nil (b := 10) (n := n))
  have hdigit := Nat.isDigit_of_mem_toDigits (by decide) (by decide) hc
  exact ⟨c, hc, Text.isBlank_of_isDigit hdigit⟩

/-- Wherever the point stands, digits or the point are written. -/
theorem Binary64.exists_mem_positional {digits : List Char}
    (h : ∃ c ∈ digits, Text.isBlank c = false) (point : Int) :
    ∃ c ∈ positional digits point [], Text.isBlank c = false := by
  unfold positional
  split
  · exact ⟨'0', .head _, by decide⟩
  · split
    · obtain ⟨c, hc, hblank⟩ := h
      rw [List.append_nil]
      exact ⟨c, List.mem_append_left _ hc, hblank⟩
    · exact ⟨'.', List.mem_append_right _ (.head _), by decide⟩

/-- A float is not written as blanks. -/
theorem Binary64.allBlank_plainText (x : Binary64) :
    Text.allBlank x.plainText = false := by
  have hsigned : ∀ (negative : Bool) {cs : List Char},
      (∃ c ∈ cs, Text.isBlank c = false) →
        Text.allBlank (String.ofList (signText negative ++ cs)) = false := by
    intro negative cs ⟨c, hc, hblank⟩
    refine Text.allBlank_of_mem ?_ hblank
    rw [String.toList_ofList]
    exact List.mem_append_right _ hc
  unfold plainText
  split
  · decide
  · exact hsigned _ ⟨'i', by decide, by decide⟩
  · exact hsigned _ ⟨'0', .head _, by decide⟩
  · exact hsigned _ (exists_mem_positional (exists_mem_toDigits _) _)

/-- Nor is a whole number. -/
theorem allBlank_toString (n : Int) :
    Text.allBlank (toString n) = false := by
  cases n with
  | ofNat n =>
    obtain ⟨c, hc, hblank⟩ := exists_mem_toDigits n
    refine Text.allBlank_of_mem ?_ hblank
    rw [show toString (Int.ofNat n) = n.repr from rfl, Nat.toList_repr]
    exact hc
  | negSucc n =>
    refine Text.allBlank_of_mem (c := '-') ?_ (by decide)
    rw [show toString (Int.negSucc n) = "-" ++ (n + 1).repr from rfl,
      String.toList_append]
    exact .head _

/-- Only a text is read as a text of blanks. -/
theorem Config.Scalar.allBlank_text {value : Scalar} {t : String}
    (hread : value.text? = .ok t)
    (htext : ∀ s, value = .text s → Text.allBlank s = false) :
    Text.allBlank t = false := by
  cases value with
  | unit => cases hread
  | flag b =>
    cases hread
    cases b <;> decide
  | number n =>
    cases hread
    exact allBlank_toString n
  | float x =>
    cases hread
    exact x.allBlank_plainText
  | text s =>
    cases hread
    exact htext _ rfl

end FileDepot
