/-
Lower case, character by character with two exceptions of the Unicode
Standard: a capital I with a dot becomes two characters, and a capital
sigma at the end of a word becomes the final sigma.

The ASCII lowering beside it touches the letters A to Z only; table
names and drivers go by that one.
-/
import FileDepot.Text.Casing

namespace FileDepot.Text

/-- The letters A to Z lowered, all else kept. -/
def asciiLower (c : Char) : Char :=
  if 'A' ≤ c ∧ c ≤ 'Z' then Char.ofNat (c.toNat + 32) else c

/-- A text with its letters A to Z lowered. -/
def lowerAscii (text : String) : String :=
  String.ofList (text.toList.map asciiLower)

/-- The shift of the first run that holds the code point. -/
def lowerShift (n : Nat) : List (Nat × Nat × Nat × Int) → Int
  | [] => 0
  | (first, last, step, shift) :: rest =>
    if first ≤ n ∧ n ≤ last ∧ (n - first) % step = 0 then shift
    else lowerShift n rest

/-- The lower-case form of one character, outside any word. -/
def lowerChar (c : Char) : List Char :=
  if c.toNat < 0x80 then [asciiLower c]
  else if c.toNat = 0x130 then ['i', Char.ofNat 0x307]
  else [Char.ofNat (Int.toNat (c.toNat + lowerShift c.toNat lowerRuns))]

/-- The first character that is not case-ignorable is cased. -/
def startsCased (cs : List Char) : Bool :=
  match cs.dropWhile (inRanges caseIgnorableRanges) with
  | [] => false
  | c :: _ => inRanges casedRanges c

/-- Lowers a text whose characters before it, last first, are `seen`:
a capital sigma is final when a cased letter stands before it and none
after it. -/
def lowerFrom (seen : List Char) : List Char → List Char
  | [] => []
  | c :: rest =>
    let low :=
      if c.toNat = 0x3A3 then
        if startsCased seen && !startsCased rest then [Char.ofNat 0x3C2]
        else [Char.ofNat 0x3C3]
      else lowerChar c
    low ++ lowerFrom (c :: seen) rest

/-- A text in lower case. -/
def lower (text : String) : String :=
  String.ofList (lowerFrom [] text.toList)

end FileDepot.Text
