/-
The grammar of JSON texts, which stands beside the reader and knows
nothing of it.

A `Tree` is what a text says as it is written: the fields of an object
stand in their order and as often as they were written, and a number is
its spelling. `Tree.value` drops what the spelling adds: of several
fields of one key the last one counts.

`Spelt t cs rest` says that `cs` is a text of `t` and then `rest`. A
rule takes off the front what it is about and leaves the remainder to
the next one, so that the rules need no concatenation. Blanks stand in
front of a token and never behind one; only a whole text has them at
its end as well.
-/
import FileDepot.Json.Printer
import FileDepot.Json.Reader

namespace FileDepot.Json

-- ============================================================ trees

/-- What a text says, as it is written. -/
inductive Tree where
  | null
  | bool (b : Bool)
  | number (spelling : List Char)
  | str (s : String)
  | arr (items : List Tree)
  | obj (fields : List (String × Tree))

/-- The number of a spelling without fraction and exponent. -/
def wholeValue : List Char → Int
  | '-' :: ds => -(Binary64.digitsValue ds : Int)
  | ds => Binary64.digitsValue ds

mutual

/-- The value that a tree stands for. -/
def Tree.value : Tree → Json
  | .null => .null
  | .bool b => .bool b
  | .number s => .int (wholeValue s)
  | .str s => .str s
  | .arr ts => .arr (itemValues ts)
  | .obj fs => .obj (ofPairs (fieldValues fs))

/-- The values of the items of an array. -/
def itemValues : List Tree → List Json
  | [] => []
  | t :: ts => t.value :: itemValues ts

/-- The values of the fields of an object, every one of them. -/
def fieldValues : List (String × Tree) → List (String × Json)
  | [] => []
  | (k, t) :: fs => (k, t.value) :: fieldValues fs

end

@[simp] theorem itemValues_eq_map (ts : List Tree) :
    itemValues ts = ts.map Tree.value := by
  induction ts with
  | nil => rfl
  | cons t ts ih => rw [itemValues, ih, List.map_cons]

@[simp] theorem fieldValues_eq_map (fs : List (String × Tree)) :
    fieldValues fs = fs.map fun f => (f.1, f.2.value) := by
  induction fs with
  | nil => rfl
  | cons f fs ih => rw [fieldValues, ih, List.map_cons]

/-- A whole number that a 64-bit word holds, with or without a sign. -/
def FitsWord (n : Int) : Prop := Binary64.minInt ≤ n ∧ n ≤ maxWord

instance (n : Int) : Decidable (FitsWord n) :=
  inferInstanceAs (Decidable (_ ∧ _))

/-- All numbers of a tree are whole and fit a 64-bit word: each is
spelt as such a number is written, with neither fraction nor exponent
and without a sign before zero. -/
inductive Tree.Whole : Tree → Prop
  | null : Whole .null
  | bool {b} : Whole (.bool b)
  | number {n} : FitsWord n → Whole (.number (renderInt n))
  | str {s} : Whole (.str s)
  | arr {ts} : (∀ t ∈ ts, Whole t) → Whole (.arr ts)
  | obj {fs} : (∀ f ∈ fs, Whole f.2) → Whole (.obj fs)

/-- A tree nests at most so many arrays and objects inside one
another. -/
inductive Tree.Within : Nat → Tree → Prop
  | null {d} : Within d .null
  | bool {d b} : Within d (.bool b)
  | number {d s} : Within d (.number s)
  | str {d s} : Within d (.str s)
  | arr {d ts} : (∀ t ∈ ts, Within d t) → Within (d + 1) (.arr ts)
  | obj {d fs} : (∀ f ∈ fs, Within d f.2) → Within (d + 1) (.obj fs)

-- =========================================================== tokens

/-- Blanks, and then the rest. -/
inductive Blanks : List Char → List Char → Prop
  | none {rest} : Blanks rest rest
  | more {c cs rest} : isSpace c = true → Blanks cs rest →
      Blanks (c :: cs) rest

/-- Four hexadecimal digits that spell a number, and then the rest. -/
inductive Quad : Nat → List Char → List Char → Prop
  | digits {a b c d w x y z rest} : hexValue? a = some w →
      hexValue? b = some x → hexValue? c = some y → hexValue? d = some z →
      Quad (w * 4096 + x * 256 + y * 16 + z) (a :: b :: c :: d :: rest) rest

/-- The first halves of surrogate pairs. -/
def IsHigh (n : Nat) : Prop := 0xD800 ≤ n ∧ n ≤ 0xDBFF

/-- The second halves of surrogate pairs. -/
def IsLow (n : Nat) : Prop := 0xDC00 ≤ n ∧ n ≤ 0xDFFF

/-- The characters of a string up to its closing quote, and then the
rest. A character stands for itself or is escaped by a letter, by its
number or, above the first 65536, by the numbers of a surrogate
pair. -/
inductive Chars : List Char → List Char → List Char → Prop
  | close {rest} : Chars [] ('"' :: rest) rest
  | plain {c s cs rest} : c ≠ '"' → c ≠ '\\' → 32 ≤ c.toNat →
      Chars s cs rest → Chars (c :: s) (c :: cs) rest
  | letter {e c s cs rest} : plainEscape? e = some c → Chars s cs rest →
      Chars (c :: s) ('\\' :: e :: cs) rest
  | code {n s a b rest} : Quad n a b → ¬IsHigh n → ¬IsLow n →
      Chars s b rest → Chars (Char.ofNat n :: s) ('\\' :: 'u' :: a) rest
  | pair {m n s a b c rest} : Quad m a ('\\' :: 'u' :: b) → IsHigh m →
      Quad n b c → IsLow n → Chars s c rest →
      Chars
        (Char.ofNat ((m - 0xD800) * 1024 + (n - 0xDC00) + 0x10000) :: s)
        ('\\' :: 'u' :: a) rest

/-- Decimal digits, at least one. -/
def Digits (ds : List Char) : Prop := ds ≠ [] ∧ ∀ c ∈ ds, c.isDigit = true

/-- The digits before a point; a zero stands alone. -/
def WholePart (ds : List Char) : Prop :=
  Digits ds ∧ (ds.head? = some '0' → ds = ['0'])

/-- What may follow the whole part of a number. -/
inductive Fraction : List Char → Prop
  | none : Fraction []
  | some {ds} : Digits ds → Fraction ('.' :: ds)

/-- What may follow the fraction of a number. -/
inductive Exponent : List Char → Prop
  | none : Exponent []
  | plain {e ds} : e = 'e' ∨ e = 'E' → Digits ds → Exponent (e :: ds)
  | signed {e sign ds} : e = 'e' ∨ e = 'E' → sign = '-' ∨ sign = '+' →
      Digits ds → Exponent (e :: sign :: ds)

/-- A number without a sign. -/
inductive Unsigned : List Char → Prop
  | parts {ds f e} : WholePart ds → Fraction f → Exponent e →
      Unsigned (ds ++ f ++ e)

/-- A number. -/
inductive Numeral : List Char → Prop
  | plain {s} : Unsigned s → Numeral s
  | negative {s} : Unsigned s → Numeral ('-' :: s)

-- =========================================================== values

mutual

/-- A text of a tree, and then the rest. -/
inductive Spelt : Tree → List Char → List Char → Prop
  | null {rest} : Spelt .null ('n' :: 'u' :: 'l' :: 'l' :: rest) rest
  | yes {rest} :
      Spelt (.bool true) ('t' :: 'r' :: 'u' :: 'e' :: rest) rest
  | no {rest} :
      Spelt (.bool false) ('f' :: 'a' :: 'l' :: 's' :: 'e' :: rest) rest
  | number {s rest} : Numeral s → Spelt (.number s) (s ++ rest) rest
  | str {s cs rest} : Chars s.toList cs rest →
      Spelt (.str s) ('"' :: cs) rest
  | arr {ts cs rest} : Items true ts cs rest →
      Spelt (.arr ts) ('[' :: cs) rest
  | obj {fs cs rest} : Members true fs cs rest →
      Spelt (.obj fs) ('\x7b' :: cs) rest

/-- The items of an array up to its closing bracket, and then the rest.
The flag says that no item stands in front of them. -/
inductive Items : Bool → List Tree → List Char → List Char → Prop
  | close {first cs rest} : Blanks cs (']' :: rest) → Items first [] cs rest
  | first {t ts cs a b rest} : Blanks cs a → Spelt t a b →
      Items false ts b rest → Items true (t :: ts) cs rest
  | next {t ts cs a b c rest} : Blanks cs (',' :: a) → Blanks a b →
      Spelt t b c → Items false ts c rest → Items false (t :: ts) cs rest

/-- The fields of an object up to its closing brace, and then the rest.
The flag says that no field stands in front of them. -/
inductive Members : Bool → List (String × Tree) → List Char → List Char → Prop
  | close {first cs rest} : Blanks cs ('\x7d' :: rest) →
      Members first [] cs rest
  | first {k t fs cs a b c rest} : Blanks cs ('"' :: a) →
      Chars k.toList a b → Valued t b c → Members false fs c rest →
      Members true ((k, t) :: fs) cs rest
  | next {k t fs cs a b c d rest} : Blanks cs (',' :: a) →
      Blanks a ('"' :: b) → Chars k.toList b c → Valued t c d →
      Members false fs d rest → Members false ((k, t) :: fs) cs rest

/-- A colon and a text of a tree, and then the rest. -/
inductive Valued : Tree → List Char → List Char → Prop
  | colon {t cs a b rest} : Blanks cs (':' :: a) → Blanks a b →
      Spelt t b rest → Valued t cs rest

end

/-- A whole text says what a tree says, with blanks around it or
without. -/
def Tree.IsSaidBy (t : Tree) (text : String) : Prop :=
  ∃ a b, Blanks text.toList a ∧ Spelt t a b ∧ Blanks b []

end FileDepot.Json
