/-
Table names. A name is pasted into statement text, so only plain
identifiers of at most 64 bytes are accepted; the database then takes
two names for the same table when they differ in the case of the
letters A to Z alone.
-/
import FileDepot.Text.Lower

namespace FileDepot

/-- A letter or an underscore: what a name starts with. -/
def isNameStart (c : Char) : Bool :=
  ('a' ≤ c && c ≤ 'z') || ('A' ≤ c && c ≤ 'Z') || c == '_'

/-- What a name goes on with: a letter, a digit or an underscore. -/
def isNamePart (c : Char) : Bool :=
  isNameStart c || ('0' ≤ c && c ≤ '9')

/-- The most bytes a table name has. -/
def maxNameBytes : Nat := 64

/-- A plain identifier that is short enough. -/
def isTableName (text : String) : Bool :=
  match text.toList with
  | [] => false
  | c :: rest =>
    isNameStart c && rest.all isNamePart
      && decide (text.utf8ByteSize ≤ maxNameBytes)

/-- An accepted table name. -/
structure TableName where
  text : String
  accepted : isTableName text = true
  deriving DecidableEq, Repr

namespace TableName

/-- The name a text spells, if it is accepted. -/
def ofText? (text : String) : Option TableName :=
  if h : isTableName text = true then some ⟨text, h⟩ else none

/-- A text names a table exactly when it is accepted. -/
theorem ofText?_isSome (text : String) :
    (ofText? text).isSome = isTableName text := by
  unfold ofText?
  split
  · next h => simp [h]
  · next h => simp [h]

/-- The name read from a text is spelt as the text. -/
theorem text_of_ofText? {text : String} {t : TableName}
    (h : ofText? text = some t) : t.text = text := by
  unfold ofText? at h
  split at h
  · cases h; rfl
  · cases h

end TableName

/-- Two spellings of one name. -/
def sameName (a b : String) : Bool :=
  Text.lowerAscii a == Text.lowerAscii b

end FileDepot
