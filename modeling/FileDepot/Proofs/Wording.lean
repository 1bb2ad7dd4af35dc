/-
The wording of a statement is the same for every table.

A statement is read as words, which are the longest runs of letters,
digits and underscores, and as single marks between them
(`Text.tokens`). The table name stands in its text as a word of its own
and inside the names of indexes. Let one glyph stand for it that counts
as a part of a word (`Glyph`). An accepted name consists of such parts
and has at least one, so putting it in for the glyph neither joins nor
splits words: reading first and putting the name in afterwards comes to
the same (`splitTokens_fill`). A statement is thus laid out once, for
all tables (`Statement.layout`), and what holds of the layouts is seen
by looking at them.
-/
import FileDepot.Database.Schema
import FileDepot.Depot.Settings
import FileDepot.Table.Statement
import Mathlib.Computability.RegularExpressions
import Mathlib.Data.List.SplitBy

namespace FileDepot

-- ====================================================== accepted names

/-- One of some characters. -/
def anyOf (cs : List Char) : RegularExpression Char :=
  (cs.map .char).sum

/-- The characters a name starts with, all of them. -/
def startChars : List Char :=
  "ABCDEFGHIJKLMNOPQRSTUVWXYZabcdefghijklmnopqrstuvwxyz_".toList

/-- The characters it goes on with. -/
def partChars : List Char := startChars ++ "0123456789".toList

/-- The form of a plain identifier: `[A-Za-z_][A-Za-z0-9_]*`. -/
def identifier : RegularExpression Char :=
  anyOf startChars * (anyOf partChars).star

theorem mem_anyOf {cs w : List Char} :
    w ∈ (anyOf cs).matches' ↔ ∃ c ∈ cs, w = [c] := by
  unfold anyOf
  induction cs with
  | nil => simp [Language.notMem_zero]
  | cons c cs ih =>
    rw [List.map_cons, List.sum_cons, RegularExpression.matches'_add,
      Language.mem_add, ih, RegularExpression.matches'_char]
    rw [List.exists_mem_cons_iff]
    exact or_congr Set.mem_singleton_iff Iff.rfl

/-- A row of characters, each one of some. -/
theorem mem_anyOf_star {cs w : List Char} :
    w ∈ (anyOf cs).star.matches' ↔ ∀ c ∈ w, c ∈ cs := by
  rw [RegularExpression.matches'_star, Language.mem_kstar]
  constructor
  · rintro ⟨words, rfl, hwords⟩ c hc
    obtain ⟨word, hword, hc⟩ := List.mem_flatten.mp hc
    obtain ⟨d, hd, rfl⟩ := mem_anyOf.mp (hwords word hword)
    rwa [List.mem_singleton.mp hc]
  · intro h
    refine ⟨w.map fun c => [c], ?_, fun word hword => ?_⟩
    · rw [← List.flatMap_def, List.flatMap_singleton']
    · obtain ⟨c, hc, rfl⟩ := List.mem_map.mp hword
      exact mem_anyOf.mpr ⟨c, h c hc, rfl⟩

theorem mem_identifier {w : List Char} :
    w ∈ identifier.matches'
      ↔ ∃ c rest, w = c :: rest ∧ c ∈ startChars ∧ ∀ d ∈ rest, d ∈ partChars := by
  unfold identifier
  rw [RegularExpression.matches'_mul, Language.mem_mul]
  constructor
  · rintro ⟨_, hstart, rest, hrest, rfl⟩
    obtain ⟨c, hc, rfl⟩ := mem_anyOf.mp hstart
    exact ⟨c, rest, rfl, hc, mem_anyOf_star.mp hrest⟩
  · rintro ⟨c, rest, rfl, hc, hrest⟩
    exact ⟨[c], mem_anyOf.mpr ⟨c, hc, rfl⟩, rest, mem_anyOf_star.mpr hrest,
      rfl⟩

/-- The characters of a class below a bound are looked through one by
one. -/
private theorem mem_of_class {p : Char → Bool} {cs : List Char} {c : Char}
    (hc : p c = true) (hbound : c.toNat < 128)
    (hall : ∀ n < 128, p (Char.ofNat n) = true → Char.ofNat n ∈ cs) :
    c ∈ cs := by
  rw [← Char.ofNat_toNat c] at hc ⊢
  exact hall c.toNat hbound hc

theorem isNamePart_lt {c : Char} (h : isNamePart c = true) :
    c.toNat < 128 := by
  simp only [isNamePart, isNameStart, Bool.or_eq_true, Bool.and_eq_true,
    decide_eq_true_eq, beq_iff_eq, Char.le_def, UInt32.le_iff_toNat_le] at h
  show c.val.toNat < 128
  rcases h with ((h | h) | rfl) | h
  · exact Nat.lt_of_le_of_lt h.2 (by decide)
  · exact Nat.lt_of_le_of_lt h.2 (by decide)
  · decide
  · exact Nat.lt_of_le_of_lt h.2 (by decide)

theorem isNamePart_iff {c : Char} : isNamePart c = true ↔ c ∈ partChars := by
  constructor
  · intro h
    exact mem_of_class h (isNamePart_lt h) (by decide +kernel)
  · have hall : partChars.all isNamePart = true := by decide
    exact List.all_eq_true.mp hall c

theorem isNameStart_iff {c : Char} :
    isNameStart c = true ↔ c ∈ startChars := by
  constructor
  · intro h
    have hpart : isNamePart c = true := by simp [isNamePart, h]
    exact mem_of_class h (isNamePart_lt hpart) (by decide +kernel)
  · have hall : startChars.all isNameStart = true := by decide
    exact List.all_eq_true.mp hall c

/-- A text names a table exactly when it is a plain identifier of 1 to 64
bytes. -/
theorem ofText_ok_iff (text : String) :
    (∃ t, TableName.ofText text = .ok t)
      ↔ 0 < text.utf8ByteSize ∧ text.utf8ByteSize ≤ 64
        ∧ text.toList ∈ identifier.matches' := by
  have hok : (∃ t, TableName.ofText text = .ok t)
      ↔ isTableName text = true := by
    rw [← TableName.ofText?_isSome, TableName.ofText]
    cases TableName.ofText? text <;> simp
  rw [hok, isTableName, mem_identifier]
  cases htext : text.toList with
  | nil => simp
  | cons c rest =>
    have hne : 0 < text.utf8ByteSize := by
      rw [Nat.pos_iff_ne_zero, Ne, String.utf8ByteSize_eq_zero_iff]
      rintro rfl
      cases htext
    simp only [Bool.and_eq_true, List.all_eq_true, decide_eq_true_eq,
      isNameStart_iff, isNamePart_iff, List.cons.injEq]
    constructor
    · rintro ⟨⟨hc, hrest⟩, hsize⟩
      exact ⟨hne, hsize, c, rest, ⟨rfl, rfl⟩, hc, hrest⟩
    · rintro ⟨-, hsize, _, _, ⟨rfl, rfl⟩, hc, hrest⟩
      exact ⟨⟨hc, hrest⟩, hsize⟩

/-- What an accepted name is made of: parts of a word, at least one. -/
structure IsWord (name : List Char) : Prop where
  ne_nil : name ≠ []
  parts : ∀ c ∈ name, isNamePart c = true

theorem TableName.isWord (t : TableName) : IsWord t.text.toList := by
  have h := t.accepted
  unfold isTableName at h
  split at h
  · cases h
  · next c rest htext =>
    simp only [Bool.and_eq_true, List.all_eq_true] at h
    rw [htext]
    refine ⟨List.cons_ne_nil _ _, List.forall_mem_cons.mpr ⟨?_, h.1.2⟩⟩
    simp [isNamePart, h.1.1]

-- ============================================================== tokens

namespace Text

variable {σ : Type}

/-- Splits a row of characters into words, which are as long as can be,
and single other characters; those that are blank are left out. -/
def splitTokens (isPart isBlank : σ → Bool) (cs : List σ) :
    List (List σ) :=
  (cs.splitBy fun a b => isPart a && isPart b).filter
    fun token => !token.all isBlank

/-- The tokens of a text. -/
def tokens (text : String) : List String :=
  (splitTokens isNamePart isBlank text.toList).map String.ofList

/-- No part of a word is blank. -/
theorem not_isBlank_of_isNamePart {c : Char} (h : isNamePart c = true) :
    isBlank c = false := by
  have hall : (partChars.all fun c => !isBlank c) = true := by decide
  simpa using List.all_eq_true.mp hall c (isNamePart_iff.mp h)

end Text

/-- A character of a statement, or the place of the table name. -/
abbrev Glyph := Option Char

namespace Glyph

/-- The name counts as a part of a word. -/
def isPart (g : Glyph) : Bool := g.elim true isNamePart

def isBlank (g : Glyph) : Bool := g.elim false Text.isBlank

/-- What a glyph stands for when the table has a name. -/
def fill (name : List Char) : Glyph → List Char
  | none => name
  | some c => [c]

/-- A row of characters without the name. -/
def ofText (text : String) : List Glyph := text.toList.map some

variable {name : List Char}

theorem ofText_append (a b : String) :
    ofText (a ++ b) = ofText a ++ ofText b := by
  simp [ofText]

theorem ofText_join (texts : List String) :
    ofText (String.join texts) = texts.flatMap ofText := by
  unfold ofText
  rw [String.toList_join, List.map_flatMap]

theorem flatMap_ofText (text : String) :
    (ofText text).flatMap (fill name) = text.toList := by
  unfold ofText
  rw [List.flatMap_map]
  exact List.flatMap_singleton' text.toList

theorem fill_ne_nil (h : IsWord name) (g : Glyph) : fill name g ≠ [] := by
  cases g with
  | none => exact h.ne_nil
  | some c => exact List.cons_ne_nil _ _

/-- What a glyph stands for belongs to words where the glyph does. -/
theorem isPart_of_mem_fill (h : IsWord name) {g : Glyph} {c : Char}
    (hc : c ∈ fill name g) : isNamePart c = g.isPart := by
  cases g with
  | none => exact h.parts c hc
  | some d =>
    rw [List.mem_singleton.mp hc]
    rfl

theorem all_isBlank_fill (h : IsWord name) (g : Glyph) :
    (fill name g).all Text.isBlank = g.isBlank := by
  cases g with
  | some c => simp [fill, isBlank]
  | none =>
    obtain ⟨c, hc⟩ := List.exists_mem_of_ne_nil name h.ne_nil
    have hnot := Text.not_isBlank_of_isNamePart (h.parts c hc)
    exact List.all_eq_false.mpr ⟨c, hc, by simp [hnot]⟩

/-- What a row of glyphs stands for ends in what its last glyph stands
for. -/
theorem getLast_flatMap_mem (h : IsWord name) {w : List Glyph} (hw : w ≠ [])
    (hf : w.flatMap (fill name) ≠ []) :
    (w.flatMap (fill name)).getLast hf ∈ fill name (w.getLast hw) := by
  have hsplit : w.flatMap (fill name)
      = w.dropLast.flatMap (fill name) ++ fill name (w.getLast hw) := by
    conv => lhs; rw [← List.dropLast_append_getLast hw, List.flatMap_append,
      List.flatMap_singleton]
  have hlast := fill_ne_nil h (w.getLast hw)
  simp only [hsplit, List.getLast_append_of_ne_nil _ hlast]
  exact List.getLast_mem hlast

/-- It starts with what its first glyph stands for. -/
theorem head_flatMap_mem (h : IsWord name) {w : List Glyph} (hw : w ≠ [])
    (hf : w.flatMap (fill name) ≠ []) :
    (w.flatMap (fill name)).head hf ∈ fill name (w.head hw) := by
  obtain ⟨g, rest, rfl⟩ := List.exists_cons_of_ne_nil hw
  have hfirst := fill_ne_nil h g
  simp only [List.flatMap_cons, List.head_append_of_ne_nil hfirst,
    List.head_cons]
  exact List.head_mem hfirst

/-- A run of glyphs that belong together stands for a run of characters
that do. -/
theorem isChain_fill (h : IsWord name) {w : List Glyph}
    (hw : w.IsChain fun a b => (a.isPart && b.isPart) = true) :
    (w.flatMap (fill name)).IsChain
      fun a b => (isNamePart a && isNamePart b) = true := by
  induction hw with
  | nil => exact .nil
  | singleton g =>
    rw [List.flatMap_singleton]
    cases g with
    | some c => exact .singleton c
    | none =>
      refine (List.pairwise_of_forall_mem_list fun a ha b hb => ?_).isChain
      rw [h.parts a ha, h.parts b hb]
      rfl
  | @cons_cons g next w hjoin hw ih =>
    rw [Bool.and_eq_true] at hjoin
    rw [List.flatMap_cons, List.isChain_append]
    refine ⟨?_, ih, fun a ha b hb => ?_⟩
    · refine (List.pairwise_of_forall_mem_list fun a ha b hb => ?_).isChain
      rw [isPart_of_mem_fill h ha, isPart_of_mem_fill h hb, hjoin.1]
      rfl
    · have hne : (next :: w).flatMap (fill name) ≠ [] := by
        simp [fill_ne_nil h next]
      have hb' := head_flatMap_mem h (List.cons_ne_nil next w) hne
      rw [List.head_of_mem_head? hb] at hb'
      rw [isPart_of_mem_fill h (List.mem_of_mem_getLast? ha),
        isPart_of_mem_fill h hb', hjoin.1]
      simpa using hjoin.2

end Glyph

namespace Text

open Glyph (fill)

variable {name : List Char}

/-- Reading glyphs and putting a name in afterwards gives the runs that
reading the text with the name does. -/
theorem splitBy_fill (h : IsWord name) (gs : List Glyph) :
    (gs.flatMap (fill name)).splitBy
        (fun a b => isNamePart a && isNamePart b)
      = (gs.splitBy fun a b => a.isPart && b.isPart).map
          (·.flatMap (fill name)) := by
  have hflat : gs.flatMap (fill name)
      = ((gs.splitBy fun a b => a.isPart && b.isPart).map
          (·.flatMap (fill name))).flatten := by
    conv => lhs; rw [← List.flatten_splitBy
      (fun a b : Glyph => a.isPart && b.isPart) gs]
    simp only [List.flatMap_def, List.map_flatten, List.flatten_flatten,
      List.map_map, Function.comp_def]
  have hne : ∀ w : List Glyph, w ≠ [] → w.flatMap (fill name) ≠ [] := by
    intro w hw
    obtain ⟨g, rest, rfl⟩ := List.exists_cons_of_ne_nil hw
    simp [Glyph.fill_ne_nil h g]
  rw [hflat]
  refine List.splitBy_flatten ?_ ?_ ?_
  · intro hnil
    obtain ⟨w, hw, hempty⟩ := List.mem_map.mp hnil
    exact hne w (List.ne_nil_of_mem_splitBy hw) hempty
  · intro run hrun
    obtain ⟨w, hw, rfl⟩ := List.mem_map.mp hrun
    exact Glyph.isChain_fill h (List.isChain_of_mem_splitBy hw)
  · -- two runs stay apart: their ends belong to words as before
    rw [List.isChain_map]
    refine (List.isChain_getLast_head_splitBy _ gs).imp ?_
    rintro a b ⟨ha, hb, happart⟩
    refine ⟨hne a ha, hne b hb, ?_⟩
    rwa [Glyph.isPart_of_mem_fill h (Glyph.getLast_flatMap_mem h ha _),
      Glyph.isPart_of_mem_fill h (Glyph.head_flatMap_mem h hb _)]

/-- Reading glyphs and putting a name in afterwards gives the tokens that
reading the text with the name does. -/
theorem splitTokens_fill (h : IsWord name) (gs : List Glyph) :
    splitTokens isNamePart isBlank (gs.flatMap (fill name))
      = (splitTokens Glyph.isPart Glyph.isBlank gs).map
          (·.flatMap (fill name)) := by
  unfold splitTokens
  rw [splitBy_fill h, List.filter_map]
  congr 2
  funext w
  rw [Function.comp_apply, List.all_flatMap]
  simp only [Glyph.all_isBlank_fill h]

end Text

-- ============================================================== layouts

/-- The glyphs of a piece. -/
def Piece.glyphs : Piece → List Glyph
  | .wording text => Glyph.ofText text
  | .table => [none]

namespace Statement

/-- The glyphs of a statement. -/
def glyphs (s : Statement) : List Glyph := s.pieces.flatMap Piece.glyphs

/-- The glyphs of a line of the script. -/
def lineGlyphs (line : String) : List Glyph :=
  Glyph.ofText "                " ++ Glyph.ofText line ++ Glyph.ofText "\n"

/-- The glyphs of the script, line by line: no text that is looked at is
a long one. -/
theorem glyphs_provision :
    glyphs .provision
      = Glyph.ofText "CREATE TABLE " ++ Glyph.ofText "IF NOT EXISTS "
        ++ none :: Glyph.ofText " (\n" ++ columnLines.flatMap lineGlyphs
        ++ Glyph.ofText "            );\n            CREATE INDEX "
        ++ Glyph.ofText "IF NOT EXISTS " ++ Glyph.ofText "idx_"
        ++ none :: Glyph.ofText "_location ON "
        ++ none :: Glyph.ofText " (bucket, name);\n            CREATE INDEX "
        ++ Glyph.ofText "IF NOT EXISTS " ++ Glyph.ofText "idx_"
        ++ none :: Glyph.ofText "_gmt_modified ON "
        ++ none :: Glyph.ofText " (gmt_modified);" := by
  simp only [glyphs, pieces, script, Dialect.guardClause, columnBlock,
    Piece.glyphs, List.flatMap_cons, List.flatMap_nil, Glyph.ofText_append,
    Glyph.ofText_join, List.flatMap_map, List.append_assoc,
    List.cons_append, List.nil_append, List.append_nil]
  rfl

/-- The tokens of a statement, for whatever table. -/
def layout (s : Statement) : List (List Glyph) :=
  Text.splitTokens Glyph.isPart Glyph.isBlank s.glyphs

theorem toList_text (s : Statement) (table : String) :
    (s.text table).toList = s.glyphs.flatMap (Glyph.fill table.toList) := by
  unfold text glyphs
  rw [String.toList_join, List.flatMap_map, List.flatMap_assoc]
  refine List.flatMap_congr fun piece _ => ?_
  cases piece with
  | wording wording => exact (Glyph.flatMap_ofText wording).symm
  | table => exact (List.append_nil _).symm

/-- The tokens of a statement for a table are its layout with the name
put in. -/
theorem tokens_text (s : Statement) (t : TableName) :
    Text.tokens (s.text t.text)
      = s.layout.map fun w =>
          String.ofList (w.flatMap (Glyph.fill t.text.toList)) := by
  unfold Text.tokens layout
  rw [toList_text, Text.splitTokens_fill t.isWord, List.map_map]
  rfl

/-- The names in a statement that are made of the table's. -/
inductive NameForm where
  | table
  | locationIndex
  | modifiedIndex
  deriving DecidableEq, Repr

namespace NameForm

/-- The name for a table. -/
def of : NameForm → String → String
  | .table, name => name
  | .locationIndex, name => Database.locationIndex name
  | .modifiedIndex, name => Database.modifiedIndex name

/-- The token in a layout. -/
def token : NameForm → List Glyph
  | .table => [none]
  | .locationIndex => Glyph.ofText "idx_" ++ none :: Glyph.ofText "_location"
  | .modifiedIndex =>
    Glyph.ofText "idx_" ++ none :: Glyph.ofText "_gmt_modified"

/-- The form that a token has, if it holds the table's name. -/
def ofToken? (w : List Glyph) : Option NameForm :=
  [table, locationIndex, modifiedIndex].find? fun form => form.token = w

theorem token_of_ofToken? {w : List Glyph} {form : NameForm}
    (h : ofToken? w = some form) : form.token = w := by
  simpa using List.find?_some h

/-- The token of a form stands for its name. -/
theorem flatMap_token (form : NameForm) (name : String) :
    String.ofList (form.token.flatMap (Glyph.fill name.toList))
      = form.of name := by
  rw [← String.toList_inj, String.toList_ofList]
  cases form with
  | table => exact List.append_nil _
  | locationIndex =>
    simp [token, of, Database.locationIndex, Glyph.flatMap_ofText,
      Glyph.fill]
  | modifiedIndex =>
    simp [token, of, Database.modifiedIndex, Glyph.flatMap_ofText,
      Glyph.fill]

end NameForm

/-- The form of the name that stands at a position of a statement, if a
name made of the table's stands there. -/
def named (s : Statement) (i : Nat) : Option NameForm :=
  s.layout[i]?.bind NameForm.ofToken?

/-- The table's name is found in these forms only. -/
theorem isSome_ofToken? (s : Statement) :
    ∀ w ∈ s.layout, none ∈ w → (NameForm.ofToken? w).isSome = true := by
  cases s with
  | provision =>
    rw [layout, glyphs_provision]
    decide +kernel
  | _ => decide +kernel

/-- Where a name is expected it stands there, made of the table's. -/
theorem tokens_named {s : Statement} {i : Nat} {form : NameForm}
    (h : s.named i = some form) (t : TableName) :
    (Text.tokens (s.text t.text))[i]? = some (form.of t.text) := by
  obtain ⟨w, hw, hform⟩ := Option.bind_eq_some_iff.mp h
  rw [tokens_text, List.getElem?_map, hw,
    ← NameForm.token_of_ofToken? hform]
  exact congrArg some (form.flatMap_token t.text)

/-- Everywhere else tables have the same token. -/
theorem tokens_fixed {s : Statement} {i : Nat} (h : s.named i = none)
    (t u : TableName) :
    (Text.tokens (s.text u.text))[i]? = (Text.tokens (s.text t.text))[i]? := by
  rw [tokens_text, tokens_text, List.getElem?_map, List.getElem?_map]
  cases hw : s.layout[i]? with
  | none => rfl
  | some w =>
    have hplain : none ∉ w := by
      intro hnone
      have hsome := s.isSome_ofToken? w (List.mem_of_getElem? hw) hnone
      unfold named at h
      rw [hw, Option.bind_some] at h
      rw [h] at hsome
      cases hsome
    refine congrArg (fun cs => some (String.ofList cs))
      (List.flatMap_congr fun g hg => ?_)
    cases g with
    | none => exact absurd hg hplain
    | some c => rfl

/-- A character that is no part of a name is as often in the text as among
the glyphs. -/
theorem count_text (s : Statement) (t : TableName) {c : Char}
    (hc : isNamePart c = false) :
    (s.text t.text).toList.count c = s.glyphs.count (some c) := by
  have hname : t.text.toList.count c = 0 := by
    rw [List.count_eq_zero]
    intro hmem
    rw [t.isWord.parts c hmem] at hc
    cases hc
  rw [toList_text]
  induction s.glyphs with
  | nil => rfl
  | cons g rest ih =>
    rw [List.flatMap_cons, List.count_append, ih, List.count_cons]
    cases g with
    | none => simp [Glyph.fill, hname]
    | some d => simp [Glyph.fill, List.count_singleton, Nat.add_comm]

-- =============================================================== calls

/-- A value for a question mark. -/
inductive Value where
  | null
  | number (n : Int)
  | text (s : String)
  | bytes (data : Bytes)
  deriving DecidableEq, Repr

/-- A statement as a depot calls it, with what it is about. -/
inductive Call where
  | provision
  | insert (d : Draft)
  | deleteAt (l : Location)
  | deleteExpired (bucket : String) (cutoff : Int)
  | newest (l : Location)
  | slice (id : Int) (offset count : Nat)
  | describe (l : Location)
  deriving DecidableEq, Repr

namespace Call

/-- The statement that is called. -/
def statement : Call → Statement
  | .provision => .provision
  | .insert _ => .insert
  | .deleteAt _ => .deleteAt
  | .deleteExpired _ _ => .deleteExpired
  | .newest _ => .newest
  | .slice _ _ _ => .slice
  | .describe _ => .describe

/-- The values of a location. -/
def ofLocation (l : Location) : List Value := [.text l.bucket, .text l.name]

/-- The values of a record, in the order of its columns. -/
def ofDraft (d : Draft) : List Value :=
  [.text d.bucket, .text d.name, .text d.version,
   d.metadata.elim .null .text, .number d.length, .number d.status,
   .bytes d.data, d.extra.elim .null .text, .number d.created,
   d.modified.elim .null .number]

/-- The values that are bound, in order. Offsets are counted from one. -/
def values : Call → List Value
  | .provision => []
  | .insert d => ofDraft d
  | .deleteAt l | .newest l | .describe l => ofLocation l
  | .deleteExpired bucket cutoff => [.text bucket, .number cutoff]
  | .slice id offset count => [.number (offset + 1), .number count, .number id]

end Call

/-- A statement has a question mark for each value that is bound. -/
theorem count_glyphs (s : Statement) :
    s.glyphs.count (some '?') = s.bound := by
  cases s with
  | provision =>
    rw [glyphs_provision]
    decide +kernel
  | _ => decide +kernel

end Statement

-- =============================================================== shape

namespace Statement

/-- Every statement names its table. -/
theorem exists_named (s : Statement) : ∃ i, s.named i = some .table := by
  have hmem : [none] ∈ s.layout := by
    cases s with
    | provision =>
      rw [layout, glyphs_provision]
      decide +kernel
    | _ => decide +kernel
  obtain ⟨i, hi⟩ := List.mem_iff_getElem?.mp hmem
  refine ⟨i, ?_⟩
  rw [named, hi]
  rfl

/-- The tokens of the query for a description up to its last column. -/
def columnTokens : List String :=
  ["SELECT", "bucket", ",", "name", ",", "version", ",", "meta", ",",
   "length", ",", "status", ",", "extra", ",", "gmt_create", ",",
   "gmt_modified"]

/-- The columns come first, and then the table. -/
theorem tokens_describe (t : TableName) :
    ∃ rest, Text.tokens (describe.text t.text)
      = columnTokens ++ "FROM" :: rest := by
  have hfront : describe.layout.take 19
      = (columnTokens ++ ["FROM"]).map Glyph.ofText := by decide +kernel
  have hplain : ∀ name : List Char,
      (fun w : List Glyph => String.ofList (w.flatMap (Glyph.fill name)))
        ∘ Glyph.ofText = id := by
    intro name
    funext text
    rw [Function.comp_apply, Glyph.flatMap_ofText, String.ofList_toList, id]
  rw [tokens_text, ← List.take_append_drop 19 describe.layout, hfront,
    List.map_append, List.map_map, hplain, List.map_id, List.append_assoc]
  exact ⟨_, rfl⟩

end Statement

/-- An accepted table name cannot change the shape of a statement. A text
is accepted exactly when it is a plain identifier of 1 to 64 bytes. Every
statement has positions of its own at which the table's name or the name
of one of its indexes stands; for any two accepted names it has as many
tokens, at those positions the names made of the one and of the other,
and the same tokens everywhere else. It has a question mark for each
value that is bound, whatever the name, and the query for a description
has no payload among its columns. -/
theorem accepted_names_keep_shape :
    (∀ text, (∃ t, TableName.ofText text = .ok t)
        ↔ 0 < text.utf8ByteSize ∧ text.utf8ByteSize ≤ 64
          ∧ text.toList ∈ identifier.matches')
      ∧ (∀ s : Statement, (∃ i, s.named i = some .table)
        ∧ ∀ t u : TableName,
          (Text.tokens (s.text t.text)).length
              = (Text.tokens (s.text u.text)).length
            ∧ (∀ i form, s.named i = some form →
                (Text.tokens (s.text t.text))[i]? = some (form.of t.text)
                  ∧ (Text.tokens (s.text u.text))[i]?
                    = some (form.of u.text))
            ∧ ∀ i, s.named i = none →
                (Text.tokens (s.text t.text))[i]?
                  = (Text.tokens (s.text u.text))[i]?)
      ∧ (∀ (c : Statement.Call) (t : TableName),
          (c.statement.text t.text).toList.count '?' = c.values.length
            ∧ c.values.length = c.statement.bound)
      ∧ ∀ t : TableName, ∃ rest,
          Text.tokens (Statement.describe.text t.text)
              = Statement.columnTokens ++ "FROM" :: rest
            ∧ "FROM" ∉ Statement.columnTokens
            ∧ "data" ∉ Statement.columnTokens := by
  refine ⟨ofText_ok_iff, fun s => ⟨s.exists_named, fun t u => ?shape⟩,
    fun c t => ?count, fun t => ?columns⟩
  case shape =>
    refine ⟨?_, fun i form h => ⟨s.tokens_named h t, s.tokens_named h u⟩,
      fun i h => s.tokens_fixed h u t⟩
    rw [s.tokens_text, s.tokens_text, List.length_map, List.length_map]
  case count =>
    have hvalues : c.values.length = c.statement.bound := by cases c <;> rfl
    refine ⟨?_, hvalues⟩
    rw [Statement.count_text _ t (by decide), Statement.count_glyphs, hvalues]
  case columns =>
    obtain ⟨rest, hrest⟩ := Statement.tokens_describe t
    exact ⟨rest, hrest, by decide, by decide⟩

/-- A table may have the name of a keyword or a column: the tokens for
`data` are those for `t` with the one name in the place of the other. -/
example :
    Text.tokens (Statement.deleteAt.text "data")
      = ["DELETE", "FROM", "data", "WHERE", "bucket", "=", "?", "AND",
         "name", "=", "?"] := by
  decide +kernel

end FileDepot
