/-
Documents that are written to be read.

A table of texts is written as its header and one line for each key, the
text between quotes. In a string the quote, the backslash and what does
not print are escaped, and everything else stands as it is. Read again,
the document is the table with those very texts (`parse_written`),
whatever they consist of.
-/
import FileDepot.Proofs.Json.Printing
import FileDepot.Proofs.Toml.Distinct
import FileDepot.Proofs.Variables

namespace FileDepot.Config.Toml

-- ============================================================ strings

/-- How a character stands in a string. -/
def quotedChar (c : Char) : List Char :=
  if c = '"' then ['\\', '"']
  else if c = '\\' then ['\\', '\\']
  else if isPrintable c then [c]
  else
    ['\\', 'u', '0', '0', Text.hexDigit (c.toNat / 16),
      Text.hexDigit (c.toNat % 16)]

/-- A text between quotes, in front of more text. -/
def quoted (text : String) (rest : List Char) : List Char :=
  '"' :: (text.toList.flatMap quotedChar ++ '"' :: rest)

/-- What does not print has a number of two digits. -/
theorem toNat_lt_of_not_printable {c : Char} (h : ¬isPrintable c = true) :
    c.toNat < 256 := by
  simp only [isPrintable, Bool.or_eq_true, Bool.and_eq_true, not_or,
    not_and_or] at h
  obtain ⟨-, h | h⟩ := h
  · have h : ¬0x20 ≤ c.toNat := by simpa using h
    omega
  · have h : c.toNat = 0x7F := by simpa using h
    omega

/-- A number of two digits is read as its character. -/
theorem hexChar_digits {a b c : Char} {x y : Nat}
    (ha : Json.hexValue? a = some x) (hb : Json.hexValue? b = some y)
    (hc : x * 16 + y = c.toNat) (rest : List Char) :
    hexChar 4 ('0' :: '0' :: a :: b :: rest) = some (c, rest) := by
  have h₀ : Json.hexValue? '0' = some 0 := by decide
  have hdigits : ['0', '0', a, b].mapM Json.hexValue?
      = some [0, 0, x, y] := by
    simp only [List.mapM_cons, List.mapM_nil, h₀, ha, hb]
    rfl
  have hvalue : [0, 0, x, y].foldl (fun n d => n * 16 + d) 0 = c.toNat := by
    simp only [List.foldl]
    omega
  unfold hexChar
  show (if _ then none else (['0', '0', a, b].mapM Json.hexValue?).bind _) = _
  rw [if_neg fun h => h rfl, hdigits, Option.bind_some]
  dsimp only
  generalize [0, 0, x, y].foldl (fun n d => n * 16 + d) 0 = n at hvalue ⊢
  subst hvalue
  rw [dif_pos (show c.toNat.isValidChar from c.valid)]
  rfl

/-- A character of a string is read as it was written. -/
theorem basicGo_quotedChar (c : Char) (n : Nat) (seen cs : List Char) :
    basicGo (n + 1) seen (quotedChar c ++ cs) = basicGo n (c :: seen) cs := by
  unfold quotedChar
  by_cases hquote : c = '"'
  · subst hquote
    rfl
  rw [if_neg hquote]
  by_cases hslash : c = '\\'
  · subst hslash
    rfl
  rw [if_neg hslash]
  by_cases hprints : isPrintable c = true
  · rw [if_pos hprints, List.singleton_append, basicGo, if_neg hquote,
      if_neg hslash, if_pos hprints]
  · have hnumber := toNat_lt_of_not_printable hprints
    have hread := hexChar_digits
      (Json.hexValue?_hexDigit (c.toNat / 16) (by omega))
      (Json.hexValue?_hexDigit (c.toNat % 16) (by omega))
      (show c.toNat / 16 * 16 + c.toNat % 16 = c.toNat by omega) cs
    rw [if_neg hprints, List.cons_append, basicGo, if_neg (by decide),
      if_pos rfl]
    show (hexChar 4 ('0' :: '0' :: _ :: _ :: cs)).bind _ = _
    rw [hread]
    rfl

/-- A string is read up to its closing quote. -/
theorem basicGo_quoted (text : List Char) {n : Nat}
    (hn : text.length < n) (seen rest : List Char) :
    basicGo n seen (text.flatMap quotedChar ++ '"' :: rest)
      = some (seen.reverse ++ text, rest) := by
  induction text generalizing n seen with
  | nil =>
    obtain ⟨m, rfl⟩ := Nat.exists_eq_add_one.mpr (Nat.zero_lt_of_lt hn)
    rw [List.append_nil]
    rfl
  | cons c text ih =>
    obtain ⟨m, rfl⟩ := Nat.exists_eq_add_one.mpr (Nat.zero_lt_of_lt hn)
    have hm : text.length < m := by simpa using hn
    rw [List.flatMap_cons, List.append_assoc, basicGo_quotedChar, ih hm,
      List.reverse_cons, List.append_assoc]
    rfl

/-- What stands for a character does not begin with a quote. -/
theorem quotedChar_eq_cons (c : Char) :
    ∃ d ds, quotedChar c = d :: ds ∧ d ≠ '"' := by
  unfold quotedChar
  split
  · exact ⟨_, _, rfl, by decide⟩
  · next hquote =>
    split
    · exact ⟨_, _, rfl, by decide⟩
    · split
      · exact ⟨c, [], rfl, hquote⟩
      · exact ⟨_, _, rfl, by decide⟩

/-- A written text takes at least its own length. -/
theorem length_le_quoted (text : List Char) :
    text.length ≤ (text.flatMap quotedChar).length := by
  induction text with
  | nil => exact Nat.le_refl _
  | cons c text ih =>
    obtain ⟨d, ds, hc, -⟩ := quotedChar_eq_cons c
    rw [List.flatMap_cons, hc, List.length_append, List.length_cons,
      List.length_cons]
    omega

/-- No string of several lines opens where a text is written, unless a
quote follows it. -/
theorem not_opening (text : List Char) {rest : List Char}
    (hrest : rest.head? ≠ some '"') (cs : List Char) :
    text.flatMap quotedChar ++ '"' :: rest ≠ '"' :: '"' :: cs := by
  intro h
  cases text with
  | nil =>
    obtain ⟨-, rfl⟩ := List.cons.inj h
    exact hrest rfl
  | cons c text =>
    obtain ⟨d, ds, hc, hd⟩ := quotedChar_eq_cons c
    rw [List.flatMap_cons, hc] at h
    exact hd (List.cons.inj h).1

/-- A text is read as it was written. -/
theorem string_quoted (text : String) {rest : List Char}
    (hrest : rest.head? ≠ some '"') :
    string (quoted text rest) = some (text, rest) := by
  have hopening := not_opening text.toList hrest
  have hread : basicGo
      ((text.toList.flatMap quotedChar ++ '"' :: rest).length + 1) []
      (text.toList.flatMap quotedChar ++ '"' :: rest)
      = some (text.toList, rest) := by
    refine basicGo_quoted text.toList ?_ [] rest
    have hlength := length_le_quoted text.toList
    rw [List.length_append]
    omega
  unfold quoted
  generalize text.toList.flatMap quotedChar ++ '"' :: rest = cs at hopening hread
  unfold string
  split
  -- three quotes would open a string of several lines
  · next h => exact absurd (List.cons.inj h).2 (hopening _)
  · next h => cases h
  · next h =>
    obtain rfl := (List.cons.inj h).2
    rw [hread]
    show some (String.ofList text.toList, rest) = _
    rw [String.ofList_toList]
  · next h => cases h
  · next _ _ hother _ => exact absurd rfl (hother _)

-- =============================================================== keys

/-- A word starts with a character that stands in a key without quotes. -/
theorem word_eq_cons {name : String} (h : IsWord name) :
    ∃ c cs, name.toList = c :: cs ∧ isBare c = true := by
  obtain ⟨c, cs, hname⟩ := List.exists_cons_of_ne_nil h.1
  exact ⟨c, cs, hname, h.2 c (by rw [hname]; exact .head _)⟩

/-- Text that starts with a word starts with no other character. -/
theorem word_append_ne {name : String} (h : IsWord name) {c : Char}
    (hc : isBare c = false) (rest cs : List Char) :
    name.toList ++ rest ≠ c :: cs := by
  obtain ⟨d, ds, hname, hd⟩ := word_eq_cons h
  rw [hname]
  intro heq
  rw [(List.cons.inj heq).1, hc] at hd
  cases hd

/-- Text that no word runs on into. -/
def Ends (rest : List Char) : Prop :=
  ∀ c, rest.head? = some c → isBare c = false

/-- A word is read as a part of a key. -/
theorem keyPart_word {name : String} (h : IsWord name) {rest : List Char}
    (hrest : Ends rest) : keyPart (name.toList ++ rest) = some (name, rest) := by
  have hne := h.1
  have hbare : ∀ c ∈ name.toList, isBare c = true := h.2
  have htake : (name.toList ++ rest).takeWhile isBare = name.toList
      ∧ (name.toList ++ rest).dropWhile isBare = rest := by
    rw [List.takeWhile_append_of_pos hbare, List.dropWhile_append_of_pos hbare]
    cases rest with
    | nil => exact ⟨List.append_nil _, rfl⟩
    | cons c rest =>
      have hc : ¬isBare c = true := Bool.eq_false_iff.mp (hrest c rfl)
      rw [List.takeWhile_cons_of_neg hc, List.dropWhile_cons_of_neg hc]
      exact ⟨List.append_nil _, rfl⟩
  unfold keyPart
  split
  · next hcs => exact absurd (List.append_eq_nil_iff.mp hcs).1 hne
  · next hcs => exact absurd hcs (word_append_ne h (by decide) _ _)
  · next hcs => exact absurd hcs (word_append_ne h (by decide) _ _)
  · dsimp only
    rw [htake.1, htake.2, if_neg hne, String.ofList_toList]

/-- No gap is passed over before a word. -/
theorem skipGap_word {name : String} (h : IsWord name) (rest : List Char) :
    skipGap (name.toList ++ rest) = name.toList ++ rest := by
  obtain ⟨c, cs, hname, hc⟩ := word_eq_cons h
  have hgap : ¬isGap c = true := by
    unfold isGap
    rw [Bool.or_eq_true, beq_iff_eq, beq_iff_eq]
    rintro (rfl | rfl) <;> cases hc
  unfold skipGap
  rw [hname, List.cons_append, List.dropWhile_cons_of_neg hgap]

/-- Words between dots are read as a key, up to what follows. -/
theorem keyGo_words {name : String} {names : List String}
    (h : ∀ word ∈ name :: names, IsWord word) {rest : List Char}
    (hrest : Ends rest) (hdot : (skipGap rest).head? ≠ some '.') {n : Nat}
    (hn : names.length < n) :
    keyGo n (name.toList ++ (behindDots names ++ rest))
      = some (name :: names, skipGap rest) := by
  induction names generalizing name n with
  | nil =>
    obtain ⟨m, rfl⟩ := Nat.exists_eq_add_one.mpr (Nat.zero_lt_of_lt hn)
    have hname := h name (.head _)
    show keyGo (m + 1) (name.toList ++ rest) = _
    rw [keyGo, skipGap_word hname, keyPart_word hname hrest,
      Option.bind_eq_bind, Option.bind_some]
    dsimp only
    split
    · next h =>
      rw [h] at hdot
      exact absurd rfl hdot
    · rfl
  | cons next names ih =>
    obtain ⟨m, rfl⟩ := Nat.exists_eq_add_one.mpr (Nat.zero_lt_of_lt hn)
    obtain ⟨hname, hnames⟩ := List.forall_mem_cons.mp h
    have hcons : behindDots (next :: names) ++ rest
        = '.' :: (next.toList ++ (behindDots names ++ rest)) := by
      simp [behindDots]
    have hends : Ends ('.' :: (next.toList ++ (behindDots names ++ rest))) := by
      rintro c ⟨⟩
      decide
    have hnext := ih hnames (n := m) (by simpa using hn)
    rw [hcons, keyGo, skipGap_word hname, keyPart_word hname hends,
      Option.bind_eq_bind, Option.bind_some]
    show (keyGo m (next.toList ++ (behindDots names ++ rest))).bind _ = _
    rw [hnext]
    rfl

/-- A key of words is read, up to what follows. -/
theorem key_words {name : String} {names : List String}
    (h : ∀ word ∈ name :: names, IsWord word) {rest : List Char}
    (hrest : Ends rest) (hdot : (skipGap rest).head? ≠ some '.') :
    key (name.toList ++ (behindDots names ++ rest))
      = some (name :: names, skipGap rest) := by
  refine keyGo_words h hrest hdot ?_
  have hlength : names.length ≤ (behindDots names).length := by
    clear h
    induction names with
    | nil => exact Nat.le_refl _
    | cons next names ih =>
      show _ ≤ (('.' :: next.toList) ++ behindDots names).length
      rw [List.length_append, List.length_cons, List.length_cons]
      omega
  rw [List.length_append, List.length_append]
  omega

-- ============================================================== lines

/-- The lines that set keys to texts. -/
def assignments : List (String × String) → List Char
  | [] => []
  | (name, text) :: fields =>
    name.toList
      ++ ' ' :: '=' :: ' ' :: quoted text ('\n' :: assignments fields)

/-- No line is passed over before text that is neither blank nor a
comment. -/
theorem skipLines_cons {c : Char} (h : c ∉ [' ', '\t', '#', '\n', '\r'])
    (rest : List Char) : skipLines (c :: rest) = some (c :: rest) := by
  simp only [List.mem_cons, List.not_mem_nil, or_false, not_or] at h
  obtain ⟨hblank, htab, hmark, hnewline, hreturn⟩ := h
  have hgap : ¬isGap c = true := by
    unfold isGap
    rw [Bool.or_eq_true, beq_iff_eq, beq_iff_eq]
    exact not_or.mpr ⟨hblank, htab⟩
  have hcomment : skipComment (c :: rest) = some (c :: rest) := by
    unfold skipComment
    split
    · next h => exact absurd (List.cons.inj h).1 hmark
    · rfl
  have hend : lineEnd (c :: rest) = none := by
    unfold lineEnd
    split
    · next h => exact absurd (List.cons.inj h).1 hnewline
    · next h => exact absurd (List.cons.inj h).1 hreturn
    · rfl
  unfold skipLines
  rw [List.length_cons, skipLinesGo, skipGap, List.dropWhile_cons_of_neg hgap,
    hcomment, Option.bind_eq_bind, Option.bind_some, hend]

/-- Nor before a word. -/
theorem skipLines_word {name : String} (h : IsWord name) (rest : List Char) :
    skipLines (name.toList ++ rest) = some (name.toList ++ rest) := by
  obtain ⟨c, cs, hname, hc⟩ := word_eq_cons h
  rw [hname, List.cons_append]
  refine skipLines_cons (fun hmem => ?_) _
  have hall : [' ', '\t', '#', '\n', '\r'].all (!isBare ·) = true := by decide
  have hnot := List.all_eq_true.mp hall c hmem
  rw [hc] at hnot
  cases hnot

/-- A written text is read as a value. -/
theorem value_quoted (origin : Option String) (depth : Nat) (text : String)
    {rest : List Char} (hrest : rest.head? ≠ some '"') :
    value origin depth (quoted text rest)
      = some (.scalar origin (.text text), rest) := by
  have hstring := string_quoted text hrest
  unfold quoted at hstring ⊢
  unfold value
  dsimp only
  rw [if_pos (.inl rfl), hstring]
  rfl

/-- A line sets its key in the table opened last. -/
theorem linesGo_assignment {name : String} (h : IsWord name) (text : String)
    (origin : Option String) (n : Nat) (current : List String)
    (tree : Branches) (rest : List Char) :
    linesGo origin (n + 1) current tree
        (name.toList ++ ' ' :: '=' :: ' ' :: quoted text ('\n' :: rest))
      = (Branches.descend
          (Branches.setDotted (.scalar origin (.text text)) [name])
          current tree).bind
        fun tree => linesGo origin n current tree rest := by
  have hkey : key (name.toList
      ++ ' ' :: '=' :: ' ' :: quoted text ('\n' :: rest))
      = some ([name], '=' :: ' ' :: quoted text ('\n' :: rest)) := by
    have hwords : ∀ word ∈ [name], IsWord word := by simpa using h
    have hends : Ends (' ' :: '=' :: ' ' :: quoted text ('\n' :: rest)) := by
      rintro c ⟨⟩
      decide
    exact key_words hwords hends (show some '=' ≠ some '.' by decide)
  have hvalue : value origin maxNesting (quoted text ('\n' :: rest))
      = some (.scalar origin (.text text), '\n' :: rest) :=
    value_quoted origin maxNesting text (show some '\n' ≠ some '"' by decide)
  rw [linesGo, skipLines_word h, Option.bind_eq_bind, Option.bind_some]
  split
  · next hcs => exact absurd (List.append_eq_nil_iff.mp hcs).1 h.1
  · next hcs => exact absurd hcs (word_append_ne h (by decide) _ _)
  · rw [hkey, Option.bind_eq_bind, Option.bind_some]
    show (value origin maxNesting (quoted text ('\n' :: rest))).bind _ = _
    rw [hvalue, Option.bind_some]
    rfl

-- ============================================================= tables

/-- Tables one in another, as one header opens them. -/
def opened : List String → Branches → Branches
  | [], entries => entries
  | key :: path, entries =>
    [(key, .table (if path = [] then .header else .implied)
      (opened path entries))]

/-- Tables one in another. -/
def nested : List String → Entries → Entries
  | [], entries => entries
  | key :: path, entries => [(key, .table (nested path entries))]

/-- The branches of texts. -/
def textBranches (origin : Option String)
    (fields : List (String × String)) : Branches :=
  fields.map fun f => (f.1, .value (.scalar origin (.text f.2)))

/-- The entries of texts. -/
def textEntries (origin : Option String)
    (fields : List (String × String)) : Entries :=
  fields.map fun f => (f.1, .scalar origin (.text f.2))

/-- A header opens its tables. -/
theorem descend_openTable {path : List String} {last : String}
    (h : path.getLast? = some last) :
    Branches.descend (Branches.openTable last) path.dropLast []
      = some (opened path []) := by
  induction path with
  | nil => cases h
  | cons key path ih =>
    cases path with
    | nil =>
      cases h
      rfl
    | cons next path =>
      rw [List.getLast?_cons_cons] at h
      show (Branches.descend (Branches.openTable last)
        (next :: path).dropLast []).bind _ = _
      rw [ih h]
      rfl

/-- What is changed behind a header is changed in its table. -/
theorem descend_opened (change : Branches → Option Branches)
    (path : List String) (entries : Branches) :
    Branches.descend change path (opened path entries)
      = (change entries).map (opened path) := by
  induction path with
  | nil =>
    show change entries = (change entries).map id
    rw [Option.map_id, id]
  | cons key path ih =>
    have hat : ∀ branch, Branches.at? key [(key, branch)] = some branch :=
      fun branch => if_pos rfl
    have hput : ∀ branch branch',
        Branches.put key branch' [(key, branch)] = [(key, branch')] :=
      fun branch branch' => if_pos rfl
    rw [opened, Branches.descend, hat]
    dsimp only
    rw [ih]
    cases change entries with
    | none => rfl
    | some entries' =>
      rw [Option.map_some, Option.bind_eq_bind, Option.bind_some, hput]
      rfl

/-- A key that is not there stands for nothing. -/
theorem at?_eq_none {key : String} {entries : Branches}
    (h : key ∉ entries.map Prod.fst) : Branches.at? key entries = none := by
  cases hat : Branches.at? key entries with
  | none => rfl
  | some branch =>
    exact absurd (List.mem_map.mpr ⟨_, Branches.mem_of_at? hat, rfl⟩) h

/-- A new key comes last. -/
theorem put_of_notMem {key : String} {entries : Branches}
    (h : key ∉ entries.map Prod.fst) (branch : Branch) :
    Branches.put key branch entries = entries ++ [(key, branch)] := by
  induction entries with
  | nil => rfl
  | cons e entries ih =>
    obtain ⟨k, b⟩ := e
    obtain ⟨hk, hrest⟩ := not_or.mp (mt List.mem_cons.mpr h)
    rw [Branches.put, if_neg (Ne.symm hk), ih hrest]
    rfl

/-- A new text is the last of its table. -/
theorem setDotted_textBranches {origin : Option String} {name : String}
    {fields : List (String × String)} (h : name ∉ fields.map Prod.fst)
    (text : String) :
    Branches.setDotted (.scalar origin (.text text)) [name]
        (textBranches origin fields)
      = some (textBranches origin (fields ++ [(name, text)])) := by
  have hkeys : name ∉ (textBranches origin fields).map Prod.fst := by
    unfold textBranches
    rwa [List.map_map]
  rw [Branches.setDotted, Branches.setNew, at?_eq_none hkeys]
  dsimp only
  rw [put_of_notMem hkeys]
  unfold textBranches
  rw [List.map_append]
  rfl

/-- The tables of a header become tables one in another. -/
theorem settings_opened (origin : Option String) (path : List String)
    (fields : List (String × String)) :
    Branches.settings origin (opened path (textBranches origin fields))
      = nested path (textEntries origin fields) := by
  induction path with
  | nil =>
    rw [opened, nested, Branches.settings_eq_map]
    unfold textBranches textEntries
    rw [List.map_map]
    rfl
  | cons key path ih =>
    rw [opened, nested, ← ih]
    rfl

-- ========================================================== documents

/-- A document of one table of texts: its header, and a line for each
key. -/
def written (name : String) (path : List String)
    (fields : List (String × String)) : String :=
  String.ofList ('[' :: (name.toList
    ++ (behindDots path ++ ']' :: '\n' :: assignments fields)))

/-- The lines that are left set what is left of the table. -/
theorem linesGo_assignments {origin : Option String} {path : List String}
    {done fields : List (String × String)} {n : Nat}
    (hwords : ∀ f ∈ fields, IsWord f.1)
    (hkeys : ((done ++ fields).map Prod.fst).Nodup) (hn : fields.length < n) :
    linesGo origin n path (opened path (textBranches origin done))
        (assignments fields)
      = some (opened path (textBranches origin (done ++ fields))) := by
  induction fields generalizing done n with
  | nil =>
    obtain ⟨m, rfl⟩ := Nat.exists_eq_add_one.mpr (Nat.zero_lt_of_lt hn)
    rw [List.append_nil]
    rfl
  | cons f fields ih =>
    obtain ⟨name, text⟩ := f
    obtain ⟨hword, hwords⟩ := List.forall_mem_cons.mp hwords
    obtain ⟨m, rfl⟩ := Nat.exists_eq_add_one.mpr (Nat.zero_lt_of_lt hn)
    have hnew : name ∉ done.map Prod.fst := by
      intro hmem
      rw [List.map_append] at hkeys
      exact (List.disjoint_of_nodup_append hkeys) hmem (.head _)
    rw [assignments, linesGo_assignment hword, descend_opened,
      setDotted_textBranches hnew, Option.map_some, Option.bind_some]
    have hsplit : done ++ (name, text) :: fields
        = (done ++ [(name, text)]) ++ fields := by simp
    rw [hsplit] at hkeys ⊢
    exact ih hwords hkeys (by simpa using hn)

/-- The header opens its table. -/
theorem linesGo_header {name : String} {path : List String}
    (h : ∀ word ∈ name :: path, IsWord word) (origin : Option String)
    (n : Nat) (rest : List Char) :
    linesGo origin (n + 1) [] []
        ('[' :: (name.toList ++ (behindDots path ++ ']' :: '\n' :: rest)))
      = linesGo origin n (name :: path) (opened (name :: path) []) rest := by
  have hkey : key (name.toList ++ (behindDots path ++ ']' :: '\n' :: rest))
      = some (name :: path, ']' :: '\n' :: rest) := by
    refine key_words h ?_ (show some ']' ≠ some '.' by decide)
    rintro c ⟨⟩
    decide
  have hheader : header
      ('[' :: (name.toList ++ (behindDots path ++ ']' :: '\n' :: rest)))
      = some ((name :: path, false), '\n' :: rest) := by
    unfold header
    split
    · next hcs =>
      exact absurd (List.cons.inj hcs).2
        (word_append_ne (h name (.head _)) (by decide) _ _)
    · next hcs =>
      obtain rfl := (List.cons.inj hcs).2
      rw [hkey, Option.bind_eq_bind, Option.bind_some]
      rfl
    · next hcs => exact absurd rfl (hcs _)
  obtain ⟨last, hlast⟩ : ∃ last, (name :: path).getLast? = some last :=
    ⟨_, List.getLast?_eq_some_getLast (List.cons_ne_nil _ _)⟩
  rw [linesGo, skipLines_cons (by decide), Option.bind_eq_bind,
    Option.bind_some]
  split
  · next hcs => cases hcs
  · rw [hheader, Option.bind_eq_bind, Option.bind_some, Option.bind_eq_bind]
    dsimp only
    rw [hlast, Option.bind_some, if_neg Bool.false_ne_true,
      descend_openTable hlast]
    rfl
  · next hcs => exact absurd rfl (hcs _)

/-- Each line takes at least one character. -/
theorem length_le_assignments (fields : List (String × String)) :
    fields.length ≤ (assignments fields).length := by
  induction fields with
  | nil => exact Nat.le_refl _
  | cons f fields ih =>
    obtain ⟨name, text⟩ := f
    rw [assignments]
    unfold quoted
    simp only [List.length_append, List.length_cons]
    omega

/-- A written document is read as the table with the very texts. -/
theorem parse_written {name : String} {path : List String}
    {fields : List (String × String)}
    (hpath : ∀ word ∈ name :: path, IsWord word)
    (hwords : ∀ f ∈ fields, IsWord f.1)
    (hkeys : (fields.map Prod.fst).Nodup) (origin : Option String) :
    parse origin (written name path fields)
      = some (nested (name :: path) (textEntries origin fields)) := by
  have hlength := length_le_assignments fields
  unfold parse written
  rw [String.toList_ofList]
  dsimp only
  rw [if_neg (by decide), List.length_cons, linesGo_header hpath]
  have hdone : (([] ++ fields).map Prod.fst).Nodup := hkeys
  show (linesGo origin _ _ (opened _ (textBranches origin [])) _).map _ = _
  rw [linesGo_assignments hwords hdone, Option.map_some, settings_opened]
  · rfl
  · simp only [List.length_append, List.length_cons]
    omega

end FileDepot.Config.Toml
