/-
A document sets each key once.

While a document is read its tables are a tree of branches, and every way
to add to the tree puts a key into a table that does not have it, or
replaces what the key stood for by the same with more in it. So the keys
of each table stay distinct (`Branches.Distinct`), through every header
(`distinct_descend`) and every dotted key (`distinct_setDotted`), and an
inline table is a small tree of its own that is finished at its brace
(`distinct_value`).

Lists are left out. What a path of keys leads to is never inside one, and
the rows of a table that is opened several times end up in a list.
-/
import FileDepot.Config.Toml.Document
import Mathlib.Data.List.Nodup

namespace FileDepot.Config

/-- The tables of a setting have each key once, at any depth. -/
inductive Setting.Distinct : Setting → Prop
  | scalar (origin : Option String) (value : Scalar) :
      Distinct (.scalar origin value)
  | list (origin : Option String) (items : List Setting) :
      Distinct (.list origin items)
  | table {entries : Entries} : (entries.map Prod.fst).Nodup →
      (∀ e ∈ entries, Distinct e.2) → Distinct (.table entries)

namespace Toml

/-- The tables below a branch have each key once, those of rows apart. -/
inductive Branch.Distinct : Branch → Prop
  | value {s : Setting} : s.Distinct → Distinct (.value s)
  | table (opening : Opening) {entries : Branches} :
      (entries.map Prod.fst).Nodup → (∀ e ∈ entries, Distinct e.2) →
      Distinct (.table opening entries)
  | rows (newest : Branches) (older : List Branches) :
      Distinct (.rows newest older)

namespace Branches

variable {entries entries' : Branches} {key : String} {branch : Branch}

/-- The keys of a table are distinct, and so are those of all below. -/
structure Distinct (entries : Branches) : Prop where
  keys : (entries.map Prod.fst).Nodup
  below : ∀ e ∈ entries, e.2.Distinct

theorem Distinct.nil : Distinct [] := ⟨List.nodup_nil, nofun⟩

/-- A branch that opens a table is distinct as its entries are. -/
theorem Distinct.table (h : Distinct entries) (opening : Opening) :
    (Branch.table opening entries).Distinct :=
  .table opening h.keys h.below

/-- What a key stands for is one of the entries. -/
theorem mem_of_at? (h : at? key entries = some branch) :
    (key, branch) ∈ entries := by
  induction entries with
  | nil => cases h
  | cons e rest ih =>
    obtain ⟨k, b⟩ := e
    unfold at? at h
    split at h
    · next hk =>
      cases h
      rw [hk]
      exact .head _
    · exact .tail _ (ih h)

/-- What a key stands for in a distinct table is distinct. -/
theorem Distinct.at? (h : Distinct entries)
    (hkey : Branches.at? key entries = some branch) : branch.Distinct :=
  h.below _ (mem_of_at? hkey)

/-- So are the entries of the table it stands for. -/
theorem Distinct.inner {opening : Opening} {inner : Branches}
    (h : Distinct entries)
    (hkey : Branches.at? key entries = some (.table opening inner)) :
    Distinct inner := by
  cases h.at? hkey with
  | table _ hkeys hbelow => exact ⟨hkeys, hbelow⟩

/-- Setting a key adds it to the keys at most. -/
theorem mem_put {e : String × Branch} (h : e ∈ put key branch entries) :
    e = (key, branch) ∨ e ∈ entries := by
  induction entries with
  | nil => exact .inl (List.mem_singleton.mp h)
  | cons e' rest ih =>
    obtain ⟨k, b⟩ := e'
    unfold put at h
    split at h
    · exact (List.mem_cons.mp h).imp_right (.tail _)
    · rcases List.mem_cons.mp h with rfl | hrest
      · exact .inr (.head _)
      · exact (ih hrest).imp_right (.tail _)

/-- Setting a key keeps a table distinct. -/
theorem Distinct.put (h : Distinct entries) (hbranch : branch.Distinct) :
    Distinct (put key branch entries) where
  keys := by
    obtain ⟨hkeys, -⟩ := h
    induction entries with
    | nil => exact List.nodup_singleton key
    | cons e rest ih =>
      obtain ⟨k, b⟩ := e
      obtain ⟨hk, hrest⟩ := List.nodup_cons.mp hkeys
      unfold Branches.put
      split
      · next heq =>
        subst heq
        exact hkeys
      · next hne =>
        refine List.nodup_cons.mpr ⟨fun hmem => ?_, ih hrest⟩
        obtain ⟨e, he, hek⟩ := List.mem_map.mp hmem
        rcases mem_put he with rfl | he
        · exact hne hek.symm
        · exact hk (List.mem_map.mpr ⟨e, he, hek⟩)
  below := by
    intro e he
    rcases mem_put he with rfl | he
    · exact hbranch
    · exact h.below e he

-- ============================================================ changes

/-- A change of the table that headers lead to keeps the whole
distinct, if it keeps that table so. -/
theorem distinct_descend {change : Branches → Option Branches}
    (hchange : ∀ {es es'}, Distinct es → change es = some es' →
      Distinct es')
    {path : List String} (h : Distinct entries)
    (hdescend : descend change path entries = some entries') :
    Distinct entries' := by
  induction path generalizing entries entries' with
  | nil => exact hchange h hdescend
  | cons key path ih =>
    unfold descend at hdescend
    split at hdescend
    · obtain ⟨inner, hinner, hput⟩ := Option.bind_eq_some_iff.mp hdescend
      cases hput
      exact h.put ((ih .nil hinner).table _)
    · next opening old hkey =>
      obtain ⟨inner, hinner, hput⟩ := Option.bind_eq_some_iff.mp hdescend
      cases hput
      exact h.put ((ih (h.inner hkey) hinner).table _)
    · obtain ⟨newest, -, hput⟩ := Option.bind_eq_some_iff.mp hdescend
      cases hput
      exact h.put (.rows ..)
    · cases hdescend

theorem distinct_openTable (h : Distinct entries)
    (hopen : openTable key entries = some entries') :
    Distinct entries' := by
  unfold openTable at hopen
  split at hopen
  · cases hopen
    exact h.put (Distinct.nil.table _)
  · next inner hkey =>
    cases hopen
    exact h.put ((h.inner hkey).table _)
  · cases hopen

theorem distinct_openRow (h : Distinct entries)
    (hopen : openRow key entries = some entries') : Distinct entries' := by
  unfold openRow at hopen
  split at hopen
  · cases hopen
    exact h.put (.rows ..)
  · cases hopen
    exact h.put (.rows ..)
  · cases hopen

/-- A dotted key keeps a table distinct. -/
theorem distinct_setDotted {s : Setting} (hs : s.Distinct)
    {path : List String} (h : Distinct entries)
    (hset : setDotted s path entries = some entries') :
    Distinct entries' := by
  induction path generalizing entries entries' with
  | nil => cases hset
  | cons key path ih =>
    cases path with
    | nil =>
      unfold setDotted setNew at hset
      split at hset
      · cases hset
        exact h.put (.value hs)
      · cases hset
    | cons next path =>
      unfold setDotted at hset
      split at hset
      · obtain ⟨inner, hinner, hput⟩ := Option.bind_eq_some_iff.mp hset
        cases hput
        exact h.put ((ih .nil hinner).table _)
      · next opening old hkey =>
        split at hset
        · cases hset
        · obtain ⟨inner, hinner, hput⟩ := Option.bind_eq_some_iff.mp hset
          cases hput
          exact h.put ((ih (h.inner hkey) hinner).table _)
      · split at hset
        · cases hset
        · obtain ⟨newest, -, hput⟩ := Option.bind_eq_some_iff.mp hset
          cases hput
          exact h.put (.rows ..)
      · cases hset

-- =========================================================== settings

/-- The settings of a table are those of its branches. -/
theorem settings_eq_map (origin : Option String) (entries : Branches) :
    settings origin entries
      = entries.map fun e => (e.1, e.2.setting origin) := by
  induction entries with
  | nil => rfl
  | cons e rest ih => rw [settings, ih]; rfl

end Branches

/-- A distinct branch becomes a distinct setting. -/
theorem Branch.Distinct.setting {branch : Branch} (h : branch.Distinct)
    (origin : Option String) : (branch.setting origin).Distinct := by
  induction h with
  | value hs => exact hs
  | table opening hkeys _ ih =>
    unfold Branch.setting
    rw [Branches.settings_eq_map]
    refine .table ?_ ?_
    · rwa [List.map_map]
    · intro e he
      obtain ⟨e', he', rfl⟩ := List.mem_map.mp he
      exact ih e' he'
  | rows newest older =>
    unfold Branch.setting
    exact .list ..

/-- A distinct table of branches becomes a distinct table. -/
theorem Branches.Distinct.settings {entries : Branches} (h : Distinct entries)
    (origin : Option String) :
    (Setting.table (Branches.settings origin entries)).Distinct :=
  (h.table .header).setting origin

-- ============================================================= values

/-- An inline table sets each key once. -/
theorem distinct_inlineGo {item : Reader Setting}
    (hitem : ∀ {cs s rest}, item cs = some (s, rest) → s.Distinct) {n : Nat}
    {entries entries' : Branches} {cs rest : List Char}
    (h : entries.Distinct)
    (hread : inlineGo item n entries cs = some (entries', rest)) :
    entries'.Distinct := by
  induction n generalizing entries cs with
  | zero => cases hread
  | succ n ih =>
    unfold inlineGo at hread
    obtain ⟨cs', -, hread⟩ := Option.bind_eq_some_iff.mp hread
    split at hread
    · cases hread
      exact h
    · obtain ⟨⟨path, rest₁⟩, -, hread⟩ := Option.bind_eq_some_iff.mp hread
      obtain ⟨rest₂, -, hread⟩ := Option.bind_eq_some_iff.mp hread
      obtain ⟨⟨s, rest₃⟩, hs, hread⟩ := Option.bind_eq_some_iff.mp hread
      obtain ⟨more, hmore, hread⟩ := Option.bind_eq_some_iff.mp hread
      obtain ⟨rest₄, -, hread⟩ := Option.bind_eq_some_iff.mp hread
      have hmore := Branches.distinct_setDotted (hitem hs) h hmore
      split at hread
      · cases hread
        exact hmore
      · exact ih hmore hread
      · cases hread

/-- What can be read as a value: a scalar, a list, or an inline table of
values that are nested less deep. -/
theorem value_cases {origin : Option String} {depth : Nat}
    {cs rest : List Char} {s : Setting}
    (h : value origin depth cs = some (s, rest)) :
    (∃ v, s = .scalar origin v) ∨ (∃ items, s = .list origin items)
      ∨ ∃ inner n cs' entries, depth = inner + 1
        ∧ inlineGo (value origin inner) n [] cs' = some (entries, rest)
        ∧ s = .table (Branches.settings origin entries) := by
  unfold value at h
  split at h
  · cases h
  · next c cs =>
    split at h
    · obtain ⟨⟨t, rest₁⟩, -, h⟩ := Option.bind_eq_some_iff.mp h
      cases h
      exact .inl ⟨_, rfl⟩
    · split at h
      · split at h
        · cases h
        · obtain ⟨⟨items, rest₁⟩, -, h⟩ := Option.bind_eq_some_iff.mp h
          cases h
          exact .inr (.inl ⟨_, rfl⟩)
      · split at h
        · split at h
          · cases h
          · obtain ⟨⟨entries, rest₁⟩, hread, h⟩ :=
              Option.bind_eq_some_iff.mp h
            cases h
            exact .inr (.inr ⟨_, _, _, _, rfl, hread, rfl⟩)
        · obtain ⟨v, -, h⟩ := Option.bind_eq_some_iff.mp h
          cases h
          exact .inl ⟨_, rfl⟩

/-- Every value has each key once. -/
theorem distinct_value {origin : Option String} {depth : Nat}
    {cs rest : List Char} {s : Setting}
    (h : value origin depth cs = some (s, rest)) : s.Distinct := by
  induction depth generalizing cs s rest with
  | zero =>
    obtain ⟨v, rfl⟩ | ⟨items, rfl⟩ | ⟨inner, -, -, -, hdepth, -⟩ :=
      value_cases h
    · exact .scalar ..
    · exact .list ..
    · cases hdepth
  | succ depth ih =>
    obtain ⟨v, rfl⟩ | ⟨items, rfl⟩ | ⟨inner, n, cs', entries, hdepth, hread, rfl⟩ :=
      value_cases h
    · exact .scalar ..
    · exact .list ..
    · cases hdepth
      exact (distinct_inlineGo ih .nil hread).settings origin

-- ========================================================== documents

/-- Every document sets each key once. -/
theorem distinct_linesGo {origin : Option String} {n : Nat}
    {current : List String} {tree tree' : Branches} {cs : List Char}
    (h : tree.Distinct)
    (hread : linesGo origin n current tree cs = some tree') :
    tree'.Distinct := by
  induction n generalizing current tree cs with
  | zero => cases hread
  | succ n ih =>
    unfold linesGo at hread
    obtain ⟨cs', -, hread⟩ := Option.bind_eq_some_iff.mp hread
    split at hread
    · cases hread
      exact h
    · obtain ⟨⟨⟨path, row⟩, rest₁⟩, -, hread⟩ :=
        Option.bind_eq_some_iff.mp hread
      obtain ⟨last, -, hread⟩ := Option.bind_eq_some_iff.mp hread
      obtain ⟨more, hmore, hread⟩ := Option.bind_eq_some_iff.mp hread
      obtain ⟨rest₂, -, hread⟩ := Option.bind_eq_some_iff.mp hread
      refine ih (Branches.distinct_descend (fun {es es'} hes hopen => ?_) h
        hmore) hread
      cases row with
      | true => exact Branches.distinct_openRow hes hopen
      | false => exact Branches.distinct_openTable hes hopen
    · obtain ⟨⟨path, rest₁⟩, -, hread⟩ := Option.bind_eq_some_iff.mp hread
      obtain ⟨rest₂, -, hread⟩ := Option.bind_eq_some_iff.mp hread
      obtain ⟨⟨s, rest₃⟩, hs, hread⟩ := Option.bind_eq_some_iff.mp hread
      obtain ⟨more, hmore, hread⟩ := Option.bind_eq_some_iff.mp hread
      obtain ⟨rest₄, -, hread⟩ := Option.bind_eq_some_iff.mp hread
      exact ih (Branches.distinct_descend
        (Branches.distinct_setDotted (distinct_value hs)) h hmore) hread

/-- The table of a document has each key once, at any depth. -/
theorem distinct_parse {origin : Option String} {text : String}
    {entries : Entries} (h : parse origin text = some entries) :
    (Setting.table entries).Distinct := by
  unfold parse at h
  obtain ⟨tree, htree, rfl⟩ := Option.map_eq_some_iff.mp h
  exact (distinct_linesGo .nil htree).settings origin

end Toml

end FileDepot.Config
