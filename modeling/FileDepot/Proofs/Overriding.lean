/-
The environment overrides the file key by key.

A variable of the table is laid over what the file configures as one
scalar under one path, and two variables that are not the same have
different paths. So each is found under its key whatever the order they
come in, and every other key is left as it was (`setting_overlay`). No
more is asked of the file: where a path leads through something else than
a table nothing was configured, and a table takes its place.

What a file configures by itself is its own tree, as soon as none of its
keys is read as a path into the table (`setting_overlay_nil`).
-/
import FileDepot.Config.Source
import FileDepot.Proofs.Resolving
import FileDepot.Proofs.Toml.Written
import FileDepot.Proofs.Utf8

namespace FileDepot

-- ========================================================== variables

namespace Config.Environment

open Settings (IsKeyName path setting?)

variable {name other : String} {binding : String × String}
  {bindings : List (String × String)}

/-- The variables that belong to the source. -/
def owned (bindings : List (String × String)) : List (String × String) :=
  bindings.filter fun b => (key? b.1).isSome

/-- All variables of the source set keys of the table, and no two have the
same name in lower case. -/
structure SetsKeys (bindings : List (String × String)) : Prop where
  named : ∀ b ∈ owned bindings, ∃ name, IsKeyName name ∧ Sets name b
  distinct : ((owned bindings).map fun b => Text.lower b.1).Nodup

/-- The text of the variable that sets a key. -/
def textOf? (name : String) (bindings : List (String × String)) :
    Option String :=
  (bindings.find? fun b => decide (Sets name b)).map (·.2)

/-- A variable sets one key only. -/
theorem Sets.unique (h : Sets name binding) (h' : Sets other binding) :
    name = other := by
  have heq : Settings.variableStart ++ name
      = Settings.variableStart ++ other := h.symm.trans h'
  rw [← String.toList_inj, String.toList_append, String.toList_append] at heq
  exact String.toList_inj.mp (List.append_cancel_left heq)

/-- A variable that does not belong to the source is passed over. -/
theorem owned_cons_of_none (h : key? binding.1 = none)
    (bindings : List (String × String)) :
    owned (binding :: bindings) = owned bindings
      ∧ entries (binding :: bindings) = entries bindings
      ∧ ∀ name, textOf? name (binding :: bindings)
        = textOf? name bindings := by
  refine ⟨?_, ?_, fun name => ?_⟩
  · unfold owned
    rw [List.filter_cons_of_neg (by rw [h]; exact Bool.false_ne_true)]
  · unfold entries
    rw [List.filterMap_cons_none]
    show (key? binding.1).map _ = none
    rw [h]
    rfl
  · have hnot : ¬Sets name binding := by
      intro hsets
      rw [key_of_sets hsets] at h
      cases h
    unfold textOf?
    rw [List.find?_cons_of_neg (by simpa using hnot)]

/-- A variable of the source comes first among those that belong to
it. -/
theorem owned_cons_of_sets (h : Sets name binding)
    (bindings : List (String × String)) :
    owned (binding :: bindings) = binding :: owned bindings := by
  unfold owned
  rw [List.filter_cons_of_pos (by rw [key_of_sets h]; rfl)]

/-- Behind the variable of a key no other one sets it. -/
theorem SetsKeys.textOf_of_sets (h : SetsKeys (binding :: bindings))
    (hsets : Sets name binding) : textOf? name bindings = none := by
  have hdistinct := h.distinct
  rw [owned_cons_of_sets hsets, List.map_cons] at hdistinct
  unfold textOf?
  rw [Option.map_eq_none_iff, List.find?_eq_none]
  intro b hb hsets'
  have hsets' : Sets name b := of_decide_eq_true hsets'
  refine (List.nodup_cons.mp hdistinct).1 (List.mem_map.mpr ⟨b, ?_, ?_⟩)
  · exact List.mem_filter.mpr ⟨hb, by rw [key_of_sets hsets']; rfl⟩
  · exact hsets'.trans hsets.symm

/-- The variables behind another one are of the same kind. -/
theorem SetsKeys.tail (h : SetsKeys (binding :: bindings)) :
    SetsKeys bindings := by
  have hsub : (owned bindings).Sublist (owned (binding :: bindings)) :=
    (List.sublist_cons_self binding bindings).filter _
  exact ⟨fun b hb => h.named b (hsub.subset hb),
    h.distinct.sublist (hsub.map _)⟩

/-- The first variable, if it belongs to the source, sets a key. -/
theorem SetsKeys.head (h : SetsKeys (binding :: bindings)) :
    key? binding.1 = none ∨ ∃ name, IsKeyName name ∧ Sets name binding := by
  cases hkey : key? binding.1 with
  | none => exact .inl rfl
  | some key =>
    refine .inr (h.named binding (List.mem_filter.mpr ⟨.head _, ?_⟩))
    rw [hkey]
    rfl

/-- What a variable puts where. -/
theorem overlay_entries_cons (hname : IsKeyName name)
    (hsets : Sets name binding) (bindings : List (String × String))
    (base : Entries) :
    overlay (entries (binding :: bindings)) base
      = overlay (entries bindings)
        (put (path name) (.scalar (some origin) (scalar binding.2))
          base) := by
  have hentries : entries (binding :: bindings)
      = (Settings.key name, .scalar (some origin) (scalar binding.2))
        :: entries bindings := by
    unfold entries
    rw [List.filterMap_cons_some]
    show (key? binding.1).map _ = _
    rw [key_of_isKeyName hname hsets]
    rfl
  rw [hentries]
  unfold overlay
  rw [List.foldl_cons, Settings.keyPath_key hname,
    layAt_names (Settings.path_ne_nil name)]
  rfl

/-- What is found after the environment is laid over a configuration: for
each key the value of its variable, if one sets it, and else what was
there. -/
theorem setting_overlay (h : SetsKeys bindings) (base : Entries)
    (name : String) :
    setting? (overlay (entries bindings) base) name
      = match textOf? name bindings with
        | some text => some (.scalar (some origin) (scalar text))
        | none => setting? base name := by
  induction bindings generalizing base with
  | nil => rfl
  | cons b rest ih =>
    obtain hnone | ⟨other, hother, hsets⟩ := h.head
    · obtain ⟨-, hentries, htext⟩ := owned_cons_of_none hnone rest
      rw [hentries, htext, ih h.tail]
    · -- the variable is laid first; that no later one sets its key again
      -- is what keeps its value
      rw [overlay_entries_cons hother hsets, ih h.tail]
      by_cases hname : other = name
      · subst hname
        have hfirst : textOf? other (b :: rest) = some b.2 := by
          unfold textOf?
          rw [List.find?_cons_of_pos (by simpa using hsets)]
          rfl
        rw [h.textOf_of_sets hsets, hfirst]
        dsimp only
        rw [Settings.setting_put, if_pos rfl]
      · have hlater : textOf? name (b :: rest) = textOf? name rest := by
          unfold textOf?
          rw [List.find?_cons_of_neg]
          simpa using fun hsets' => hname (hsets.unique hsets')
        rw [hlater, Settings.setting_put, if_neg hname]

end Config.Environment

-- ============================================================== files

namespace Config

/-- What loading takes from the file of a path: nothing where no path is
given, the tree of the file, or nothing where the file is missing and not
required. -/
inductive Supplies (files : FileTree) :
    Option String → Bool → Entries → Prop
  | noPath (required : Bool) : Supplies files none required []
  | found {path : String} {file : Entries} (required : Bool) :
      fileEntries files path = .ok file →
      Supplies files (some path) required file
  | missing {path : String} : fileEntries files path = .error .missing →
      Supplies files (some path) false []

namespace Supplies

variable {files : FileTree} {path : Option String} {required : Bool}
  {file : Entries}

/-- What is loaded then is the environment over the file. -/
theorem loadFrom (h : Supplies files path required file)
    (bindings : List (String × String)) :
    Config.loadFrom files bindings path required
      = .ok (overlay (Environment.entries bindings) (overlay file [])) := by
  unfold Config.loadFrom
  cases h with
  | noPath => rfl
  | found required hfile =>
    dsimp only
    rw [hfile]
    rfl
  | missing hfile =>
    dsimp only
    rw [hfile]
    rfl

/-- The tree of a file has each key once. -/
theorem distinct (h : Supplies files path required file) :
    (Setting.table file).Distinct := by
  have hnil : (Setting.table []).Distinct := .table List.nodup_nil nofun
  cases h with
  | noPath => exact hnil
  | missing hfile => exact hnil
  | found required hfile =>
    unfold fileEntries at hfile
    split at hfile
    · cases hfile
    · split at hfile
      · cases hfile
      · split at hfile
        · cases hfile
        · next hparse =>
          cases hfile
          exact Toml.distinct_parse hparse

end Supplies

/-- The file of a path is the table of the settings, written with some
texts. -/
structure Tabled (files : FileTree) (path : String)
    (fields : List (String × String)) : Prop where
  words : ∀ f ∈ fields, IsWord f.1
  keys : (fields.map Prod.fst).Nodup
  read : ∃ found, findFile files path = some found
    ∧ files.read found
      = .ok (Toml.written "storage" ["dfs", "db"] fields).toUTF8.toList

/-- The entries of such a file. -/
def tabled (origin : Option String) (fields : List (String × String)) :
    Entries :=
  Toml.nested ["storage", "dfs", "db"] (Toml.textEntries origin fields)

/-- A file of written texts supplies those very texts. -/
theorem Tabled.supplies {files : FileTree} {path : String}
    {fields : List (String × String)} (h : Tabled files path fields)
    (required : Bool) :
    ∃ origin, Supplies files (some path) required (tabled origin fields) := by
  obtain ⟨found, hfound, hread⟩ := h.read
  have hpath : ∀ word ∈ ["storage", "dfs", "db"], IsWord word := by
    decide +kernel
  have hparse := Toml.parse_written hpath h.words h.keys
    (some (fileOrigin files found))
  refine ⟨some (fileOrigin files found), .found required ?_⟩
  unfold Toml.written at hread hparse
  rw [Text.toUTF8_ofList] at hread
  have hmark : ∀ cs : List Char,
      withoutMark (('[' :: cs).flatMap String.utf8EncodeChar)
        = ('[' :: cs).flatMap String.utf8EncodeChar := fun _ => rfl
  unfold fileEntries
  rw [hfound]
  dsimp only
  rw [hread]
  dsimp only
  rw [hmark, Text.ofBytes_utf8, hparse]
  rfl

end Config

namespace Settings

open Config (StandsAlone)

/-- By itself a file configures what its tree holds, where no key of it is
read as a path into the table. -/
theorem setting_overlay_nil {file : Config.Entries}
    (hdistinct : (Config.Setting.table file).Distinct)
    (halone : StandsAlone "storage" file) (name : String) :
    setting? (Config.overlay file []) name = setting? file name := by
  have hbelow : ∀ entries, setting? entries name
      = Config.find? ["dfs", "db", name]
        ((Config.under? "storage" entries).getD .nil).entries :=
    Config.find_cons _ _ _
  rw [hbelow, hbelow, Config.under_overlay hdistinct halone rfl]

/-- A file of written texts is all about the table of the settings. -/
theorem standsAlone_tabled (origin : Option String)
    (fields : List (String × String)) :
    StandsAlone "storage" (Config.tabled origin fields) where
  path := by decide +kernel
  others e he _ := by rw [List.mem_singleton.mp he]

/-- Each setting of such a file holds its text. -/
theorem setting_tabled (origin : Option String)
    (fields : List (String × String)) (name : String) :
    setting? (Config.tabled origin fields) name
      = (fields.lookup name).map fun text => .scalar origin (.text text) := by
  show Config.under? name (Config.Toml.textEntries origin fields) = _
  induction fields with
  | nil => rfl
  | cons f fields ih =>
    obtain ⟨k, text⟩ := f
    show (if k = name then _ else Config.under? name
      (Config.Toml.textEntries origin fields)) = _
    rw [List.lookup_cons]
    by_cases hname : k = name
    · rw [if_pos hname, hname, beq_self_eq_true]
      rfl
    · have hne : (name == k) = false := beq_false_of_ne (Ne.symm hname)
      rw [if_neg hname, hne, ih]

-- ======================================================== replacement

open Config.Environment (textOf? scalar)

/-- A tree with those of some settings replaced that variables set, as
found in some place. -/
def replacedAmong (origin : Option String)
    (bindings : List (String × String)) (tree : Config.Entries)
    (among : List String) : Config.Entries :=
  among.foldr
    (fun name tree =>
      match textOf? name bindings with
      | some text => Config.put (path name) (.scalar origin (scalar text)) tree
      | none => tree)
    tree

/-- A tree with all settings replaced that variables set. -/
def replaced (origin : Option String) (bindings : List (String × String))
    (tree : Config.Entries) : Config.Entries :=
  replacedAmong origin bindings tree names

/-- Of the settings in question those are replaced that variables set, and
everything else stays. -/
theorem setting_replacedAmong (origin : Option String)
    (bindings : List (String × String)) (tree : Config.Entries)
    (among : List String) (name : String) :
    setting? (replacedAmong origin bindings tree among) name
      = match if name ∈ among then textOf? name bindings else none with
        | some text => some (.scalar origin (scalar text))
        | none => setting? tree name := by
  induction among with
  | nil => rfl
  | cons other among ih =>
    unfold replacedAmong at ih ⊢
    rw [List.foldr_cons]
    cases hother : textOf? other bindings with
    | none =>
      dsimp only
      rw [ih]
      by_cases hname : name = other
      · rw [hname, hother, ite_self, ite_self]
      · simp only [List.mem_cons, hname, false_or]
    | some text =>
      dsimp only
      rw [setting_put]
      by_cases hname : other = name
      · rw [if_pos hname, ← hname, if_pos List.mem_cons_self, hother]
      · rw [if_neg hname, ih]
        simp only [List.mem_cons, Ne.symm hname, false_or]

end Settings

-- =========================================================== overriding

namespace Config

open Environment (SetsKeys textOf? scalar)
open Settings (setting? replaced SameUnder)

/-- A configuration is a tree with the keys overridden that variables set:
each key holds the value of its variable, if one sets it, and else what
the tree holds. It resolves as the tree does with those keys replaced,
wherever their values are said to be found. -/
structure Overrides (bindings : List (String × String))
    (tree config : Entries) : Prop where
  keys : ∀ name, setting? config name
    = match textOf? name bindings with
      | some text => some (.scalar (some Environment.origin) (scalar text))
      | none => setting? tree name
  resolved : ∀ origin, Alike (Settings.resolve config)
    (Settings.resolve (replaced origin bindings tree))

/-- What the keys hold decides what they resolve to. -/
theorem Overrides.of_keys {bindings : List (String × String)}
    {tree config : Entries}
    (h : ∀ name, setting? config name
      = match textOf? name bindings with
        | some text => some (.scalar (some Environment.origin) (scalar text))
        | none => setting? tree name) : Overrides bindings tree config := by
  refine ⟨h, fun origin => Settings.resolve_alike fun name hname => ?_⟩
  unfold SameUnder replaced
  rw [h, Settings.setting_replacedAmong, if_pos hname]
  cases textOf? name bindings with
  | none => rfl
  | some text => rfl

/-- Where no variable sets a key, a configuration resolves as the tree. -/
theorem Overrides.alike {bindings : List (String × String)}
    {tree config : Entries} (h : Overrides bindings tree config)
    (hnone : ∀ name, textOf? name bindings = none) :
    Alike (Settings.resolve config) (Settings.resolve tree) := by
  refine Settings.resolve_alike fun name _ => ?_
  unfold SameUnder
  rw [h.keys, hnone]

/-- Variables override what a file configures by itself. -/
theorem overrides_alone {bindings : List (String × String)}
    (hvars : SetsKeys bindings) (file : Entries) :
    Overrides bindings (overlay file [])
      (overlay (Environment.entries bindings) (overlay file [])) :=
  .of_keys (Environment.setting_overlay hvars (overlay file []))

/-- They override the tree of the file, where no key of it is read as a
path into the table. -/
theorem overrides_file {bindings : List (String × String)}
    (hvars : SetsKeys bindings) {file : Entries}
    (hdistinct : (Setting.table file).Distinct)
    (halone : StandsAlone "storage" file) :
    Overrides bindings file
      (overlay (Environment.entries bindings) (overlay file [])) := by
  refine .of_keys fun name => ?_
  rw [(overrides_alone hvars file).keys,
    Settings.setting_overlay_nil hdistinct halone]

/-- The environment overrides the file key by key. Whatever the file holds,
and nothing where it is missing and need not be there, loading it under
variables that each set a key of their own overrides in what the file
configures by itself the keys that are set, and no other. That is the tree
of the file, where no key but "storage" is read as a path below it. -/
theorem environment_overrides {files : FileTree}
    {bindings : List (String × String)} {path : Option String}
    {required : Bool} {file : Entries}
    (hfile : Supplies files path required file)
    (hvars : SetsKeys bindings) :
    ∃ base config, loadFrom files [] path required = .ok base
      ∧ loadFrom files bindings path required = .ok config
      ∧ Overrides bindings base config
      ∧ (StandsAlone "storage" file → Overrides bindings file config) :=
  ⟨_, _, hfile.loadFrom [], hfile.loadFrom bindings,
    overrides_alone hvars file, overrides_file hvars hfile.distinct⟩

/-- A url and a password. -/
def oneTable : List (String × String) :=
  [("url", "a.db"), ("password", "old")]

/-- A directory with one configuration file. -/
def oneFile : FileTree where
  nodes := [(["c.toml"], .file
    (Toml.written "storage" ["dfs", "db"] oneTable).toUTF8.toList)]

theorem tabled_oneFile : Tabled oneFile "c.toml" oneTable where
  words := by decide +kernel
  keys := by decide
  read := ⟨"/c.toml", by decide +kernel, rfl⟩

/-- The name of the variable of the password. -/
def passwordVariable : String := "BLOBVAULT__STORAGE__DFS__DB__PASSWORD"

/-- The variable of the password with a text, and one of another
program. -/
def onePassword (text : String) : List (String × String) :=
  [(passwordVariable, text), ("HOME", "/root")]

/-- It sets the password and nothing else. -/
theorem setsKeys_onePassword (text : String) :
    SetsKeys (onePassword text)
      ∧ ∀ name, textOf? name (onePassword text)
        = if name = "password" then some text else none := by
  have hname : Text.lower passwordVariable
      = Settings.variableStart ++ "password" := by
    decide +kernel
  have hsets : Environment.Sets "password" (passwordVariable, text) := hname
  have hhome : Environment.key? ("HOME", "/root").1 = none := by
    decide +kernel
  obtain ⟨hnone, -, htext⟩ := Environment.owned_cons_of_none hhome []
  have howned : Environment.owned (onePassword text)
      = [(passwordVariable, text)] := by
    unfold onePassword
    rw [Environment.owned_cons_of_sets hsets, hnone]
    rfl
  refine ⟨⟨fun b hb => ?_, ?_⟩, fun name => ?_⟩
  · rw [howned] at hb
    cases List.mem_singleton.mp hb
    exact ⟨"password", Settings.isKeyName_of_mem (by decide), hsets⟩
  · rw [howned]
    exact List.nodup_singleton _
  · by_cases hpassword : name = "password"
    · rw [if_pos hpassword, hpassword]
      unfold textOf? onePassword
      rw [List.find?_cons_of_pos (by simpa using hsets)]
      rfl
    · have hhome : textOf? name [("HOME", "/root")] = none := htext name
      rw [if_neg hpassword, ← hhome]
      unfold textOf? onePassword
      rw [List.find?_cons_of_neg]
      simpa using fun h => hpassword (Environment.Sets.unique h hsets)

/-- The variable of one key overrides it in the file, and the other key of
the table stays. -/
theorem environment_overrides_onePassword :
    ∃ origin config,
      Supplies oneFile (some "c.toml") true (tabled origin oneTable)
      ∧ SetsKeys (onePassword "new")
      ∧ loadFrom oneFile (onePassword "new") (some "c.toml") true
        = .ok config
      ∧ Overrides (onePassword "new") (tabled origin oneTable) config
      ∧ setting? config "password"
        = some (.scalar (some Environment.origin) (.text "new"))
      ∧ setting? config "url" = some (.scalar origin (.text "a.db")) := by
  obtain ⟨origin, hfile⟩ := tabled_oneFile.supplies true
  obtain ⟨hvars, htext⟩ := setsKeys_onePassword "new"
  obtain ⟨base, config, -, hconfig, -, hover⟩ :=
    environment_overrides hfile hvars
  have hover := hover (Settings.standsAlone_tabled origin oneTable)
  have hscalar : scalar "new" = .text "new" := by decide +kernel
  refine ⟨origin, config, hfile, hvars, hconfig, hover, ?_, ?_⟩
  · rw [hover.keys, htext, if_pos rfl, ← hscalar]
  · rw [hover.keys, htext, if_neg (by decide), Settings.setting_tabled]
    rfl

end Config

end FileDepot
