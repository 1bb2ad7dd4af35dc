/-
The variables that set keys of the depot's table.

The name of such a variable is the path of its key written in capitals or
not, with two underscores where the path has dots. A single underscore
stays, so that a key of several words is still one key: two in a row are
what tells names apart, and a key has none (`IsKeyName`). Read back, the
name of a variable is a key (`key_of_sets`) whose path leads to the
setting and nowhere else (`keyPath_key`).
-/
import FileDepot.Config.Environment
import FileDepot.Depot.Settings
import FileDepot.Proofs.Placing

namespace FileDepot

-- ============================================================== paths

namespace Config

/-- A word: a name that a path spells as it is. -/
def IsWord (name : String) : Prop :=
  name.toList ≠ [] ∧ ∀ c ∈ name.toList, Step.isNamePart c = true

instance (name : String) : Decidable (IsWord name) :=
  decidable_of_iff
    (name.toList ≠ [] ∧ name.toList.all Step.isNamePart = true)
    (and_congr Iff.rfl List.all_eq_true)

/-- Words behind dots. -/
def behindDots (names : List String) : List Char :=
  names.flatMap fun name => '.' :: name.toList

/-- What a dot follows is a whole word. -/
theorem takeWhile_word {name : String} (h : IsWord name)
    (names : List String) :
    (name.toList ++ behindDots names).takeWhile Step.isNamePart = name.toList
      ∧ (name.toList ++ behindDots names).dropWhile Step.isNamePart
        = behindDots names := by
  rw [List.takeWhile_append_of_pos h.2, List.dropWhile_append_of_pos h.2]
  cases names with
  | nil => exact ⟨List.append_nil _, rfl⟩
  | cons next names => exact ⟨List.append_nil _, rfl⟩

/-- The steps behind the first name are the words between dots. -/
theorem further_behindDots {names : List String}
    (h : ∀ name ∈ names, IsWord name) {n : Nat}
    (hn : (behindDots names).length ≤ n) :
    Step.further n (behindDots names) = some (names.map .name) := by
  induction names generalizing n with
  | nil => cases n <;> rfl
  | cons name names ih =>
    obtain ⟨hname, hnames⟩ := List.forall_mem_cons.mp h
    obtain ⟨htake, hdrop⟩ := takeWhile_word hname names
    have hcons : behindDots (name :: names)
        = '.' :: (name.toList ++ behindDots names) := rfl
    rw [hcons, List.length_cons, List.length_append] at hn
    obtain ⟨m, rfl⟩ : ∃ m, n = m + 1 := ⟨n - 1, by omega⟩
    rw [hcons, Step.further, if_pos rfl]
    dsimp only
    rw [htake, hdrop, if_neg hname.1, ih hnames (by omega),
      String.ofList_toList]
    rfl

/-- Words joined by dots spell the path of those words. -/
theorem keyPath_behindDots {name key : String} {names : List String}
    (h : ∀ word ∈ name :: names, IsWord word)
    (hkey : key.toList = name.toList ++ behindDots names) :
    keyPath key = (name :: names).map .name := by
  obtain ⟨hname, hnames⟩ := List.forall_mem_cons.mp h
  obtain ⟨htake, hdrop⟩ := takeWhile_word hname names
  have hlength : (behindDots names).length ≤ key.toList.length := by
    rw [hkey, List.length_append]
    omega
  unfold keyPath
  dsimp only
  rw [hkey, htake, hdrop, if_neg hname.1, ← hkey,
    further_behindDots hnames hlength, String.ofList_toList]
  rfl

end Config

-- ========================================================== variables

namespace Settings

/-- The path of a setting. -/
def path (name : String) : List String := ["storage", "dfs", "db", name]

theorem path_ne_nil (name : String) : path name ≠ [] :=
  List.cons_ne_nil _ _

/-- A setting that is put under its path is found, and the others stay. -/
theorem setting_put (name other : String) (v : Config.Setting)
    (config : Config.Entries) :
    setting? (Config.put (path name) v config) other
      = if name = other then some v else setting? config other := by
  have hlength : (path name).length = (path other).length := rfl
  show Config.find? (path other) _ = _
  rw [Config.find_put (path_ne_nil name) hlength]
  by_cases h : name = other
  · rw [if_pos h, if_pos (by rw [h])]
  · rw [if_neg h, if_neg (by simpa [path] using h)]
    rfl

/-- What the names of the variables start with that set keys of the
table. -/
def variableStart : String := "blobvault__storage__dfs__db__"

/-- A name of a key that a variable can spell: a word without two
underscores in a row. -/
structure IsKeyName (name : String) : Prop where
  word : Config.IsWord name
  single : ¬['_', '_'] <:+: name.toList

/-- The names of the settings. -/
def names : List String :=
  ["driver", "url", "username", "password", "auto_create_table",
    "table_name", "max_file_bytes", "download_chunk_bytes",
    "atomic_overwrite", "busy_timeout_ms", "connection_timeout_ms"]

/-- Every setting has a name that a variable can spell. -/
theorem isKeyName_of_mem {name : String} (h : name ∈ names) :
    IsKeyName name := by
  have hall : ∀ name ∈ names,
      Config.IsWord name ∧ ¬['_', '_'] <:+: name.toList := by
    decide +kernel
  obtain ⟨hword, hsingle⟩ := hall name h
  exact ⟨hword, hsingle⟩

/-- The key of a setting spells its path. -/
theorem keyPath_key {name : String} (h : IsKeyName name) :
    Config.keyPath (key name) = (path name).map .name := by
  have hwords : ∀ word ∈ path name, Config.IsWord word := by
    have hfixed : ∀ word ∈ ["storage", "dfs", "db"], Config.IsWord word := by
      decide +kernel
    simp only [List.forall_mem_cons] at hfixed
    simp only [path, List.forall_mem_cons]
    exact ⟨hfixed.1, hfixed.2.1, hfixed.2.2.1, h.word, nofun⟩
  have hkey : (key name).toList
      = "storage".toList ++ Config.behindDots ["dfs", "db", name] := by
    have hfixed : "storage.dfs.db.".toList = "storage".toList
        ++ '.' :: ("dfs".toList ++ '.' :: ("db".toList ++ ['.'])) := by
      decide +kernel
    show ("storage.dfs.db." ++ name).toList = _
    rw [String.toList_append, hfixed]
    simp [Config.behindDots]
  exact Config.keyPath_behindDots hwords hkey

end Settings

namespace Config.Environment

open Settings (IsKeyName)

/-- Nothing is a dot where no two underscores meet. -/
theorem dotted_of_single {cs : List Char} (h : ¬['_', '_'] <:+: cs) :
    dotted cs = cs := by
  fun_induction dotted cs with
  | case1 rest ih => exact absurd ⟨[], rest, rfl⟩ h
  | case2 c rest _ ih =>
    rw [ih fun hrest => h (hrest.trans (List.suffix_cons c rest).isInfix)]
  | case3 => rfl

/-- A variable, with its value, sets a key of the table. Its name is
compared in lower case. -/
def Sets (name : String) (binding : String × String) : Prop :=
  Text.lower binding.1 = Settings.variableStart ++ name

instance (name : String) (binding : String × String) :
    Decidable (Sets name binding) :=
  inferInstanceAs (Decidable (_ = _))

/-- Such a variable belongs to the source, and its key goes on as the
path of the table does. -/
theorem key_of_sets {name : String} {binding : String × String}
    (h : Sets name binding) :
    key? binding.1
      = some (String.ofList
          ("storage.dfs.db.".toList ++ dotted name.toList)) := by
  have hmarker : marker = "blobvault__".toList := by decide +kernel
  have hstart : Settings.variableStart.toList
      = "blobvault__".toList ++ "storage__dfs__db__".toList := by
    decide +kernel
  have hcs : (Text.lower binding.1).toList
      = marker ++ ("storage__dfs__db__".toList ++ name.toList) := by
    rw [h, String.toList_append, hstart, hmarker, List.append_assoc]
  unfold key?
  dsimp only
  rw [hcs, if_pos (by simp), List.drop_left]
  rfl

/-- Of a name that a variable can spell the key is that of the
setting. -/
theorem key_of_isKeyName {name : String} (hname : IsKeyName name)
    {binding : String × String} (h : Sets name binding) :
    key? binding.1 = some (Settings.key name) := by
  rw [key_of_sets h, dotted_of_single hname.single, ← String.toList_append,
    String.ofList_toList]
  rfl

end Config.Environment

end FileDepot
