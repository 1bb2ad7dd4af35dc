/-
Where a setting ends up when it is put under a path.

Putting a setting under a path of names changes what that path leads to
and nothing beside it (`find_put`): the tables on the way keep their other
entries, and what is no table on the way held nothing that a path could
lead to. Laying a scalar under a path does just that (`layAt_names`), so
two scalars under paths of one length do not get in each other's way.

A source that is laid over nothing is found again as it is, provided that
its tables have each key once and that its keys stand for themselves
(`under_overlay`).
-/
import FileDepot.Proofs.Layer
import FileDepot.Proofs.Toml.Distinct

namespace FileDepot.Config

-- ============================================================ putting

/-- Puts a setting where a path of names leads, through tables that are
opened where there are none. -/
def put : List String → Setting → Entries → Entries
  | [], _, entries => entries
  | [name], value, entries => setEntry name value entries
  | name :: next :: path, value, entries =>
    setEntry name
      (.table (put (next :: path) value
        ((under? name entries).getD .nil).entries))
      entries

/-- Nothing is found in an empty table. -/
theorem find_nil (name : String) (path : List String) :
    find? (name :: path) [] = none := by
  cases path with
  | nil => rfl
  | cons next path => rfl

/-- A longer path leads through the table of its first name. What is no
table has no entries. -/
theorem find_cons (name next : String) (path : List String)
    (entries : Entries) :
    find? (name :: next :: path) entries
      = find? (next :: path) ((under? name entries).getD .nil).entries := by
  rw [find?]
  · cases under? name entries with
    | none => exact (find_nil next path).symm
    | some v =>
      cases v with
      | scalar origin value => exact (find_nil next path).symm
      | list origin items => exact (find_nil next path).symm
      | table inner => rfl
  · exact List.cons_ne_nil _ _

/-- Under a path of its length there is what was put there, and under
every other one what was there before. -/
theorem find_put {path other : List String} (hpath : path ≠ [])
    (hlength : path.length = other.length) (value : Setting)
    (entries : Entries) :
    find? other (put path value entries)
      = if path = other then some value else find? other entries := by
  induction path generalizing other entries with
  | nil => exact absurd rfl hpath
  | cons name path ih =>
    cases path with
    | nil =>
      obtain ⟨name', rfl⟩ := List.length_eq_one_iff.mp hlength.symm
      show under? name' (setEntry name value entries) = _
      rw [under_setEntry]
      by_cases hname : name = name'
      · rw [if_pos hname, if_pos (by rw [hname])]
      · rw [if_neg hname, if_neg (by simpa using hname)]
        rfl
    | cons next path =>
      match other, hlength with
      | name' :: next' :: path', hlength =>
        have hlength' : (next :: path).length = (next' :: path').length := by
          simpa using hlength
        rw [put, find_cons, find_cons, under_setEntry]
        by_cases hname : name = name'
        · subst hname
          rw [if_pos rfl]
          show find? (next' :: path') (put (next :: path) value _) = _
          rw [ih (List.cons_ne_nil _ _) hlength']
          by_cases hrest : next :: path = next' :: path'
          · rw [if_pos hrest, if_pos (by rw [hrest])]
          · rw [if_neg hrest, if_neg fun h => hrest (List.cons.inj h).2]
        · rw [if_neg hname, if_neg fun h => hname (List.cons.inj h).1]

/-- Laying a scalar over what a path of names leads to puts it there. -/
theorem layAt_names {path : List String} (hpath : path ≠ [])
    (origin : Option String) (v : Scalar) (old : Setting) :
    layAt (.scalar origin v) (path.map .name) old
      = .table (put path (.scalar origin v) old.entries) := by
  induction path generalizing old with
  | nil => exact absurd rfl hpath
  | cons name path ih =>
    rw [List.map_cons, layAt]
    cases path with
    | nil =>
      rw [List.map_nil, layAt, lay]
      rfl
    | cons next path => rw [ih (List.cons_ne_nil _ _), put]

-- ============================================================ sources

/-- A key starts its path with a name. -/
theorem keyPath_eq_cons (key : String) :
    ∃ name steps, keyPath key = .name name :: steps := by
  unfold keyPath
  dsimp only
  split
  · exact ⟨_, _, rfl⟩
  · exact ⟨_, _, rfl⟩

/-- The entries of a source are laid one after another, each under the
first name of its path. -/
theorem overlay_cons {k name : String} {steps : List Step}
    (hpath : keyPath k = .name name :: steps) (v : Setting)
    (rest base : Entries) :
    overlay ((k, v) :: rest) base
      = overlay rest
        (setEntry name (layAt v steps ((under? name base).getD .nil))
          base) := by
  unfold overlay
  rw [List.foldl_cons, hpath]
  rfl

/-- A source of which no key starts a path with a name leaves what is
under it. -/
theorem under_overlay_of_notMem {key : String} {source : Entries}
    (h : ∀ e ∈ source, (keyPath e.1).head? ≠ some (.name key))
    (base : Entries) :
    under? key (overlay source base) = under? key base := by
  induction source generalizing base with
  | nil => rfl
  | cons e rest ih =>
    obtain ⟨k, v⟩ := e
    obtain ⟨hfirst, hrest⟩ := List.forall_mem_cons.mp h
    obtain ⟨name, steps, hpath⟩ := keyPath_eq_cons k
    rw [overlay_cons hpath, ih hrest, under_setEntry, if_neg]
    rintro rfl
    exact hfirst (by rw [hpath]; rfl)

/-- An entry under a new key comes last. -/
theorem setEntry_of_none {key : String} {entries : Entries}
    (h : under? key entries = none) (value : Setting) :
    setEntry key value entries = entries ++ [(key, value)] := by
  induction entries with
  | nil => rfl
  | cons e rest ih =>
    obtain ⟨k, v⟩ := e
    unfold under? at h
    split at h
    · cases h
    · next hk =>
      unfold setEntry
      rw [if_neg hk, ih h]
      rfl

/-- Entries with distinct keys are added to others as they are, where
their values stay as they are and their keys are new. -/
theorem layAll_eq_append {entries old : Entries}
    (hkeys : (entries.map Prod.fst).Nodup)
    (hvalues : ∀ e ∈ entries, lay e.2 .nil = e.2)
    (hnew : ∀ e ∈ entries, under? e.1 old = none) :
    layAll entries old = old ++ entries := by
  induction entries generalizing old with
  | nil => rw [layAll, List.append_nil]
  | cons e rest ih =>
    obtain ⟨k, v⟩ := e
    obtain ⟨hk, hrest⟩ := List.nodup_cons.mp hkeys
    obtain ⟨hv, hvalues⟩ := List.forall_mem_cons.mp hvalues
    obtain ⟨hkold, hnew⟩ := List.forall_mem_cons.mp hnew
    have hnew' : ∀ e ∈ rest, under? e.1 (setEntry k v old) = none := by
      intro e he
      rw [under_setEntry, if_neg, hnew e he]
      rintro rfl
      exact hk (List.mem_map.mpr ⟨e, he, rfl⟩)
    rw [layAll_cons, hkold, Option.getD_none, hv, ih hrest hvalues hnew',
      setEntry_of_none hkold, List.append_assoc, List.singleton_append]

/-- A setting with distinct keys that is laid over nothing stays as it
is. -/
theorem Setting.Distinct.lay_nil {v : Setting} (h : v.Distinct) :
    lay v .nil = v := by
  induction h with
  | scalar origin value => rw [lay]
  | list origin items => rw [lay]
  | table hkeys _ ih =>
    rw [lay, layAll_eq_append hkeys ih fun _ _ => rfl]
    rfl

/-- A name stands for itself in a source: it spells no longer path, and
no other key spells a path that starts with it. -/
structure StandsAlone (name : String) (source : Entries) : Prop where
  path : keyPath name = [.name name]
  others : ∀ e ∈ source, (keyPath e.1).head? = some (.name name) →
    e.1 = name

instance (name : String) (source : Entries) :
    Decidable (StandsAlone name source) :=
  decidable_of_iff
    (keyPath name = [.name name]
      ∧ ∀ e ∈ source, (keyPath e.1).head? = some (.name name) → e.1 = name)
    ⟨fun ⟨path, others⟩ => ⟨path, others⟩, fun ⟨path, others⟩ => ⟨path, others⟩⟩

/-- Under such a name a source that is laid over nothing is found again as
it is. -/
theorem under_overlay {name : String} {source base : Entries}
    (hdistinct : (Setting.table source).Distinct)
    (halone : StandsAlone name source) (hbase : under? name base = none) :
    under? name (overlay source base) = under? name source := by
  induction source generalizing base with
  | nil => exact hbase
  | cons e rest ih =>
    obtain ⟨k, v⟩ := e
    cases hdistinct with
    | table hkeys hvalues =>
    obtain ⟨hk, hkeys⟩ := List.nodup_cons.mp hkeys
    obtain ⟨hv, hvalues⟩ := List.forall_mem_cons.mp hvalues
    obtain ⟨hfirst, hothers⟩ := List.forall_mem_cons.mp halone.others
    obtain ⟨name', steps, hpath⟩ := keyPath_eq_cons k
    rw [overlay_cons hpath, under?]
    by_cases hname : k = name
    · -- the entry itself: what comes after it starts other paths
      subst hname
      obtain ⟨rfl, rfl⟩ : name' = k ∧ steps = [] := by
        simpa using hpath.symm.trans halone.path
      have hnot : ∀ e ∈ rest, (keyPath e.1).head? ≠ some (.name name') :=
        fun e he hhead =>
          hk (List.mem_map.mpr ⟨e, he, hothers e he hhead⟩)
      rw [under_overlay_of_notMem hnot, under_setEntry_self, if_pos rfl,
        hbase, Option.getD_none, layAt, hv.lay_nil]
    · -- another entry: it starts another path and leaves the name free
      have hne : name' ≠ name := by
        rintro rfl
        exact hname (hfirst (by rw [hpath]; rfl))
      rw [if_neg hname]
      refine ih (.table hkeys hvalues) ⟨halone.path, hothers⟩ ?_
      rw [under_setEntry, if_neg hne, hbase]

end FileDepot.Config
