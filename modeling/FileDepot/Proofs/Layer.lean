/-
What is found in a configuration after a source was laid over it.

A source on top has the last word on every scalar it holds: where a path
leads through its tables the value is found whatever lay there before
(`find_layAll`), and what it does not mention stays
(`under_layAll_of_notMem`). Keys that spell a path of several steps are
taken apart first; for a source without such keys laying it over a
configuration is plain merging (`overlay_eq_layAll`).
-/
import FileDepot.Config.Layer
import Mathlib.Data.List.Nodup

namespace FileDepot.Config

variable {key other : String} {value : Setting} {entries old : Entries}

-- =========================================================== entries

/-- Setting an entry changes what is under its own key and nothing
else. -/
theorem under_setEntry (key other : String) (value : Setting)
    (entries : Entries) :
    under? other (setEntry key value entries)
      = if key = other then some value else under? other entries := by
  induction entries with
  | nil => rfl
  | cons e rest ih =>
    obtain ⟨k, v⟩ := e
    unfold setEntry
    by_cases hk : k = key
    · subst hk
      rw [if_pos rfl]
      unfold under?
      by_cases ho : k = other
      · rw [if_pos ho, if_pos ho]
      · rw [if_neg ho, if_neg ho, if_neg ho]
    · rw [if_neg hk, under?, ih, under?]
      by_cases ho : k = other
      · have hne : key ≠ other := fun h => hk (ho.trans h.symm)
        rw [if_pos ho, if_neg hne, if_pos ho]
      · rw [if_neg ho, if_neg ho]

/-- The entry that was set. -/
theorem under_setEntry_self (key : String) (value : Setting)
    (entries : Entries) :
    under? key (setEntry key value entries) = some value := by
  rw [under_setEntry, if_pos rfl]

-- =========================================================== merging

/-- One more entry is laid first. -/
theorem layAll_cons (key : String) (value : Setting) (rest old : Entries) :
    layAll ((key, value) :: rest) old
      = layAll rest
        (setEntry key (lay value ((under? key old).getD .nil)) old) := by
  rw [layAll]

/-- What lies under other keys stays. -/
theorem under_layAll_of_notMem (h : key ∉ entries.map Prod.fst)
    (old : Entries) : under? key (layAll entries old) = under? key old := by
  induction entries generalizing old with
  | nil => rw [layAll]
  | cons e rest ih =>
    obtain ⟨k, v⟩ := e
    obtain ⟨hk, hrest⟩ := not_or.mp (mt List.mem_cons.mpr h)
    rw [layAll_cons, ih hrest, under_setEntry, if_neg (Ne.symm hk)]

/-- Each entry of a source with distinct keys ends up laid over what was
under its key. -/
theorem under_layAll (hdistinct : (entries.map Prod.fst).Nodup)
    (hmem : (key, value) ∈ entries) (old : Entries) :
    under? key (layAll entries old)
      = some (lay value ((under? key old).getD .nil)) := by
  induction entries generalizing old with
  | nil => cases hmem
  | cons e rest ih =>
    obtain ⟨k, v⟩ := e
    obtain ⟨hk, hrest⟩ := List.nodup_cons.mp hdistinct
    rw [layAll_cons]
    cases hmem with
    | head => rw [under_layAll_of_notMem hk, under_setEntry_self]
    | tail _ hmem =>
      have hne : k ≠ key := fun h =>
        hk (h ▸ List.mem_map.mpr ⟨_, hmem, rfl⟩)
      rw [ih hrest hmem, under_setEntry, if_neg hne]

-- ============================================================= paths

/-- A path leads through the tables of a source to a setting. Every
table on the way has each key once. -/
inductive Leads : List String → Setting → Entries → Prop
  | here {key : String} {value : Setting} {entries : Entries} :
      (entries.map Prod.fst).Nodup → (key, value) ∈ entries →
      Leads [key] value entries
  | into {key : String} {path : List String} {value : Setting}
      {entries inner : Entries} :
      (entries.map Prod.fst).Nodup → (key, .table inner) ∈ entries →
      Leads path value inner → Leads (key :: path) value entries

/-- A path leads on through a table of one entry. -/
theorem Leads.alone {path : List String} {inner : Entries}
    (h : Leads path value inner) (key : String) :
    Leads (key :: path) value [(key, .table inner)] :=
  .into (List.nodup_singleton key) (.head _) h

/-- A scalar of the source on top is found where its path leads. -/
theorem find_layAll {path : List String} {origin : Option String}
    {v : Scalar} {source : Entries}
    (h : Leads path (.scalar origin v) source) (old : Entries) :
    find? path (layAll source old) = some (.scalar origin v) := by
  induction path generalizing source old with
  | nil => cases h
  | cons key path ih =>
    cases h with
    | here hdistinct hmem =>
      unfold find?
      rw [under_layAll hdistinct hmem, lay]
    | into hdistinct hmem hpath =>
      have hfound := ih hpath
      cases path with
      | nil => cases hpath
      | cons next path =>
        unfold find?
        rw [under_layAll hdistinct hmem, lay]
        exact hfound _

/-- Laying a source over a configuration is merging it in where its keys
stand for themselves. -/
theorem overlay_eq_layAll {source : Entries}
    (h : ∀ e ∈ source, keyPath e.1 = [.name e.1]) (base : Entries) :
    overlay source base = layAll source base := by
  induction source generalizing base with
  | nil => rw [layAll]; rfl
  | cons e rest ih =>
    obtain ⟨hfirst, hrest⟩ := List.forall_mem_cons.mp h
    rw [layAll_cons, ← ih hrest]
    unfold overlay
    rw [List.foldl_cons, hfirst]
    rfl

end FileDepot.Config
