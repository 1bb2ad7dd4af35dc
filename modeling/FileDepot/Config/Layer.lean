/-
Layering. A source is laid over what is there key by key: tables are
merged, everything else replaces what it meets. A path that leads
through something else than a table or a list replaces that as well.
-/
import FileDepot.Config.Key

namespace FileDepot.Config

-- =========================================================== entries

/-- The setting under a key. -/
def under? (key : String) : Entries → Option Setting
  | [] => none
  | (k, v) :: rest => if k = key then some v else under? key rest

/-- The entries with one set. -/
def setEntry (key : String) (value : Setting) : Entries → Entries
  | [] => [(key, value)]
  | (k, v) :: rest =>
    if k = key then (key, value) :: rest else (k, v) :: setEntry key value rest

/-- Follows names through tables. -/
def find? : List String → Entries → Option Setting
  | [], entries => some (.table entries)
  | [name], entries => under? name entries
  | name :: path, entries =>
    match under? name entries with
    | some (.table inner) => find? path inner
    | _ => none

-- =========================================================== merging

mutual

/-- Lays a setting over another. -/
def lay : Setting → Setting → Setting
  | .table entries, old => .table (layAll entries old.entries)
  | .scalar origin value, _ => .scalar origin value
  | .list origin items, _ => .list origin items

/-- Lays entries over others, one by one. -/
def layAll : Entries → Entries → Entries
  | [], old => old
  | (key, value) :: rest, old =>
    layAll rest
      (setEntry key (lay value ((under? key old).getD .nil)) old)

end

/-- The items with room for an index: how many empty ones come in
front, the items filled up behind, and the position counted from the
start. An index below zero counts from the end. -/
def roomFor (n : Int) (items : List Setting) : List Setting × Nat :=
  if 0 ≤ n then
    (items ++ List.replicate (n.toNat + 1 - items.length) .nil, n.toNat)
  else if n.natAbs ≤ items.length then (items, items.length - n.natAbs)
  else (List.replicate (n.natAbs - items.length) .nil ++ items, 0)

/-- Lays a setting over what a path leads to. -/
def layAt (new : Setting) : List Step → Setting → Setting
  | [], old => lay new old
  | .name key :: path, old =>
    let entries := old.entries
    .table
      (setEntry key (layAt new path ((under? key entries).getD .nil))
        entries)
  | .index n :: path, old =>
    let (origin, items) :=
      match old with
      | .list origin items => (origin, items)
      | .scalar _ _ | .table _ => (none, [])
    let (items, place) := roomFor n items
    .list origin
      (items.set place (layAt new path (items.getD place .nil)))

/-- Lays the entries of a source over a configuration. -/
def overlay (source config : Entries) : Entries :=
  source.foldl
    (fun config e => (layAt e.2 (keyPath e.1) (.table config)).entries)
    config

/-- The configuration of a row of sources, the later ones on top. -/
def ofSources (sources : List Entries) : Entries :=
  sources.foldl (fun config source => overlay source config) []

end FileDepot.Config
